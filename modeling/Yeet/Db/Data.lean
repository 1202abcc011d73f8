import Mathlib.Data.List.AList

/-! The daemon's state document (`db.Data`) and the Store operations the handlers call.
The `db` package is not among the sources: the types and `MutateService` are modelled
from the spec and from how the handlers use them, and keep only the fields a modelled
handler reads or writes. -/
namespace Yeet.Db

/-- A Go `map[K]V`: a finite map whose keys are unique. `range` visits the entries in
the order of `entries`, which is one of the orders Go may pick. -/
abbrev GoMap (K V : Type) := AList (fun _ : K => V)

section GoMap
variable {α K V W ε : Type} [DecidableEq K]

theorem entriesPerm {m m' : GoMap K V} (same : ∀ k, m.lookup k = m'.lookup k) : m.entries.Perm m'.entries :=
  (List.perm_ext_iff_of_nodup m.nodupKeys.nodup m'.nodupKeys.nodup).mpr fun ⟨k, v⟩ => by
    rw [← AList.mem_lookup_iff, ← AList.mem_lookup_iff, same]

theorem filterEntriesKey (m : GoMap K V) (k : K) :
    m.entries.filter (fun e => e.1 = k) = match m.lookup k with
      | some v => [⟨k, v⟩]
      | none => [] := by
  obtain ⟨entries, distinct⟩ := m
  show entries.filter _ = match entries.dlookup k with
    | some v => [⟨k, v⟩]
    | none => []
  induction entries with
  | nil => rfl
  | cons e rest ih =>
    obtain ⟨a, v⟩ := e
    obtain ⟨fresh, restDistinct⟩ := List.nodupKeys_cons.mp distinct
    by_cases same : a = k
    · subst same
      have none : rest.filter (fun e => e.1 = a) = [] :=
        List.filter_eq_nil_iff.mpr fun x mem sameKey => fresh (by
          have key := List.mem_keys_of_mem mem
          rwa [of_decide_eq_true sameKey] at key)
      rw [List.filter_cons_of_pos (by simp), none, List.dlookup_cons_eq]
    · rw [List.filter_cons_of_neg (by simpa using same), ih restDistinct, List.dlookup_cons_ne _ _ (Ne.symm same)]

theorem lookupFoldlInsert (key : α → K) (val : α → V) (m : GoMap K V) (xs : List α) (k : K) :
    (xs.foldl (fun m x => m.insert (key x) (val x)) m).lookup k =
      match xs.reverse.find? (key · = k) with
      | some x => some (val x)
      | none => m.lookup k := by
  induction xs using List.reverseRecOn with
  | nil => rfl
  | append_singleton xs x ih =>
    rw [List.foldl_append, List.foldl_cons, List.foldl_nil, List.reverse_append, List.reverse_singleton,
      List.singleton_append, List.find?_cons]
    by_cases same : key x = k
    · subst same; simp [AList.lookup_insert]
    · rw [AList.lookup_insert_ne (Ne.symm same), ih]
      simp [same]

theorem memFoldlInsert (key : α → K) (val : α → V) (xs : List α) (k : K) (v : V) :
    (⟨k, v⟩ : Σ _ : K, V) ∈ (xs.foldl (fun m x => m.insert (key x) (val x)) (∅ : GoMap K V)).entries ↔
      ∃ x, xs.reverse.find? (key · = k) = some x ∧ val x = v := by
  rw [← AList.mem_lookup_iff, lookupFoldlInsert]
  cases xs.reverse.find? (key · = k) <;> simp

/-- One step of a `range` loop that sets the entry's key to what `f` computes for it, or
skips the entry. -/
def setByKey (f : K → Option W) (acc : GoMap K W) (e : Σ _ : K, V) : GoMap K W :=
  match f e.1 with
  | some w => acc.insert e.1 w
  | none => acc

theorem lookupFoldlSet (f : K → Option W) (l : List (Σ _ : K, V)) (acc : GoMap K W) (k : K) :
    (l.foldl (setByKey f) acc).lookup k = if k ∈ l.map (·.1) ∧ (f k).isSome then f k else acc.lookup k := by
  induction l generalizing acc with
  | nil => rfl
  | cons e rest ih =>
    rw [List.foldl_cons, ih]
    by_cases same : k = e.1
    · subst same
      cases found : f e.1 <;> simp [setByKey, found, AList.lookup_insert]
    · have step : (setByKey f acc e).lookup k = acc.lookup k := by
        unfold setByKey
        split
        · exact AList.lookup_insert_ne same
        · rfl
      simp only [List.map_cons, List.mem_cons, same, false_or, step]

theorem lookupRangeSet (f : K → Option W) (m : GoMap K V) (k : K) :
    (m.entries.foldl (setByKey f) ∅).lookup k = if k ∈ m then f k else none := by
  rw [lookupFoldlSet]
  by_cases mem : k ∈ m
  · cases found : f k <;> simp [found, mem, show k ∈ m.entries.map (·.1) from mem]
  · simp [show k ∉ m.entries.map (·.1) from mem, mem]

/-- One step of a `range` loop with an early `return err`: `g` fails, skips the entry, or
computes what the entry's key is set to. -/
def setByKeyM (g : K → Except ε (Option W)) (acc : GoMap K W) (e : Σ _ : K, V) : Except ε (GoMap K W) :=
  match g e.1 with
  | .ok (some w) => .ok (acc.insert e.1 w)
  | .ok none => .ok acc
  | .error err => .error err

def okValue : Except ε (Option W) → Option W
  | .ok o => o
  | .error _ => none

theorem setByKeyMOk (g : K → Except ε (Option W)) {acc r : GoMap K W} {e : Σ _ : K, V}
    (ok : setByKeyM g acc e = .ok r) : (∃ o, g e.1 = .ok o) ∧ r = setByKey (fun k => okValue (g k)) acc e := by
  unfold setByKeyM at ok
  split at ok <;> rename_i found <;> cases ok
  · exact ⟨⟨_, found⟩, by simp [setByKey, okValue, found]⟩
  · exact ⟨⟨_, found⟩, by simp [setByKey, okValue, found]⟩

theorem foldlMSetOk (g : K → Except ε (Option W)) :
    ∀ {l : List (Σ _ : K, V)} {acc r : GoMap K W}, l.foldlM (setByKeyM g) acc = .ok r →
      (∀ e ∈ l, ∃ o, g e.1 = .ok o) ∧ r = l.foldl (setByKey fun k => okValue (g k)) acc
  | [], acc, r, ok => by cases ok; exact ⟨by simp, rfl⟩
  | e :: rest, acc, r, ok => by
    rw [List.foldlM_cons] at ok
    cases step : setByKeyM g acc e with
    | error err => rw [step] at ok; cases ok
    | ok acc' =>
      rw [step] at ok
      obtain ⟨fine, rfl⟩ := setByKeyMOk g step
      obtain ⟨restFine, rfl⟩ := foldlMSetOk g ok
      exact ⟨List.forall_mem_cons.mpr ⟨fine, restFine⟩, rfl⟩

theorem foldlMSetError (g : K → Except ε (Option W)) :
    ∀ (l : List (Σ _ : K, V)) (acc : GoMap K W),
      (∃ err, l.foldlM (setByKeyM g) acc = .error err) ↔ ∃ e ∈ l, ∃ err, g e.1 = .error err
  | [], acc => iff_of_false (fun ⟨_, failed⟩ => nomatch failed) (by simp)
  | e :: rest, acc => by
    rw [List.foldlM_cons, List.exists_mem_cons_iff]
    cases found : g e.1 with
    | error err => exact iff_of_true ⟨err, by simp only [setByKeyM, found]; rfl⟩ (.inl ⟨err, rfl⟩)
    | ok o => cases o <;> simp [setByKeyM, found, bind, Except.bind, foldlMSetError g rest]

end GoMap

/-- `db.ImageManifest`: a manifest stored under `manifests/sha256/<blobHash>`. -/
structure ImageManifest where
  contentType : String
  blobHash : String
  deriving DecidableEq, Repr

/-- `db.ImageRepo`: the refs of one repository of the registry. -/
structure ImageRepo where
  refs : GoMap String ImageManifest
  deriving DecidableEq

/-- `db.Volume`, written by `mountCmdFunc`. -/
structure Volume where
  name : String
  src : String
  path : String
  type : String
  opts : String
  deps : String
  deriving DecidableEq, Repr

/-- Modelled from the spec: `db.ServiceType`; `unset` is Go's zero value. -/
inductive ServiceType where
  | unset
  | systemd
  | dockerCompose
  deriving DecidableEq, Repr

/-- Modelled from the spec: `db.Artifact`, its refs (`staged`, `run`, generation
numbers) pointing at files on the host. -/
structure Artifact where
  refs : GoMap String String
  deriving DecidableEq

/-- `db.TailscaleNetwork` as `RemoveService` reads it. -/
structure TsNet where
  stableId : String
  deriving DecidableEq, Repr

/-- Modelled from the spec: `db.Service`. -/
structure Service where
  name : String
  serviceType : ServiceType
  generation : Int
  latestGeneration : Int
  artifacts : GoMap String Artifact
  tsNet : Option TsNet
  deriving DecidableEq

/-- Modelled from the spec: the service `MutateService` creates for an absent name. -/
def Service.fresh (name : String) : Service :=
  ⟨name, .unset, 0, 0, ∅, none⟩

/-- `db.DockerEndpoint`, written by migration 4; an address is kept as its JSON text. -/
structure DockerEndpoint where
  endpointId : String
  ipv4 : String
  deriving DecidableEq, Repr

/-- `db.DockerNetwork` as migration 4 reads and writes it. -/
structure DockerNetwork where
  endpointAddrs : GoMap String String
  endpoints : GoMap String DockerEndpoint
  deriving DecidableEq

/-- Modelled from the spec: `db.Data`, the whole JSON document. -/
structure Data where
  services : GoMap String Service
  images : GoMap String ImageRepo
  volumes : GoMap String Volume
  dockerNetworks : GoMap String DockerNetwork
  deriving DecidableEq

def Data.empty : Data := ⟨∅, ∅, ∅, ∅⟩

/-- Modelled from the spec: the artifact names of the closed set. -/
def ArtifactDockerComposeFile : String := "compose-file"
def ArtifactDockerComposeNetwork : String := "compose-network-file"
def ArtifactEnvFile : String := "env-file"
def ArtifactSystemdUnit : String := "unit-file"
def ArtifactSystemdTimerFile : String := "timer-unit-file"

/-- Modelled from the spec: `Artifacts.Gen(name, g)`, the file generation `g` of artifact
`name` refers to; a generation is referenced by its decimal number. -/
def gen (artifacts : GoMap String Artifact) (name : String) (g : Int) : Option String :=
  (artifacts.lookup name).bind (·.refs.lookup (toString g))

/-- Modelled from the spec: `Store.MutateService(name, fn)` runs `fn` under the writer
lock on the named service (a fresh one when absent) and writes the service back unless
`fn` fails; it returns the document and the service it wrote. -/
def Data.mutateService (d : Data) (name : String) (fn : Service → Except String Service) :
    Except String (Data × Service) :=
  match fn ((d.services.lookup name).getD (Service.fresh name)) with
  | .error e => .error e
  | .ok s => .ok ({ d with services := d.services.insert name s }, s)

theorem mutateServiceOk {d : Data} {name : String} {fn : Service → Except String Service}
    {d' : Data} {s : Service} (ok : d.mutateService name fn = .ok (d', s)) :
    fn ((d.services.lookup name).getD (Service.fresh name)) = .ok s ∧
      d' = { d with services := d.services.insert name s } := by
  unfold Data.mutateService at ok
  split at ok
  · cases ok
  · rename_i s' h
    cases ok
    exact ⟨h, rfl⟩

theorem mutateServiceError {d : Data} {name : String} {fn : Service → Except String Service}
    {e : String} (fails : fn ((d.services.lookup name).getD (Service.fresh name)) = .error e) :
    d.mutateService name fn = .error e := by
  simp [Data.mutateService, fails]

end Yeet.Db
