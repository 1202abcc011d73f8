import Yeet.Registry.Manifests
import Yeet.Catch.Lifecycle
import Yeet.Catch.Generations

/-! Concurrent updates of the state document. An update commits either in one call under
the Store's writer lock (`MutateService`, `MutateData`) or as a `Get` of a snapshot and a
later `Set` of the whole document computed from it (the registry's `SetManifest`,
`SetManifests` and `DeleteManifest`, `mountCmdFunc`, `umountCmdFunc`). Any interleaving of
the two halves of each update is a run. A run is the sequential application of its
completed updates, in the order they completed, as long as no `Set` writes a snapshot older
than the document; two overlapping `Get`/`Set` updates lose the first one's change. The
Store's own locking and file writes are taken to be atomic. -/
namespace Yeet.StoreUpdates
open Yeet.Db Yeet.Registry Yeet.Catch

inductive Commit where
  | mutate
  | getSet
  deriving DecidableEq, Repr

/-- A concurrent update: how it commits, and the document it writes given the one it read
(`none` when it returns before writing). -/
structure Update where
  commit : Commit
  change : Data → Option Data

inductive Phase where
  | pending
  | read (snapshot : Data)
  | done

structure State where
  store : Data
  phase : Nat → Phase
  completed : List Nat

def start (d : Data) : State := ⟨d, fun _ => .pending, []⟩

inductive Action where
  | mutate (i : Nat)
  | get (i : Nat)
  | set (i : Nat)
  deriving DecidableEq, Repr

section
variable (updates : Nat → Update)

def Enabled (s : State) : Action → Prop
  | .mutate i => (updates i).commit = .mutate ∧ s.phase i = .pending
  | .get i => (updates i).commit = .getSet ∧ s.phase i = .pending
  | .set i => ∃ snapshot, s.phase i = .read snapshot

def setPhase (phase : Nat → Phase) (i : Nat) (p : Phase) : Nat → Phase :=
  Function.update phase i p

@[simp] theorem setPhaseSame (phase : Nat → Phase) (i : Nat) (p : Phase) : setPhase phase i p i = p :=
  Function.update_same _ _ _

@[simp] theorem setPhaseOther (phase : Nat → Phase) {i j : Nat} (p : Phase) (other : j ≠ i) :
    setPhase phase i p j = phase j :=
  Function.update_noteq other _ _

/-- The document after update `i` writes what it computed from `read`, or keeps `store`. -/
def write (i : Nat) (read store : Data) : Data := ((updates i).change read).getD store

def next (s : State) : Action → State
  | .mutate i => ⟨write updates i s.store s.store, setPhase s.phase i .done, s.completed ++ [i]⟩
  | .get i => { s with phase := setPhase s.phase i (.read s.store) }
  | .set i =>
      match s.phase i with
      | .read snapshot => ⟨write updates i snapshot s.store, setPhase s.phase i .done, s.completed ++ [i]⟩
      | _ => s

inductive Run : State → State → Prop where
  | refl (s : State) : Run s s
  | tail {s s' : State} {a : Action} : Run s s' → Enabled updates s' a → Run s (next updates s' a)

/-- The specification: the updates applied one after another, each to the document the
previous one left. -/
def sequential (order : List Nat) (d : Data) : Data :=
  order.foldl (fun d i => write updates i d d) d

@[simp] theorem sequentialAppend (order : List Nat) (i : Nat) (d : Data) :
    sequential updates (order ++ [i]) d =
      write updates i (sequential updates order d) (sequential updates order d) := by
  simp [sequential]

theorem overlappingSetsLoseFirst (s : State) {i j : Nat} (distinct : i ≠ j)
    (getSetI : (updates i).commit = .getSet) (getSetJ : (updates j).commit = .getSet)
    (pendingI : s.phase i = .pending) (pendingJ : s.phase j = .pending) :
    Run updates s (next updates (next updates (next updates (next updates s (.get i)) (.get j))
        (.set i)) (.set j)) ∧
      (next updates (next updates (next updates (next updates s (.get i)) (.get j)) (.set i))
        (.set j)).store = write updates j s.store (write updates i s.store s.store) ∧
      (next updates (next updates (next updates (next updates s (.get i)) (.get j)) (.set i))
        (.set j)).completed = s.completed ++ [i, j] := by
  have other := Ne.symm distinct
  refine ⟨.tail (.tail (.tail (.tail (.refl s) ⟨getSetI, pendingI⟩)
      ⟨getSetJ, by simpa [next, other] using pendingJ⟩)
      ⟨s.store, by simp [next, distinct]⟩) ⟨s.store, by simp [next, distinct, other]⟩, ?_, ?_⟩
  · simp [next, distinct, other]
  · simp [next, distinct, other]

end

/-! The updates of the handlers, each from the faithful model of its write. -/

/-- `SetManifest` for a repo of the form `service/container`: the writes `recordTag` makes. -/
def setManifestUpdate (host : Host) (repo tag : String) (m : Manifest) : Update :=
  ⟨.getSet, fun d => some (recordTag host repo tag m ⟨d, ∅⟩).db⟩

/-- `SetManifests`. -/
def setManifestsUpdate (host : Host) (repo : String) (manifests : GoMap String Manifest) : Update :=
  ⟨.getSet, fun d => some (setManifests host repo manifests ⟨d, ∅⟩).db⟩

/-- `DeleteManifest`, which writes only when the repository exists. -/
def deleteManifestUpdate (repo ref : String) : Update :=
  ⟨.getSet, fun d => if repoExists repo ⟨d, ∅⟩ then some (deleteManifest repo ref ⟨d, ∅⟩).db else none⟩

/-- `umountCmdFunc`, which writes when it returns without error. -/
def umountUpdate (io : Outcomes) (mountName : String) : Update :=
  ⟨.getSet, fun d =>
    match umountCmdFunc io [mountName] ⟨d, []⟩ with
    | (.ok (), w) => some w.db
    | (.error _, _) => none⟩

/-- Two pushes with tag `run`, to different services. -/
def pushes : Nat → Update
  | 0 => setManifestUpdate sampleHost "app/web" "run" ⟨"application/vnd.docker.distribution.manifest.v2+json", [1]⟩
  | _ => setManifestUpdate sampleHost "db/main" "run" ⟨"application/vnd.docker.distribution.manifest.v2+json", [2]⟩

/-- The pushes' four halves interleaved: both `Get`s, then both `Set`s. -/
def interleavedPushes : State :=
  next pushes (next pushes (next pushes (next pushes (start Data.empty) (.get 0)) (.get 1)) (.set 0)) (.set 1)

/-- Two concurrent pushes to different services, interleaved as `Get`, `Get`, `Set`, `Set`:
both complete, the document has no ref for the first push, and every sequential order of
the two has one. -/
theorem concurrentPushesLoseUpdate :
    Run pushes (start Data.empty) interleavedPushes ∧ interleavedPushes.completed = [0, 1] ∧
      refAt interleavedPushes.store "app/web" "run" = none ∧
      ∀ order, order.Perm interleavedPushes.completed →
        refAt (sequential pushes order Data.empty) "app/web" "run" ≠ none := by
  obtain ⟨run, -, completed⟩ := overlappingSetsLoseFirst pushes (start Data.empty)
    (show 0 ≠ 1 by decide) rfl rfl rfl rfl
  replace completed : interleavedPushes.completed = [0, 1] := completed
  refine ⟨run, completed, rfl, fun order perm => ?_⟩
  rw [completed] at perm
  obtain ⟨x, y, rfl⟩ : ∃ x y, order = [x, y] :=
    match order, perm.length_eq with
    | [x, y], _ => ⟨x, y, rfl⟩
  have distinct := perm.nodup_iff.mpr (by decide)
  have first := perm.subset (List.mem_cons_self x _)
  have second := perm.subset (List.mem_cons_of_mem x (List.mem_singleton_self y))
  simp only [List.mem_cons, List.mem_singleton, List.not_mem_nil, or_false] at first second
  rcases first with rfl | rfl <;> rcases second with rfl | rfl
  all_goals first | decide | exact absurd distinct (by decide)

end Yeet.StoreUpdates
