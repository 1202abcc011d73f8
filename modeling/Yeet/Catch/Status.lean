import Yeet.Svc.DockerCompose
import Yeet.Catch.Server
import Mathlib.Data.List.Sort

/-! The status of services: `statusCmdFunc` (`pkg/catch/tty.go`), the methods of
`catch.Server` it calls, `SystemdStatus(es)` and `DockerComposeStatus(es)`, and
`IsServiceRunning`, which `RemoveService` asks before it deletes anything
(`pkg/catch/catch.go`), with the status records and their conversions. The document is
read once, successfully. The status of a systemd unit and the output of docker are the
host's. The JSON encoding and the tabwriter layout are not modelled: the JSON output is the
list it encodes, and the table is its rows of cells. -/
namespace Yeet.Catch
open Yeet.Db Yeet.Svc

/-- `ServiceDataType`. -/
inductive ServiceDataType where
  | service
  | cron
  | docker
  | unknown
  deriving DecidableEq, Repr

def ServiceDataType.text : ServiceDataType → String
  | .service => "service"
  | .cron => "cron"
  | .docker => "docker"
  | .unknown => "unknown"

/-- `ComponentStatus`. -/
inductive ComponentStatus where
  | starting
  | running
  | stopping
  | stopped
  | unknown
  deriving DecidableEq, Repr

def ComponentStatus.text : ComponentStatus → String
  | .starting => "starting"
  | .running => "running"
  | .stopping => "stopping"
  | .stopped => "stopped"
  | .unknown => "unknown"

/-- `ComponentStatusData`. -/
structure ComponentStatusData where
  name : String
  status : ComponentStatus
  deriving DecidableEq, Repr

/-- `ServiceStatusData`. -/
structure ServiceStatusData where
  serviceName : String
  serviceType : ServiceDataType
  componentStatus : List ComponentStatusData
  deriving DecidableEq, Repr

/-- `ComponentStatusFromServiceStatus`. -/
def componentStatusFromServiceStatus : Status → ComponentStatus
  | .running => .running
  | .stopped => .stopped
  | .unknown => .unknown

/-- `ServiceDataTypeFromServiceType`. -/
def serviceDataTypeFromServiceType : ServiceType → ServiceDataType
  | .systemd => .service
  | .dockerCompose => .docker
  | .unset => .unknown

/-- What the status methods learn outside the document: `SystemdService.Status` of a
service's unit, and the output of docker run with some arguments (or its error). -/
structure StatusHost where
  systemdStatus : String → Except String Status
  docker : List String → Except String String

/-- `errNoServiceConfigured`, which the status methods test for and `serviceView` never
returns. -/
def errNoServiceConfigured : String := "no service configured"

/-- `Server.serviceType`. -/
def serviceType (d : Data) (sn : String) : Except String ServiceType :=
  (serviceView d sn).map (·.serviceType)

/-- `Server.SystemdStatus`. -/
def systemdStatus (host : StatusHost) (d : Data) (sn : String) : Except String Status :=
  match serviceView d sn with
  | .error e => .error ("failed to get service: failed to get service view: " ++ e)
  | .ok _ => host.systemdStatus sn

/-- `Server.DockerComposeStatus`: `Statuses` of the service's compose project. -/
def dockerComposeStatus (cfg : Config) (host : StatusHost) (d : Data) (sn : String) :
    Except StatusError DockerComposeStatus :=
  match d.services.lookup sn with
  | none => .error (.other "failed to get service: service not found")
  | some sv => statuses sn (serviceDataDir cfg sn) sv host.docker

/-- What the loop of `SystemdStatuses` records for a service: its unit's status, unknown when
that fails or the service has no type, nothing for a service of another type. -/
def systemdEntry (host : StatusHost) (d : Data) (name : String) : Option Status :=
  match serviceType d name with
  | .error _ => some .unknown
  | .ok stype =>
      if stype ≠ .systemd then none else
      match systemdStatus host d name with
      | .error _ => some .unknown
      | .ok status => some status

/-- `Server.SystemdStatuses`. -/
def systemdStatuses (host : StatusHost) (d : Data) : GoMap String Status :=
  d.services.entries.foldl (setByKey (systemdEntry host d)) ∅

/-- What the loop of `DockerComposeStatuses` does for a service: records the statuses of its
project, skips a service of another type, or returns the error. On
`ErrDockerStatusUnknown` it records `DockerStatusesUnknown` and then the nil map `Statuses`
returned with the error; both are empty. -/
def composeEntry (cfg : Config) (host : StatusHost) (d : Data) (sn : String) :
    Except String (Option DockerComposeStatus) :=
  match serviceType d sn with
  | .error err => if err = errNoServiceConfigured then .ok none else .ok (some ∅)
  | .ok stype =>
      if stype ≠ .dockerCompose then .ok none else
      match dockerComposeStatus cfg host d sn with
      | .error .dockerStatusUnknown => .ok (some ∅)
      | .error err => .error err.text
      | .ok statuses => .ok (some statuses)

/-- `Server.DockerComposeStatuses`. -/
def dockerComposeStatuses (cfg : Config) (host : StatusHost) (d : Data) :
    Except String (GoMap String DockerComposeStatus) :=
  d.services.entries.foldlM (setByKeyM (composeEntry cfg host d)) ∅

/-- `Server.IsServiceRunning`. -/
def isServiceRunning (cfg : Config) (host : StatusHost) (d : Data) (name : String) : Except String Bool :=
  match serviceType d name with
  | .error e => if e = errNoServiceConfigured then .ok false else .error ("failed to get service type: " ++ e)
  | .ok .dockerCompose =>
      match dockerComposeStatus cfg host d name with
      | .error e => .error e.text
      | .ok sts => .ok (sts.entries.any fun e => e.2 = .running)
  | .ok .systemd =>
      match systemdStatus host d name with
      | .error e => .error e
      | .ok st => .ok (st = .running)
  | .ok .unset => .error "unknown service type"

/-! ### The status command -/

def components (cs : DockerComposeStatus) : List ComponentStatusData :=
  cs.entries.map fun c => ⟨c.1, componentStatusFromServiceStatus c.2⟩

/-- The data the `sys` view shows for a compose service: its components, or one unknown
component named after the service when there are none. -/
def composeData (sn : String) (cs : DockerComposeStatus) : ServiceStatusData :=
  if cs.entries.isEmpty then ⟨sn, .docker, [⟨sn, .unknown⟩]⟩ else ⟨sn, .docker, components cs⟩

@[simp] theorem composeDataName (sn : String) (cs : DockerComposeStatus) :
    (composeData sn cs).serviceName = sn := by
  unfold composeData
  split <;> rfl

/-- `statusCmdFunc` of the `sys` service, before sorting: the data of every service
`SystemdStatuses` and `DockerComposeStatuses` return. -/
def systemView (cfg : Config) (host : StatusHost) (d : Data) : Except String (List ServiceStatusData) := do
  let systemd ← (systemdStatuses host d).entries.mapM fun e => do
    let service ← serviceView d e.1
    pure (⟨e.1, serviceDataTypeFromServiceType service.serviceType,
      [⟨e.1, componentStatusFromServiceStatus e.2⟩]⟩ : ServiceStatusData)
  let compose ← match dockerComposeStatuses cfg host d with
    | .error e => .error ("failed to get all docker compose statuses: " ++ e)
    | .ok all => .ok all
  pure (systemd ++ compose.entries.map fun e => composeData e.1 e.2)

/-- `statusCmdFunc` of any other service, before sorting: its data, or none when it returns
before printing. -/
def singleView (cfg : Config) (host : StatusHost) (d : Data) (sn : String) :
    Except String (Option (List ServiceStatusData)) :=
  match serviceType d sn with
  | .error e => .error ("failed to get service type: " ++ e)
  | .ok st =>
      let data : ServiceStatusData := ⟨sn, serviceDataTypeFromServiceType st, []⟩
      match st with
      | .systemd =>
          match systemdStatus host d sn with
          | .error e => .error ("failed to get systemd status: " ++ e)
          | .ok status =>
              .ok (some [{ data with componentStatus := [⟨sn, componentStatusFromServiceStatus status⟩] }])
      | .dockerCompose =>
          match dockerComposeStatus cfg host d sn with
          | .error e => .error ("failed to get docker compose statuses: " ++ e.text)
          | .ok cs => if cs.entries.isEmpty then .ok none else .ok (some [{ data with componentStatus := components cs }])
      | .unset => .ok (some [data])

/-- `slices.SortFunc` by `strings.Compare` of a key. -/
def sortByKey {α : Type} (key : α → String) (l : List α) : List α :=
  l.insertionSort fun a b => key a ≤ key b

/-- The two sorts of `statusCmdFunc`: the services by name, and the components of each. -/
def sortStatuses (statuses : List ServiceStatusData) : List ServiceStatusData :=
  (sortByKey (·.serviceName) statuses).map fun st =>
    { st with componentStatus := sortByKey (·.name) st.componentStatus }

/-- What `statusCmdFunc` prints: the list it encodes as JSON (indented for `json-pretty`), or
the rows of its table. -/
inductive StatusOutput where
  | json (indent : Bool) (statuses : List ServiceStatusData)
  | table (rows : List (List String))
  deriving DecidableEq, Repr

def statusRows (st : ServiceStatusData) : List (List String) :=
  st.componentStatus.map fun c =>
    if st.serviceType = .docker then [st.serviceName, st.serviceType.text, c.name, c.status.text]
    else [st.serviceName, st.serviceType.text, "-", c.status.text]

def statusTable (statuses : List ServiceStatusData) : List (List String) :=
  ["SERVICE", "TYPE", "CONTAINER", "STATUS"] :: statuses.flatMap statusRows

/-- What `statusCmdFunc` prints for the sorted data, by its `--format` flag. -/
def statusOutput (formatOut : String) (statuses : List ServiceStatusData) : StatusOutput :=
  if formatOut = "json" then .json false statuses
  else if formatOut = "json-pretty" then .json true statuses
  else .table (statusTable statuses)

/-- `ttyExecer.statusCmdFunc` for the service `sn` with the `--format` flag `formatOut`:
what it prints, none when it returns before printing, or its error. -/
def statusCmdFunc (cfg : Config) (host : StatusHost) (d : Data) (sn formatOut : String) :
    Except String (Option StatusOutput) :=
  (if sn = SystemService then (systemView cfg host d).map some else singleView cfg host d sn).map
    (Option.map fun statuses => statusOutput formatOut (sortStatuses statuses))

/-! ### What each status method gives for a service of the document -/

theorem serviceTypeFound {d : Data} {sn : String} {sv : Service} (found : d.services.lookup sn = some sv) :
    serviceType d sn = .ok sv.serviceType := by
  simp only [serviceType, serviceView, found]
  rfl

theorem systemdEntryFound (host : StatusHost) {d : Data} {sn : String} {sv : Service}
    (found : d.services.lookup sn = some sv) :
    systemdEntry host d sn = if sv.serviceType = .systemd then
      some (match host.systemdStatus sn with
        | .ok status => status
        | .error _ => .unknown) else none := by
  unfold systemdEntry systemdStatus
  rw [serviceTypeFound found]
  by_cases systemd : sv.serviceType = .systemd
  · cases status : host.systemdStatus sn <;> simp [systemd, serviceView, found, status]
  · simp [systemd]

theorem composeEntryFound (cfg : Config) (host : StatusHost) {d : Data} {sn : String} {sv : Service}
    (found : d.services.lookup sn = some sv) :
    composeEntry cfg host d sn = if sv.serviceType = .dockerCompose then
      (match statuses sn (serviceDataDir cfg sn) sv host.docker with
        | .error .dockerStatusUnknown => .ok (some ∅)
        | .error err => .error err.text
        | .ok cs => .ok (some cs)) else .ok none := by
  unfold composeEntry dockerComposeStatus
  rw [serviceTypeFound found]
  by_cases compose : sv.serviceType = .dockerCompose
  · simp only [compose, ne_eq, not_true_eq_false, if_false, if_true, found]
  · simp [compose]

theorem lookupSystemdStatuses (host : StatusHost) (d : Data) (sn : String) :
    (systemdStatuses host d).lookup sn = if sn ∈ d.services then systemdEntry host d sn else none :=
  lookupRangeSet _ _ sn

theorem dockerComposeStatusesOk {cfg : Config} {host : StatusHost} {d : Data}
    {all : GoMap String DockerComposeStatus} (ok : dockerComposeStatuses cfg host d = .ok all) :
    (∀ sn ∈ d.services, ∃ o, composeEntry cfg host d sn = .ok o) ∧
      ∀ sn, all.lookup sn = if sn ∈ d.services then okValue (composeEntry cfg host d sn) else none := by
  obtain ⟨fine, rfl⟩ := foldlMSetOk _ ok
  refine ⟨fun sn mem => ?_, lookupRangeSet _ _⟩
  obtain ⟨_, entry⟩ := List.mem_keys.mp mem
  exact fine _ entry

theorem dockerComposeStatusesError (cfg : Config) (host : StatusHost) (d : Data) :
    (∃ e, dockerComposeStatuses cfg host d = .error e) ↔
      ∃ sn ∈ d.services, ∃ e, composeEntry cfg host d sn = .error e := by
  rw [dockerComposeStatuses, foldlMSetError]
  constructor
  · rintro ⟨entry, mem, failed⟩
    exact ⟨entry.1, List.mem_keys_of_mem mem, failed⟩
  · rintro ⟨sn, mem, failed⟩
    obtain ⟨_, entry⟩ := List.mem_keys.mp mem
    exact ⟨_, entry, failed⟩

theorem systemdStatusesKey {host : StatusHost} {d : Data} {e : Σ _ : String, Status}
    (mem : e ∈ (systemdStatuses host d).entries) :
    ∃ sv, d.services.lookup e.1 = some sv ∧ sv.serviceType = .systemd := by
  have found := AList.mem_lookup_iff.mpr mem
  rw [lookupSystemdStatuses] at found
  split_ifs at found with member
  · obtain ⟨sv, stored⟩ := Option.isSome_iff_exists.mp (AList.lookup_isSome.mpr member)
    rw [systemdEntryFound host stored] at found
    split_ifs at found with systemd
    · exact ⟨sv, stored, systemd⟩
    · cases found
  · cases found

theorem composeStatusesKey {cfg : Config} {host : StatusHost} {d : Data}
    {all : GoMap String DockerComposeStatus} (ok : dockerComposeStatuses cfg host d = .ok all)
    {e : Σ _ : String, DockerComposeStatus} (mem : e ∈ all.entries) :
    ∃ sv, d.services.lookup e.1 = some sv ∧ sv.serviceType = .dockerCompose := by
  have found := AList.mem_lookup_iff.mpr mem
  rw [(dockerComposeStatusesOk ok).2] at found
  split_ifs at found with member
  · obtain ⟨sv, stored⟩ := Option.isSome_iff_exists.mp (AList.lookup_isSome.mpr member)
    rw [composeEntryFound cfg host stored] at found
    split_ifs at found with compose
    · exact ⟨sv, stored, compose⟩
    · cases found
  · cases found

/-! ### Sorting -/

section Sorting
variable {α : Type} (key : α → String)

theorem sortByKeyPerm (l : List α) : (sortByKey key l).Perm l := List.perm_insertionSort _ l

theorem sortByKeySorted (l : List α) : (sortByKey key l).Sorted fun a b => key a ≤ key b := by
  haveI : IsTotal α fun a b => key a ≤ key b := ⟨fun a b => le_total (key a) (key b)⟩
  haveI : IsTrans α fun a b => key a ≤ key b := ⟨fun _ _ _ => le_trans⟩
  exact List.sorted_insertionSort _ l

theorem sortByKeyStrict {l : List α} (distinct : (l.map key).Nodup) :
    (sortByKey key l).Sorted fun a b => key a < key b := by
  have nodup : ((sortByKey key l).map key).Nodup := ((sortByKeyPerm key l).map key).nodup_iff.mpr distinct
  exact ((List.pairwise_map.mp nodup).and (sortByKeySorted key l)).imp fun both => lt_of_le_of_ne both.2 both.1

theorem sortByKeyUnique {l l' : List α} (perm : l.Perm l') (distinct : (l.map key).Nodup) :
    sortByKey key l = sortByKey key l' := by
  haveI : IsAntisymm α fun a b => key a < key b := ⟨fun _ _ ab ba => absurd (ab.trans ba) (lt_irrefl _)⟩
  exact List.eq_of_perm_of_sorted ((sortByKeyPerm key l).trans (perm.trans (sortByKeyPerm key l').symm))
    (sortByKeyStrict key distinct) (sortByKeyStrict key ((perm.map key).nodup_iff.mp distinct))

theorem sortByKeyFilter (p : α → Bool) {l : List α} (distinct : (l.map key).Nodup) :
    (sortByKey key l).filter p = sortByKey key (l.filter p) := by
  haveI : IsAntisymm α fun a b => key a < key b := ⟨fun _ _ ab ba => absurd (ab.trans ba) (lt_irrefl _)⟩
  have kept : ((l.filter p).map key).Nodup := distinct.sublist ((List.filter_sublist l).map key)
  exact List.eq_of_perm_of_sorted (((sortByKeyPerm key l).filter p).trans (sortByKeyPerm key _).symm)
    ((sortByKeyStrict key distinct).filter p) (sortByKeyStrict key kept)

end Sorting

theorem sortStatusesUnique {l l' : List ServiceStatusData} (perm : l.Perm l')
    (distinct : (l.map (·.serviceName)).Nodup) : sortStatuses l = sortStatuses l' := by
  rw [sortStatuses, sortStatuses, sortByKeyUnique _ perm distinct]

/-! ### The `sys` view -/

def systemdData (e : Σ _ : String, Status) : ServiceStatusData :=
  ⟨e.1, .service, [⟨e.1, componentStatusFromServiceStatus e.2⟩]⟩

theorem mapMOk {α β ε : Type} {f : α → Except ε β} (g : α → β) :
    ∀ {l : List α}, (∀ x ∈ l, f x = .ok (g x)) → l.mapM f = .ok (l.map g)
  | [], _ => rfl
  | x :: xs, fine => by
    rw [List.mapM_cons, fine x (List.mem_cons_self x xs), mapMOk g fun y mem => fine y (List.mem_cons_of_mem x mem)]
    rfl

theorem systemViewEq (cfg : Config) (host : StatusHost) (d : Data) :
    systemView cfg host d = match dockerComposeStatuses cfg host d with
      | .error e => .error ("failed to get all docker compose statuses: " ++ e)
      | .ok all => .ok ((systemdStatuses host d).entries.map systemdData ++
          all.entries.map fun e => composeData e.1 e.2) := by
  unfold systemView
  rw [mapMOk systemdData]
  · cases dockerComposeStatuses cfg host d <;> rfl
  · intro e mem
    obtain ⟨sv, found, systemd⟩ := systemdStatusesKey mem
    simp [serviceView, found, systemd, systemdData, serviceDataTypeFromServiceType]

theorem systemViewNames {cfg : Config} {host : StatusHost} {d : Data}
    {all : GoMap String DockerComposeStatus} (ok : dockerComposeStatuses cfg host d = .ok all) :
    (((systemdStatuses host d).entries.map systemdData ++
      all.entries.map fun e => composeData e.1 e.2).map (·.serviceName)).Nodup := by
  have names : ((systemdStatuses host d).entries.map systemdData ++
      all.entries.map fun e => composeData e.1 e.2).map (·.serviceName) =
      (systemdStatuses host d).entries.map (·.1) ++ all.entries.map (·.1) := by
    simp [Function.comp_def, systemdData]
  rw [names, List.nodup_append]
  refine ⟨(systemdStatuses host d).nodupKeys, all.nodupKeys, fun sn inSystemd inCompose => ?_⟩
  obtain ⟨e, mem, rfl⟩ := List.mem_map.mp inSystemd
  obtain ⟨e', mem', same⟩ := List.mem_map.mp inCompose
  obtain ⟨sv, found, systemd⟩ := systemdStatusesKey mem
  obtain ⟨sv', found', compose⟩ := composeStatusesKey ok mem'
  rw [same, found] at found'
  cases found'
  rw [systemd] at compose
  cases compose

/-! ### Documents for the statements at fixed inputs -/

def statusConfig : Config := ⟨"/srv/services", "/srv/mounts", "127.0.0.1:5000"⟩

def composeApp : Service :=
  ⟨"app", .dockerCompose, 0, 0,
    (∅ : GoMap String Artifact).insert ArtifactDockerComposeFile ⟨(∅ : GoMap String String).insert "0" "compose.yml"⟩,
    none⟩

def systemdApi : Service := ⟨"api", .systemd, 0, 0, ∅, none⟩

def statusDoc : Data := { Data.empty with services := ((∅ : GoMap String Service).insert "api" systemdApi).insert "app" composeApp }
def statusDocSwapped : Data := { Data.empty with services := ((∅ : GoMap String Service).insert "app" composeApp).insert "api" systemdApi }

def appDoc : Data := { Data.empty with services := (∅ : GoMap String Service).insert "app" composeApp }

def replicaHost : StatusHost :=
  ⟨fun _ => .ok .running, fun _ => .ok (psListing [("web", "running"), ("web", "exited")])⟩


/-! ### Only what the document holds matters, not the order of its map -/

section Congr
variable {d d' : Data} (same : ∀ sn, d.services.lookup sn = d'.services.lookup sn)
include same

theorem serviceViewCongr : serviceView d = serviceView d' :=
  funext fun sn => by simp only [serviceView, same sn]

theorem serviceTypeCongr : serviceType d = serviceType d' :=
  funext fun sn => by simp only [serviceType, serviceViewCongr same]

theorem systemdStatusCongr (host : StatusHost) : systemdStatus host d = systemdStatus host d' :=
  funext fun sn => by simp only [systemdStatus, serviceViewCongr same]

theorem dockerComposeStatusCongr (cfg : Config) (host : StatusHost) :
    dockerComposeStatus cfg host d = dockerComposeStatus cfg host d' :=
  funext fun sn => by simp only [dockerComposeStatus, same sn]

theorem systemdEntryCongr (host : StatusHost) : systemdEntry host d = systemdEntry host d' :=
  funext fun sn => by simp only [systemdEntry, serviceTypeCongr same, systemdStatusCongr same]

theorem composeEntryCongr (cfg : Config) (host : StatusHost) : composeEntry cfg host d = composeEntry cfg host d' :=
  funext fun sn => by simp only [composeEntry, serviceTypeCongr same, dockerComposeStatusCongr same]

theorem singleViewCongr (cfg : Config) (host : StatusHost) : singleView cfg host d = singleView cfg host d' :=
  funext fun sn => by
    simp only [singleView, serviceTypeCongr same, systemdStatusCongr same, dockerComposeStatusCongr same]

theorem memberCongr (sn : String) : sn ∈ d.services ↔ sn ∈ d'.services := by
  rw [← AList.lookup_isSome, ← AList.lookup_isSome, same]

theorem composeFailsCongr (cfg : Config) (host : StatusHost) :
    (∃ e, dockerComposeStatuses cfg host d = .error e) ↔ ∃ e, dockerComposeStatuses cfg host d' = .error e := by
  simp only [dockerComposeStatusesError, memberCongr same, composeEntryCongr same]

end Congr

theorem systemdStatusesPerm (host : StatusHost) {d d' : Data}
    (same : ∀ sn, d.services.lookup sn = d'.services.lookup sn) :
    (systemdStatuses host d).entries.Perm (systemdStatuses host d').entries :=
  entriesPerm fun sn => by
    simp only [lookupSystemdStatuses, memberCongr same, systemdEntryCongr same]

theorem composeStatusesPerm {cfg : Config} {host : StatusHost} {d d' : Data}
    (same : ∀ sn, d.services.lookup sn = d'.services.lookup sn)
    {all all' : GoMap String DockerComposeStatus} (ok : dockerComposeStatuses cfg host d = .ok all)
    (ok' : dockerComposeStatuses cfg host d' = .ok all') : all.entries.Perm all'.entries :=
  entriesPerm fun sn => by
    simp only [(dockerComposeStatusesOk ok).2, (dockerComposeStatusesOk ok').2, memberCongr same,
      composeEntryCongr same]

/-- What `status` prints does not depend on the order in which Go ranges over the services of
the document, nor over the maps built from them: two documents whose services are the same
entries in any order give the same output, or both fail (with the error of whichever
service the range reached first). -/
theorem statusOrderFree (cfg : Config) (host : StatusHost) {d d' : Data}
    (perm : d.services.entries.Perm d'.services.entries) (sn formatOut : String) :
    (statusCmdFunc cfg host d sn formatOut).toOption = (statusCmdFunc cfg host d' sn formatOut).toOption := by
  have same : ∀ k, d.services.lookup k = d'.services.lookup k := fun k => AList.perm_lookup perm
  unfold statusCmdFunc
  split_ifs with sys
  · rw [systemViewEq, systemViewEq]
    have fails := composeFailsCongr same cfg host
    cases ok : dockerComposeStatuses cfg host d with
    | error e =>
      obtain ⟨e', ok'⟩ := fails.mp ⟨e, ok⟩
      rw [ok']
      rfl
    | ok all =>
      cases ok' : dockerComposeStatuses cfg host d' with
      | error e' => exact absurd (fails.mpr ⟨e', ok'⟩) fun ⟨_, failed⟩ => by rw [ok] at failed; cases failed
      | ok all' =>
        have views := sortStatusesUnique
          (((systemdStatusesPerm host same).map systemdData).append
            ((composeStatusesPerm same ok ok').map fun e => composeData e.1 e.2))
          (systemViewNames ok)
        show some (some (statusOutput formatOut (sortStatuses _))) =
          some (some (statusOutput formatOut (sortStatuses _)))
        rw [views]
  · rw [singleViewCongr same]

theorem statusSwappedDoc :
    statusDoc.services.entries.Perm statusDocSwapped.services.entries ∧
      (statusCmdFunc statusConfig replicaHost statusDoc SystemService "").toOption =
        (statusCmdFunc statusConfig replicaHost statusDocSwapped SystemService "").toOption :=
  have perm : statusDoc.services.entries.Perm statusDocSwapped.services.entries := List.Perm.swap _ _ _
  ⟨perm, statusOrderFree statusConfig replicaHost perm SystemService ""⟩

/-! ### The view of one service against the `sys` view -/

theorem statusRowsNamed (st : ServiceStatusData) (sn : String) :
    (statusRows st).filter (·.head? = some sn) = if st.serviceName = sn then statusRows st else [] := by
  have head : ∀ row ∈ statusRows st, row.head? = some st.serviceName := by
    intro row mem
    obtain ⟨c, _, rfl⟩ := List.mem_map.mp mem
    split <;> rfl
  split_ifs with named
  · exact List.filter_eq_self.mpr fun row mem => by simp [head row mem, named]
  · exact List.filter_eq_nil_iff.mpr fun row mem => by simp [head row mem, named]

theorem tableNamed (statuses : List ServiceStatusData) (sn : String) :
    (statuses.flatMap statusRows).filter (·.head? = some sn) =
      (statuses.filter (·.serviceName = sn)).flatMap statusRows := by
  induction statuses with
  | nil => rfl
  | cons st rest ih =>
    rw [List.flatMap_cons, List.filter_append, ih, statusRowsNamed, List.filter_cons]
    by_cases named : st.serviceName = sn <;> simp [named]

theorem sortStatusesNamed {l : List ServiceStatusData} (distinct : (l.map (·.serviceName)).Nodup) (sn : String) :
    (sortStatuses l).filter (·.serviceName = sn) = sortStatuses (l.filter (·.serviceName = sn)) := by
  rw [sortStatuses, sortStatuses, List.filter_map, ← sortByKeyFilter _ _ distinct]
  rfl

theorem lookupSystemdFound (host : StatusHost) {d : Data} {sn : String} {sv : Service}
    (found : d.services.lookup sn = some sv) :
    (systemdStatuses host d).lookup sn = systemdEntry host d sn := by
  rw [lookupSystemdStatuses, if_pos (AList.lookup_isSome.mp (by simp [found]))]

theorem lookupComposeFound {cfg : Config} {host : StatusHost} {d : Data}
    {all : GoMap String DockerComposeStatus} (ok : dockerComposeStatuses cfg host d = .ok all)
    {sn : String} {sv : Service} (found : d.services.lookup sn = some sv) :
    all.lookup sn = okValue (composeEntry cfg host d sn) := by
  rw [(dockerComposeStatusesOk ok).2, if_pos (AList.lookup_isSome.mp (by simp [found]))]

theorem systemViewNamed (host : StatusHost) (d : Data) (all : GoMap String DockerComposeStatus) (sn : String) :
    ((systemdStatuses host d).entries.map systemdData ++ all.entries.map (fun e => composeData e.1 e.2)).filter
        (·.serviceName = sn) =
      (match (systemdStatuses host d).lookup sn with
        | some st => [systemdData ⟨sn, st⟩]
        | none => []) ++
      (match all.lookup sn with
        | some cs => [composeData sn cs]
        | none => []) := by
  rw [List.filter_append, List.filter_map, List.filter_map]
  have systemd : ((systemdStatuses host d).entries.filter ((·.serviceName = sn) ∘ systemdData)) =
      (systemdStatuses host d).entries.filter (fun e => e.1 = sn) := rfl
  have compose : (all.entries.filter ((·.serviceName = sn) ∘ fun e => composeData e.1 e.2)) =
      all.entries.filter (fun e => e.1 = sn) := by
    congr 1
    funext e
    simp
  rw [systemd, compose, filterEntriesKey, filterEntriesKey]
  congr 1
  · cases (systemdStatuses host d).lookup sn <;> rfl
  · cases all.lookup sn <;> rfl

theorem statusCmdFuncTable {cfg : Config} {host : StatusHost} {d : Data} {sn formatOut : String}
    {rows : List (List String)} (printed : statusCmdFunc cfg host d sn formatOut = .ok (some (.table rows))) :
    ∃ l, (if sn = SystemService then (systemView cfg host d).map some else singleView cfg host d sn) = .ok (some l) ∧
      rows = statusTable (sortStatuses l) := by
  unfold statusCmdFunc at printed
  cases viewed : (if sn = SystemService then (systemView cfg host d).map some else singleView cfg host d sn) with
  | error e => rw [viewed] at printed; cases printed
  | ok o =>
    rw [viewed] at printed
    cases o with
    | none => cases printed
    | some l =>
      refine ⟨l, rfl, ?_⟩
      have shown : statusOutput formatOut (sortStatuses l) = .table rows := by
        injection printed with printed
        injection printed
      unfold statusOutput at shown
      split_ifs at shown
      cases shown
      rfl

theorem systemTable {cfg : Config} {host : StatusHost} {d : Data} {formatOut : String}
    {sysRows : List (List String)}
    (system : statusCmdFunc cfg host d SystemService formatOut = .ok (some (.table sysRows))) :
    ∃ all, dockerComposeStatuses cfg host d = .ok all ∧
      sysRows = statusTable (sortStatuses ((systemdStatuses host d).entries.map systemdData ++
        all.entries.map fun e => composeData e.1 e.2)) := by
  obtain ⟨l, systemOk, rfl⟩ := statusCmdFuncTable system
  rw [if_pos rfl, systemViewEq] at systemOk
  cases ok : dockerComposeStatuses cfg host d with
  | error e => rw [ok] at systemOk; cases systemOk
  | ok all =>
    rw [ok] at systemOk
    injection systemOk with systemOk
    injection systemOk with systemOk
    exact ⟨all, rfl, by rw [systemOk]⟩

theorem singleViewNamed {cfg : Config} {host : StatusHost} {d : Data} {sn : String}
    {all : GoMap String DockerComposeStatus} (ok : dockerComposeStatuses cfg host d = .ok all)
    {L : List ServiceStatusData} (viewed : singleView cfg host d sn = .ok (some L)) :
    statusTable (sortStatuses L) = statusTable (sortStatuses
      ((match (systemdStatuses host d).lookup sn with
        | some st => [systemdData ⟨sn, st⟩]
        | none => []) ++
      (match all.lookup sn with
        | some cs => [composeData sn cs]
        | none => []))) := by
  unfold singleView at viewed
  cases found : d.services.lookup sn with
  | none => simp [serviceType, serviceView, found, Except.map] at viewed
  | some sv =>
    rw [serviceTypeFound found] at viewed
    rw [lookupSystemdFound host found, lookupComposeFound ok found, systemdEntryFound host found,
      composeEntryFound cfg host found]
    have systemdSame : systemdStatus host d sn = host.systemdStatus sn := by
      simp [systemdStatus, serviceView, found]
    have composeSame : dockerComposeStatus cfg host d sn = statuses sn (serviceDataDir cfg sn) sv host.docker := by
      simp [dockerComposeStatus, found]
    rw [systemdSame, composeSame] at viewed
    cases type : sv.serviceType with
    | systemd =>
      cases status : host.systemdStatus sn with
      | error e => simp [type, status] at viewed
      | ok st =>
        simp only [type, status] at viewed
        cases viewed
        rfl
    | dockerCompose =>
      cases listed : statuses sn (serviceDataDir cfg sn) sv host.docker with
      | error e => cases e <;> simp [type, listed] at viewed
      | ok cs =>
        simp only [type, listed] at viewed
        split_ifs at viewed with empty
        · cases viewed
        · cases viewed
          simp [okValue, composeData, empty]
          rfl
    | unset =>
      simp only [type] at viewed
      cases viewed
      rfl

/-- The view of one service agrees with the `sys` view: when both print a table, the rows of
the service's own table are the rows of the `sys` table that name it. -/
theorem singleViewAgrees (cfg : Config) (host : StatusHost) (d : Data) {sn formatOut : String}
    (notSys : sn ≠ SystemService) {rows sysRows : List (List String)}
    (single : statusCmdFunc cfg host d sn formatOut = .ok (some (.table rows)))
    (system : statusCmdFunc cfg host d SystemService formatOut = .ok (some (.table sysRows))) :
    rows.tail = sysRows.tail.filter (·.head? = some sn) := by
  obtain ⟨L, singleOk, rfl⟩ := statusCmdFuncTable single
  obtain ⟨all, ok, rfl⟩ := systemTable system
  rw [if_neg notSys] at singleOk
  rw [singleViewNamed ok singleOk]
  simp only [statusTable, List.tail_cons, tableNamed, sortStatusesNamed (systemViewNames ok), systemViewNamed]

theorem appViewsAgree :
    statusCmdFunc statusConfig replicaHost appDoc "app" "" =
        .ok (some (.table [["SERVICE", "TYPE", "CONTAINER", "STATUS"], ["app", "docker", "web", "stopped"]])) ∧
      statusCmdFunc statusConfig replicaHost appDoc SystemService "" =
        .ok (some (.table [["SERVICE", "TYPE", "CONTAINER", "STATUS"], ["app", "docker", "web", "stopped"]])) ∧
      [["app", "docker", "web", "stopped"]] =
        [["app", "docker", "web", "stopped"]].filter (·.head? = some "app") :=
  have single : statusCmdFunc statusConfig replicaHost appDoc "app" "" =
      .ok (some (.table [["SERVICE", "TYPE", "CONTAINER", "STATUS"], ["app", "docker", "web", "stopped"]])) := rfl
  have system : statusCmdFunc statusConfig replicaHost appDoc SystemService "" =
      .ok (some (.table [["SERVICE", "TYPE", "CONTAINER", "STATUS"], ["app", "docker", "web", "stopped"]])) := rfl
  ⟨single, system, singleViewAgrees statusConfig replicaHost appDoc (by decide) single system⟩

/-! ### `IsServiceRunning` of a compose service -/

theorem stateStatusRunning (state : String) : stateStatus state = .running ↔ state = "running" := by
  unfold stateStatus
  split <;> simp_all

/-- `IsServiceRunning` of a compose service reads one status per compose service label, that
of the container docker lists last under it: it finds the service running exactly when some
running container is the last one listed under its label. A running replica followed by a
stopped one of the same compose service is not seen, and `RemoveService` then goes on to
delete the service's directories. With no container listed it fails, and `RemoveService`
only logs that. -/
theorem runningOnlyIfLastListed (cfg : Config) (host : StatusHost) {d : Data} {name : String} {sv : Service}
    (found : d.services.lookup name = some sv) (compose : sv.serviceType = .dockerCompose)
    {rows : List (String × String)} (plain : ∀ r ∈ rows, Plain r.1 ∧ Plain r.2)
    (ps : psRun name (serviceDataDir cfg name) sv host.docker = .ok (psListing rows)) :
    isServiceRunning cfg host d name = if rows = [] then .error "unknown docker status"
      else .ok (decide (∃ r ∈ rows, r.2 = "running" ∧ rows.reverse.find? (·.1 = r.1) = some r)) := by
  have typeOk := serviceTypeFound found
  rw [compose] at typeOk
  have composeSame : dockerComposeStatus cfg host d name = parseStatuses (psListing rows) := by
    simp [dockerComposeStatus, found, statusesRun ps]
  unfold isServiceRunning
  rw [typeOk, composeSame, parseListing plain]
  split_ifs with empty
  · rfl
  · dsimp only
    congr 1
    apply Bool.eq_iff_iff.mpr
    simp only [List.any_eq_true, decide_eq_true_eq]
    constructor
    · rintro ⟨⟨label, status⟩, mem, running⟩
      obtain ⟨r, last, rfl⟩ := (memFoldlInsert _ _ rows label status).mp mem
      obtain rfl : r.1 = label := by simpa using List.find?_some last
      exact ⟨r, List.mem_reverse.mp (List.mem_of_find?_eq_some last), (stateStatusRunning r.2).mp running, last⟩
    · rintro ⟨r, -, running, last⟩
      exact ⟨⟨r.1, .running⟩,
        (memFoldlInsert _ _ rows r.1 .running).mpr ⟨r, last, (stateStatusRunning r.2).mpr running⟩, rfl⟩

theorem hiddenRunningReplica : isServiceRunning statusConfig replicaHost appDoc "app" = .ok false :=
  (runningOnlyIfLastListed statusConfig replicaHost (show appDoc.services.lookup "app" = some composeApp from rfl)
    rfl (by decide) (show psRun "app" (serviceDataDir statusConfig "app") composeApp replicaHost.docker =
      .ok (psListing [("web", "running"), ("web", "exited")]) from rfl)).trans rfl

end Yeet.Catch