import Yeet.Catch.Status
import Yeet.Catch.EventBus
import Mathlib.Data.List.Dedup

/-! The web page of `catch` (`pkg/catch/web`): `serviceReducer` of `ServiceContext.js` with
the actions the page dispatches, those of the `/api/v0/events` WebSocket among them, and
`statusToState` of `lib/status.js`, the state the service list shows for a service. The
page loads its services from `status --format=json` of the `sys` service once it is
mounted; the messages on the WebSocket are the events `catch` publishes, as `handleEvents`
writes them. Their publishers include code that is not among the sources (`monitorSystemd`,
`monitorDocker`, the installer), so the page is taken over any sequence of messages. A JSON value the page keeps without reading it is its text. React, the
WebSocket's reconnection, the list's order (`localeCompare`) and `stateToColor` are left
out. -/
namespace Yeet.Catch.Web
open Yeet.Db

/-- `State` of `lib/status.js`: what the indicator of a service shows. `mixed` is
`State.Partial`. -/
inductive State where
  | running
  | starting
  | stopping
  | stopped
  | mixed
  | unknown
  deriving DecidableEq, Repr

/-- `statusToState`: a stopping component makes the service stopping, else a starting one
makes it starting; when its components are all in one state, running and stopped show as
such and any other as unknown; otherwise the service is partial. `uniqueStates.size` is the
length of the states without repeats. -/
def statusToState (status : ServiceStatusData) : State :=
  let states := status.componentStatus.map (·.status)
  if ComponentStatus.stopping ∈ states then .stopping
  else if ComponentStatus.starting ∈ states then .starting
  else if states.dedup.length = 1 then
    match states.head? with
    | some .running => .running
    | some .stopped => .stopped
    | _ => .unknown
  else .mixed

/-- What the indicator of a service is meant to show for the states of its components:
stopping while one stops, else starting while one starts, else the state they all share,
else partial. -/
def overallState (states : List ComponentStatus) : State :=
  if .stopping ∈ states then .stopping
  else if .starting ∈ states then .starting
  else if states.all (· = .running) then .running
  else if states.all (· = .stopped) then .stopped
  else if states.all (· = .unknown) then .unknown
  else .mixed

theorem dedupLengthOne {α : Type} [DecidableEq α] (a : α) (rest : List α) :
    (a :: rest).dedup.length = 1 ↔ ∀ x ∈ rest, x = a := by
  constructor
  · intro one x mem
    obtain ⟨b, single⟩ := List.length_eq_one.mp one
    have onlyB : ∀ y ∈ a :: rest, y = b := fun y inList =>
      List.mem_singleton.mp (single ▸ List.mem_dedup.mpr inList)
    rw [onlyB x (List.mem_cons_of_mem a mem), onlyB a (List.mem_cons_self a rest)]
  · intro same
    have replicated : a :: rest = List.replicate (a :: rest).length a :=
      List.eq_replicate_iff.mpr ⟨rfl, List.forall_mem_cons.mpr ⟨rfl, same⟩⟩
    rw [replicated, List.replicate_dedup (List.length_cons a rest ▸ Nat.succ_ne_zero _)]
    rfl

theorem statusToStateOverall (status : ServiceStatusData) (nonEmpty : status.componentStatus ≠ []) :
    statusToState status = overallState (status.componentStatus.map (·.status)) := by
  obtain ⟨a, rest, states⟩ : ∃ a rest, status.componentStatus.map (·.status) = a :: rest := by
    cases h : status.componentStatus with
    | nil => exact absurd h nonEmpty
    | cons c cs => exact ⟨c.status, cs.map ComponentStatusData.status, rfl⟩
  simp only [statusToState, overallState, states]
  by_cases stopping : ComponentStatus.stopping ∈ a :: rest
  · simp only [if_pos stopping]
  by_cases starting : ComponentStatus.starting ∈ a :: rest
  · simp only [if_neg stopping, if_pos starting]
  simp only [if_neg stopping, if_neg starting]
  by_cases same : ∀ x ∈ rest, x = a
  · rw [if_pos ((dedupLengthOne a rest).mpr same)]
    have all : ∀ s, (a :: rest).all (· = s) = decide (a = s) := fun s => by
      by_cases as : a = s
      · subst as; simpa using same
      · simp [as]
    simp only [all, List.head?_cons, decide_eq_true_eq]
    cases a <;> simp at stopping starting ⊢
  · rw [if_neg (mt (dedupLengthOne a rest).mp same)]
    obtain ⟨x, mem, other⟩ : ∃ x ∈ rest, x ≠ a := by simpa using same
    have notAll : ∀ s, (a :: rest).all (· = s) = false := fun s => by
      simp only [List.all_eq_false, List.mem_cons, decide_eq_true_eq]
      by_cases as : a = s
      · exact ⟨x, .inr mem, as ▸ other⟩
      · exact ⟨a, .inl rfl, as⟩
    simp only [notAll, if_false, Bool.false_eq_true]

example : statusToState ⟨"app", .docker, []⟩ = .mixed := by decide

theorem systemViewComponents {cfg : Config} {host : StatusHost} {d : Data} {raw : List ServiceStatusData}
    (ok : systemView cfg host d = .ok raw) {status : ServiceStatusData} (mem : status ∈ raw) :
    status.componentStatus ≠ [] := by
  rw [systemViewEq] at ok
  split at ok
  · cases ok
  · cases ok
    rcases List.mem_append.mp mem with systemd | compose
    · obtain ⟨e, -, rfl⟩ := List.mem_map.mp systemd
      simp [systemdData]
    · obtain ⟨e, -, rfl⟩ := List.mem_map.mp compose
      unfold composeData
      split
      · simp
      · rename_i notEmpty
        simpa [components, List.isEmpty_iff] using notEmpty

theorem systemJson {cfg : Config} {host : StatusHost} {d : Data} {listing : List ServiceStatusData}
    (loaded : statusCmdFunc cfg host d SystemService "json" = .ok (some (.json false listing))) :
    ∃ raw, systemView cfg host d = .ok raw ∧ listing = sortStatuses raw := by
  unfold statusCmdFunc at loaded
  rw [if_pos rfl] at loaded
  cases view : systemView cfg host d with
  | error e => simp [view, Except.map] at loaded
  | ok raw =>
    simp only [view, Except.map, Option.map_some', statusOutput, if_pos rfl] at loaded
    cases loaded
    exact ⟨raw, rfl, rfl⟩

/-- Every service the page loads from `status --format=json` of `sys` has a component, so its
indicator shows what the states of its components mean together, never the partial state of
a service without components. -/
theorem loadedIndicator {cfg : Config} {host : StatusHost} {d : Data} {listing : List ServiceStatusData}
    (loaded : statusCmdFunc cfg host d SystemService "json" = .ok (some (.json false listing)))
    {status : ServiceStatusData} (mem : status ∈ listing) :
    statusToState status = overallState (status.componentStatus.map (·.status)) := by
  obtain ⟨raw, view, rfl⟩ := systemJson loaded
  obtain ⟨st, sorted, rfl⟩ := List.mem_map.mp mem
  have nonEmpty := systemViewComponents view ((sortByKeyPerm _ raw).subset sorted)
  exact statusToStateOverall _ fun nil => nonEmpty (List.nil_perm.mp (nil ▸ sortByKeyPerm _ st.componentStatus))

theorem appShowsStopped :
    statusCmdFunc statusConfig replicaHost appDoc SystemService "json" =
        .ok (some (.json false [⟨"app", .docker, [⟨"web", .stopped⟩]⟩])) ∧
      (⟨"app", .docker, [⟨"web", .stopped⟩]⟩ : ServiceStatusData) ∈
        [(⟨"app", .docker, [⟨"web", .stopped⟩]⟩ : ServiceStatusData)] ∧
      statusToState ⟨"app", .docker, [⟨"web", .stopped⟩]⟩ = overallState [.stopped] ∧
      overallState [.stopped] = .stopped :=
  have loaded : statusCmdFunc statusConfig replicaHost appDoc SystemService "json" =
      .ok (some (.json false [⟨"app", .docker, [⟨"web", .stopped⟩]⟩])) := rfl
  ⟨loaded, List.mem_singleton_self _, loadedIndicator loaded (List.mem_singleton_self _), by decide⟩

example : statusToState ⟨"app", .docker, [⟨"db", .running⟩, ⟨"web", .stopped⟩]⟩ = .mixed := by decide

/-! ### The services the page keeps -/

/-- A JSON value the page keeps: a status of the listing it loaded, `null`, or the `data` of
an event, whose text it never reads. -/
inductive Value where
  | status (st : ServiceStatusData)
  | null
  | json (text : String)
  deriving DecidableEq, Repr

/-- A message of the events WebSocket: a `catch.Event` as `handleEvents` writes it. -/
structure Message where
  time : Int
  serviceName : String
  type : EventBus.EventType
  data : Value
  deriving DecidableEq, Repr

/-- What the page holds for a service, `none` where no action has set the field. -/
structure Entry where
  serviceName : Option String
  status : Option Value
  config : Option Value
  deriving DecidableEq, Repr

/-- The state `ServiceProvider` keeps with `useReducer`. -/
structure Context where
  selectedService : Option String
  services : GoMap String Entry
  shellRunOpts : Option Value
  lastHeartbeat : Option Message

/-- `initialState`. -/
def initialState : Context :=
  ⟨some "catch", (∅ : GoMap String Entry).insert "catch" ⟨some "catch", none, none⟩, none, none⟩

/-- The actions of `ActionTypes`, each with its payload. -/
inductive Action where
  | initializeServices (payload : List ServiceStatusData)
  | setSelectedService (serviceId : String)
  | setShellRunOpts (runOpts : Value)
  | heartbeat (payload : Message)
  | serviceStatusChanged (payload : Message)
  | serviceCreated (payload : Message)
  | serviceDeleted (payload : Message)
  | serviceConfigChanged (payload : Message)

/-- The entry `InitializeServices` makes for a service of the listing. -/
def loadedEntry (data : ServiceStatusData) : Entry := ⟨some data.serviceName, some (.status data), some .null⟩

/-- The entry of `name`, or the `{}` that spreading a missing one gives. -/
def entryOf (services : GoMap String Entry) (name : String) : Entry :=
  (services.lookup name).getD ⟨none, none, none⟩

/-- `serviceReducer`. -/
def serviceReducer (state : Context) : Action → Context
  | .initializeServices payload =>
      { state with services := payload.foldl (fun acc data => acc.insert data.serviceName (loadedEntry data)) ∅ }
  | .setSelectedService serviceId => { state with selectedService := some serviceId }
  | .setShellRunOpts runOpts => { state with shellRunOpts := some runOpts }
  | .heartbeat payload => { state with lastHeartbeat := some payload }
  | .serviceStatusChanged payload =>
      { state with services := (state.services.insert payload.serviceName
          { entryOf state.services payload.serviceName with status := some payload.data }) }
  | .serviceCreated payload | .serviceConfigChanged payload =>
      { state with services := (state.services.insert payload.serviceName
          { entryOf state.services payload.serviceName with
            serviceName := some payload.serviceName, config := some payload.data }) }
  | .serviceDeleted payload =>
      { state with services := state.services.erase payload.serviceName,
                   selectedService :=
                     if state.selectedService = some payload.serviceName then none else state.selectedService }

/-- The text of an `EventType`. -/
def eventTypeText : EventBus.EventType → String
  | .unknown => "Unknown"
  | .heartbeat => "Heartbeat"
  | .serviceStatusChanged => "ServiceStatusChanged"
  | .serviceDeleted => "ServiceDeleted"
  | .serviceCreated => "ServiceCreated"
  | .serviceConfigChanged => "ServiceConfigChanged"
  | .serviceConfigStaged => "ServiceConfigStaged"

/-- `Object.values(ActionTypes)`. -/
def actionTypes : List String :=
  ["InitializeServices", "SetSelectedService", "SetShellRunOpts", "Heartbeat", "ServiceStatusChanged",
    "ServiceCreated", "ServiceDeleted", "ServiceConfigChanged"]

/-- `ws.onmessage`: a message whose type is one of `ActionTypes` is dispatched as the action
of that type with the message as its payload; any other is dropped with a warning. -/
def onMessage (m : Message) : Option Action :=
  if eventTypeText m.type ∈ actionTypes then
    match m.type with
    | .heartbeat => some (.heartbeat m)
    | .serviceStatusChanged => some (.serviceStatusChanged m)
    | .serviceDeleted => some (.serviceDeleted m)
    | .serviceCreated => some (.serviceCreated m)
    | .serviceConfigChanged => some (.serviceConfigChanged m)
    | _ => none
  else none

/-- What reaches `dispatch` once the listing is loaded: a message of the WebSocket, or a
click that selects a service or opens a shell. -/
inductive Input where
  | message (m : Message)
  | select (serviceId : String)
  | shellRunOpts (runOpts : Value)

def Input.action : Input → Option Action
  | .message m => onMessage m
  | .select serviceId => some (.setSelectedService serviceId)
  | .shellRunOpts runOpts => some (.setShellRunOpts runOpts)

def step (state : Context) (input : Input) : Context :=
  match input.action with
  | some action => serviceReducer state action
  | none => state

def dispatchAll (state : Context) (inputs : List Input) : Context := inputs.foldl step state

def Input.names (name : String) : Input → Bool
  | .message m => m.serviceName == name
  | _ => false

theorem onMessagePayload {m : Message} {a : Action} (dispatched : onMessage m = some a) :
    a = .heartbeat m ∨ a = .serviceStatusChanged m ∨ a = .serviceDeleted m ∨ a = .serviceCreated m ∨
      a = .serviceConfigChanged m := by
  unfold onMessage at dispatched
  split_ifs at dispatched
  split at dispatched <;> cases dispatched <;> simp

theorem reducerLookupCongr {s s' : Context} (a : Action) {name : String}
    (same : s.services.lookup name = s'.services.lookup name) :
    (serviceReducer s a).services.lookup name = (serviceReducer s' a).services.lookup name := by
  cases a with
  | initializeServices payload => rfl
  | setSelectedService _ | setShellRunOpts _ | heartbeat _ => exact same
  | serviceStatusChanged p | serviceCreated p | serviceConfigChanged p =>
    by_cases here : p.serviceName = name
    · subst here
      simp [serviceReducer, entryOf, same]
    · simp [serviceReducer, AList.lookup_insert_ne (Ne.symm here), same]
  | serviceDeleted p =>
    by_cases here : p.serviceName = name
    · subst here
      simp [serviceReducer]
    · simp [serviceReducer, AList.lookup_erase_ne (Ne.symm here), same]

theorem lookupStepOther (s : Context) {input : Input} {name : String} (other : input.names name = false) :
    (step s input).services.lookup name = s.services.lookup name := by
  cases input with
  | select _ | shellRunOpts _ => rfl
  | message m =>
    have notHere : m.serviceName ≠ name := by simpa [Input.names] using other
    rcases dispatched : onMessage m with _ | a
    · simp only [step, Input.action, dispatched]
    · rcases onMessagePayload dispatched with rfl | rfl | rfl | rfl | rfl <;>
        simp [step, Input.action, dispatched, serviceReducer, AList.lookup_insert_ne (Ne.symm notHere),
          AList.lookup_erase_ne (Ne.symm notHere)]

theorem lookupStepCongr {s s' : Context} (input : Input) {name : String}
    (same : s.services.lookup name = s'.services.lookup name) :
    (step s input).services.lookup name = (step s' input).services.lookup name := by
  unfold step
  cases input.action with
  | none => exact same
  | some a => exact reducerLookupCongr a same

theorem lookupDispatchFilter (name : String) (inputs : List Input) {s s' : Context}
    (same : s.services.lookup name = s'.services.lookup name) :
    (dispatchAll s inputs).services.lookup name =
      (dispatchAll s' (inputs.filter (·.names name))).services.lookup name := by
  induction inputs generalizing s s' with
  | nil => exact same
  | cons input rest ih =>
    by_cases here : input.names name
    · rw [List.filter_cons_of_pos here]
      exact ih (lookupStepCongr input same)
    · rw [List.filter_cons_of_neg here]
      exact ih ((lookupStepOther s (by simpa using here)).trans same)

/-- Over any messages and clicks, the page's entry for a service is what the messages about
that service alone make of it: no other message and no click changes it. A service that no
message names keeps, after the listing is loaded, the entry the listing gave it. -/
theorem entryOnlyOwnMessages (state : Context) (inputs : List Input) (name : String) :
    (dispatchAll state inputs).services.lookup name =
      (dispatchAll state (inputs.filter (·.names name))).services.lookup name ∧
    ∀ listing, (∀ i ∈ inputs, i.names name = false) →
      (dispatchAll (serviceReducer state (.initializeServices listing)) inputs).services.lookup name =
        (listing.reverse.find? (·.serviceName = name)).map loadedEntry := by
  refine ⟨lookupDispatchFilter name inputs rfl, fun listing unnamed => ?_⟩
  rw [lookupDispatchFilter name inputs rfl, List.filter_eq_nil_iff.mpr (by simpa using unnamed), dispatchAll,
    List.foldl_nil, serviceReducer, lookupFoldlInsert]
  cases listing.reverse.find? (·.serviceName = name) <;> rfl

def mixedListing : List ServiceStatusData :=
  [⟨"api", .service, [⟨"api", .running⟩]⟩, ⟨"app", .docker, [⟨"db", .running⟩, ⟨"web", .stopped⟩]⟩]

def appRemovedInputs : List Input :=
  [.message ⟨1, "sys", .heartbeat, .null⟩, .select "app", .message ⟨2, "app", .serviceStatusChanged, .json "{}"⟩,
    .message ⟨3, "app", .serviceDeleted, .null⟩]

example :
    (dispatchAll (serviceReducer initialState (.initializeServices mixedListing)) appRemovedInputs).services.lookup
        "api" = some (loadedEntry ⟨"api", .service, [⟨"api", .running⟩]⟩) ∧
      (dispatchAll (serviceReducer initialState (.initializeServices mixedListing)) appRemovedInputs).services.lookup
        "app" = none := by
  decide

end Yeet.Catch.Web
