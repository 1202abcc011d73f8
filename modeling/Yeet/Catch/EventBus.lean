import Mathlib.Data.List.Basic
import Mathlib.Logic.Function.Basic

/-! The event bus of `catch.Server` over every interleaving of its goroutines:
`PublishEvent`, which holds `eventListeners.mu` for its whole fan-out and sends on each
accepting listener's unbuffered channel; `AddEventListener` and `RemoveEventListener`, each
one step that needs the mutex free; and the loop of `eventsCmdFunc`, the `events` SSH
command, which receives in a `select` and, once the session's context is done, leaves the
loop and only then runs the deferred `RemoveEventListener`. `handleEvents` registers the same
way, but its request context is never done once the WebSocket has hijacked the connection, so
its goroutine is a listener that is never cancelled. `range` over the listener set may visit
the listeners in any order. -/
namespace Yeet.EventBus

inductive EventType where
  | unknown
  | heartbeat
  | serviceStatusChanged
  | serviceDeleted
  | serviceCreated
  | serviceConfigChanged
  | serviceConfigStaged
  deriving DecidableEq, Repr

/-- `catch.Event` without its time, which no listener filter reads. -/
structure Event where
  serviceName : String
  type : EventType
  deriving DecidableEq, Repr

/-- Where a listener goroutine is: in its `select`, handling a received event (`e.printf`
or `conn.WriteJSON`), or out of its loop with `RemoveEventListener` still to run. -/
inductive Phase where
  | waiting
  | handling
  | exiting
  deriving DecidableEq, Repr

/-- A registered `EventListener` and the phase of the goroutine that receives from it. -/
structure Listener where
  filter : Option (Event → Bool)
  phase : Phase

/-- `el.filter == nil || el.filter(event)`. -/
def accepts (l : Listener) (event : Event) : Bool := l.filter.all fun f => f event

/-- A goroutine that calls `PublishEvent`: idle, or inside it holding the mutex with the
listeners its `range` has still to visit. -/
inductive Publisher where
  | idle
  | publishing (event : Event) (pending : List Nat)
  deriving DecidableEq, Repr

structure State where
  listeners : Nat → Option Listener
  nextHandle : Nat
  publishers : Nat → Publisher
  owner : Option Nat

def start : State := ⟨fun _ => none, 0, fun _ => .idle, none⟩

def registered (s : State) : List Nat :=
  (List.range s.nextHandle).filter fun h => (s.listeners h).isSome

inductive Action where
  | addEventListener (filter : Option (Event → Bool))
  | publishEvent (p : Nat) (event : Event) (order : List Nat)
  | send (p : Nat)
  | unlock (p : Nat)
  | handled (h : Nat)
  | cancel (h : Nat)
  | removeEventListener (h : Nat)

def Enabled (s : State) : Action → Prop
  | .addEventListener _ => s.owner = none
  | .publishEvent p _ order => s.owner = none ∧ s.publishers p = .idle ∧ order.Perm (registered s)
  | .send p => s.owner = some p ∧ ∃ event h rest l, s.publishers p = .publishing event (h :: rest) ∧
      s.listeners h = some l ∧ (accepts l event = false ∨ l.phase = .waiting)
  | .unlock p => s.owner = some p ∧ ∃ event, s.publishers p = .publishing event []
  | .handled h => ∃ l, s.listeners h = some l ∧ l.phase = .handling
  | .cancel h => ∃ l, s.listeners h = some l ∧ l.phase = .waiting
  | .removeEventListener h => s.owner = none ∧ ∃ l, s.listeners h = some l ∧ l.phase = .exiting

def setPhase (s : State) (h : Nat) (phase : Phase) : State :=
  { s with listeners := Function.update s.listeners h ((s.listeners h).map fun l => { l with phase }) }

def next (s : State) : Action → State
  | .addEventListener filter =>
      { s with listeners := Function.update s.listeners s.nextHandle (some ⟨filter, .waiting⟩),
               nextHandle := s.nextHandle + 1 }
  | .publishEvent p event order =>
      { s with publishers := Function.update s.publishers p (.publishing event order), owner := some p }
  | .send p =>
      match s.publishers p with
      | .publishing event (h :: rest) =>
          let s' := { s with publishers := Function.update s.publishers p (.publishing event rest) }
          match s.listeners h with
          | some l => if accepts l event then setPhase s' h .handling else s'
          | none => s'
      | _ => s
  | .unlock p => { s with publishers := Function.update s.publishers p .idle, owner := none }
  | .handled h => setPhase s h .waiting
  | .cancel h => setPhase s h .exiting
  | .removeEventListener h => { s with listeners := Function.update s.listeners h none }

inductive Run : State → State → Prop where
  | refl (s : State) : Run s s
  | tail {s u : State} {a : Action} : Run s u → Enabled u a → Run s (next u a)

theorem setPhaseOther {s : State} {h h' : Nat} (phase : Phase) (ne : h' ≠ h) :
    (setPhase s h phase).listeners h' = s.listeners h' := by
  simp [setPhase, Function.update_noteq ne]

/-! A publisher that holds the mutex and must next send to a listener that accepts the
event but has left its loop can never complete that send: the listener's only step is
`RemoveEventListener`, which needs the mutex. -/

def Deadlocked (s : State) (p h : Nat) : Prop :=
  s.owner = some p ∧ ∃ event rest l, s.publishers p = .publishing event (h :: rest) ∧
    s.listeners h = some l ∧ accepts l event = true ∧ l.phase = .exiting

theorem deadlockedStep {s : State} {p h : Nat} {a : Action} (stuck : Deadlocked s p h)
    (enabled : Enabled s a) : Deadlocked (next s a) p h := by
  obtain ⟨held, event, rest, l, publishing, found, accepting, exiting⟩ := stuck
  cases a with
  | addEventListener => simp_all [Enabled]
  | publishEvent => simp_all [Enabled]
  | removeEventListener => simp_all [Enabled]
  | send q =>
    obtain ⟨same, event', h', rest', l', publishing', found', ready⟩ := enabled
    rw [held, Option.some.injEq] at same
    subst same
    rw [publishing, Publisher.publishing.injEq, List.cons.injEq] at publishing'
    obtain ⟨rfl, rfl, rfl⟩ := publishing'
    rw [found, Option.some.injEq] at found'
    subst found'
    simp_all
  | unlock q =>
    obtain ⟨same, event', publishing'⟩ := enabled
    rw [held, Option.some.injEq] at same
    subst same
    simp_all
  | handled h' =>
    obtain ⟨l', found', handling⟩ := enabled
    have ne : h ≠ h' := by rintro rfl; simp_all
    exact ⟨held, event, rest, l, publishing, (setPhaseOther _ ne).trans found, accepting, exiting⟩
  | cancel h' =>
    obtain ⟨l', found', waiting⟩ := enabled
    have ne : h ≠ h' := by rintro rfl; simp_all
    exact ⟨held, event, rest, l, publishing, (setPhaseOther _ ne).trans found, accepting, exiting⟩

theorem deadlockedForever {s s' : State} {p h : Nat} (stuck : Deadlocked s p h) (run : Run s s') :
    Deadlocked s' p h := by
  induction run with
  | refl => exact stuck
  | tail _ enabled ih => exact deadlockedStep ih enabled

theorem deadlockedBlocksMutex {s : State} {p h : Nat} (stuck : Deadlocked s p h) :
    (∀ q event order, ¬ Enabled s (.publishEvent q event order)) ∧
      (∀ filter, ¬ Enabled s (.addEventListener filter)) ∧
      ∀ h', ¬ Enabled s (.removeEventListener h') := by
  simp [Enabled, stuck.1]

/-- The heartbeat publisher `0` and one `events --all` SSH session (`eventsCmdFunc`): the
listener registers, the heartbeat takes the mutex with the listener still to visit, and the
session ends, so its context is done, before the send. From then on the heartbeat never
returns and no goroutine publishes an event again. -/
theorem heartbeatDeadlock :
    ∃ s, Run start s ∧ ∀ s', Run s s' →
      Deadlocked s' 0 0 ∧ ∀ q event order, ¬ Enabled s' (.publishEvent q event order) := by
  let s₁ := next start (.addEventListener (some fun _ => true))
  let s₂ := next s₁ (.publishEvent 0 ⟨"sys", .heartbeat⟩ [0])
  have run : Run start (next s₂ (.cancel 0)) :=
    .tail (.tail (.tail (.refl _) rfl) ⟨rfl, rfl, by decide⟩) ⟨_, rfl, rfl⟩
  have stuck : Deadlocked (next s₂ (.cancel 0)) 0 0 := ⟨rfl, _, _, _, rfl, rfl, rfl, rfl⟩
  exact ⟨_, run, fun s' later =>
    ⟨deadlockedForever stuck later, (deadlockedBlocksMutex (deadlockedForever stuck later)).1⟩⟩

/-! What the bus does guarantee on every run from a fresh server: the mutex has one
holder, which is the one publisher inside `PublishEvent`, and a publisher only ever
visits listeners that are registered. -/

structure Inv (s : State) : Prop where
  owner : ∀ p, s.owner = some p ↔ s.publishers p ≠ .idle
  pending : ∀ p event pending, s.publishers p = .publishing event pending →
    ∀ h ∈ pending, (s.listeners h).isSome

theorem setPhaseIsSome (s : State) (h h' : Nat) (phase : Phase) :
    ((setPhase s h phase).listeners h').isSome = (s.listeners h').isSome := by
  by_cases same : h' = h
  · subst same; simp [setPhase]
  · rw [setPhaseOther _ same]

theorem idleWhenFree {s : State} (inv : Inv s) (free : s.owner = none) (p : Nat) :
    s.publishers p = .idle := by
  by_contra busy
  simp [(inv.owner p).mpr busy] at free

theorem othersIdle {s : State} (inv : Inv s) {p : Nat} (held : s.owner = some p) {q : Nat}
    (ne : q ≠ p) : s.publishers q = .idle := by
  by_contra busy
  exact ne (Option.some.inj (((inv.owner q).mpr busy).symm.trans held))

theorem invFrame {s t : State} (inv : Inv s) {p : Nat} (held : s.owner = some p)
    {next : Publisher} (busy : next ≠ .idle) (owner : t.owner = s.owner)
    (publishers : t.publishers = Function.update s.publishers p next)
    (sameKeys : ∀ k, (t.listeners k).isSome = (s.listeners k).isSome)
    (listed : ∀ event pending, next = .publishing event pending → ∀ k ∈ pending, (s.listeners k).isSome) :
    Inv t := by
  refine ⟨fun q => ?_, fun q event pending hq k mem => ?_⟩
  · by_cases same : q = p
    · subst same; simp [owner, publishers, held, busy]
    · simp [owner, publishers, held, same, Ne.symm same, othersIdle inv held same]
  · rw [sameKeys]
    by_cases same : q = p
    · subst same
      simp only [publishers, Function.update_same] at hq
      exact listed event pending hq k mem
    · simp [publishers, same, othersIdle inv held same] at hq

theorem invSetPhase {s : State} (inv : Inv s) (h : Nat) (phase : Phase) : Inv (setPhase s h phase) :=
  ⟨inv.owner, fun p event pending found k mem => by
    rw [setPhaseIsSome]; exact inv.pending p event pending found k mem⟩

theorem invStep {s : State} {a : Action} (inv : Inv s) (enabled : Enabled s a) : Inv (next s a) := by
  cases a with
  | addEventListener filter =>
    have free : s.owner = none := enabled
    exact ⟨fun p => by simp [next, free, idleWhenFree inv free p],
      fun p event pending h => by simp [next, idleWhenFree inv free p] at h⟩
  | publishEvent p event order =>
    obtain ⟨free, _, perm⟩ := enabled
    refine ⟨fun q => ?_, fun q event' pending h k mem => ?_⟩
    · by_cases same : q = p
      · subst same; simp [next]
      · simp [next, same, Ne.symm same, idleWhenFree inv free q]
    · by_cases same : q = p
      · subst same
        simp only [next, Function.update_same, Publisher.publishing.injEq] at h
        obtain ⟨rfl, rfl⟩ := h
        exact (List.mem_filter.mp (perm.subset mem)).2
      · simp [next, same, idleWhenFree inv free q] at h
  | send p =>
    obtain ⟨held, event, h, rest, l, publishing, found, _⟩ := enabled
    have listed : ∀ event' pending, Publisher.publishing event rest = .publishing event' pending →
        ∀ k ∈ pending, (s.listeners k).isSome := by
      rintro _ _ ⟨⟩ k mem
      exact inv.pending p event (h :: rest) publishing k (List.mem_cons_of_mem _ mem)
    simp only [next, publishing, found]
    split
    · exact invFrame inv held (by simp) rfl rfl (fun k => setPhaseIsSome _ _ _ _) listed
    · exact invFrame inv held (by simp) rfl rfl (fun _ => rfl) listed
  | unlock p =>
    obtain ⟨held, event, publishing⟩ := enabled
    refine ⟨fun q => ?_, fun q event' pending h => ?_⟩
    · by_cases same : q = p
      · subst same; simp [next]
      · simp [next, same, othersIdle inv held same]
    · by_cases same : q = p
      · subst same; simp [next] at h
      · simp [next, same, othersIdle inv held same] at h
  | handled k => exact invSetPhase inv k .waiting
  | cancel k => exact invSetPhase inv k .exiting
  | removeEventListener k =>
    exact ⟨inv.owner, fun p event pending h => by
      simp [next, idleWhenFree inv enabled.1 p] at h⟩

theorem invRun {s : State} (run : Run start s) : Inv s := by
  induction run with
  | refl => exact ⟨fun p => by simp [start], fun p event pending h => by simp [start] at h⟩
  | tail _ enabled ih => exact invStep ih enabled

inductive Trace : State → List Action → State → Prop where
  | nil (s : State) : Trace s [] s
  | cons {s s' : State} {a : Action} {as : List Action} :
      Enabled s a → Trace (next s a) as s' → Trace s (a :: as) s'

theorem Trace.run {s s' : State} {as : List Action} (trace : Trace s as s') : Run s s' := by
  induction trace with
  | nil s => exact .refl s
  | cons enabled _ ih => exact runPrepend enabled ih
where
  runPrepend {s s' : State} {a : Action} (enabled : Enabled s a) (run : Run (next s a) s') : Run s s' := by
    induction run with
    | refl => exact .tail (.refl s) enabled
    | tail _ later ih => exact .tail ih later

theorem Trace.append {s s' : State} {as bs : List Action} (trace : Trace s (as ++ bs) s') :
    ∃ u, Trace s as u ∧ Trace u bs s' := by
  induction as generalizing s with
  | nil => exact ⟨s, .nil s, trace⟩
  | cons a as ih =>
    cases trace with
    | cons enabled rest =>
      obtain ⟨u, first, second⟩ := ih rest
      exact ⟨u, .cons enabled first, second⟩

/-- The listener a step sends an event to: a `send` of a publisher to a listener whose
filter accepts the event. -/
def sentTo (s : State) : Action → Option (Nat × Event)
  | .send p =>
      match s.publishers p with
      | .publishing event (h :: _) =>
          match s.listeners h with
          | some l => if accepts l event then some (h, event) else none
          | none => none
      | _ => none
  | _ => none

def sends : State → List Action → List (Nat × Event)
  | _, [] => []
  | s, a :: as => (sentTo s a).toList ++ sends (next s a) as

/-- The sends a publish of `event` owes the listeners `hs` of `s`. -/
def owed (s : State) (event : Event) (hs : List Nat) : List (Nat × Event) :=
  hs.filterMap fun h => (s.listeners h).bind fun l => if accepts l event then some (h, event) else none

/-- A publish of `event` by `p` under way: it holds the mutex, `rest` is still to visit, and
every listener has the filter it had in `s`. -/
structure Publishing (s : State) (p : Nat) (event : Event) (u : State) (rest : List Nat) : Prop where
  owner : u.owner = some p
  pending : u.publishers p = .publishing event rest
  filters : ∀ h, (u.listeners h).map (·.filter) = (s.listeners h).map (·.filter)

theorem setPhaseFilters (s : State) (h h' : Nat) (phase : Phase) :
    ((setPhase s h phase).listeners h').map (·.filter) = (s.listeners h').map (·.filter) := by
  by_cases same : h' = h
  · subst same
    cases found : s.listeners h' <;> simp [setPhase, found]
  · rw [setPhaseOther _ same]

theorem publishingSetPhase {s u : State} {p : Nat} {event : Event} {rest : List Nat}
    (w : Publishing s p event u rest) (h : Nat) (phase : Phase) : Publishing s p event (setPhase u h phase) rest :=
  ⟨w.owner, w.pending, fun k => (setPhaseFilters u h k phase).trans (w.filters k)⟩

theorem publishingStep {s u : State} {p : Nat} {event : Event} {rest : List Nat} {a : Action}
    (w : Publishing s p event u rest) (enabled : Enabled u a) (other : a ≠ .unlock p) :
    ∃ rest', Publishing s p event (next u a) rest' ∧ (sentTo u a).toList ++ owed s event rest' = owed s event rest := by
  have busy : u.owner ≠ none := by simp [w.owner]
  cases a with
  | addEventListener => exact absurd enabled busy
  | publishEvent => exact absurd enabled.1 busy
  | removeEventListener => exact absurd enabled.1 busy
  | unlock q =>
    obtain rfl : p = q := Option.some.inj (w.owner.symm.trans enabled.1)
    exact absurd rfl other
  | handled h => exact ⟨rest, publishingSetPhase w h .waiting, rfl⟩
  | cancel h => exact ⟨rest, publishingSetPhase w h .exiting, rfl⟩
  | send q =>
    obtain ⟨held, event', h, rest', l, publishing, found, -⟩ := enabled
    obtain rfl : p = q := Option.some.inj (w.owner.symm.trans held)
    obtain ⟨rfl, rfl⟩ : event = event' ∧ rest = h :: rest' := by
      simpa [w.pending] using publishing
    obtain ⟨l', recorded, sameFilter⟩ : ∃ l', s.listeners h = some l' ∧ l.filter = l'.filter := by
      have := w.filters h
      rw [found] at this
      cases recorded : s.listeners h <;> simp_all
    have sameAccepts : accepts l' event = accepts l event := by simp [accepts, sameFilter]
    let moved : State := { u with publishers := Function.update u.publishers p (.publishing event rest') }
    have stepped : Publishing s p event moved rest' := ⟨w.owner, by simp [moved], w.filters⟩
    refine ⟨rest', ?_, ?_⟩
    · simp only [next, publishing, found]
      split
      · exact publishingSetPhase stepped h .handling
      · exact stepped
    · simp only [sentTo, publishing, found, owed, List.filterMap_cons, recorded, Option.some_bind, sameAccepts]
      cases accepts l event <;> simp

theorem publishingRun {s u u' : State} {p : Nat} {event : Event} {rest : List Nat} {as : List Action}
    (w : Publishing s p event u rest) (trace : Trace u as u') (free : Action.unlock p ∉ as) :
    ∃ rest', Publishing s p event u' rest' ∧ sends u as ++ owed s event rest' = owed s event rest := by
  induction trace generalizing rest with
  | nil => exact ⟨rest, w, rfl⟩
  | cons enabled _ ih =>
    rename_i a as
    simp only [List.mem_cons, not_or] at free
    obtain ⟨other, laterFree⟩ := free
    obtain ⟨mid, w', owedMid⟩ := publishingStep w enabled (Ne.symm other)
    obtain ⟨rest', w'', owedRest⟩ := ih w' laterFree
    refine ⟨rest', w'', ?_⟩
    rw [sends, List.append_assoc, owedRest, owedMid]

theorem sendsAppend {s s' : State} {as : List Action} (trace : Trace s as s') (bs : List Action) :
    sends s (as ++ bs) = sends s as ++ sends s' bs := by
  induction trace with
  | nil => rfl
  | cons _ _ ih => simp [sends, ih]

/-- A `PublishEvent` that takes the mutex and gets to unlock it has sent its event exactly
once to each listener registered when it took the mutex whose filter accepts the event, in
the order its `range` visited them, and to no other listener. -/
theorem publishFanOut {s : State} {p : Nat} {event : Event} {order : List Nat}
    (enabled : Enabled s (.publishEvent p event order)) {as : List Action} {s' : State}
    (trace : Trace (next s (.publishEvent p event order)) (as ++ [.unlock p]) s') (free : Action.unlock p ∉ as) :
    sends (next s (.publishEvent p event order)) (as ++ [.unlock p]) = owed s event order ∧
      (owed s event order).Perm (owed s event (registered s)) ∧ s'.owner = none := by
  have start : Publishing s p event (next s (.publishEvent p event order)) order :=
    ⟨rfl, by simp [next], fun _ => rfl⟩
  obtain ⟨u, window, last⟩ := trace.append
  obtain ⟨rest, w, owedRest⟩ := publishingRun start window free
  cases last with
  | cons unlocking finished =>
    cases finished
    obtain ⟨-, event', emptied⟩ := unlocking
    obtain rfl : rest = [] := (by simpa [w.pending] using emptied : event = event' ∧ rest = []).2
    refine ⟨?_, enabled.2.2.filterMap _, rfl⟩
    rw [sendsAppend window, ← owedRest]
    rfl

def oneListener : State := next start (.addEventListener none)

def heartbeat : Event := ⟨"", .heartbeat⟩

def heartbeatDone : State :=
  [Action.send 0, .unlock 0].foldl next (next oneListener (.publishEvent 0 heartbeat [0]))

theorem heartbeatSentOnce :
    Enabled oneListener (.publishEvent 0 heartbeat [0]) ∧
      Trace (next oneListener (.publishEvent 0 heartbeat [0])) ([.send 0] ++ [.unlock 0]) heartbeatDone ∧
      Action.unlock 0 ∉ [Action.send 0] ∧
      (sends (next oneListener (.publishEvent 0 heartbeat [0])) ([.send 0] ++ [.unlock 0]) =
          owed oneListener heartbeat [0] ∧
        (owed oneListener heartbeat [0]).Perm (owed oneListener heartbeat (registered oneListener)) ∧
        heartbeatDone.owner = none) ∧
      owed oneListener heartbeat [0] = [(0, heartbeat)] := by
  have enabled : Enabled oneListener (.publishEvent 0 heartbeat [0]) := ⟨rfl, rfl, List.Perm.refl _⟩
  have trace : Trace (next oneListener (.publishEvent 0 heartbeat [0])) ([.send 0] ++ [.unlock 0]) heartbeatDone :=
    .cons ⟨rfl, heartbeat, 0, [], ⟨none, .waiting⟩, rfl, rfl, .inr rfl⟩ (.cons ⟨rfl, heartbeat, rfl⟩ (.nil _))
  have free : Action.unlock 0 ∉ [Action.send 0] := by simp
  exact ⟨enabled, trace, free, publishFanOut enabled trace free, rfl⟩

end Yeet.EventBus
