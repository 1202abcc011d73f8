import Mathlib.Logic.Function.Basic

/-! `websocketutil.ConnReadWriter` as `handleRunCommand` drives it, over every interleaving
of the `handleReads` goroutine, the command's `Read` calls, and the handler's deferred
calls (`cancel()`, then `ws.Close()`, which closes the connection and then `readCh`, then
`wsConn.Close()`). The context `handleReads` watches is the request's, cancelled when
`handleReads` returns or when `ServeHTTP` returns; the `cancel` the handler defers is a
child context's and does not reach it. The peer's messages and errors are free to arrive
at any time; a send on a closed `readCh` panics and stops the process. Writes and `DoneCh`
are not modelled. -/
namespace Yeet.Websocketutil

/-- Where `handleReads` is in its loop. -/
inductive Reader where
  /-- In `rw.conn.ReadMessage()`. -/
  | reading
  /-- Holding a message the read handler did not claim, at the `select` that sends it. -/
  | holding
  /-- Returned after an error, having cancelled the context. -/
  | exited
  deriving DecidableEq, Repr

/-- Where `handleRunCommand` is, from the command's run through its deferred calls. -/
inductive Handler where
  | running
  | cancelled
  | connClosed
  | readChClosed
  | returned
  deriving DecidableEq, Repr

def readChCap : Nat := 16

structure State where
  reader : Reader
  /-- Messages buffered in `readCh`. -/
  buffered : Nat
  readChClosed : Bool
  connClosed : Bool
  ctxDone : Bool
  handler : Handler
  panicked : Bool
  deriving DecidableEq, Repr

def start : State := ⟨.reading, 0, false, false, false, .running, false⟩

inductive Action where
  /-- `ReadMessage` returns a message, which the read handler claims or not. -/
  | readMessage (claimed : Bool)
  /-- `ReadMessage` returns an error: `handleReads` returns and cancels the context. -/
  | readError
  /-- The `select` takes `rw.readCh <- data`. -/
  | send
  /-- The `select` takes `<-rw.ctx.Done()` and drops the message. -/
  | skip
  /-- A `Read` call of the command takes a buffered message. -/
  | read
  /-- `e.run()` returns and the deferred `cancel()` runs. -/
  | commandReturns
  /-- `ws.Close()`: `rw.conn.Close()`. -/
  | closeConn
  /-- `ws.Close()`: `close(rw.readCh)`. -/
  | closeReadCh
  /-- `wsConn.Close()`, and `ServeHTTP` returns: the request's context is done. -/
  | serveReturns
  deriving DecidableEq, Repr

/-- A panic stops the process: nothing is enabled after it. -/
def Enabled (s : State) (a : Action) : Prop :=
  s.panicked = false ∧
    match a with
    | .readMessage _ => s.reader = .reading ∧ s.connClosed = false
    | .readError => s.reader = .reading
    | .send => s.reader = .holding ∧ (s.readChClosed = true ∨ s.buffered < readChCap)
    | .skip => s.reader = .holding ∧ s.ctxDone = true
    | .read => s.handler = .running ∧ 0 < s.buffered
    | .commandReturns => s.handler = .running
    | .closeConn => s.handler = .cancelled
    | .closeReadCh => s.handler = .connClosed
    | .serveReturns => s.handler = .readChClosed

instance (s : State) (a : Action) : Decidable (Enabled s a) := by
  unfold Enabled; cases a <;> infer_instance

def next (s : State) : Action → State
  | .readMessage claimed => { s with reader := if claimed then .reading else .holding }
  | .readError => { s with reader := .exited, ctxDone := true }
  | .send =>
      if s.readChClosed then { s with panicked := true }
      else { s with reader := .reading, buffered := s.buffered + 1 }
  | .skip => { s with reader := .reading }
  | .read => { s with buffered := s.buffered - 1 }
  | .commandReturns => { s with handler := .cancelled }
  | .closeConn => { s with handler := .connClosed, connClosed := true }
  | .closeReadCh => { s with handler := .readChClosed, readChClosed := true }
  | .serveReturns => { s with handler := .returned, ctxDone := true }

inductive Run : State → State → Prop where
  | refl (s : State) : Run s s
  | tail {s u : State} {a : Action} : Run s u → Enabled u a → Run s (next u a)

def runActions (s : State) (actions : List Action) : State := actions.foldl next s

def enabledAll : State → List Action → Bool
  | _, [] => true
  | s, a :: rest => decide (Enabled s a) && enabledAll (next s a) rest

theorem Run.head {s s' : State} {a : Action} (enabled : Enabled s a) (run : Run (next s a) s') :
    Run s s' := by
  induction run with
  | refl => exact .tail (.refl s) enabled
  | tail _ enabled' ih => exact .tail ih enabled'

theorem runActionsRun (s : State) (actions : List Action) (enabled : enabledAll s actions = true) :
    Run s (runActions s actions) := by
  induction actions generalizing s with
  | nil => exact .refl s
  | cons a rest ih =>
    simp only [enabledAll, Bool.and_eq_true, decide_eq_true_eq] at enabled
    exact Run.head enabled.1 (ih _ enabled.2)

/-- A client message read just before the deferred `ws.Close()` and not claimed by the read
handler is sent on `readCh` after `close(rw.readCh)`: the send panics. -/
theorem closeDuringSendPanics :
    ∃ s, Run start s ∧ s.panicked = true ∧ s.handler = .readChClosed ∧ s.ctxDone = false :=
  ⟨_, runActionsRun start [.readMessage false, .commandReturns, .closeConn, .closeReadCh, .send]
    (by decide), rfl, rfl, rfl⟩

end Yeet.Websocketutil
