import Mathlib.Data.List.Basic

/-! The bytes `ConnReadWriter.Read` returns against the messages `handleReads` receives,
over every interleaving of the two. A message the read handler claims never reaches
`readCh`; every other one enters it in arrival order, and each `Read` takes the oldest
one whole: it copies it into the caller's buffer when it fits, and otherwise returns
`io.ErrShortBuffer` and the message is gone. The context, the capacity of `readCh` and its
closing are the concern of `ConnReadWriter` and are not modelled here: a `Read` takes a
message when one is buffered. -/
namespace Yeet.Websocketutil.ReadStream

abbrev Bytes := List UInt8

/-- `ConnReadWriter.Read` with a buffer of `n` bytes, once it took `bs` from `readCh`: the
bytes copied, or `io.ErrShortBuffer`. -/
def read (n : Nat) (bs : Bytes) : Except String Bytes :=
  if n < bs.length then .error "short buffer" else .ok bs

/-- The bytes a `Read` result hands to the caller. -/
def delivered : Except String Bytes → Bytes
  | .ok bs => bs
  | .error _ => []

structure State where
  /-- The messages buffered in `readCh`, oldest first. -/
  readCh : List Bytes
  /-- What each `Read` returned, in order. -/
  results : List (Except String Bytes)
  /-- The messages the read handler did not claim, in arrival order. -/
  unclaimed : List Bytes
  /-- The messages `Read` took, in order, each with the length of the buffer it was
  read into. -/
  taken : List (Bytes × Nat)

def start : State := ⟨[], [], [], []⟩

inductive Action where
  /-- `ReadMessage` returns `data`, which the read handler claims or not. -/
  | receive (data : Bytes) (claimed : Bool)
  /-- A `Read` call with a buffer of `n` bytes. -/
  | read (n : Nat)

/-- A `Read` has a buffer of at least one byte and waits for a buffered message. -/
def Enabled (s : State) : Action → Prop
  | .receive _ _ => True
  | .read n => 1 ≤ n ∧ s.readCh ≠ []

def next (s : State) : Action → State
  | .receive data claimed =>
      if claimed then s else { s with readCh := s.readCh ++ [data], unclaimed := s.unclaimed ++ [data] }
  | .read n =>
      match s.readCh with
      | bs :: rest => ⟨rest, s.results ++ [read n bs], s.unclaimed, s.taken ++ [(bs, n)]⟩
      | [] => s

inductive Run : State → State → Prop where
  | refl (s : State) : Run s s
  | tail {s u : State} {a : Action} : Run s u → Enabled u a → Run s (next u a)

/-- The bytes the `Read` calls returned, concatenated. -/
def returned (s : State) : Bytes := (s.results.map delivered).flatten

/-- Every unclaimed message was taken by one `Read`, in arrival order, or is still
buffered; each `Read` returned what `read` makes of the message it took. -/
def Inv (s : State) : Prop :=
  s.unclaimed = s.taken.map Prod.fst ++ s.readCh ∧ s.results = s.taken.map fun t => read t.2 t.1

theorem invStep {s : State} (inv : Inv s) (a : Action) : Inv (next s a) := by
  obtain ⟨order, results⟩ := inv
  cases a with
  | receive data claimed =>
    cases claimed
    · exact ⟨by simp [next, order], results⟩
    · exact ⟨order, results⟩
  | read n =>
    simp only [next]
    split
    · rename_i bs rest buffered
      exact ⟨by simp [order, buffered], by simp [results]⟩
    · exact ⟨order, results⟩

theorem invRun {s s' : State} (inv : Inv s) (run : Run s s') : Inv s' := by
  induction run with
  | refl => exact inv
  | tail _ _ ih => exact invStep ih _

theorem deliveredRead (n : Nat) (bs : Bytes) :
    delivered (read n bs) = if bs.length ≤ n then bs else [] := by
  unfold read
  split_ifs <;> first | rfl | omega

theorem deliveredLength (taken : List (Bytes × Nat)) :
    ((taken.map fun t => delivered (read t.2 t.1)).flatten).length ≤ ((taken.map Prod.fst).flatten).length := by
  induction taken with
  | nil => exact le_rfl
  | cons t rest ih =>
    simp only [List.map_cons, List.flatten_cons, List.length_append]
    rw [deliveredRead]
    split_ifs
    · omega
    · rw [List.length_nil]
      omega

theorem deliveredAll (taken : List (Bytes × Nat)) :
    (taken.map fun t => delivered (read t.2 t.1)).flatten = (taken.map Prod.fst).flatten ↔
      ∀ t ∈ taken, t.1.length ≤ t.2 := by
  induction taken with
  | nil => simp
  | cons t rest ih =>
    simp only [List.map_cons, List.flatten_cons, List.mem_cons, forall_eq_or_imp]
    rw [deliveredRead]
    split_ifs with fits
    · rw [List.append_cancel_left_eq, ih]
      exact ⟨fun all => ⟨fits, all⟩, fun all => all.2⟩
    · have shorter := deliveredLength rest
      refine iff_of_false (fun same => ?_) (fun all => fits all.1)
      have := congrArg List.length same
      simp only [List.nil_append, List.length_append] at this
      omega

/-- Over every run from the start, the unclaimed messages are taken by `Read` once each
and in arrival order, and each `Read` returns the message it took when it fits the buffer
and nothing of it otherwise. Once no message is buffered, the bytes returned are the
unclaimed messages concatenated in order iff every message fitted its buffer. -/
theorem readStream {s : State} (run : Run start s) :
    s.unclaimed = s.taken.map Prod.fst ++ s.readCh ∧
      s.results = s.taken.map (fun t => read t.2 t.1) ∧
      (s.readCh = [] → (returned s = s.unclaimed.flatten ↔ ∀ t ∈ s.taken, t.1.length ≤ t.2)) := by
  obtain ⟨order, results⟩ := invRun ⟨rfl, rfl⟩ run
  refine ⟨order, results, fun drained => ?_⟩
  rw [returned, results, order, drained, List.append_nil, List.map_map]
  exact deliveredAll s.taken

/-- A two-byte message the read handler leaves, then a `Read` with a one-byte buffer. -/
def shortRead : State := next (next start (.receive [1, 2] false)) (.read 1)

/-- The `Read` fails with `io.ErrShortBuffer`, nothing is buffered any more, and the
message's bytes are not among those returned. -/
theorem shortReadDropsMessage :
    Run start shortRead ∧ shortRead.readCh = [] ∧ shortRead.results = [.error "short buffer"] ∧
      returned shortRead ≠ shortRead.unclaimed.flatten :=
  have run : Run start shortRead := .tail (.tail (.refl start) trivial) ⟨le_rfl, by simp [next, start]⟩
  have bound := (readStream run).2.2 rfl
  ⟨run, rfl, rfl, fun same => absurd (bound.mp same ([1, 2], 1) (List.mem_singleton_self _)) (by decide)⟩

end Yeet.Websocketutil.ReadStream
