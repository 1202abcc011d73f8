import Mathlib.Data.List.Infix

/-! The SFTP directory lister `lister.ListAt` (`Filelist` returns `lister{method, path}` for
the host path `resolvePath` gives) and a client that pages through a listing with buffers
of any sizes, from offset 0, advancing the offset by each count. `os.Stat`, `os.ReadDir`
and each entry's `Info` are outcomes the lister is given; a file info is opaque, and
`ListAt` only copies it. -/
namespace Yeet.Catch.SftpListing

section
variable {FileInfo : Type}

/-- `fs.DirEntry` as `ListAt` reads it: what its `Info` call returns. -/
abbrev DirEntry (FileInfo : Type) := Except String FileInfo

/-- The host calls of `ListAt`. -/
structure Fs (FileInfo : Type) where
  stat : String → Except String FileInfo
  readDir : String → Except String (List (DirEntry FileInfo))

/-- `lister`: the request's method, the host path, and `de`, `nil` until a `List` reads the
directory. -/
structure Lister (FileInfo : Type) where
  method : String
  path : String
  de : Option (List (DirEntry FileInfo))

/-- The error `ListAt` returns beside its count: `io.EOF` or another. -/
inductive ListError where
  | eof
  | other (message : String)
  deriving DecidableEq, Repr

/-- A reply of `ListAt`: the file infos written into `fis` from its first slot, the count
it returns, and its error (`none` for `nil`). -/
structure Reply (FileInfo : Type) where
  written : List FileInfo
  count : Nat
  err : Option ListError
  deriving DecidableEq

/-- The loop over `ls.de[off:]` from index `i`, with a buffer of `n` slots: the file infos
it writes from slot `i` on, and the error it returns. -/
def fill (n : Nat) : Nat → List (DirEntry FileInfo) → List FileInfo × Option ListError
  | _, [] => ([], some .eof)
  | i, d :: rest =>
      if n ≤ i then ([], none)
      else
        match d with
        | .error e => ([], some (.other e))
        | .ok fi => let (written, err) := fill n (i + 1) rest; (fi :: written, err)

/-- `lister.ListAt(fis, off)` with a buffer `fis` of `n` slots: the lister after the call
and the reply; `none` is a panic, of `fis[0]` for an empty buffer or of `ls.de[off:]` for an
offset outside the listing. -/
def listAt (fs : Fs FileInfo) (ls : Lister FileInfo) (n : Nat) (off : Int) :
    Option (Lister FileInfo × Reply FileInfo) :=
  if ls.method = "Stat" then
    match fs.stat ls.path with
    | .error e => some (ls, ⟨[], 0, some (.other e)⟩)
    | .ok fi => if n = 0 then none else some (ls, ⟨[fi], 1, some .eof⟩)
  else if ls.method ≠ "List" then
    some (ls, ⟨[], 0, some (.other ("unsupported method: \"" ++ ls.method ++ "\""))⟩)
  else
    let loaded : Except String (List (DirEntry FileInfo)) :=
      match ls.de with
      | some de => .ok de
      | none => fs.readDir ls.path
    match loaded with
    | .error e => some (ls, ⟨[], 0, some (.other e)⟩)
    | .ok de =>
        if off < 0 ∨ de.length < off then none
        else
          let (written, err) := fill n 0 (de.drop off.toNat)
          some ({ ls with de := some de }, ⟨written, written.length, err⟩)

/-- A client that calls `ListAt` with the buffers `bufs` in turn from offset `off`, advancing
it by each count, until a call returns an error or the buffers run out: the replies, or
`none` when a call panics. -/
def listRun (fs : Fs FileInfo) : Lister FileInfo → List Nat → Int → Option (List (Reply FileInfo))
  | _, [], _ => some []
  | ls, n :: bufs, off =>
      match listAt fs ls n off with
      | none => none
      | some (ls', reply) =>
          if reply.err.isSome then some [reply]
          else (listRun fs ls' bufs (off + reply.count)).map (reply :: ·)

/-- The paging a client expects of a listing whose entries are `rest`: each buffer filled
from the front, and `io.EOF` with the call that takes the last entry. -/
def pages (rest : List FileInfo) : List Nat → List (Reply FileInfo)
  | [] => []
  | n :: bufs =>
      if rest.length ≤ n then [⟨rest, rest.length, some .eof⟩]
      else ⟨rest.take n, n, none⟩ :: pages (rest.drop n) bufs

def delivered (replies : List (Reply FileInfo)) : List FileInfo := (replies.map (·.written)).flatten

/-- A lister for `List` whose listing, read already or on the next call, is `infos`, each
entry's `Info` succeeding. -/
def Loaded (fs : Fs FileInfo) (ls : Lister FileInfo) (infos : List FileInfo) : Prop :=
  ls.method = "List" ∧
    (ls.de = some (infos.map .ok) ∨ ls.de = none ∧ fs.readDir ls.path = .ok (infos.map .ok))

theorem fillOk (n i : Nat) (rest : List FileInfo) :
    fill n i (rest.map .ok) = (rest.take (n - i), if rest.length ≤ n - i then some .eof else none) := by
  induction rest generalizing i with
  | nil => simp [fill]
  | cons fi rest ih =>
    by_cases full : n ≤ i
    · simp [fill, full, Nat.sub_eq_zero_of_le full]
    · have room : n - i = n - (i + 1) + 1 := by omega
      simp only [List.map_cons, fill, full, if_false, ih, room, List.take_succ_cons, List.length_cons,
        Nat.add_le_add_iff_right]

theorem listAtLoaded {fs : Fs FileInfo} {ls : Lister FileInfo} {infos : List FileInfo}
    (loaded : Loaded fs ls infos) {n k : Nat} (within : k ≤ infos.length) :
    listAt fs ls n k = some (⟨ls.method, ls.path, some (infos.map .ok)⟩,
      ⟨(infos.drop k).take n, ((infos.drop k).take n).length,
        if (infos.drop k).length ≤ n then some .eof else none⟩) := by
  obtain ⟨list, stored⟩ := loaded
  have read : (match ls.de with
      | some de => .ok de
      | none => fs.readDir ls.path : Except String (List (DirEntry FileInfo))) = .ok (infos.map .ok) := by
    rcases stored with stored | ⟨absent, listed⟩
    · rw [stored]
    · rw [absent, listed]
  have inRange : ¬ ((k : Int) < 0 ∨ (infos.length : Int) < k) := by omega
  simp only [listAt, list, read, List.length_map, inRange, if_false, ← List.map_drop, fillOk, Nat.sub_zero,
    Int.toNat_ofNat]
  rfl

theorem listRunPages {fs : Fs FileInfo} {infos : List FileInfo} (bufs : List Nat)
    {ls : Lister FileInfo} (loaded : Loaded fs ls infos) {k : Nat}
    (within : k ≤ infos.length) :
    listRun fs ls bufs k = some (pages (infos.drop k) bufs) := by
  induction bufs generalizing ls k with
  | nil => rfl
  | cons n bufs ih =>
    rw [listRun, listAtLoaded loaded within]
    dsimp only
    by_cases last : (infos.drop k).length ≤ n
    · rw [if_pos last, pages, if_pos last, List.take_of_length_le last]
      rfl
    · have more : k + n ≤ infos.length := by
        simp only [List.length_drop] at last
        omega
      have taken : ((infos.drop k).take n).length = n := by
        simp only [List.length_take, List.length_drop]
        omega
      have next := ih (show Loaded fs ⟨ls.method, ls.path, some (infos.map .ok)⟩ infos from ⟨loaded.1, .inl rfl⟩)
        more
      rw [if_neg last, pages, if_neg last, taken, List.drop_drop, ← Int.ofNat_add, next]
      rfl

theorem deliveredPagesPrefix (bufs : List Nat) (rest : List FileInfo) : delivered (pages rest bufs) <+: rest := by
  induction bufs generalizing rest with
  | nil => exact List.nil_prefix
  | cons n bufs ih =>
    by_cases last : rest.length ≤ n
    · simp [pages, last, delivered]
    · simp only [pages, last, if_false, delivered, List.map_cons, List.flatten_cons]
      calc rest.take n ++ delivered (pages (rest.drop n) bufs) <+: rest.take n ++ rest.drop n :=
            List.prefix_append_right_inj _ |>.mpr (ih _)
        _ = rest := List.take_append_drop n rest

theorem pagesReplies (bufs : List Nat) (rest : List FileInfo) :
    ∀ r ∈ pages rest bufs, r.count = r.written.length ∧ (r.err = none ∨ r.err = some .eof) := by
  induction bufs generalizing rest with
  | nil => simp [pages]
  | cons n bufs ih =>
    by_cases last : rest.length ≤ n
    · simp [pages, last]
    · simp only [pages, last, if_false, List.forall_mem_cons]
      exact ⟨⟨by simp only [List.length_take]; omega, by simp⟩, ih _⟩

theorem pagesFit (bufs : List Nat) (rest : List FileInfo) :
    (pages rest bufs).length ≤ bufs.length ∧ ∀ rn ∈ (pages rest bufs).zip bufs, rn.1.written.length ≤ rn.2 := by
  induction bufs generalizing rest with
  | nil => simp [pages]
  | cons n bufs ih =>
    by_cases last : rest.length ≤ n
    · simp [pages, last]
    · simp only [pages, last, if_false, List.length_cons, List.zip_cons_cons, List.forall_mem_cons]
      exact ⟨Nat.succ_le_succ (ih _).1, List.length_take_le n rest, (ih _).2⟩

theorem pagesEof (bufs : List Nat) (rest : List FileInfo) :
    ∀ i (lt : i < (pages rest bufs).length),
      (pages rest bufs)[i].err = some .eof ↔ delivered ((pages rest bufs).take (i + 1)) = rest := by
  induction bufs generalizing rest with
  | nil => intro i lt; simp [pages] at lt
  | cons n bufs ih =>
    intro i lt
    by_cases last : rest.length ≤ n
    · simp only [pages, last, if_true, List.length_singleton, Nat.lt_one_iff] at lt ⊢
      subst lt
      simp [delivered]
    · have shorter : (rest.take n).length < rest.length := by
        simp only [List.length_take]
        omega
      simp only [pages, last, if_false] at lt ⊢
      cases i with
      | zero =>
        refine iff_of_false (by simp) fun same => ?_
        simp only [delivered, List.take_succ_cons, List.take_zero, List.map_cons, List.map_nil,
          List.flatten_cons, List.flatten_nil, List.append_nil] at same
        exact absurd (congrArg List.length same) (Nat.ne_of_lt shorter)
      | succ i =>
        have rest' := ih (rest.drop n) i (by simpa using lt)
        have split : ∀ x, rest.take n ++ x = rest ↔ x = rest.drop n := fun x =>
          ⟨fun same => by rw [← same, List.drop_left' (by simp only [List.length_take]; omega)],
            fun same => by rw [same, List.take_append_drop]⟩
        rw [List.getElem_cons_succ, rest', List.take_succ_cons]
        simp only [delivered, List.map_cons, List.flatten_cons, split]

theorem pagesComplete (bufs : List Nat) (room : ∀ n ∈ bufs, 1 ≤ n) (rest : List FileInfo)
    (enough : rest.length < bufs.length) : delivered (pages rest bufs) = rest := by
  induction bufs generalizing rest with
  | nil => simp at enough
  | cons n bufs ih =>
    have first := room n (List.mem_cons_self n bufs)
    by_cases last : rest.length ≤ n
    · simp [pages, last, delivered]
    · have next := ih (fun m mem => room m (List.mem_cons_of_mem n mem)) (rest.drop n)
        (by simp only [List.length_drop, List.length_cons] at enough ⊢; omega)
      simp only [pages, last, if_false, delivered, List.map_cons, List.flatten_cons] at next ⊢
      rw [next, List.take_append_drop]

/-- Paging through a directory whose entries' `Info` succeed, with buffers of at least one
slot from offset 0: no call panics, the file infos delivered are a prefix of the listing in
order, each count is the number of infos written and each error `nil` or `io.EOF`, each
reply fits the buffer of its call, a call
returns `io.EOF` exactly when it completes the listing (the first call for an empty one),
and buffers outnumbering the entries reach it. -/
theorem listingPages (fs : Fs FileInfo) (path : String) (infos : List FileInfo) (bufs : List Nat)
    (listed : fs.readDir path = .ok (infos.map .ok)) (room : ∀ n ∈ bufs, 1 ≤ n) :
    ∃ replies, listRun fs ⟨"List", path, none⟩ bufs 0 = some replies ∧
      delivered replies <+: infos ∧
      (∀ r ∈ replies, r.count = r.written.length ∧ (r.err = none ∨ r.err = some .eof)) ∧
      (replies.length ≤ bufs.length ∧ ∀ rn ∈ replies.zip bufs, rn.1.written.length ≤ rn.2) ∧
      (∀ i (lt : i < replies.length), replies[i].err = some .eof ↔ delivered (replies.take (i + 1)) = infos) ∧
      (infos.length < bufs.length → delivered replies = infos) := by
  have run := listRunPages bufs
    (show Loaded fs ⟨"List", path, none⟩ infos from ⟨rfl, .inr ⟨rfl, listed⟩⟩) (Nat.zero_le infos.length)
  rw [List.drop_zero] at run
  exact ⟨_, run, deliveredPagesPrefix bufs infos, pagesReplies bufs infos, pagesFit bufs infos,
    pagesEof bufs infos, pagesComplete bufs room infos⟩

end

/-- A data directory with the entries `a` and `b`, whose `Info` calls succeed. -/
def twoEntries : Fs String := ⟨fun _ => .error "no such file or directory", fun _ => .ok [.ok "a", .ok "b"]⟩

theorem twoEntriesListed :
    twoEntries.readDir "/srv/services/app/data" = .ok (["a", "b"].map .ok) ∧ (∀ n ∈ [2, 2, 2], 1 ≤ n) ∧
      ∃ replies, listRun twoEntries ⟨"List", "/srv/services/app/data", none⟩ [2, 2, 2] 0 = some replies ∧
        delivered replies = ["a", "b"] :=
  ⟨rfl, by decide, (listingPages twoEntries "/srv/services/app/data" ["a", "b"] [2, 2, 2] rfl (by decide)).imp
    fun _ listed => ⟨listed.1, listed.2.2.2.2.2 (by decide)⟩⟩

example : listRun twoEntries ⟨"List", "/srv/services/app/data", none⟩ [2, 2] 0 = some [⟨["a", "b"], 2, some .eof⟩] := by
  decide

end Yeet.Catch.SftpListing
