import Mathlib.Data.List.Basic

/-! The few functions of Go's `strings` package that the daemon and the client call,
each for the one-character separators of their call sites. Go indexes strings by byte;
the model indexes by character, which agrees on the ASCII names and references they
split. -/
namespace Yeet.Strings

/-- `strings.Count(s, sep)` for a one-character `sep`. -/
def count (s : String) (c : Char) : Nat := s.toList.count c

/-- `strings.Contains(s, sep)` for a one-character `sep`. -/
def contains (s : String) (c : Char) : Bool := s.toList.contains c

/-- `strings.Contains(s, substr)`: `substr` starts at some position of `s`. -/
def containsString (s substr : String) : Bool := s.toList.tails.any fun t => substr.toList.isPrefixOf t

/-- `strings.ContainsAny(s, chars)`. -/
def containsAny (s chars : String) : Bool := s.toList.any (fun x => chars.toList.contains x)

def cutList (c : Char) : List Char → List Char × List Char × Bool
  | [] => ([], [], false)
  | x :: xs => if x = c then ([], xs, true) else
      match cutList c xs with
      | (before, after, found) => (x :: before, after, found)

/-- `strings.Cut(s, sep)` for a one-character `sep`: the text before the first `sep`, the
text after it, and whether `sep` was found. -/
def cut (s : String) (c : Char) : String × String × Bool :=
  match cutList c s.toList with
  | (before, after, found) => (⟨before⟩, ⟨after⟩, found)

/-- `strings.SplitN(s, sep, n)` for a one-character `sep` and `n ≥ 0`. -/
def splitN (s : String) (c : Char) : Nat → List String
  | 0 => []
  | 1 => [s]
  | n + 2 =>
      match cut s c with
      | (before, after, true) => before :: splitN after c (n + 1)
      | (_, _, false) => [s]

def lastIndexList (c : Char) : List Char → Option Nat
  | [] => none
  | x :: xs =>
      match lastIndexList c xs with
      | some i => some (i + 1)
      | none => if x = c then some 0 else none

def splitList (c : Char) : List Char → List (List Char)
  | [] => [[]]
  | x :: xs =>
      if x = c then [] :: splitList c xs else
      match splitList c xs with
      | seg :: segs => (x :: seg) :: segs
      | [] => [[x]]

/-- `strings.Split(s, sep)` for a one-character `sep`. -/
def split (s : String) (c : Char) : List String := (splitList c s.toList).map String.mk

/-- `strings.HasPrefix(s, prefix)`. -/
def hasPrefix (s pre : String) : Bool := pre.toList.isPrefixOf s.toList

/-- `strings.CutPrefix(s, prefix)`. -/
def cutPrefix (s pre : String) : String × Bool :=
  if hasPrefix s pre then (⟨s.toList.drop pre.length⟩, true) else (s, false)

/-- `unicode.IsSpace`. -/
def isSpace (c : Char) : Bool :=
  c = '\t' || c = '\n' || c.toNat = 0x0B || c.toNat = 0x0C || c = '\r' || c = ' ' ||
    c.toNat = 0x85 || c.toNat = 0xA0 || c.toNat = 0x1680 || (0x2000 ≤ c.toNat && c.toNat ≤ 0x200A) ||
    c.toNat = 0x2028 || c.toNat = 0x2029 || c.toNat = 0x202F || c.toNat = 0x205F || c.toNat = 0x3000

/-- `strings.TrimSpace(s)`. -/
def trimSpace (s : String) : String :=
  ⟨((s.toList.dropWhile isSpace).reverse.dropWhile isSpace).reverse⟩

/-- `strings.LastIndex(s, sep)` for a one-character `sep`; Go's `-1` is `none`. -/
def lastIndex (s : String) (c : Char) : Option Nat := lastIndexList c s.toList

/-- `s[:i]`. -/
def prefixTo (s : String) (i : Nat) : String := ⟨s.toList.take i⟩

/-- `strings.TrimSuffix(s, suffix)` for a one-character `suffix`. -/
def trimSuffix (s : String) (c : Char) : String :=
  if s.toList.getLast? = some c then ⟨s.toList.dropLast⟩ else s

/-- `strings.ToLower(s)` on ASCII text. -/
def toLower (s : String) : String := ⟨s.toList.map Char.toLower⟩

/-- `strings.EqualFold(s, t)` on ASCII text: equal up to the case of letters. Go also folds
non-ASCII letters, which the host names compared with it do not hold. -/
def equalFold (s t : String) : Bool := s.toList.map Char.toLower == t.toList.map Char.toLower

theorem cutListSplits (c : Char) (l : List Char) :
    match cutList c l with
    | (before, after, true) => l = before ++ c :: after ∧ c ∉ before
    | (before, after, false) => before = l ∧ after = [] ∧ c ∉ l := by
  induction l with
  | nil => simp [cutList]
  | cons x xs ih =>
    by_cases hx : x = c
    · subst hx; simp [cutList]
    · simp only [cutList, if_neg hx]
      rcases h : cutList c xs with ⟨before, after, _ | _⟩ <;> rw [h] at ih <;>
        simp [ih, Ne.symm hx]

theorem cutFound {s : String} {c : Char} {before after : String}
    (h : cut s c = (before, after, true)) :
    s.toList = before.toList ++ c :: after.toList ∧ c ∉ before.toList := by
  have split := cutListSplits c s.toList
  simp only [cut] at h
  rcases hc : cutList c s.toList with ⟨b, a, f⟩
  rw [hc] at h split
  simp only [Prod.mk.injEq] at h
  obtain ⟨rfl, rfl, rfl⟩ := h
  exact split

theorem cutNotFound {s : String} {c : Char} {before after : String}
    (h : cut s c = (before, after, false)) : before = s ∧ after = "" ∧ c ∉ s.toList := by
  have split := cutListSplits c s.toList
  simp only [cut] at h
  rcases hc : cutList c s.toList with ⟨b, a, f⟩
  rw [hc] at h split
  simp only [Prod.mk.injEq] at h
  obtain ⟨rfl, rfl, rfl⟩ := h
  exact ⟨by simp [split.1], by simp [split.2.1], split.2.2⟩

theorem cutListAppend (c : Char) {before : List Char} (after : List Char) (free : c ∉ before) :
    cutList c (before ++ c :: after) = (before, after, true) := by
  induction before with
  | nil => simp [cutList]
  | cons x xs ih =>
    have other : x ≠ c := fun same => free (same ▸ List.mem_cons_self x xs)
    simp [cutList, other, ih (fun found => free (List.mem_cons_of_mem x found))]

theorem cutAppend {before : String} (c : Char) (after : String) (free : c ∉ before.toList) :
    cut (before ++ String.singleton c ++ after) c = (before, after, true) := by
  have split : (before ++ String.singleton c ++ after).toList = before.toList ++ c :: after.toList := by
    simp [String.toList, String.singleton]
  simp only [cut, split, cutListAppend c _ free]
  rfl

theorem countAppend (s t : String) (c : Char) : count (s ++ t) c = count s c + count t c := by
  simp [count, String.toList]

theorem splitListNeNil (c : Char) (l : List Char) : splitList c l ≠ [] := by
  cases l with
  | nil => simp [splitList]
  | cons x xs =>
    unfold splitList
    split_ifs
    · simp
    · split <;> simp

theorem splitListAppend (c : Char) (before after : List Char) :
    splitList c (before ++ c :: after) = splitList c before ++ splitList c after := by
  induction before with
  | nil => simp [splitList]
  | cons x xs ih =>
    by_cases hx : x = c
    · simp [splitList, hx, ih]
    · rw [List.cons_append, splitList, if_neg hx, ih, splitList, if_neg hx]
      rcases h : splitList c xs with _ | ⟨seg, segs⟩
      · exact absurd h (splitListNeNil c xs)
      · rfl

theorem splitListAbsent {c : Char} {l : List Char} (absent : c ∉ l) : splitList c l = [l] := by
  induction l with
  | nil => rfl
  | cons x xs ih =>
    have other : x ≠ c := fun same => absent (same ▸ List.mem_cons_self x xs)
    simp [splitList, other, ih (fun found => absent (List.mem_cons_of_mem x found))]

theorem splitAppend (before after : String) (c : Char) :
    split (before ++ String.singleton c ++ after) c = split before c ++ split after c := by
  have chars : (before ++ String.singleton c ++ after).toList = before.toList ++ c :: after.toList := by
    simp [String.toList, String.singleton]
  simp [split, chars, splitListAppend]

theorem splitAbsent {s : String} {c : Char} (absent : c ∉ s.toList) : split s c = [s] := by
  rw [split, splitListAbsent absent]
  rfl

theorem cutPrefixTrue {s pre rest : String} (cut : cutPrefix s pre = (rest, true)) : s = pre ++ rest := by
  unfold cutPrefix at cut
  split_ifs at cut with found
  · obtain ⟨t, chars⟩ := List.isPrefixOf_iff_prefix.mp found
    cases cut
    apply String.ext
    show s.toList = pre.toList ++ s.toList.drop pre.toList.length
    rw [← chars, List.drop_left]
  · simp at cut

theorem appendLeftCancel {a b c : String} (same : a ++ b = a ++ c) : b = c :=
  have chars : a.data ++ b.data = a.data ++ c.data := congrArg String.data same
  String.ext (List.append_cancel_left chars)

theorem splitListPlain (c : Char) (l : List Char) : ∀ seg ∈ splitList c l, c ∉ seg := by
  induction l with
  | nil => simp [splitList]
  | cons x xs ih =>
    unfold splitList
    split_ifs with sep
    · simpa using ih
    · rcases segs : splitList c xs with _ | ⟨seg, rest⟩
      · simpa using Ne.symm sep
      · rw [segs] at ih
        simp only [List.mem_cons, forall_eq_or_imp, not_or] at ih ⊢
        exact ⟨⟨Ne.symm sep, ih.1⟩, ih.2⟩

theorem memSplitPlain {s : String} {c : Char} {e : String} (mem : e ∈ split s c) : c ∉ e.toList := by
  obtain ⟨seg, inList, rfl⟩ := List.mem_map.mp mem
  exact splitListPlain c s.toList seg inList

theorem dropWhileSpaces {pre : List Char} (blank : ∀ x ∈ pre, isSpace x) (l : List Char) :
    (pre ++ l).dropWhile isSpace = l.dropWhile isSpace := by
  induction pre with
  | nil => rfl
  | cons x xs ih =>
    rw [List.cons_append, List.dropWhile_cons_of_pos (blank x (List.mem_cons_self x xs)),
      ih fun y mem => blank y (List.mem_cons_of_mem x mem)]

theorem dropWhileNone {α : Type} {p : α → Bool} {l : List α} (none : ∀ x ∈ l, p x = false) :
    l.dropWhile p = l := by
  cases l with
  | nil => rfl
  | cons x xs => exact List.dropWhile_cons_of_neg (by simp [none x (List.mem_cons_self x xs)])

theorem trimSpaceNoSpace {s : String} (noSpace : ∀ x ∈ s.toList, isSpace x = false) :
    trimSpace s = s := by
  have back : ∀ x ∈ s.toList.reverse, isSpace x = false := fun x mem => noSpace x (List.mem_reverse.mp mem)
  simp only [trimSpace, dropWhileNone noSpace, dropWhileNone back, List.reverse_reverse]
  rfl

theorem trimSpaceNonBlank {s : String} {c : Char} (mem : c ∈ s.toList) (nonSpace : isSpace c = false) :
    trimSpace s ≠ "" := by
  intro blank
  have dropped : (s.toList.dropWhile isSpace).reverse.dropWhile isSpace = [] := by
    simpa [trimSpace] using congrArg String.toList blank
  obtain ⟨y, ys, first⟩ : ∃ y ys, s.toList.dropWhile isSpace = y :: ys :=
    match h : s.toList.dropWhile isSpace with
    | [] => absurd (List.dropWhile_eq_nil_iff.mp h c mem) (by simp [nonSpace])
    | y :: ys => ⟨y, ys, rfl⟩
  have head := List.head_dropWhile_not isSpace s.toList (by rw [first]; exact List.cons_ne_nil y ys)
  simp only [first, List.head_cons] at head
  exact absurd (List.dropWhile_eq_nil_iff.mp dropped y (by rw [first]; simp)) (by simp [head])

theorem splitListTerminated (c : Char) {pieces : List (List Char)} (free : ∀ p ∈ pieces, c ∉ p) :
    splitList c (pieces.flatMap (· ++ [c])) = pieces ++ [[]] := by
  induction pieces with
  | nil => rfl
  | cons p ps ih =>
    rw [List.flatMap_cons, List.append_assoc, List.singleton_append, splitListAppend,
      splitListAbsent (free p (List.mem_cons_self p ps)), ih fun q mem => free q (List.mem_cons_of_mem p mem)]
    rfl

theorem trimSpaceAround {pre post : List Char} (s : String) (preBlank : ∀ x ∈ pre, isSpace x)
    (postBlank : ∀ x ∈ post, isSpace x) : trimSpace ⟨pre ++ s.toList ++ post⟩ = trimSpace s := by
  show String.mk (((pre ++ s.toList ++ post).dropWhile isSpace).reverse.dropWhile isSpace).reverse =
    String.mk ((s.toList.dropWhile isSpace).reverse.dropWhile isSpace).reverse
  rw [List.append_assoc, dropWhileSpaces preBlank, List.dropWhile_append]
  split_ifs with allBlank
  · have trailing : post.dropWhile isSpace = [] := by simpa using dropWhileSpaces postBlank []
    rw [trailing, List.isEmpty_iff.mp allBlank]
  · rw [List.reverse_append, dropWhileSpaces (fun x mem => postBlank x (List.mem_reverse.mp mem))]

end Yeet.Strings
