import Yeet.Go.Strings
import Mathlib.Data.List.Infix

/-! The buffer `editCmdFunc` opens in the editor when a systemd service's unit and timer
are edited together: each unit behind a separator line `editUnitsSeparator`, and the
edited buffer cut back into units with `editUnitsSeparatorRe`. The regexp
`=====================================\|([^|]+)\|=====================================`
has one match at a position or none, since `[^|]+` must run to the next `|`; the model
scans the positions from the left as `FindAllSubmatch` does. The buffer written for units
whose names have no `|` and whose contents never hold a left bar and `|` parses back into
the same units (`editBufferRoundTrip`): no match starts inside a content or the blank
lines around it (`noMatchBefore`). -/
namespace Yeet.Catch.EditUnits

def bar : List Char := List.replicate 37 '='

/-- `fmt.Sprintf(editUnitsSeparator, name)`. -/
def editUnitsSeparator (name : String) : String := ⟨bar ++ '|' :: name.toList ++ '|' :: bar⟩

/-- The buffer `editCmdFunc` writes, from the `count`-th unit on, for units given with
their names and file contents: a blank line before every unit but the first, then the
unit's separator line, a blank line and its content. -/
def writeUnits : Nat → List (String × String) → String
  | _, [] => ""
  | count, (name, content) :: rest =>
      (if count > 0 then "\n\n" else "") ++ editUnitsSeparator name ++ "\n\n" ++ content ++
        writeUnits (count + 1) rest

/-- The whole buffer of `editCmdFunc`'s unit edit. -/
def editBuffer (units : List (String × String)) : String := writeUnits 0 units

def dropPrefix : List Char → List Char → Option (List Char)
  | [], l => some l
  | _ :: _, [] => none
  | c :: p, x :: l => if c = x then dropPrefix p l else none

/-- A match of `editUnitsSeparatorRe` at the start of `l`: the captured name and the text
after the match. -/
def matchAt (l : List Char) : Option (List Char × List Char) := do
  let rest ← dropPrefix (bar ++ ['|']) l
  let name := rest.takeWhile (· ≠ '|')
  if name = [] then none else
  let after ← dropPrefix ('|' :: bar) (rest.dropWhile (· ≠ '|'))
  some (name, after)

/-- The matches of the regexp in `l`, leftmost first and not overlapping: the text before
the first, then each match's name with the text up to the next match. `fuel` bounds the
positions tried; `scan l.length l` tries them all. -/
def scan : Nat → List Char → List Char × List (List Char × List Char)
  | 0, l => (l, [])
  | _ + 1, [] => ([], [])
  | fuel + 1, x :: xs =>
      match matchAt (x :: xs) with
      | some (name, after) =>
          match scan fuel after with
          | (text, sections) => ([], (name, text) :: sections)
      | none =>
          match scan fuel xs with
          | (text, sections) => (x :: text, sections)

/-- `editUnitsSeparatorRe.FindAllSubmatch(bs, -1)`'s captured names and
`editUnitsSeparatorRe.Split(string(bs), -1)`. -/
def findAllAndSplit (bs : String) : List String × List String :=
  match scan bs.length bs.toList with
  | (first, sections) =>
      (sections.map fun part => ⟨part.1⟩, ⟨first⟩ :: sections.map fun part => ⟨part.2⟩)

/-- The sections of the edited buffer, as `editCmdFunc` pairs them: each captured name
with its text after `strings.TrimSpace`, when there are as many of both as units being
edited. -/
def parseSections (bs : String) (units : Nat) : Except String (List (String × String)) :=
  match findAllAndSplit bs with
  | (names, _ :: contents) =>
      if contents.length ≠ units ∨ names.length ≠ units then
        .error "mismatched number of unit files and contents"
      else .ok (names.zip (contents.map Strings.trimSpace))
  | (_, []) => .error "no unit files found"

example : parseSections (editUnitsSeparator "unit-file" ++ "\n\n[Unit]\n") 1 =
    .ok [("unit-file", "[Unit]")] := rfl

def sepStart : List Char := bar ++ ['|']

theorem dropPrefixAppend (p l : List Char) : dropPrefix p (p ++ l) = some l := by
  induction p with
  | nil => rfl
  | cons c p ih => simp [dropPrefix, ih]

theorem dropPrefixSome {p l r : List Char} (h : dropPrefix p l = some r) : l = p ++ r := by
  induction p generalizing l with
  | nil => simpa [dropPrefix] using h
  | cons c p ih =>
    cases l with
    | nil => simp [dropPrefix] at h
    | cons x l =>
      simp only [dropPrefix] at h
      split_ifs at h with same
      subst same
      rw [ih h, List.cons_append]

theorem matchAtPrefix {l : List Char} {m : List Char × List Char} (h : matchAt l = some m) : sepStart <+: l := by
  simp only [matchAt, bind, Option.bind_eq_some] at h
  obtain ⟨rest, dropped, -⟩ := h
  exact ⟨rest, (dropPrefixSome dropped).symm⟩

theorem takeWhileName {name : List Char} (after : List Char) (plain : '|' ∉ name) :
    (name ++ '|' :: after).takeWhile (· ≠ '|') = name ∧
      (name ++ '|' :: after).dropWhile (· ≠ '|') = '|' :: after := by
  induction name with
  | nil => simp
  | cons x xs ih =>
    have keep : decide (x ≠ '|') = true := decide_eq_true fun same => plain (same ▸ List.mem_cons_self x xs)
    obtain ⟨take, drop⟩ := ih (fun found => plain (List.mem_cons_of_mem x found))
    simp only [List.cons_append, List.takeWhile_cons, List.dropWhile_cons, keep, if_true, take, drop, and_self]

theorem matchAtSeparator {name : List Char} (rest : List Char) (nonEmpty : name ≠ []) (plain : '|' ∉ name) :
    matchAt (bar ++ '|' :: name ++ '|' :: bar ++ rest) = some (name, rest) := by
  obtain ⟨take, drop⟩ := takeWhileName (bar ++ rest) plain
  have sep : bar ++ '|' :: name ++ '|' :: bar ++ rest = (bar ++ ['|']) ++ (name ++ '|' :: (bar ++ rest)) := by simp
  have tail : '|' :: (bar ++ rest) = ('|' :: bar) ++ rest := rfl
  simp only [matchAt, sep, dropPrefixAppend, Option.bind_eq_bind, Option.some_bind, take, drop,
    if_neg nonEmpty]
  rw [tail, dropPrefixAppend]
  rfl

theorem newlineNoMatch (l : List Char) : matchAt ('\n' :: l) = none := rfl

theorem noMatchBefore {u v : List Char} (free : ¬ sepStart <:+: u) (after : v = [] ∨ ∃ w, v = '\n' :: w) :
    matchAt (u ++ v) = none := by
  rcases found : matchAt (u ++ v) with _ | m
  · rfl
  · have pre := matchAtPrefix found
    rcases after with rfl | ⟨w, rfl⟩
    · exact absurd (List.append_nil u ▸ pre).isInfix free
    · by_cases long : sepStart.length ≤ u.length
      · exact absurd (List.prefix_of_prefix_length_le pre (List.prefix_append u _) long).isInfix free
      · have newline : u ++ ['\n'] <+: sepStart :=
          List.prefix_of_prefix_length_le (by simp) pre (by simp; omega)
        exact absurd (newline.subset (List.mem_append_right u (List.mem_singleton_self '\n')))
          (by decide : '\n' ∉ sepStart)

theorem scanNoMatch {x : Char} {l : List Char} (fuel : Nat) (none : matchAt (x :: l) = none) :
    scan (fuel + 1) (x :: l) = (x :: (scan fuel l).1, (scan fuel l).2) := by
  simp [scan, none]

theorem scanNil (fuel : Nat) : scan fuel [] = ([], []) := by
  cases fuel <;> rfl

/-- `scan` with enough fuel gives `r` on `l`. -/
def ScansTo (l : List Char) (r : List Char × List (List Char × List Char)) : Prop :=
  ∀ fuel, l.length ≤ fuel → scan fuel l = r

theorem scansNil : ScansTo [] ([], []) := fun fuel _ => scanNil fuel

theorem scansNoMatch {x : Char} {l : List Char} {r : List Char × List (List Char × List Char)}
    (none : matchAt (x :: l) = none) (scans : ScansTo l r) : ScansTo (x :: l) (x :: r.1, r.2) := by
  intro fuel room
  obtain ⟨f, rfl⟩ : ∃ f, fuel = f + 1 := ⟨fuel - 1, by simp at room; omega⟩
  rw [scanNoMatch f none, scans f (by simp at room; omega)]

theorem scansNewlines {l : List Char} {r : List Char × List (List Char × List Char)} (scans : ScansTo l r) :
    ScansTo ('\n' :: '\n' :: l) ('\n' :: '\n' :: r.1, r.2) :=
  scansNoMatch (newlineNoMatch _) (scansNoMatch (newlineNoMatch _) scans)

theorem scansSepFree (c : List Char) {v : List Char} {r : List Char × List (List Char × List Char)}
    (free : ¬ sepStart <:+: c) (after : v = [] ∨ ∃ w, v = '\n' :: w) (scans : ScansTo v r) :
    ScansTo (c ++ v) (c ++ r.1, r.2) := by
  induction c with
  | nil => exact scans
  | cons x c ih =>
    have restFree : ¬ sepStart <:+: c := fun inner => free (inner.trans (List.suffix_cons x c).isInfix)
    exact scansNoMatch (noMatchBefore free after) (ih restFree)

theorem scansSeparator {name rest : List Char} {r : List Char × List (List Char × List Char)}
    (nonEmpty : name ≠ []) (plain : '|' ∉ name) (scans : ScansTo rest r) :
    ScansTo (bar ++ '|' :: name ++ '|' :: bar ++ rest) ([], (name, r.1) :: r.2) := by
  intro fuel room
  obtain ⟨f, rfl⟩ : ∃ f, fuel = f + 1 := ⟨fuel - 1, by simp [bar] at room; omega⟩
  have matched := matchAtSeparator rest nonEmpty plain
  have cons : bar ++ '|' :: name ++ '|' :: bar ++ rest = '=' :: (List.replicate 36 '=' ++ '|' :: name ++ '|' :: bar ++ rest) := rfl
  rw [cons] at matched ⊢
  simp only [scan, matched, scans f (by simp [bar] at room; omega)]

theorem writeUnitsSucc (count : Nat) (units : List (String × String)) :
    writeUnits (count + 1) units = writeUnits 1 units := by
  induction units generalizing count with
  | nil => rfl
  | cons unit rest ih => simp [writeUnits, ih]

theorem writeUnitsCons (count : Nat) (name content : String) (rest : List (String × String)) :
    (writeUnits count ((name, content) :: rest)).toList =
      (if count > 0 then ['\n', '\n'] else []) ++
        (bar ++ '|' :: name.toList ++ '|' :: bar ++ ('\n' :: '\n' :: content.toList ++ (writeUnits 1 rest).toList)) := by
  rw [writeUnits, writeUnitsSucc]
  split_ifs <;> simp [editUnitsSeparator]

def sectionsOf : List (String × String) → List (List Char × List Char)
  | [] => []
  | (name, content) :: rest =>
      (name.toList, '\n' :: '\n' :: content.toList ++ (if rest = [] then [] else ['\n', '\n'])) :: sectionsOf rest

theorem scansTail (content : List Char) (units : List (String × String)) (free : ¬ sepStart <:+: content)
    (names : ∀ u ∈ units, u.1 ≠ "" ∧ '|' ∉ u.1.toList) (contents : ∀ u ∈ units, ¬ sepStart <:+: u.2.toList) :
    ScansTo ('\n' :: '\n' :: content ++ (writeUnits 1 units).toList)
      ('\n' :: '\n' :: content ++ (if units = [] then [] else ['\n', '\n']), sectionsOf units) := by
  induction units generalizing content with
  | nil => simpa [writeUnits, sectionsOf] using scansNewlines (scansSepFree content free (.inl rfl) scansNil)
  | cons unit rest ih =>
    obtain ⟨name, next⟩ := unit
    obtain ⟨named, plain⟩ := names (name, next) (List.mem_cons_self _ _)
    have tail := ih next.toList (contents (name, next) (List.mem_cons_self _ _))
      (fun u mem => names u (List.mem_cons_of_mem _ mem)) (fun u mem => contents u (List.mem_cons_of_mem _ mem))
    have nonEmpty : name.toList ≠ [] := fun empty => named (String.ext empty)
    have separated := scansNewlines (scansSeparator nonEmpty plain tail)
    have scans := scansNewlines (scansSepFree content free (.inr ⟨_, rfl⟩) separated)
    rw [writeUnitsCons]
    simpa [sectionsOf] using scans

theorem scansBuffer (units : List (String × String)) (names : ∀ u ∈ units, u.1 ≠ "" ∧ '|' ∉ u.1.toList)
    (contents : ∀ u ∈ units, ¬ sepStart <:+: u.2.toList) :
    ScansTo (editBuffer units).toList ([], sectionsOf units) := by
  cases units with
  | nil => exact scansNil
  | cons unit rest =>
    obtain ⟨name, content⟩ := unit
    obtain ⟨named, plain⟩ := names (name, content) (List.mem_cons_self _ _)
    have nonEmpty : name.toList ≠ [] := fun empty => named (String.ext empty)
    have tail := scansTail content.toList rest (contents (name, content) (List.mem_cons_self _ _))
      (fun u mem => names u (List.mem_cons_of_mem _ mem)) (fun u mem => contents u (List.mem_cons_of_mem _ mem))
    rw [editBuffer, writeUnitsCons, if_neg (lt_irrefl 0), List.nil_append]
    exact scansSeparator nonEmpty plain tail

theorem sectionsOfLength (units : List (String × String)) : (sectionsOf units).length = units.length := by
  induction units with
  | nil => rfl
  | cons unit rest ih => simp [sectionsOf, ih]

theorem sectionsOfNames (units : List (String × String)) :
    (sectionsOf units).map (fun part => (⟨part.1⟩ : String)) = units.map (·.1) := by
  induction units with
  | nil => rfl
  | cons unit rest ih => simp [sectionsOf, ih]

theorem sectionsOfContents (units : List (String × String)) :
    ((sectionsOf units).map fun part => (⟨part.2⟩ : String)).map Strings.trimSpace =
      units.map (Strings.trimSpace ·.2) := by
  have blank : ∀ x ∈ ['\n', '\n'], Strings.isSpace x := by decide
  induction units with
  | nil => rfl
  | cons unit rest ih =>
    obtain ⟨name, content⟩ := unit
    have around : Strings.trimSpace ⟨['\n', '\n'] ++ content.toList ++ (if rest = [] then [] else ['\n', '\n'])⟩ =
        Strings.trimSpace content :=
      Strings.trimSpaceAround content blank (by split_ifs <;> simp [Strings.isSpace])
    simp only [sectionsOf, List.map_cons, ih]
    exact congrArg (· :: _) around

/-- The buffer `editCmdFunc` writes for units whose names are non-empty and have no `|`
and whose contents have no 37 `=` followed by `|`, parsed as `editCmdFunc` parses the
edited buffer, gives the same names in the same order, each with its content after
`strings.TrimSpace`. -/
theorem editBufferRoundTrip (units : List (String × String))
    (names : ∀ u ∈ units, u.1 ≠ "" ∧ '|' ∉ u.1.toList)
    (contents : ∀ u ∈ units, ¬ (List.replicate 37 '=' ++ ['|']) <:+: u.2.toList) :
    parseSections (editBuffer units) units.length = .ok (units.map fun u => (u.1, Strings.trimSpace u.2)) := by
  have scanned : scan (editBuffer units).length (editBuffer units).toList = ([], sectionsOf units) :=
    scansBuffer units names contents _ le_rfl
  simp only [parseSections, findAllAndSplit, scanned, List.length_map, sectionsOfLength,
    ne_eq, not_true_eq_false, or_self, if_false, sectionsOfNames, sectionsOfContents]
  rw [List.zip_map']

def editedUnits : List (String × String) :=
  [("unit-file", "[Unit]\nDescription=app\n"), ("timer-unit-file", "\n[Timer]\nOnCalendar=daily\n")]

theorem unitAndTimerRoundTrip :
    (∀ u ∈ editedUnits, u.1 ≠ "" ∧ '|' ∉ u.1.toList) ∧
      (∀ u ∈ editedUnits, ¬ (List.replicate 37 '=' ++ ['|']) <:+: u.2.toList) ∧
      parseSections (editBuffer editedUnits) editedUnits.length =
        .ok [("unit-file", "[Unit]\nDescription=app"), ("timer-unit-file", "[Timer]\nOnCalendar=daily")] :=
  ⟨by decide, by decide, editBufferRoundTrip editedUnits (by decide) (by decide)⟩

end Yeet.Catch.EditUnits
