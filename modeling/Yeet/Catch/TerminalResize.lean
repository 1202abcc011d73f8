import Mathlib.Data.Nat.Digits
import Mathlib.Tactic.IntervalCases

/-! The window-size message of the web terminal and the server's reading of it: the
`onResize` handler of `ServiceTerminal` (index.js), which sends `0x01` and the text
`[8;<rows>;<cols>t`, and the read handler `handleRunCommand` sets on the websocket, which
scans it with `fmt.Sscanf(msg, "[8;%d;%dt", &rows, &cols)` and calls `ResizeTTY(cols, rows)`,
which calls `setWinsize(tty, cols, rows)`. Bytes are read as ASCII characters: Go decodes
UTF-8, and the non-ASCII spaces `fmt` skips are not modelled; nor are the texts of
`Sscanf`'s errors, which the handler only logs. -/
namespace Yeet.Catch.TerminalResize

/-- The bytes `TextEncoder` gives for an ASCII text. -/
def ascii (s : String) : List UInt8 := s.toList.map fun c => c.toNat.toUInt8

def chars (bs : List UInt8) : List Char := bs.map fun b => Char.ofNat b.toNat

/-- `onResize`'s message for a terminal of `rows` rows and `cols` columns. -/
def onResize (rows cols : Nat) : List UInt8 :=
  0x01 :: ascii ("[8;" ++ toString rows ++ ";" ++ toString cols ++ "t")

/-- The ASCII characters `fmt`'s `isSpace` accepts, the newline apart. -/
def isBlank (c : Char) : Bool := c = ' ' || c = '\t' || c = '\r' || c = '\x0b' || c = '\x0c'

/-- `ss.SkipSpace` for `Sscanf`, for which a newline is an error. -/
def skipSpace : List Char → Option (List Char)
  | [] => some []
  | c :: rest => if c = '\n' then none else if isBlank c then skipSpace rest else some (c :: rest)

def digitsValue (digits : List Char) : Nat := digits.foldl (fun v d => 10 * v + (d.toNat - '0'.toNat)) 0

/-- `ss.scanInt` for `%d` into an `int`: blanks, an optional sign, then decimal digits,
within the range of a 64-bit `int`; the value and the input after it. -/
def scanInt (s : List Char) : Option (Int × List Char) := do
  let s ← skipSpace s
  let (negative, s) : Bool × List Char := match s with
    | c :: rest => if c = '-' then (true, rest) else if c = '+' then (false, rest) else (false, c :: rest)
    | [] => (false, [])
  let digits := s.takeWhile Char.isDigit
  if digits = [] then none else
  let value : Int := if negative then -(digitsValue digits : Int) else digitsValue digits
  if value < -2 ^ 63 ∨ 2 ^ 63 ≤ value then none else some (value, s.dropWhile Char.isDigit)

def literal (lit s : List Char) : Option (List Char) :=
  if lit.isPrefixOf s then some (s.drop lit.length) else none

/-- `fmt.Sscanf(s, "[8;%d;%dt", &rows, &cols)`: the two values, or `none` for an error. -/
def scanResize (s : List Char) : Option (Int × Int) := do
  let s ← literal "[8;".toList s
  let (rows, s) ← scanInt s
  let s ← literal [';'] s
  let (cols, s) ← scanInt s
  let _ ← literal ['t'] s
  some (rows, cols)

/-- `ttyExecer` as `ResizeTTY` reads it: whether the session has a pty, and whether `e.rw`
holds an `*os.File`, the pty's tty, which `run` stores once it has opened the pty. -/
structure TtyExecer where
  isPty : Bool
  rwIsFile : Bool

/-- `unix.Winsize` as `setWinsize` fills it. -/
structure Winsize where
  row : UInt16
  col : UInt16
  deriving DecidableEq, Repr

/-- Go's conversion of an `int` to `uint16`: its low sixteen bits. -/
def toUint16 (x : Int) : UInt16 := UInt16.ofNat (x % 65536).toNat

/-- `setWinsize(f, w, h)`: the window it sets on `f`. -/
def setWinsize (w h : Int) : Winsize := ⟨toUint16 h, toUint16 w⟩

/-- `ttyExecer.ResizeTTY(cols, rows)`: the window it sets, if any. -/
def resizeTTY (e : TtyExecer) (cols rows : Int) : Option Winsize :=
  if e.isPty && e.rwIsFile then some (setWinsize cols rows) else none

/-- The array behind a message `ReadMessage` returns: `io.ReadAll` reads into a zeroed buffer
of capacity 512 and reallocates, zeroed, only for a longer message, so the bytes past the
message's length are zeros up to the capacity. The capacity past 512 bytes is not modelled;
the handler slices no further than its fourth byte. -/
def readAllBacking (msg : List UInt8) : List UInt8 := msg ++ List.replicate (512 - msg.length) 0

/-- `s[lo:hi]` of a slice over `backing`: `none` is the panic when `hi` is past the capacity. -/
def slice (backing : List UInt8) (lo hi : Nat) : Option (List UInt8) :=
  if lo ≤ hi ∧ hi ≤ backing.length then some ((backing.drop lo).take (hi - lo)) else none

/-- The read handler `handleRunCommand` sets on the websocket: whether it consumes the
message, and the window it sets; `none` is a panic of `data[1:4]`. -/
def readHandler (e : TtyExecer) (data : List UInt8) : Option (Bool × Option Winsize) :=
  if 1 < data.length ∧ data.head? = some 0x01 then
    match slice (readAllBacking data) 1 4 with
    | none => none
    | some head =>
      if head = ascii "[8;" then
        match scanResize (chars (data.drop 1)) with
        | none => some (false, none)
        | some (rows, cols) => some (true, resizeTTY e cols rows)
      else some (false, none)
  else some (false, none)

theorem sliceReadAll (data : List UInt8) :
    ∃ head, slice (readAllBacking data) 1 4 = some head ∧ (4 ≤ data.length → head = (data.drop 1).take 3) := by
  have long : 4 ≤ (readAllBacking data).length := by
    simp only [readAllBacking, List.length_append, List.length_replicate]
    omega
  refine ⟨_, if_pos ⟨by omega, long⟩, fun enough => ?_⟩
  rw [readAllBacking, List.drop_append_of_le_length (by omega),
    List.take_append_of_le_length (by simp only [List.length_drop]; omega)]

theorem digitChar (k : Nat) (small : k < 10) :
    (Nat.digitChar k).isDigit = true ∧ (Nat.digitChar k).toNat - '0'.toNat = k := by
  interval_cases k <;> exact ⟨rfl, rfl⟩

theorem digitsValueSnoc (digits : List Char) (d : Char) :
    digitsValue (digits ++ [d]) = 10 * digitsValue digits + (d.toNat - '0'.toNat) := by
  simp [digitsValue, List.foldl_append]

theorem toDigitsCoreDecimal (fuel n : Nat) (ds : List Char) (enough : n < fuel) :
    ∃ digits, Nat.toDigitsCore 10 fuel n ds = digits ++ ds ∧ digits ≠ [] ∧
      (∀ c ∈ digits, c.isDigit = true) ∧ digitsValue digits = n := by
  induction fuel generalizing n ds with
  | zero => omega
  | succ fuel ih =>
    obtain ⟨isDigit, value⟩ := digitChar (n % 10) (Nat.mod_lt n (by decide))
    rw [Nat.toDigitsCore]
    by_cases last : n / 10 = 0
    · rw [if_pos last]
      refine ⟨[Nat.digitChar (n % 10)], rfl, List.cons_ne_nil _ _, by simpa using isDigit, ?_⟩
      simp only [digitsValue, List.foldl_cons, List.foldl_nil, value]
      omega
    · rw [if_neg last]
      obtain ⟨digits, eq, -, all, valueRest⟩ := ih (n / 10) (Nat.digitChar (n % 10) :: ds) (by omega)
      refine ⟨digits ++ [Nat.digitChar (n % 10)], by simp [eq], by simp, ?_, ?_⟩
      · simpa [or_imp, forall_and] using ⟨all, isDigit⟩
      · rw [digitsValueSnoc, valueRest, value]
        omega

theorem toStringDecimal (n : Nat) :
    (toString n).toList ≠ [] ∧ (∀ c ∈ (toString n).toList, c.isDigit = true) ∧
      digitsValue (toString n).toList = n := by
  obtain ⟨digits, eq, nonEmpty, all, value⟩ := toDigitsCoreDecimal (n + 1) n [] (Nat.lt_succ_self n)
  have text : (toString n).toList = digits := eq.trans (List.append_nil digits)
  exact text ▸ ⟨nonEmpty, all, value⟩

theorem skipSpaceDigit {c : Char} (isDigit : c.isDigit = true) (rest : List Char) :
    skipSpace (c :: rest) = some (c :: rest) := by
  have notNewline : c ≠ '\n' := by rintro rfl; exact absurd isDigit (by decide)
  have notBlank : isBlank c = false := by
    cases blank : isBlank c
    · rfl
    · simp only [isBlank, Bool.or_eq_true, decide_eq_true_eq] at blank
      rcases blank with (((rfl | rfl) | rfl) | rfl) | rfl <;> exact absurd isDigit (by decide)
  simp [skipSpace, notNewline, notBlank]

theorem scanIntDecimal (n : Nat) (rest : List Char) (fits : n < 2 ^ 63)
    (stop : ∀ c ∈ rest.head?, c.isDigit = false) :
    scanInt ((toString n).toList ++ rest) = some ((n : Int), rest) := by
  obtain ⟨nonEmpty, all, value⟩ := toStringDecimal n
  obtain ⟨d, ds, text⟩ := List.exists_cons_of_ne_nil nonEmpty
  have isDigit := all d (text ▸ List.mem_cons_self d ds)
  have notSign : d ≠ '-' ∧ d ≠ '+' := by
    constructor <;> rintro rfl <;> exact absurd isDigit (by decide)
  have restStops : rest.takeWhile Char.isDigit = [] ∧ rest.dropWhile Char.isDigit = rest := by
    cases rest with
    | nil => exact ⟨rfl, rfl⟩
    | cons c more =>
      have stops := stop c rfl
      simp [List.takeWhile_cons, List.dropWhile_cons, stops]
  have taken : ((toString n).toList ++ rest).takeWhile Char.isDigit = (toString n).toList := by
    rw [List.takeWhile_append_of_pos all, restStops.1, List.append_nil]
  have dropped : ((toString n).toList ++ rest).dropWhile Char.isDigit = rest := by
    rw [List.dropWhile_append_of_pos all, restStops.2]
  rw [text, List.cons_append] at taken dropped
  rw [text] at value ⊢
  simp only [scanInt, List.cons_append, skipSpaceDigit isDigit, Option.pure_def, Option.bind_eq_bind,
    Option.some_bind, notSign, if_false, taken, dropped, value, List.cons_ne_nil, Bool.false_eq_true]
  rw [if_neg (by omega)]

theorem charsAscii {s : String} (small : ∀ c ∈ s.toList, c.toNat < 256) : chars (ascii s) = s.toList := by
  rw [chars, ascii, List.map_map]
  conv_rhs => rw [← List.map_id s.toList]
  refine List.map_congr_left fun c mem => ?_
  show Char.ofNat (c.toNat % 256) = c
  rw [Nat.mod_eq_of_lt (small c mem), Char.ofNat_toNat]

theorem toUint16Small {x : Nat} (small : x < 65536) : (toUint16 x).toNat = x := by
  rw [toUint16, Int.emod_eq_of_lt (by omega) (by omega), Int.toNat_ofNat]
  exact UInt16.toNat_ofNat_of_lt small

theorem literalAppend (lit rest : List Char) : literal lit (lit ++ rest) = some rest := by
  simp [literal, List.isPrefixOf_iff_prefix]

theorem resizeTextChars (rows cols : Nat) :
    ("[8;" ++ toString rows ++ ";" ++ toString cols ++ "t").toList =
      "[8;".toList ++ ((toString rows).toList ++ ([';'] ++ ((toString cols).toList ++ ['t']))) := by
  simp [List.append_assoc]

theorem digitsAscii (n : Nat) : ∀ c ∈ (toString n).toList, c.toNat < 256 := fun c mem => by
  have := (toStringDecimal n).2.1 c mem
  simp only [Char.isDigit, Bool.and_eq_true, decide_eq_true_eq] at this
  exact Nat.lt_of_le_of_lt this.2 (by decide)

theorem resizeTextAscii (rows cols : Nat) :
    ∀ c ∈ ("[8;" ++ toString rows ++ ";" ++ toString cols ++ "t").toList, c.toNat < 256 := by
  rw [resizeTextChars]
  intro c mem
  simp only [List.mem_append, List.mem_singleton] at mem
  rcases mem with literal | digit | rfl | digit | rfl
  · simp at literal
    rcases literal with rfl | rfl | rfl <;> decide
  · exact digitsAscii rows c digit
  · decide
  · exact digitsAscii cols c digit
  · decide

theorem scanResizeText {rows cols : Nat} (rowsFit : rows < 2 ^ 63) (colsFit : cols < 2 ^ 63) :
    scanResize ("[8;" ++ toString rows ++ ";" ++ toString cols ++ "t").toList = some ((rows : Int), (cols : Int)) := by
  have semicolon : ∀ c ∈ ([';'] ++ ((toString cols).toList ++ ['t'])).head?, c.isDigit = false :=
    fun c mem => by cases Option.some.inj mem; rfl
  have final : ∀ c ∈ ['t'].head?, c.isDigit = false := fun c mem => by cases Option.some.inj mem; rfl
  have closing : literal ['t'] ['t'] = some [] := rfl
  rw [resizeTextChars]
  simp only [scanResize, literalAppend, Option.bind_eq_bind, Option.some_bind,
    scanIntDecimal rows _ rowsFit semicolon, scanIntDecimal cols _ colsFit final, closing]

/-- The message the web terminal sends on a resize to `rows` rows and `cols` columns,
each below `65536`, is consumed by the read handler, which scans both numbers back and sets
the pty's window to exactly `rows` rows and `cols` columns once the session's pty is open. -/
theorem resizeRoundTrip (e : TtyExecer) {rows cols : Nat} (rowsFit : rows < 65536) (colsFit : cols < 65536) :
    ∃ ws : Winsize, ws.row.toNat = rows ∧ ws.col.toNat = cols ∧
      readHandler e (onResize rows cols) = some (true, if e.isPty && e.rwIsFile then some ws else none) := by
  refine ⟨setWinsize cols rows, toUint16Small rowsFit, toUint16Small colsFit, ?_⟩
  have long : 4 ≤ (onResize rows cols).length := by
    have opening : "[8;".toList.length = 3 := rfl
    simp only [onResize, ascii, List.length_cons, List.length_map, resizeTextChars, List.length_append, opening]
    omega
  have prefixed : ((onResize rows cols).drop 1).take 3 = ascii "[8;" := rfl
  have payload : (onResize rows cols).drop 1 = ascii ("[8;" ++ toString rows ++ ";" ++ toString cols ++ "t") := rfl
  obtain ⟨head, sliced, second⟩ := sliceReadAll (onResize rows cols)
  rw [readHandler, if_pos ⟨by omega, rfl⟩, sliced]
  dsimp only
  rw [if_pos ((second long).trans prefixed), payload, charsAscii (resizeTextAscii rows cols), scanResizeText (by omega) (by omega)]
  rfl

theorem resizeOpenPty :
    24 < 65536 ∧ 80 < 65536 ∧ ∃ ws : Winsize, ws.row.toNat = 24 ∧ ws.col.toNat = 80 ∧
      readHandler ⟨true, true⟩ (onResize 24 80) = some (true, some ws) :=
  ⟨by decide, by decide, resizeRoundTrip ⟨true, true⟩ (by decide) (by decide)⟩

end Yeet.Catch.TerminalResize
