import Mathlib.Data.List.Basic

/-! The payload classifier of the client (`pkg/ftdetect`): `detect` asks, in order, whether
the file is an ELF or Mach-O binary for the remote host, a zstd stream, a script, a Docker
Compose file, or TypeScript. A file is its bytes as `io.ReadFull` and `io.ReadAll` read
them; opening, seeking and reading are taken to succeed, so the detectors' I/O error
branches are not modelled. Go's YAML decoder, esbuild's transform and `elf.NewFile` are not
among the sources and are parameters; of `elf.NewFile` the model keeps the check it makes
first, that the file starts with the ELF magic. -/
namespace Yeet.Ftdetect

/-- `FileType`. -/
inductive FileType where
  | unknown
  | binary
  | dockerCompose
  | typeScript
  | script
  | zstd
  deriving DecidableEq, Repr

abbrev Bytes := List UInt8

/-- `elf.ELFMAG`, the bytes every ELF file starts with. -/
def elfMagicBytes : Bytes := [0x7f, 0x45, 0x4c, 0x46]

/-- The parsers `detect` calls outside the sources. -/
structure Parsers where
  /-- Whether `yaml.Unmarshal` into a struct with a `services` map succeeds. -/
  yamlServices : Bytes → Bool
  /-- esbuild's `api.Transform` with the TypeScript loader: the text of its errors, if any. -/
  tsErrors : Bytes → Option String
  /-- `elf.NewFile`: the file's `Machine`, or its error. -/
  elfMachine : Bytes → Except String UInt16
  /-- `elf.NewFile` rejects a file that does not start with the ELF magic. -/
  badMagic : ∀ b, b.take 4 ≠ elfMagicBytes → ∃ e, elfMachine b = .error e

structure File where
  bytes : Bytes
  goos : String
  goarch : String

/-- `io.ReadFull` of `n` bytes from the start of the file. -/
def readFull (n : Nat) (bytes : Bytes) : Except String Bytes :=
  if bytes.length < n then (if bytes = [] then .error "EOF" else .error "unexpected EOF")
  else .ok (bytes.take n)

/-- `binary.LittleEndian.Uint32` of four bytes; the value is below `2^32`. -/
def littleEndianUint32 (b : Bytes) : Nat :=
  b.foldr (fun byte acc => byte.toNat + 256 * acc) 0

/-- The magic number of ELF files, `0x7f 'E' 'L' 'F'` read little-endian. -/
def elfMagicNumber : Nat := 0x464C457F

/-- `macho.Magic32`, `macho.Magic64` and `macho.MagicFat`. -/
def machoMagic32 : Nat := 0xfeedface
def machoMagic64 : Nat := 0xfeedfacf
def machoMagicFat : Nat := 0xcafebabe

/-- `file.detectBinary`. -/
def detectBinary (f : File) : Except String Bool :=
  match readFull 4 f.bytes with
  | .error e => .error ("failed to read file: " ++ e)
  | .ok magic =>
      let mn := littleEndianUint32 magic
      if mn = elfMagicNumber then
        if f.goos = "darwin" then .error "non-darwin (ELF) binary on darwin system" else .ok true
      else if mn = machoMagic32 ∨ mn = machoMagic64 ∨ mn = machoMagicFat then
        if f.goos ≠ "darwin" then .error "darwin binary (Mach-O) on non-darwin system" else .ok true
      else .ok false

/-- `file.detectZstd`: the zstd frame magic `28 b5 2f fd`. -/
def detectZstd (f : File) : Bool :=
  match f.bytes with
  | 0x28 :: 0xb5 :: 0x2f :: 0xfd :: _ => true
  | _ => false

/-- `elf.EM_X86_64`, `elf.EM_386`, `elf.EM_ARM` and `elf.EM_AARCH64`. -/
def EM_X86_64 : UInt16 := 62
def EM_386 : UInt16 := 3
def EM_ARM : UInt16 := 40
def EM_AARCH64 : UInt16 := 183

/-- The switch of `detectArchitectureElf` on the ELF machine. -/
def machineArchitecture (machine : UInt16) : String :=
  if machine = EM_X86_64 then "x86_64"
  else if machine = EM_386 then "x86"
  else if machine = EM_ARM then "ARM"
  else if machine = EM_AARCH64 then "ARM64"
  else "unknown"

/-- `file.detectArchitectureElf`. -/
def detectArchitectureElf (ps : Parsers) (f : File) : Except String String :=
  match ps.elfMachine f.bytes with
  | .error e => .error ("failed to parse ELF file: " ++ e)
  | .ok machine => .ok (machineArchitecture machine)

/-- `file.hostArchitecture`. -/
def hostArchitecture (goarch : String) : String :=
  match goarch with
  | "amd64" => "x86_64"
  | "386" => "x86"
  | "arm" => "ARM"
  | "arm64" => "ARM64"
  | _ => "unknown"

/-- `file.isSameArch`. -/
def isSameArch (ps : Parsers) (f : File) : Except String Bool :=
  match detectArchitectureElf ps f with
  | .error e => .error ("failed to detect architecture: " ++ e)
  | .ok binArch =>
      let hostArch := hostArchitecture f.goarch
      if binArch = hostArch then .ok true
      else .error ("binary architecture " ++ binArch ++ " does not match host architecture " ++ hostArch)

/-- `file.detectScript`: a shebang, `#!`, in the first two bytes. -/
def detectScript (f : File) : Except String Bool :=
  match readFull 2 f.bytes with
  | .error e => .error ("failed to read file: " ++ e)
  | .ok bs => .ok (bs = [0x23, 0x21])

/-- `file.detectDockerCompose`. -/
def detectDockerCompose (ps : Parsers) (f : File) : Bool := ps.yamlServices f.bytes

/-- `file.detectTypeScript`. -/
def detectTypeScript (ps : Parsers) (f : File) : Except String Bool :=
  match ps.tsErrors f.bytes with
  | some errors => .error ("failed to parse TypeScript: " ++ errors)
  | none => .ok true

/-- `file.detect`; an error stands for `Unknown` with it. -/
def detect (ps : Parsers) (f : File) : Except String FileType :=
  match detectBinary f with
  | .error e => .error ("failed to detect binary: " ++ e)
  | .ok true =>
      match isSameArch ps f with
      | .error e => .error ("failed to check architecture: " ++ e)
      | .ok false => .error "architecture mismatch"
      | .ok true => .ok .binary
  | .ok false =>
      if detectZstd f then .ok .zstd else
      match detectScript f with
      | .error e => .error ("failed to detect script: " ++ e)
      | .ok true => .ok .script
      | .ok false =>
          if detectDockerCompose ps f then .ok .dockerCompose else
          match detectTypeScript ps f with
          | .error e => .error ("failed to detect TypeScript: " ++ e)
          | .ok true => .ok .typeScript
          | .ok false => .error "unable to detect file type"

/-! ### Reading the first bytes -/

theorem readFullShort {n : Nat} {bytes : Bytes} (short : bytes.length < n) :
    readFull n bytes = .error (if bytes = [] then "EOF" else "unexpected EOF") := by
  unfold readFull
  split_ifs <;> rfl

theorem readFullLong {n : Nat} {bytes : Bytes} (long : n ≤ bytes.length) :
    readFull n bytes = .ok (bytes.take n) := by
  simp [readFull, Nat.not_lt.mpr long]

theorem takeFour {l : Bytes} (long : 4 ≤ l.length) : ∃ a b c d rest, l = a :: b :: c :: d :: rest :=
  match l, long with
  | a :: b :: c :: d :: rest, _ => ⟨a, b, c, d, rest, rfl⟩

theorem littleEndianFour (a b c d : UInt8) :
    littleEndianUint32 [a, b, c, d] = a.toNat + 256 * (b.toNat + 256 * (c.toNat + 256 * d.toNat)) := by
  simp [littleEndianUint32]

theorem elfMagicIff (a b c d : UInt8) :
    littleEndianUint32 [a, b, c, d] = elfMagicNumber ↔ [a, b, c, d] = elfMagicBytes := by
  rw [littleEndianFour]
  constructor
  · intro magic
    have ha : a.toNat < 256 := UInt8.toNat_lt_size a
    have hb : b.toNat < 256 := UInt8.toNat_lt_size b
    have hc : c.toNat < 256 := UInt8.toNat_lt_size c
    have hd : d.toNat < 256 := UInt8.toNat_lt_size d
    unfold elfMagicNumber at magic
    rw [elfMagicBytes, @UInt8.toNat.inj a 0x7f (by show a.toNat = 0x7f; omega),
      @UInt8.toNat.inj b 0x45 (by show b.toNat = 0x45; omega), @UInt8.toNat.inj c 0x4c (by show c.toNat = 0x4c; omega),
      @UInt8.toNat.inj d 0x46 (by show d.toNat = 0x46; omega)]
  · intro magic
    simp only [elfMagicBytes, List.cons.injEq] at magic
    obtain ⟨rfl, rfl, rfl, rfl, -⟩ := magic
    rfl

theorem detectBinaryTrue (f : File) :
    detectBinary f = .ok true ↔ 4 ≤ f.bytes.length ∧
      ((littleEndianUint32 (f.bytes.take 4) = elfMagicNumber ∧ f.goos ≠ "darwin") ∨
        (littleEndianUint32 (f.bytes.take 4) ≠ elfMagicNumber ∧
          (littleEndianUint32 (f.bytes.take 4) = machoMagic32 ∨ littleEndianUint32 (f.bytes.take 4) = machoMagic64 ∨
            littleEndianUint32 (f.bytes.take 4) = machoMagicFat) ∧ f.goos = "darwin")) := by
  by_cases long : 4 ≤ f.bytes.length
  · unfold detectBinary
    rw [readFullLong long]
    dsimp only
    split_ifs <;> simp_all
  · unfold detectBinary
    rw [readFullShort (Nat.lt_of_not_le long)]
    simp [long]

theorem detectBinaryFalse (f : File) :
    detectBinary f = .ok false ↔ 4 ≤ f.bytes.length ∧
      littleEndianUint32 (f.bytes.take 4) ≠ elfMagicNumber ∧ littleEndianUint32 (f.bytes.take 4) ≠ machoMagic32 ∧
        littleEndianUint32 (f.bytes.take 4) ≠ machoMagic64 ∧ littleEndianUint32 (f.bytes.take 4) ≠ machoMagicFat := by
  by_cases long : 4 ≤ f.bytes.length
  · unfold detectBinary
    rw [readFullLong long]
    dsimp only
    split_ifs <;> simp_all <;> omega
  · unfold detectBinary
    rw [readFullShort (Nat.lt_of_not_le long)]
    simp [long]

theorem littleEndianLow (a b c d : UInt8) : littleEndianUint32 [a, b, c, d] % 256 = a.toNat := by
  have : a.toNat < 256 := UInt8.toNat_lt_size a
  rw [littleEndianFour]
  omega

theorem isSameArchTrue (ps : Parsers) (f : File) :
    isSameArch ps f = .ok true ↔
      ∃ machine, ps.elfMachine f.bytes = .ok machine ∧ machineArchitecture machine = hostArchitecture f.goarch := by
  unfold isSameArch detectArchitectureElf
  cases parsed : ps.elfMachine f.bytes with
  | error e => simp
  | ok machine =>
    dsimp only
    split_ifs with same <;> simp [same]

/-! ### What `detect` decides -/

theorem detectOk {ps : Parsers} {f : File} {t : FileType} (h : detect ps f = .ok t) :
    (t = .binary ∧ detectBinary f = .ok true ∧ isSameArch ps f = .ok true) ∨
      (detectBinary f = .ok false ∧
        ((t = .zstd ∧ detectZstd f = true) ∨
          (detectZstd f = false ∧
            ((t = .script ∧ detectScript f = .ok true) ∨
              (detectScript f = .ok false ∧
                ((t = .dockerCompose ∧ detectDockerCompose ps f = true) ∨
                  (detectDockerCompose ps f = false ∧ t = .typeScript ∧ detectTypeScript ps f = .ok true))))))) := by
  unfold detect at h
  split at h <;> rename_i binary
  · cases h
  · split at h <;> rename_i sameArch
    · cases h
    · cases h
    · cases h; exact .inl ⟨rfl, binary, sameArch⟩
  · refine .inr ⟨binary, ?_⟩
    by_cases zstd : detectZstd f = true
    · rw [if_pos zstd] at h
      cases h
      exact .inl ⟨rfl, zstd⟩
    · rw [if_neg zstd] at h
      refine .inr ⟨by simpa using zstd, ?_⟩
      split at h <;> rename_i script
      · cases h
      · cases h; exact .inl ⟨rfl, script⟩
      · refine .inr ⟨script, ?_⟩
        by_cases compose : detectDockerCompose ps f = true
        · rw [if_pos compose] at h
          cases h
          exact .inl ⟨rfl, compose⟩
        · rw [if_neg compose] at h
          refine .inr ⟨by simpa using compose, ?_⟩
          split at h <;> rename_i ts
          · cases h
          · cases h; exact ⟨rfl, ts⟩
          · cases h

/-- A binary is an ELF file for the remote host's architecture, off darwin. Nothing is a
binary on darwin, and no Mach-O file is one anywhere: on darwin it reaches the ELF parser,
which rejects it; a universal binary, whose magic `ca fe ba be` is stored big-endian, does not
even read as `MagicFat`. Two architectures `detectArchitectureElf` and `hostArchitecture`
both call unknown match. -/
theorem detectBinaryFile (ps : Parsers) (f : File) :
    detect ps f = .ok .binary ↔ f.goos ≠ "darwin" ∧ f.bytes.take 4 = elfMagicBytes ∧
      ∃ machine, ps.elfMachine f.bytes = .ok machine ∧ machineArchitecture machine = hostArchitecture f.goarch := by
  constructor
  · intro binary
    have found : detectBinary f = .ok true ∧ isSameArch ps f = .ok true := by
      rcases detectOk binary with ⟨-, found⟩ | ⟨-, ⟨no, -⟩ | ⟨-, ⟨no, -⟩ | ⟨-, ⟨no, -⟩ | ⟨-, no, -⟩⟩⟩⟩
      · exact found
      all_goals cases no
    obtain ⟨long, magic⟩ := (detectBinaryTrue f).mp found.1
    obtain ⟨machine, parsed, same⟩ := (isSameArchTrue ps f).mp found.2
    obtain ⟨a, b, c, d, rest, bytes⟩ := takeFour long
    have first : f.bytes.take 4 = [a, b, c, d] := by rw [bytes]; rfl
    rcases magic with ⟨elf, notDarwin⟩ | ⟨notElf, -, -⟩
    · rw [first, elfMagicIff] at elf
      exact ⟨notDarwin, first.trans elf, machine, parsed, same⟩
    · obtain ⟨e, rejected⟩ := ps.badMagic f.bytes fun elf => notElf (by rw [elf]; rfl)
      rw [rejected] at parsed
      cases parsed
  · rintro ⟨notDarwin, elf, arch⟩
    have long : 4 ≤ f.bytes.length := by
      have := congrArg List.length elf
      simp only [List.length_take, elfMagicBytes, List.length_cons, List.length_nil] at this
      omega
    have binary : detectBinary f = .ok true :=
      (detectBinaryTrue f).mpr ⟨long, .inl ⟨by rw [elf]; rfl, notDarwin⟩⟩
    unfold detect
    rw [binary, (isSameArchTrue ps f).mpr arch]

/-- Parsers whose ELF reader takes every file with the ELF magic for an x86-64 binary. -/
def magicOnlyParsers : Parsers where
  yamlServices _ := false
  tsErrors _ := none
  elfMachine b := if b.take 4 = elfMagicBytes then .ok EM_X86_64 else .error "bad magic number"
  badMagic _ notElf := ⟨_, if_neg notElf⟩

/-- A script is a file of at least four bytes that starts with `#!`, whatever YAML or
TypeScript it also is: a shebang is no binary's magic and no zstd frame's. -/
theorem detectScriptFile (ps : Parsers) (f : File) :
    detect ps f = .ok .script ↔ 4 ≤ f.bytes.length ∧ f.bytes.take 2 = [0x23, 0x21] := by
  constructor
  · intro script
    rcases detectOk script with ⟨no, -⟩ | ⟨binary, ⟨no, -⟩ | ⟨-, ⟨-, shebang⟩ | ⟨-, ⟨no, -⟩ | ⟨-, no, -⟩⟩⟩⟩
    all_goals try cases no
    have long := ((detectBinaryFalse f).mp binary).1
    unfold detectScript at shebang
    rw [readFullLong (by omega)] at shebang
    exact ⟨long, by simpa using shebang⟩
  · rintro ⟨long, shebang⟩
    obtain ⟨a, b, c, d, rest, bytes⟩ := takeFour long
    rw [bytes] at shebang
    simp only [List.take, List.cons.injEq, and_true] at shebang
    obtain ⟨rfl, rfl⟩ := shebang
    have low := littleEndianLow 0x23 0x21 c d
    have first : f.bytes.take 4 = [0x23, 0x21, c, d] := by rw [bytes]; rfl
    have notBinary : detectBinary f = .ok false := by
      refine (detectBinaryFalse f).mpr ⟨long, ?_⟩
      rw [first]
      unfold elfMagicNumber machoMagic32 machoMagic64 machoMagicFat
      refine ⟨?_, ?_, ?_, ?_⟩ <;> intro same <;> rw [same] at low <;> exact absurd low (by decide)
    have notZstd : detectZstd f = false := by rw [detectZstd, bytes]; rfl
    have script : detectScript f = .ok true := by
      unfold detectScript
      rw [readFullLong (by omega), bytes]
      rfl
    unfold detect
    rw [notBinary, notZstd, script]
    rfl

theorem detectTypeScriptNeverNo (ps : Parsers) (f : File) : detectTypeScript ps f ≠ .ok false := by
  unfold detectTypeScript
  split <;> simp

theorem appendNeUnable {pre : String} (e : String) {c : Char} (first : pre.data.head? = some c) (other : c ≠ 'u') :
    pre ++ e ≠ "unable to detect file type" := fun same => by
  have heads := congrArg (fun s : String => s.data.head?) same
  obtain ⟨x, xs, data⟩ : ∃ x xs, pre.data = x :: xs := match h : pre.data with
    | x :: xs => ⟨x, xs, rfl⟩
    | [] => by rw [h] at first; cases first
  rw [data] at first
  cases first
  simp [String.data_append, data] at heads
  exact other heads

/-- `detect` never gives up with `unable to detect file type`: `detectTypeScript` never
answers no, so a file none of the earlier checks recognises is TypeScript or fails with the
TypeScript parser's errors. -/
theorem detectNeverUnable (ps : Parsers) (f : File) : detect ps f ≠ .error "unable to detect file type" := by
  have failed : ∀ e, "failed to " ++ e ≠ "unable to detect file type" := fun e => appendNeUnable e rfl (by decide)
  intro unable
  unfold detect at unable
  -- every other error is prefixed `failed to`, but for `architecture mismatch`
  repeat' split at unable
  all_goals first
    | exact detectTypeScriptNeverNo ps f ‹_›
    | cases unable
    | exact failed _ (by injection unable)
    | exact absurd (by injection unable) (by decide)

end Yeet.Ftdetect
