import Yeet.Registry.ContainerRegistry

/-! The entry points that construct a `FileInstaller` for a service name the caller
chooses, and what each checks of the name first: the SSH commands `run`, `stage` and
`cron` (`ttyExecer`, whose name is the SSH user's service part), the SFTP writes to `/`,
`/stage`, `/env` and `/stage/env` (`fileHandler.Filewrite`), and registry pushes
(`containerRegistry.SetManifest`, whose name is the repo's part before `/`). An entry point
returns the name of the installer it constructs, or none. For `cron`, the argument vector
goes through cobra's validator and the slicing of `runE` first. The installer itself is
not among the sources. -/
namespace Yeet.Catch
open Yeet.Registry

/-- Modelled from the spec: a service name is non-empty, matches `[a-z0-9_-]+`, and is not
the reserved `sys`. -/
def validServiceName (sn : String) : Bool :=
  !sn.toList.isEmpty && sn.toList.all (fun c => ('a' ≤ c && c ≤ 'z') || ('0' ≤ c && c ≤ '9') || c == '_' || c == '-') &&
    sn != SystemService

/-- `ttyExecer.runCmdFunc`, called as `calledAs`. -/
def runCmdFunc (calledAs sn : String) : Except String (Option String) :=
  if sn = SystemService then .error ("cannot " ++ calledAs ++ ", reserved service name")
  else .ok (some sn)

/-- `ttyExecer.stageCmdFunc`, with the outcome of `ensureDirs`. -/
def stageCmdFunc (calledAs sn : String) (ensureDirs : Except String Unit) :
    Except String (Option String) :=
  if sn = SystemService then .error "cannot stage system service" else
  match ensureDirs with
  | .error e => .error ("failed to ensure directories: " ++ e)
  | .ok () =>
      if calledAs = "show" then .ok none
      else if calledAs = "clear" then .error "not implemented"
      else if calledAs = "stage" ∨ calledAs = "commit" then .ok (some sn)
      else .error ("invalid argument \"" ++ calledAs ++ "\"")

/-- `ttyExecer.cronCmdFunc`, with what `cronutil.CronToCalender` makes of the expression. -/
def cronCmdFunc (cronToCalendar : Except String String) (sn : String) : Except String (Option String) :=
  match cronToCalendar with
  | .error e => .error ("invalid cron expression: " ++ e)
  | .ok _ => .ok (some sn)

/-- `cobra.MinimumNArgs(n)`, the validator of `cron`. -/
def minimumNArgs (n : Nat) (args : List String) : Except String Unit :=
  if args.length < n then
    .error ("requires at least " ++ toString n ++ " arg(s), only received " ++ toString args.length)
  else .ok ()

/-- Go's `s[low:high]`, for a slice whose capacity is its length; `none` is the runtime
panic. With a larger capacity `args[0:5]` below reads past the length, and `args[5:]`
panics instead. -/
def slice (s : List String) (low high : Nat) : Option (List String) :=
  if low ≤ high ∧ high ≤ s.length then some ((s.take high).drop low) else none

/-- The `cron` branch of `ttyExecer.runE`: the expression is the first five arguments,
joined, and the binary's arguments are the rest; `none` is a panic of the session's
goroutine. -/
def runECron (cronToCalendar : String → Except String String) (sn : String) (args : List String) :
    Option (Except String (Option String)) := do
  let expr ← slice args 0 5
  let _binaryArgs ← slice args 5 args.length
  some (cronCmdFunc (cronToCalendar (" ".intercalate expr)) sn)

/-- The `cron` command: its validator, then `runE`. -/
def cronCommand (cronToCalendar : String → Except String String) (sn : String) (args : List String) :
    Option (Except String (Option String)) :=
  match minimumNArgs 2 args with
  | .error e => some (.error e)
  | .ok () => runECron cronToCalendar sn args

/-- The `cron` command's validator accepts exactly the vectors of at least two arguments,
and `runE` panics on exactly those of fewer than five; from five on it reaches
`cronCmdFunc` with the first five as the expression. -/
theorem cronArgs (cronToCalendar : String → Except String String) (sn : String) (args : List String) :
    (minimumNArgs 2 args = .ok () ↔ 2 ≤ args.length) ∧
      (cronCommand cronToCalendar sn args = none ↔ 2 ≤ args.length ∧ args.length < 5) ∧
      (5 ≤ args.length → cronCommand cronToCalendar sn args =
        some (cronCmdFunc (cronToCalendar (" ".intercalate (args.take 5))) sn)) := by
  have validator : minimumNArgs 2 args = .ok () ↔ 2 ≤ args.length := by
    unfold minimumNArgs
    split_ifs with few
    · exact ⟨fun h => (nomatch h), fun _ => by omega⟩
    · exact ⟨fun _ => by omega, fun _ => rfl⟩
  refine ⟨validator, ?_, fun five => ?_⟩
  · by_cases few : args.length < 2
    · simp [cronCommand, minimumNArgs, few]
    · have accepted : minimumNArgs 2 args = .ok () := validator.mpr (by omega)
      by_cases short : args.length < 5
      · have : ¬ 5 ≤ args.length := by omega
        simp [cronCommand, accepted, runECron, slice, this]
        omega
      · simp [cronCommand, accepted, runECron, slice, Nat.le_of_not_lt short, short]
  · have accepted : minimumNArgs 2 args = .ok () := validator.mpr (by omega)
    simp [cronCommand, accepted, runECron, slice, five]

example : cronCommand (fun _ => .ok "*-*-* *:00:00") "app" ["0 * * * *", "arg"] = none := rfl

/-- `Server.SSHHandler`: the command runs for the service the SSH user names. -/
def sshHandler (connUser : String) (command : String → Except String (Option String)) :
    Except String (Option String) :=
  match serviceAndUser connUser with
  | .error e => .error e
  | .ok (sn, _) => command sn

/-- What `serviceView` finds for `envFile`. -/
inductive ServiceLookup where
  | found
  | notFound
  | failed (e : String)

def binFile (connUser : String) : Except String (Option String) :=
  match serviceAndUser connUser with
  | .error e => .error e
  | .ok (sn, _) => .ok (some sn)

def envFile (connUser : String) (lookup : ServiceLookup) : Except String (Option String) :=
  match serviceAndUser connUser with
  | .error e => .error e
  | .ok (sn, _) =>
      match lookup with
      | .failed e => .error e
      | _ => .ok (some sn)

/-- `fileHandler.Filewrite`; an upload under `/data/` constructs no installer. -/
def filewrite (method filepath connUser : String) (lookup : ServiceLookup) :
    Except String (Option String) :=
  if method ≠ "Put" then .error ("unsupported method: \"" ++ method ++ "\"")
  else if Strings.hasPrefix filepath "/data/" then
    match serviceAndUser connUser with
    | .error e => .error e
    | .ok _ => .ok none
  else if filepath = "/" ∨ filepath = "/stage" then binFile connUser
  else if filepath = "/env" ∨ filepath = "/stage/env" then envFile connUser lookup
  else .error ("unsupported path: \"" ++ filepath ++ "\"")

theorem serviceAndUserPlain {sn : String} (nonEmpty : sn ≠ "") (noAt : '@' ∉ sn.toList) :
    serviceAndUser sn = .ok (sn, "") := by
  rcases found : Strings.cut sn '@' with ⟨before, after, _ | _⟩
  · simp [serviceAndUser, nonEmpty, found]
  · exact absurd ((Strings.cutFound found).1 ▸ List.mem_append_right _ (List.mem_cons_self _ _)) noAt

theorem envFileNames {connUser sn user : String} {lookup : ServiceLookup}
    (named : serviceAndUser connUser = .ok (sn, user)) (found : ∀ e, lookup ≠ .failed e) :
    envFile connUser lookup = .ok (some sn) := by
  cases lookup with
  | failed e => exact absurd rfl (found e)
  | found | notFound => simp [envFile, named]

theorem setManifestNamesService (host : Host) (cfg : Config) {sn container : String} (tag : String)
    (m : Manifest) (st : State) (plainService : '/' ∉ sn.toList) (plainContainer : '/' ∉ container.toList) :
    (setManifest host cfg (sn ++ String.singleton '/' ++ container) tag m st).2.map (·.serviceName) = [sn] := by
  have one : Strings.count (sn ++ String.singleton '/' ++ container) '/' = 1 := by
    rw [Strings.countAppend, Strings.countAppend]
    simp only [Strings.count, List.count_eq_zero.mpr plainService, List.count_eq_zero.mpr plainContainer]
    rfl
  rw [setManifestValid tag m st one, Strings.cutAppend '/' container plainService]
  rfl

/-- Of the install entry points, `run` and `stage` refuse the reserved name `sys` and no
other; for every other name, each entry point constructs the installer for the name the
caller gave: an SSH user with no `@`, the service part of `user@service`, or the part of
a pushed repo before its one `/`. None checks that the name matches `[a-z0-9_-]+`. -/
theorem installEntryNames (calledAs sn : String) :
    (runCmdFunc calledAs sn = .ok (some sn) ↔ sn ≠ SystemService) ∧
    (stageCmdFunc "stage" sn (.ok ()) = .ok (some sn) ↔ sn ≠ SystemService) ∧
    (stageCmdFunc "commit" sn (.ok ()) = .ok (some sn) ↔ sn ≠ SystemService) ∧
    (sn ≠ SystemService →
      (∀ calendar, cronCmdFunc (.ok calendar) sn = .ok (some sn)) ∧
      (sn ≠ "" → '@' ∉ sn.toList → serviceAndUser sn = .ok (sn, "")) ∧
      (∀ connUser user lookup, serviceAndUser connUser = .ok (sn, user) →
        (∀ filepath ∈ ["/", "/stage"], filewrite "Put" filepath connUser lookup = .ok (some sn)) ∧
        (∀ filepath ∈ ["/env", "/stage/env"], (∀ e, lookup ≠ .failed e) →
          filewrite "Put" filepath connUser lookup = .ok (some sn))) ∧
      (∀ host cfg container tag m st, '/' ∉ sn.toList → '/' ∉ container.toList →
        (setManifest host cfg (sn ++ String.singleton '/' ++ container) tag m st).2.map (·.serviceName) =
          [sn])) := by
  refine ⟨?_, ?_, ?_, fun _ => ⟨fun _ => rfl, serviceAndUserPlain, fun connUser user lookup named => ⟨?_, ?_⟩,
    fun host cfg _ tag m st => setManifestNamesService host cfg tag m st⟩⟩
  · by_cases sys : sn = SystemService <;> simp [runCmdFunc, sys]
  · by_cases sys : sn = SystemService <;> simp [stageCmdFunc, sys]
  · by_cases sys : sn = SystemService <;> simp [stageCmdFunc, sys]
  · intro filepath mem
    simp only [List.mem_cons, List.mem_singleton, List.not_mem_nil, or_false] at mem
    rcases mem with rfl | rfl
    · simp [filewrite, binFile, named, show Strings.hasPrefix "/" "/data/" = false by decide]
    · simp [filewrite, binFile, named, show Strings.hasPrefix "/stage" "/data/" = false by decide]
  · intro filepath mem found
    simp only [List.mem_cons, List.mem_singleton, List.not_mem_nil, or_false] at mem
    rcases mem with rfl | rfl
    · simp [filewrite, envFileNames named found, show Strings.hasPrefix "/env" "/data/" = false by decide]
    · simp [filewrite, envFileNames named found, show Strings.hasPrefix "/stage/env" "/data/" = false by decide]

/-- An SSH user `Bad Name` runs `run` for a service of that name, which the spec's rule
rejects. -/
theorem runAcceptsUnlistedName :
    sshHandler "Bad Name" (runCmdFunc "run") = .ok (some "Bad Name") ∧
      validServiceName "Bad Name" = false :=
  ⟨rfl, by decide⟩

end Yeet.Catch
