import Yeet.Go.Strings

/-! The two functions of `pkg/cli` that do not build cobra's command tree:
`MergeUndefinedFlagsIntoArgs`, which hands the long flags a command does not define on to
the installer, with the command's flag set a parameter (`defined name` for
`cmd.Flags().Lookup(name) != nil`), and `VersionCommit`, copied in `pkg/catch`, over the
settings `debug.ReadBuildInfo` returns. -/
namespace Yeet.Cli

/-- `strings.TrimPrefix(strings.SplitN(arg, "=", 2)[0], "--")`: the name of a long flag. -/
def flagName (arg : String) : String :=
  (Strings.cutPrefix ((Strings.splitN arg '=' 2).headD "") "--").1

/-- The test of the loop: a long flag the command does not define. -/
def undefinedFlag (defined : String → Bool) (arg : String) : Bool :=
  Strings.hasPrefix arg "--" && !defined (flagName arg)

/-- The loop of `MergeUndefinedFlagsIntoArgs` over the arguments left, with
`appendAllAfter` and the slice built so far; `--` returns at once. -/
def mergeLoop (defined : String → Bool) : List String → Bool → List String → List String
  | [], _, args => args
  | arg :: rest, appendAllAfter, args =>
      if arg = "--" then args
      else if undefinedFlag defined arg then mergeLoop defined rest true (args ++ [arg])
      else if appendAllAfter then mergeLoop defined rest appendAllAfter (args ++ [arg])
      else mergeLoop defined rest appendAllAfter args

/-- `cli.MergeUndefinedFlagsIntoArgs(argsIn, cmd, args)`. -/
def mergeUndefinedFlagsIntoArgs (defined : String → Bool) (argsIn args : List String) : List String :=
  mergeLoop defined argsIn false args

theorem mergeLoopAppending (defined : String → Bool) (argsIn args : List String) :
    mergeLoop defined argsIn true args = args ++ argsIn.takeWhile (· != "--") := by
  induction argsIn generalizing args with
  | nil => simp [mergeLoop]
  | cons arg rest ih =>
    by_cases stop : arg = "--"
    · simp [mergeLoop, stop]
    · simp [mergeLoop, stop, ih, List.takeWhile_cons]

/-- What the loop passes on: the arguments before the first `--`, from the first undefined
long flag among them on. Defined flags and positional arguments after that flag go too; a
short flag before it is dropped whatever it is, and nothing after `--` is passed on. -/
theorem mergeKeepsFromFirstUndefined (defined : String → Bool) (argsIn args : List String) :
    mergeUndefinedFlagsIntoArgs defined argsIn args =
      args ++ (argsIn.takeWhile (· != "--")).dropWhile (fun arg => !undefinedFlag defined arg) := by
  unfold mergeUndefinedFlagsIntoArgs
  induction argsIn generalizing args with
  | nil => simp [mergeLoop]
  | cons arg rest ih =>
    by_cases stop : arg = "--"
    · simp [mergeLoop, stop]
    · by_cases undefined : undefinedFlag defined arg
      · simp [mergeLoop, stop, undefined, mergeLoopAppending, List.takeWhile_cons]
      · simp [mergeLoop, stop, undefined, ih, List.takeWhile_cons]

example : mergeUndefinedFlagsIntoArgs (· = "net") ["-v", "--net=host", "--port", "80", "--", "--x"] ["a"] =
    ["a", "--port", "80"] := by decide

/-- A setting of `debug.BuildInfo`. -/
structure BuildSetting where
  key : String
  value : String
  deriving DecidableEq, Repr

/-- The loop of `VersionCommit` over the settings: whether the tree was modified, and the
revision. -/
def vcsSettings (settings : List BuildSetting) : Bool × String :=
  settings.foldl (fun (dirty, commit) s =>
    if s.key = "vcs.revision" then (dirty, s.value)
    else if s.key = "vcs.modified" then (s.value == "true", commit)
    else (dirty, commit)) (false, "")

/-- `VersionCommit`; `none` is `debug.ReadBuildInfo` finding no build information. -/
def versionCommit : Option (List BuildSetting) → String
  | none => "unknown"
  | some settings =>
      match vcsSettings settings with
      | (dirty, commit) =>
          if commit = "" then "dev" else
          let commit := if 9 ≤ commit.length then Strings.prefixTo commit 9 else commit
          if dirty then commit ++ "+dirty" else commit

theorem vcsSettingsLast (settings : List BuildSetting) :
    vcsSettings settings =
      (((settings.reverse.find? (·.key = "vcs.modified")).map (·.value == "true")).getD false,
        ((settings.reverse.find? (·.key = "vcs.revision")).map (·.value)).getD "") := by
  unfold vcsSettings
  induction settings using List.reverseRecOn with
  | nil => rfl
  | append_singleton settings s ih =>
    rw [List.foldl_append, ih, List.reverse_append, List.reverse_singleton, List.singleton_append]
    by_cases revision : s.key = "vcs.revision"
    · simp [revision]
    · by_cases modified : s.key = "vcs.modified"
      · simp [modified]
      · simp [revision, modified]

/-- The version a build reports: `unknown` without build information, `dev` when there is
no `vcs.revision` or the last one is empty, and otherwise the first nine characters of the
last `vcs.revision`, followed by `+dirty` exactly when the last `vcs.modified` is `true`. -/
theorem versionOfSettings (settings : List BuildSetting) :
    versionCommit none = "unknown" ∧
    versionCommit (some settings) =
      match (settings.reverse.find? (·.key = "vcs.revision")).map (·.value) with
      | none | some "" => "dev"
      | some revision => Strings.prefixTo revision 9 ++
          if ((settings.reverse.find? (·.key = "vcs.modified")).map (·.value == "true")).getD false then "+dirty"
          else "" := by
  refine ⟨rfl, ?_⟩
  have whole : ∀ revision : String, revision.length < 9 → Strings.prefixTo revision 9 = revision := fun revision short =>
    congrArg String.mk (List.take_of_length_le (by simpa using short.le))
  simp only [versionCommit, vcsSettingsLast]
  generalize ((settings.reverse.find? (·.key = "vcs.modified")).map (·.value == "true")).getD false = dirty
  generalize (settings.reverse.find? (·.key = "vcs.revision")).map (·.value) = revision
  rcases revision with _ | revision
  · rfl
  · by_cases empty : revision = ""
    · subst empty; rfl
    · by_cases long : 9 ≤ revision.length
      · cases dirty <;> simp [empty, long]
      · cases dirty <;> simp [empty, long, whole revision (Nat.lt_of_not_le long)]

end Yeet.Cli
