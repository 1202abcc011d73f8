import Yeet.Go.Filepath

/-! How `yeet init` puts catch on a host: `initCatch` for a new remote, `updateCatch` for
the configured one, and what they share, `buildCatch`. Every command the client runs is
an `Exec` whose output the host gives; `os.Remove`, `os.Open`, the zstd compression and
the JSON decoding of `catch version --json` are outcomes too. A command's output printed
to the terminal, the messages the client prints, the partial output in the error of
`remoteCatchOSAndArch`, and the deferred removals of `updateCatch`, whose errors are
dropped, are left out. -/
namespace Yeet.Client

/-- `archMap`: what `uname -m` prints, to `GOARCH`. -/
def archMap : List (String × String) :=
  [("x86_64", "amd64"), ("i386", "386"), ("i686", "386"), ("armv7l", "arm"), ("armv8l", "arm64"),
    ("aarch64", "arm64"), ("ppc64le", "ppc64le"), ("s390x", "s390x")]

structure Exec where
  program : String
  args : List String
  env : List String
  dir : String
  deriving DecidableEq, Repr

/-- How a client command stops early: with an error, or by `log.Fatalf`. -/
inductive Exit where
  | error (e : String)
  | fatal (msg : String)
  deriving DecidableEq, Repr

/-- The client's machine and the remote as `init` meets them. -/
structure InstallHost where
  /-- `loadedPrefs.Host`. -/
  host : String
  /-- What a command prints on its standard output, or its error. -/
  exec : Exec → Except String String
  /-- `json.Unmarshal` of `catch version --json` into `GOOS` and `GOARCH`. -/
  parseServerInfo : String → Except String (String × String)
  remove : String → Except String Unit
  zstdCompress : String → String → Except String Unit
  openFile : String → Except String Unit

abbrev Ran (α : Type) := Except Exit α × List Exec

/-- Runs `f` on the result of `r`, unless `r` stopped. -/
def Ran.bind {α β : Type} (r : Ran α) (f : α → Ran β) : Ran β :=
  match r with
  | (.error e, calls) => (.error e, calls)
  | (.ok a, calls) => ((f a).1, calls ++ (f a).2)

def runExec (host : InstallHost) (e : Exec) (failure : String → String) : Ran String :=
  match host.exec e with
  | .error err => (.error (.error (failure err)), [e])
  | .ok out => (.ok out, [e])

/-- `cmdutil.NewStdCmd(program, args...)`. -/
def stdCmd (program : String) (args : List String) : Exec := ⟨program, args, [], ""⟩

/-- `sshTTYCmd(user, args...)`. -/
def sshTTYCmd (host : InstallHost) (user : String) (args : List String) : Exec :=
  stdCmd "ssh" (["-tq", user ++ "@" ++ host.host] ++ args)

/-- `fmt.Sprintf("%v", lines)` of a slice of strings. -/
def goList (lines : List String) : String := "[" ++ " ".intercalate lines ++ "]"

/-- The command `remoteHostOSAndArch` runs. -/
def unameExec (userAtRemote : String) : Exec := ⟨"ssh", [userAtRemote, "uname -s && uname -m"], [], ""⟩

/-- `remoteHostOSAndArch(userAtRemote)`: the system name and the `GOARCH` of `uname -m`. -/
def remoteHostOSAndArch (host : InstallHost) (userAtRemote : String) : Ran (String × String) :=
  (runExec host (unameExec userAtRemote) ("SSH command failed: " ++ ·)).bind fun output =>
    match Strings.split (Strings.trimSpace output) '\n' with
    | [system, arch] =>
        match archMap.lookup arch with
        | some goarch => (.ok (system, goarch), [])
        | none => (.error (.fatal ("Unsupported architecture: " ++ arch)), [])
    | lines => (.error (.error ("unexpected output from remote: " ++ goList lines)), [])

/-- `remoteCatchOSAndArch()`: `GOOS` and `GOARCH` as the remote catch reports them. -/
def remoteCatchOSAndArch (host : InstallHost) : Ran (String × String) :=
  (runExec host (sshTTYCmd host "catch" ["version", "--json"]) ("failed to get version of catch binary: " ++ ·)).bind
    fun out =>
      match host.parseServerInfo out with
      | .error e => (.error (.error e), [])
      | .ok platform => (.ok platform, [])

/-- The command `buildCatch` compiles catch with, in the repository at `gitRoot`. -/
def goBuildExec (gitRoot goarch : String) : Exec :=
  ⟨"go", ["build", "-o", "catch", "./cmd/catch"], ["GOARCH=" ++ goarch, "GOOS=linux"], gitRoot⟩

/-- `buildCatch(goos, goarch)`: the path of the binary built for the remote. -/
def buildCatch (host : InstallHost) (goos goarch : String) : Ran String :=
  let goos := Strings.toLower goos
  let goarch := Strings.toLower goarch
  if goos ≠ "linux" then (.error (.fatal ("Remote system is not Linux: " ++ goos)), []) else
  (runExec host (stdCmd "git" ["rev-parse", "--show-toplevel"]) fun _ => "not in a git repository").bind fun output =>
    let gitRoot := Strings.trimSpace output
    (runExec host ⟨"go", ["version"], [], gitRoot⟩ fun _ => "go is not installed").bind fun _ =>
      (runExec host (goBuildExec gitRoot goarch) fun _ => "failed to build catch binary").bind fun _ =>
        (.ok (Filepath.join [gitRoot, "catch"]), [])

/-- Whether `initCatch` installs with `sudo`: unless the remote is `root@...`. -/
def useSudo (userAtRemote : String) : Bool :=
  match Strings.cut userAtRemote '@' with
  | (user, _, ok) => !ok || user != "root"

/-- The command `initCatch` runs the copied binary with. -/
def installExec (host : InstallHost) (userAtRemote : String) : Exec :=
  stdCmd "ssh" (["-t", userAtRemote] ++ (if useSudo userAtRemote then ["sudo"] else []) ++
    ["./catch", "--tsnet-host=" ++ host.host, "install"])

/-- `initCatch(userAtRemote)`. -/
def initCatch (host : InstallHost) (userAtRemote : String) : Ran Unit :=
  (remoteHostOSAndArch host userAtRemote).bind fun (systemName, goarch) =>
    (buildCatch host systemName goarch).bind fun bin =>
      (runExec host (stdCmd "scp" ["-C", bin, userAtRemote ++ ":catch"])
        fun _ => "failed to copy catch binary to remote host").bind fun _ =>
      (runExec host (stdCmd "ssh" [userAtRemote, "chmod", "+x", "./catch"])
        fun _ => "failed to make catch binary executable on remote host").bind fun _ =>
      (runExec host (installExec host userAtRemote) fun _ => "failed to run catch binary on remote host").bind fun _ =>
        match host.remove bin with
        | .error e => (.error (.error e), [])
        | .ok () => (.ok (), [])

/-- `updateCatch()`: the new binary, compressed, is the input of `run` for the service
`catch`. -/
def updateCatch (host : InstallHost) : Ran Unit :=
  (remoteCatchOSAndArch host).bind fun (goos, goarch) =>
    (buildCatch host goos goarch).bind fun catchBin =>
      match host.zstdCompress catchBin (catchBin ++ ".zst") with
      | .error e => (.error (.error ("failed to compress catch binary: " ++ e)), [])
      | .ok () =>
          match host.openFile (catchBin ++ ".zst") with
          | .error e => (.error (.error e), [])
          | .ok () => (runExec host (sshTTYCmd host "catch" ["run"]) id).bind fun _ => (.ok (), [])

/-- `init` with no remote updates the configured host, with one installs catch there. -/
def init (host : InstallHost) (args : List String) : Ran Unit :=
  match args with
  | [] => updateCatch host
  | remote :: _ => initCatch host remote

/-! ### What a step can run -/

theorem memBindCalls {α β : Type} {r : Ran α} {f : α → Ran β} {c : Exec} (mem : c ∈ (r.bind f).2) :
    c ∈ r.2 ∨ ∃ a, r.1 = .ok a ∧ c ∈ (f a).2 := by
  obtain ⟨_ | a, calls⟩ := r
  · exact .inl mem
  · exact (List.mem_append.mp mem).imp id fun later => ⟨a, rfl, later⟩

theorem bindOk {α β : Type} {r : Ran α} {f : α → Ran β} {b : β} (ok : (r.bind f).1 = .ok b) :
    ∃ a, r.1 = .ok a ∧ (f a).1 = .ok b := by
  obtain ⟨_ | a, calls⟩ := r
  · cases ok
  · exact ⟨a, rfl, ok⟩

theorem runExecCalls (host : InstallHost) (e : Exec) (failure : String → String) : (runExec host e failure).2 = [e] := by
  unfold runExec
  split <;> rfl

theorem runExecOk {host : InstallHost} {e : Exec} {failure : String → String} {out : String}
    (ok : (runExec host e failure).1 = .ok out) : host.exec e = .ok out := by
  unfold runExec at ok
  split at ok <;> cases ok
  assumption

theorem memBindLater {α β : Type} {r : Ran α} {f : α → Ran β} {c : Exec} (mem : c ∈ (r.bind f).2) (fresh : c ∉ r.2) :
    ∃ a, r.1 = .ok a ∧ c ∈ (f a).2 :=
  (memBindCalls mem).resolve_left fresh

theorem memRunExecBindCases {host : InstallHost} {e : Exec} {failure : String → String} {β : Type}
    {f : String → Ran β} {c : Exec} (mem : c ∈ ((runExec host e failure).bind f).2) :
    c = e ∨ ∃ out, host.exec e = .ok out ∧ c ∈ (f out).2 := by
  rcases memBindCalls mem with first | ⟨out, ok, later⟩
  · exact .inl (by simpa [runExecCalls] using first)
  · exact .inr ⟨out, runExecOk ok, later⟩

theorem memRunExecBind {host : InstallHost} {e : Exec} {failure : String → String} {β : Type}
    {f : String → Ran β} {c : Exec} (mem : c ∈ ((runExec host e failure).bind f).2) (other : c ≠ e) :
    ∃ out, host.exec e = .ok out ∧ c ∈ (f out).2 :=
  (memRunExecBindCases mem).resolve_left other

theorem remoteHostOSAndArchCalls (host : InstallHost) (userAtRemote : String) :
    (remoteHostOSAndArch host userAtRemote).2 ⊆ [unameExec userAtRemote] := by
  intro c mem
  rcases memBindCalls mem with first | ⟨output, -, later⟩
  · rwa [runExecCalls] at first
  · revert later
    split
    · split <;> simp
    · simp

theorem remoteHostOSAndArchOk {host : InstallHost} {userAtRemote system goarch : String}
    (ok : (remoteHostOSAndArch host userAtRemote).1 = .ok (system, goarch)) :
    ∃ output arch, host.exec (unameExec userAtRemote) = .ok output ∧
      Strings.split (Strings.trimSpace output) '\n' = [system, arch] ∧ archMap.lookup arch = some goarch := by
  obtain ⟨output, ran, ok⟩ := bindOk ok
  split at ok
  · split at ok
    · cases ok
      exact ⟨output, _, runExecOk ran, ‹_›, ‹_›⟩
    · cases ok
  · cases ok

theorem buildCatchCalls (host : InstallHost) (goos goarch : String) :
    ∀ c ∈ (buildCatch host goos goarch).2, c.program = "git" ∨ c.program = "go" := by
  intro c mem
  unfold buildCatch at mem
  dsimp only at mem
  split_ifs at mem
  · cases mem
  rcases memRunExecBindCases mem with rfl | ⟨_, -, mem⟩
  · simp [stdCmd]
  rcases memRunExecBindCases mem with rfl | ⟨_, -, mem⟩
  · simp
  rcases memRunExecBindCases mem with rfl | ⟨_, -, mem⟩
  · simp [goBuildExec]
  · cases mem

theorem buildCatchOk {host : InstallHost} {goos goarch bin : String}
    (ok : (buildCatch host goos goarch).1 = .ok bin) :
    Strings.toLower goos = "linux" ∧ ∃ gitRoot out, host.exec (goBuildExec gitRoot (Strings.toLower goarch)) = .ok out ∧
      bin = Filepath.join [gitRoot, "catch"] := by
  unfold buildCatch at ok
  dsimp only at ok
  split_ifs at ok with notLinux
  obtain ⟨_, -, ok⟩ := bindOk ok
  obtain ⟨_, -, ok⟩ := bindOk ok
  obtain ⟨out, built, ok⟩ := bindOk ok
  cases ok
  exact ⟨of_not_not notLinux, _, out, runExecOk built, rfl⟩

/-! ### What `init` copies and runs -/

theorem installExecArgs (host : InstallHost) (userAtRemote : String) :
    5 ≤ (installExec host userAtRemote).args.length := by
  unfold installExec stdCmd
  split <;> simp

/-- `init <remote>` runs catch's installer on the remote only after it built catch for
Linux and for the architecture `uname -m` reported there, mapped by `archMap`, and copied
that binary to the remote and made it executable: never on a remote whose `uname -s` is
not Linux, in any case, or whose architecture `archMap` lacks. -/
theorem initInstallsBuiltBinary (host : InstallHost) (userAtRemote : String)
    (installed : installExec host userAtRemote ∈ (initCatch host userAtRemote).2) :
    ∃ output system arch goarch, host.exec (unameExec userAtRemote) = .ok output ∧
      Strings.split (Strings.trimSpace output) '\n' = [system, arch] ∧ archMap.lookup arch = some goarch ∧
      Strings.toLower system = "linux" ∧
      ∃ gitRoot built copied executable,
        host.exec (goBuildExec gitRoot (Strings.toLower goarch)) = .ok built ∧
        host.exec (stdCmd "scp" ["-C", Filepath.join [gitRoot, "catch"], userAtRemote ++ ":catch"]) = .ok copied ∧
        host.exec (stdCmd "ssh" [userAtRemote, "chmod", "+x", "./catch"]) = .ok executable := by
  have long := installExecArgs host userAtRemote
  obtain ⟨⟨system, goarch⟩, remote, installed⟩ := memBindLater installed fun mem => by
    have same := List.mem_singleton.mp (remoteHostOSAndArchCalls host userAtRemote mem)
    rw [same] at long
    simp [unameExec] at long
  obtain ⟨output, arch, uname, lines, mapped⟩ := remoteHostOSAndArchOk remote
  obtain ⟨bin, build, installed⟩ := memBindLater installed fun mem => by
    have := buildCatchCalls host system goarch _ mem
    simp [installExec, stdCmd] at this
  obtain ⟨linux, gitRoot, built, built', rfl⟩ := buildCatchOk build
  obtain ⟨copied, copy, installed⟩ := memRunExecBind installed (by simp [installExec, stdCmd])
  obtain ⟨executable, chmod, -⟩ := memRunExecBind installed fun same => by
    rw [same] at long
    simp [stdCmd] at long
  exact ⟨output, system, arch, goarch, uname, lines, mapped, linux, gitRoot, built, copied, executable,
    built', copy, chmod⟩

def linuxRemote : InstallHost where
  host := "catch"
  exec e := if e = unameExec "root@box" then .ok "Linux\nx86_64\n"
    else if e.program = "git" then .ok "/src/yeet\n" else .ok ""
  parseServerInfo _ := .ok ("linux", "amd64")
  remove _ := .ok ()
  zstdCompress _ _ := .ok ()
  openFile _ := .ok ()

theorem rootInstallBuildsAmd64 :
    installExec linuxRemote "root@box" ∈ (initCatch linuxRemote "root@box").2 ∧
      (installExec linuxRemote "root@box").args = ["-t", "root@box", "./catch", "--tsnet-host=catch", "install"] ∧
      ∃ output system arch goarch, linuxRemote.exec (unameExec "root@box") = .ok output ∧
        Strings.split (Strings.trimSpace output) '\n' = [system, arch] ∧ archMap.lookup arch = some goarch ∧
        Strings.toLower system = "linux" ∧
        ∃ gitRoot built copied executable,
          linuxRemote.exec (goBuildExec gitRoot (Strings.toLower goarch)) = .ok built ∧
          linuxRemote.exec (stdCmd "scp" ["-C", Filepath.join [gitRoot, "catch"], "root@box" ++ ":catch"]) =
            .ok copied ∧
          linuxRemote.exec (stdCmd "ssh" ["root@box", "chmod", "+x", "./catch"]) = .ok executable := by
  have installed : installExec linuxRemote "root@box" ∈ (initCatch linuxRemote "root@box").2 := by decide
  exact ⟨installed, by decide, initInstallsBuiltBinary linuxRemote "root@box" installed⟩

end Yeet.Client
