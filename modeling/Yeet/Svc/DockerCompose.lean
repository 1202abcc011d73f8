import Yeet.Db.Data
import Yeet.Go.Strings
import Yeet.Go.Errors
import Mathlib.Data.String.Basic

/-! The compose runner (`svc.DockerComposeService`): the arguments `command` gives every
`docker compose` call, with the files of the service's current generation; as far
as it reads the registry's refs, `matchingRefs` and the retagging that `Up` does before
`docker compose up`; `Statuses`, which reads the project's containers back from
`docker compose ps`; and the runner's actions `Start`, `Stop`, `Restart`, `Down`, `Remove`
and `Logs`, guarded by `Exists`. Running docker is the host's: its output is a parameter,
and so are the outcomes of the service's systemd unit (`sd`), which is not among the
sources. -/
namespace Yeet.Svc
open Yeet.Db

/-- `InternalRegistryHost`, the registry's canonical name in compose files. -/
def InternalRegistryHost : String := "catchit.dev"

/-- `DockerComposeService.projectName`. -/
def projectName (sn : String) : String := "catch-" ++ sn

/-- The env file `command` copies to `<DataDir>/.env` before the first command, the
current generation's; with none it removes `<DataDir>/.env`. -/
def installedEnvFile (cfg : Service) : Option String :=
  gen cfg.artifacts ArtifactEnvFile cfg.generation

/-- `DockerComposeService.command`: the arguments it runs `docker` with, or its error, for
the service `name` stored as `cfg`. Finding the docker binary and copying the env file are
taken to succeed. -/
def command (name dataDir : String) (cfg : Service) (args : List String) : Except String (List String) :=
  match gen cfg.artifacts ArtifactDockerComposeFile cfg.generation with
  | none => .error "compose file not found"
  | some cf =>
      .ok (["compose", "--project-name", projectName name, "--project-directory", dataDir, "--file", cf] ++
        (match gen cfg.artifacts ArtifactDockerComposeNetwork cfg.generation with
          | some nf => ["--file", nf]
          | none => []) ++ args)

/-- `matchingRefs`: the repositories `<svcName>/...` that have the ref `ref`, in the order
`range` visits them. -/
def matchingRefs (refs : GoMap String ImageRepo) (svcName : String) (ref : String) :
    List String :=
  refs.entries.filterMap fun entry =>
    if (Strings.cut entry.1 '/').1 = svcName ∧ (entry.2.refs.lookup ref).isSome then some entry.1
    else none

/-- The three docker commands that move one pushed image from the loopback registry to
its canonical name. -/
def retagCommands (internalRegistryAddr ref : String) : List (List String) :=
  let internalRef := internalRegistryAddr ++ "/" ++ ref ++ ":latest"
  let canonicalRef := InternalRegistryHost ++ "/" ++ ref ++ ":latest"
  [["docker", "pull", internalRef], ["docker", "tag", internalRef, canonicalRef],
    ["docker", "rmi", internalRef]]

/-- Runs commands in order until one fails: the commands started, and whether all
succeeded. -/
def runAll (succeeds : List String → Bool) : List (List String) → List (List String) × Bool
  | [] => ([], true)
  | c :: cs =>
      if succeeds c then
        match runAll succeeds cs with
        | (ran, ok) => (c :: ran, ok)
      else ([c], false)

/-- `DockerComposeService.Up` before its final `compose up`: the docker commands it runs,
and either the arguments of `compose up` or the error it returns. -/
def up (images : GoMap String ImageRepo) (name internalRegistryAddr : String)
    (succeeds : List String → Bool) : List (List String) × Except String (List String) :=
  let refs := matchingRefs images name "latest"
  match runAll succeeds (refs.flatMap (retagCommands internalRegistryAddr)) with
  | (ran, true) => (ran, .ok ["up", "--pull", if refs.isEmpty then "always" else "never", "-d"])
  | (ran, false) => (ran, .error "failed to tag image")

theorem memMatchingRefs {refs : GoMap String ImageRepo} {svcName ref rn : String} :
    rn ∈ matchingRefs refs svcName ref ↔
      (Strings.cut rn '/').1 = svcName ∧ ∃ ir, refs.lookup rn = some ir ∧ (ir.refs.lookup ref).isSome := by
  constructor
  · intro mem
    obtain ⟨⟨k, ir⟩, inEntries, picked⟩ := List.mem_filterMap.mp mem
    split at picked
    · cases picked
      rename_i cond
      exact ⟨cond.1, ir, AList.mem_lookup_iff.mpr inEntries, cond.2⟩
    · cases picked
  · rintro ⟨hs, ir, found, has⟩
    exact List.mem_filterMap.mpr ⟨⟨rn, ir⟩, AList.mem_lookup_iff.mp found, by simp [hs, has]⟩

theorem upWithoutLatest {images : GoMap String ImageRepo} {name : String}
    (internalRegistryAddr : String) (succeeds : List String → Bool)
    (none : matchingRefs images name "latest" = []) :
    up images name internalRegistryAddr succeeds = ([], .ok ["up", "--pull", "always", "-d"]) := by
  simp [up, none, runAll]

/-! ### The statuses of a project's containers -/

/-- `svc.Status`, as far as `Statuses` produces it. -/
inductive Status where
  | running
  | stopped
  | unknown
  deriving DecidableEq, Repr

/-- `svc.DockerComposeStatus`: a status for each compose service label. -/
abbrev DockerComposeStatus := GoMap String Status

/-- The errors of `Statuses`: `ErrDockerStatusUnknown`, which the callers compare with
`==`, and the others by their text. -/
inductive StatusError where
  | dockerStatusUnknown
  | other (msg : String)
  deriving DecidableEq, Repr

/-- The text of an error, as `%v` and `%w` print it. -/
def StatusError.text : StatusError → String
  | .dockerStatusUnknown => "unknown docker status"
  | .other msg => msg

/-- The status `Statuses` gives a container's state. -/
def stateStatus : String → Status
  | "running" => .running
  | "exited" => .stopped
  | _ => .unknown

/-- One line of the loop of `Statuses`: a line `<label>,<state>` sets the label's status;
a blank line, or one without exactly one comma, leaves the map as it is. -/
def statusLine (statuses : DockerComposeStatus) (line : String) : DockerComposeStatus :=
  let line := Strings.trimSpace line
  if line = "" then statuses else
  match Strings.split line ',' with
  | [cn, state] => statuses.insert cn (stateStatus state)
  | _ => statuses

/-- What `Statuses` makes of the output of `docker compose ps`. -/
def parseStatuses (output : String) : Except StatusError DockerComposeStatus :=
  if Strings.trimSpace output = "" then .error .dockerStatusUnknown
  else .ok ((Strings.split output '\n').foldl statusLine ∅)

/-- The `--format` of the `ps` call: each container's compose service label and state. -/
def psFormat : String :=
  "\x7b\x7b.Label \"com.docker.compose.service\"\x7d\x7d,\x7b\x7b.State\x7d\x7d"

/-- The `ps` call of `Statuses`: the output of docker run with the arguments `command`
gives, where `docker` is the host's run of docker (its error carries the message and the
output, as `Statuses` prints them). -/
def psRun (name dataDir : String) (cfg : Service) (docker : List String → Except String String) :
    Except StatusError String :=
  match command name dataDir cfg ["ps", "-a", "--format", psFormat] with
  | .error e => .error (.other ("failed to create docker-compose command: " ++ e))
  | .ok args =>
      match docker args with
      | .error e => .error (.other ("failed to run docker command: " ++ e))
      | .ok output => .ok output

/-- `DockerComposeService.Statuses`. -/
def statuses (name dataDir : String) (cfg : Service) (docker : List String → Except String String) :
    Except StatusError DockerComposeStatus :=
  psRun name dataDir cfg docker >>= parseStatuses

theorem statusesRun {name dataDir : String} {cfg : Service} {docker : List String → Except String String}
    {out : String} (ps : psRun name dataDir cfg docker = .ok out) :
    statuses name dataDir cfg docker = parseStatuses out := by
  rw [statuses, ps]
  rfl

/-- What `docker compose ps` prints for containers listed as (label, state) with the
format of `Statuses`: one line each. -/
def psListing (rows : List (String × String)) : String :=
  String.join (rows.map fun r => r.1 ++ "," ++ r.2 ++ "\n")

/-- A label or a state as docker prints them: no comma and no white space. -/
def Plain (s : String) : Prop := ∀ c ∈ s.toList, c ≠ ',' ∧ Strings.isSpace c = false

instance : DecidablePred Plain := fun s => inferInstanceAs (Decidable (∀ c ∈ s.toList, _))

theorem lineNoSpace {label state : String} (plainLabel : Plain label) (plainState : Plain state) :
    ∀ c ∈ (label ++ "," ++ state).toList, Strings.isSpace c = false := by
  intro c mem
  simp only [String.toList, String.data_append, List.mem_append] at mem
  rcases mem with (mem | mem) | mem
  · exact (plainLabel c mem).2
  · simp only [String.toList, List.mem_singleton] at mem
    subst mem
    rfl
  · exact (plainState c mem).2

theorem statusLineRow (m : DockerComposeStatus) {label state : String} (plainLabel : Plain label)
    (plainState : Plain state) : statusLine m (label ++ "," ++ state) = m.insert label (stateStatus state) := by
  have chars : (label ++ "," ++ state).toList = label.toList ++ ',' :: state.toList := by simp
  have split : Strings.split (label ++ "," ++ state) ',' = [label, state] := by
    rw [Strings.split, chars, Strings.splitListAppend,
      Strings.splitListAbsent fun mem => (plainLabel ',' mem).1 rfl,
      Strings.splitListAbsent fun mem => (plainState ',' mem).1 rfl]
    rfl
  have nonEmpty : label ++ "," ++ state ≠ "" := fun empty => by simp [empty] at chars
  simp only [statusLine, Strings.trimSpaceNoSpace (lineNoSpace plainLabel plainState), nonEmpty,
    if_false, split]

/-- `Statuses` reads back what docker prints: no container gives `ErrDockerStatusUnknown`,
and otherwise each label gets the status of the state of the last container listed
under it. -/
theorem parseListing {rows : List (String × String)} (plain : ∀ r ∈ rows, Plain r.1 ∧ Plain r.2) :
    parseStatuses (psListing rows) =
      if rows = [] then .error .dockerStatusUnknown
      else .ok (rows.foldl (fun m r => m.insert r.1 (stateStatus r.2)) ∅) := by
  have lines : Strings.split (psListing rows) '\n' = rows.map (fun r => r.1 ++ "," ++ r.2) ++ [""] := by
    have chars : (psListing rows).toList = (rows.map fun r => (r.1 ++ "," ++ r.2).toList).flatMap (· ++ ['\n']) := by
      simp [psListing, List.flatMap, Function.comp_def]
    rw [Strings.split, chars, Strings.splitListTerminated, List.map_append, List.map_map]
    · rfl
    · simp only [List.mem_map]
      rintro _ ⟨r, mem, rfl⟩ newline
      exact absurd (lineNoSpace (plain r mem).1 (plain r mem).2 '\n' newline) (by decide)
  split_ifs with empty
  · subst empty; rfl
  · obtain ⟨r, rest, rfl⟩ := List.exists_cons_of_ne_nil empty
    have comma : ',' ∈ (psListing (r :: rest)).toList := by simp [psListing]
    rw [parseStatuses, if_neg (Strings.trimSpaceNonBlank comma rfl), lines, List.foldl_append,
      List.foldl_map, List.foldl_cons, List.foldl_nil]
    exact congrArg Except.ok (List.foldl_ext _ _ _ fun m r mem =>
      statusLineRow m (plain r mem).1 (plain r mem).2)

theorem replicaListing :
    (∀ r ∈ [("web", "running"), ("web", "exited")], Plain r.1 ∧ Plain r.2) ∧
      parseStatuses (psListing [("web", "running"), ("web", "exited")]) =
        .ok ((∅ : DockerComposeStatus).insert "web" .stopped) :=
  ⟨by decide, (parseListing (by decide)).trans rfl⟩

/-! ### The runner's actions -/

/-- A call a runner makes that acts on the host: a program run (`docker` other than the
`ps` of `Statuses`, `journalctl`), or a method of the service's systemd unit. -/
inductive Call where
  | exec (program : String) (args : List String)
  | unit (method : String)
  deriving DecidableEq, Repr

/-- `svc.ErrNotInstalled`, which a unit's `Uninstall` may return. -/
def ErrNotInstalled : String := "the service is not installed"

/-- A `DockerComposeService`: the service's name, data directory and stored config, the
host's runs of docker, and the outcomes of its systemd unit's methods. -/
structure ComposeService where
  name : String
  dataDir : String
  cfg : Service
  docker : List String → Except String String
  unit : String → Except GoError Unit

namespace ComposeService

/-- `DockerComposeService.runCommand`. -/
def runCommand (s : ComposeService) (args : List String) : Except GoError Unit × List Call :=
  match command s.name s.dataDir s.cfg args with
  | .error e => (.error (.plain ("failed to create docker-compose command: " ++ e)), [])
  | .ok cmd =>
      match s.docker cmd with
      | .error e => (.error (.plain ("failed to run docker command: " ++ e)), [.exec "docker" cmd])
      | .ok _ => (.ok (), [.exec "docker" cmd])

/-- `DockerComposeService.Exists`: whether `Statuses` finds a container of the project. -/
def projectExists (s : ComposeService) : Except String Bool :=
  match statuses s.name s.dataDir s.cfg s.docker with
  | .error .dockerStatusUnknown => .ok false
  | .error e => .error e.text
  | .ok sts => .ok !sts.entries.isEmpty

/-- The guard `Down`, `Stop` and `Restart` share: `act` when the project exists, nothing
otherwise. -/
def whenExists (s : ComposeService) (act : Except GoError Unit × List Call) : Except GoError Unit × List Call :=
  match s.projectExists with
  | .error e => (.error (.plain ("failed to check if service exists: " ++ e)), [])
  | .ok false => (.ok (), [])
  | .ok true => act

/-- `DockerComposeService.Down`. -/
def down (s : ComposeService) : Except GoError Unit × List Call :=
  s.whenExists (s.runCommand ["down", "--remove-orphans"])

/-- `DockerComposeService.Stop`; the unit's `Stop` result is dropped. -/
def stop (s : ComposeService) : Except GoError Unit × List Call :=
  s.whenExists (match s.runCommand ["stop"] with | (r, calls) => (r, .unit "Stop" :: calls))

/-- `DockerComposeService.Restart`. -/
def restart (s : ComposeService) : Except GoError Unit × List Call :=
  s.whenExists (s.runCommand ["restart"])

/-- `DockerComposeService.Start`; the unit's `Start` result is dropped. -/
def start (s : ComposeService) : Except GoError Unit × List Call :=
  match s.runCommand ["start"] with | (r, calls) => (r, .unit "Start" :: calls)

/-- `DockerComposeService.Remove`; the unit's `Stop` result is dropped. -/
def remove (s : ComposeService) : Except GoError Unit × List Call :=
  match s.down with
  | (.error e, calls) => (.error (.plain ("failed to stop service: " ++ e.text)), calls)
  | (.ok (), calls) => (s.unit "Uninstall", calls ++ [.unit "Stop", .unit "Uninstall"])

/-- `DockerComposeService.Logs`. -/
def logs (s : ComposeService) (follow : Bool) (lines : Int) : Except GoError Unit × List Call :=
  s.runCommand (["logs"] ++ (if follow then ["--follow"] else []) ++
    (if lines > 0 then ["--tail", toString lines] else []))

end ComposeService

end Yeet.Svc