import Yeet.Cli.Flags

/-! The client's path from a command line to the `ssh` invocation for a remote command:
the service `main` finds among the arguments and the list it hands to cobra, cobra's
dispatch to the command named first and its parse of the arguments after it
(`Yeet.Cli.execute`), whose `--service` replaces the one `main` set, then `run`, which
builds the remote arguments from `os.Args` again, and `handleSvcCmd`. The pushes that
`run`, `cron` and `stage` start instead of an `ssh` call are results, not run. A command
line that does not start with a remote command is not modelled: cobra then finds the
command past leading flags, or runs one of the client's own commands. -/
namespace Yeet.Client

/-- The commands of `cli.CommandHandler.RootCmd`: the client's remote commands. -/
def remoteCmds : List String :=
  ["cron", "disable", "edit", "env", "enable", "events", "logs", "mount", "ip", "umount", "remove",
    "restart", "rollback", "run", "start", "stage", "status", "ts", "stop", "version"]

/-- The loop of `main` over the arguments after the command: the first that does not start
with `-`, skipping the value of `--format`; `""` when there is none. -/
def firstNonFlag : List String → String
  | [] => ""
  | "--format" :: [] => ""
  | "--format" :: _ :: rest => firstNonFlag rest
  | arg :: rest => if Strings.hasPrefix arg "-" then firstNonFlag rest else arg

/-- The service `main` sets with `--service`: `sys` when its loop finds none. -/
def mainService (args : List String) : String :=
  if firstNonFlag (args.drop 1) = "" then "sys" else firstNonFlag (args.drop 1)

/-- The arguments `main` hands to cobra: the command, then all but the argument after it. -/
def mainArgs (args : List String) : List String := args.take 1 ++ args.drop 2

/-- `run`'s remote arguments for a command reached through `cmds`: `cmds`, then `os.Args`
from index `len(cmds) + 2` on. -/
def runArgs (cmds osArgs : List String) : List String :=
  cmds ++ osArgs.drop (min (cmds.length + 2) osArgs.length)

/-- What the client runs: `ssh -tq <user>@host` or `ssh -q <user>@host` with arguments, or
the local work of `run`, `cron` and `stage`. -/
inductive Invocation where
  | sshTTY (user : String) (args : List String)
  | ssh (user : String) (args : List String)
  | runRun (payload : String) (args : List String)
  | runCron (file : String) (args : List String)
  | runStageBinary (file : String)
  deriving DecidableEq, Repr

/-- `handleSvcCmd`; `none` is the panic of `args[1]` out of range. -/
def handleSvcCmd (svc : String) (args : List String) : Option Invocation :=
  match args with
  | [] => some (.sshTTY svc [])
  | cmd :: rest =>
      if cmd = "run" ∧ 2 ≤ args.length then some (.runRun (rest.headD "") (rest.drop 1))
      else if cmd = "cron" then
        match rest with
        | file :: more => some (.runCron file more)
        | [] => none
      else if cmd = "stage" ∧ args.length = 2 then some (.runStageBinary (rest.headD ""))
      else if cmd = "events" then some (.ssh svc args)
      else some (.sshTTY svc args)

/-- `getService`, on the value of the `--service` flag. -/
def getService (flag : String) : String := if flag = "" then "sys" else flag

/-- `run` for the command `calledAs`, reached through `cmds`, with the service `getService`
returns. -/
def run (calledAs : String) (cmds osArgs : List String) (svc : String) : Option Invocation :=
  if calledAs = "mount" ∨ calledAs = "umount" then some (.sshTTY "sys" (osArgs.drop 1))
  else handleSvcCmd svc (runArgs cmds osArgs)

inductive Outcome where
  | invoke (i : Invocation)
  /-- `handleSvcCmd` indexed past its arguments. -/
  | panicked
  /-- Cobra printed a command's help. -/
  | help
  /-- The error of cobra's `Execute`, which `main` prints. -/
  | failed (e : String)
  /-- A command line that does not start with a remote command. -/
  | notRemote
  deriving DecidableEq, Repr

/-- The client on `yeet <args>`. For a remote command with arguments, `main` sets
`--service` to the service it finds and drops the argument after the command; cobra parses
the rest, where a `--service` of its own wins; `run` builds the invocation as the service
`getService` returns, `sys` for an empty one. -/
def yeet (args : List String) : Outcome :=
  match args with
  | [] => .help
  | cmd :: _ =>
      if cmd ∉ remoteCmds then .notRemote else
      match Cli.execute cmd ((mainArgs args).drop 1) with
      | .error e => .failed e
      | .ok .help => .help
      | .ok (.run service) =>
          match run cmd [cmd] ("yeet" :: args) (getService (service.getD (mainService args))) with
          | some i => .invoke i
          | none => .panicked

theorem mainServiceFirst (cmd : String) {svc : String} (more : List String) (named : svc ≠ "")
    (plain : Strings.hasPrefix svc "-" = false) : mainService (cmd :: svc :: more) = svc := by
  have notFormat : svc ≠ "--format" := by rintro rfl; exact absurd plain (by decide)
  simp [mainService, firstNonFlag, notFormat, plain, named]

theorem getServiceMain (args : List String) : getService (mainService args) = mainService args := by
  unfold getService mainService
  split_ifs <;> simp_all

/-- For a remote command other than `mount`, `umount`, `run`, `cron`, `stage` and `events`,
followed by at least one argument, and arguments after the first that cobra parses without
an error or a help flag, the client runs `ssh -tq` with the command and every argument but
the first after it, as the service of a `--service` among those arguments, or else the one
`main` found. When that first argument is the service and no `--service` is given, this is
the command line without the service. -/
theorem yeetForwards {cmd : String} (rest : List String) (service : Option String) (remote : cmd ∈ remoteCmds)
    (generic : cmd ∉ ["mount", "umount", "run", "cron", "stage", "events"]) (given : rest ≠ [])
    (parsed : Cli.execute cmd (rest.drop 1) = .ok (.run service)) :
    yeet (cmd :: rest) = .invoke (.sshTTY (getService (service.getD (mainService (cmd :: rest)))) (cmd :: rest.drop 1)) ∧
      ∀ svc more, service = none → rest = svc :: more → svc ≠ "" → Strings.hasPrefix svc "-" = false →
        yeet (cmd :: rest) = .invoke (.sshTTY svc (cmd :: more)) := by
  simp only [List.mem_cons, List.mem_singleton, List.not_mem_nil, or_false, not_or] at generic
  obtain ⟨notMount, notUmount, notRun, notCron, notStage, notEvents⟩ := generic
  obtain ⟨first, others, rfl⟩ := List.exists_cons_of_ne_nil given
  have sliced : runArgs [cmd] ("yeet" :: cmd :: first :: others) = cmd :: others := by
    simp [runArgs]
  have sent : yeet (cmd :: first :: others) =
      .invoke (.sshTTY (getService (service.getD (mainService (cmd :: first :: others)))) (cmd :: others)) := by
    simp only [List.drop_succ_cons, List.drop_zero] at parsed
    simp [yeet, remote, mainArgs, parsed, run, notMount, notUmount, sliced, handleSvcCmd, notRun, notCron,
      notStage, notEvents]
  refine ⟨sent, fun svc more unset same named plain => ?_⟩
  obtain ⟨rfl, rfl⟩ := List.cons.inj same
  rw [sent, unset, Option.getD_none, getServiceMain, mainServiceFirst cmd _ named plain]

/-- `yeet status --format json app` and `yeet logs -f app` reach service `app` without
their flags, and with `json` and `app` left among the arguments. -/
theorem flagsBeforeServiceDropped :
    yeet ["status", "--format", "json", "app"] = .invoke (.sshTTY "app" ["status", "json", "app"]) ∧
      yeet ["logs", "-f", "app"] = .invoke (.sshTTY "app" ["logs", "app"]) :=
  have status := (@yeetForwards "status" ["--format", "json", "app"] none (by decide) (by decide) (List.cons_ne_nil _ _) rfl).1
  have logs := (@yeetForwards "logs" ["-f", "app"] none (by decide) (by decide) (List.cons_ne_nil _ _) rfl).1
  ⟨status.trans (by decide), logs.trans (by decide)⟩

example : yeet ["logs", "app", "--tail", "5"] = .failed "unknown flag: --tail" := by decide

example : yeet ["status", "app", "--service", "db"] = .invoke (.sshTTY "db" ["status", "--service", "db"]) := by
  decide

end Yeet.Client
