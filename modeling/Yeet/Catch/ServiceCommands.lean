import Yeet.Catch.Status
import Yeet.Catch.Lifecycle

/-! The commands that act on a service through its runner: `startCmdFunc`, `stopCmdFunc`,
`restartCmdFunc`, `enableCmdFunc`, `disableCmdFunc`, `logsCmdFunc` and `removeCmdFunc`,
with `serviceRunner` and the systemd runner. What they print to the session is left out;
the systemd unit's methods, `journalctl` and the operator's answer to `Confirm` are
outcomes the handlers are given. -/
namespace Yeet.Catch
open Yeet.Db Yeet.Svc

structure CommandHost where
  docker : List String → Except String String
  /-- The outcome of a method of the service's systemd unit. -/
  unit : String → Except GoError Unit
  /-- `SystemdService.Name`, the unit's name. -/
  unitName : String → String
  /-- Waiting for `journalctl`; starting it is taken to succeed. -/
  journalctl : List String → Except String Unit
  /-- `cmdutil.Confirm`: whether the operator answered `y`. -/
  confirm : Except String Bool
  /-- The outcomes `RemoveService` meets. -/
  io : Outcomes

/-- A `ServiceRunner`: the systemd runner, with the unit's outcomes and name, or the
compose runner. -/
inductive Runner where
  | systemd (unit : String → Except GoError Unit) (unitName : String)
  | dockerCompose (s : ComposeService)

def unitCalls (unit : String → Except GoError Unit) : List String → Except GoError Unit × List Call
  | [] => (.ok (), [])
  | m :: ms =>
      match unit m with
      | .error e => (.error e, [.unit m])
      | .ok () => match unitCalls unit ms with | (r, calls) => (r, .unit m :: calls)

namespace Runner

def start : Runner → Except GoError Unit × List Call
  | .systemd unit _ => unitCalls unit ["Start"]
  | .dockerCompose s => s.start

def stop : Runner → Except GoError Unit × List Call
  | .systemd unit _ => unitCalls unit ["Stop"]
  | .dockerCompose s => s.stop

def restart : Runner → Except GoError Unit × List Call
  | .systemd unit _ => unitCalls unit ["Restart"]
  | .dockerCompose s => s.restart

/-- `Remove`: the systemd runner stops and uninstalls its unit. -/
def remove : Runner → Except GoError Unit × List Call
  | .systemd unit _ => unitCalls unit ["Stop", "Uninstall"]
  | .dockerCompose s => s.remove

/-- `systemdServiceRunner.Logs`'s arguments to `journalctl`. -/
def journalArgs (unitName : String) (follow : Bool) (lines : Int) : List String :=
  ["--no-pager", "--output=cat"] ++ (if follow then ["--follow"] else []) ++
    (if lines > 0 then ["--lines=" ++ toString lines] else []) ++ ["--unit=" ++ unitName]

def logs (journalctl : List String → Except String Unit) (follow : Bool) (lines : Int) :
    Runner → Except GoError Unit × List Call
  | .systemd _ unitName =>
      match journalctl (journalArgs unitName follow lines) with
      | .error e => (.error (.plain ("failed to wait for journalctl: " ++ e)),
          [.exec "journalctl" (journalArgs unitName follow lines)])
      | .ok () => (.ok (), [.exec "journalctl" (journalArgs unitName follow lines)])
  | .dockerCompose s => s.logs follow lines

end Runner

/-- `ttyExecer.serviceRunner`. `serviceView`'s one error is the sentinel
`errServiceNotFound`. -/
def serviceRunner (cfg : Config) (host : CommandHost) (d : Data) (sn : String) : Except GoError Runner :=
  match serviceType d sn with
  | .error e => .error (.wrap "failed to get service type: " (.sentinel e))
  | .ok .systemd =>
      match serviceView d sn with
      | .error e => .error (.plain ("failed to get service view: " ++ e))
      | .ok _ => .ok (.systemd host.unit (host.unitName sn))
  | .ok .dockerCompose =>
      match d.services.lookup sn with
      | none => .error (.sentinel "service not found")
      | some sv => .ok (.dockerCompose ⟨sn, serviceDataDir cfg sn, sv, host.docker, host.unit⟩)
  | .ok .unset => .error (.plain "unhandled service type \"\"")

/-- A handler that refuses the two reserved names with `refusal`, gets the runner and runs
`method`, wrapping its error with `failure`: `startCmdFunc` and `stopCmdFunc`. -/
def runnerCmdFunc (refusal failure : String) (method : Runner → Except GoError Unit × List Call)
    (cfg : Config) (host : CommandHost) (d : Data) (sn : String) : Except String Unit × List Call :=
  if sn = SystemService ∨ sn = CatchService then (.error refusal, []) else
  match serviceRunner cfg host d sn with
  | .error e => (.error ("failed to get service runner: " ++ e.text), [])
  | .ok runner =>
      match method runner with
      | (.error e, calls) => (.error (failure ++ e.text), calls)
      | (.ok (), calls) => (.ok (), calls)

def startCmdFunc := runnerCmdFunc "cannot start system service" "failed to start service: " Runner.start
def stopCmdFunc := runnerCmdFunc "cannot stop system service" "failed to stop service: " Runner.stop

/-- `restartCmdFunc`: it refuses no name. -/
def restartCmdFunc (cfg : Config) (host : CommandHost) (d : Data) (sn : String) : Except String Unit × List Call :=
  match serviceRunner cfg host d sn with
  | .error e => (.error ("failed to get service runner: " ++ e.text), [])
  | .ok runner =>
      match runner.restart with
      | (.error e, calls) => (.error ("failed to restart service: " ++ e.text), calls)
      | (.ok (), calls) => (.ok (), calls)

/-- A handler for a `ServiceEnabler` method, which only the systemd runner has:
`enableCmdFunc` and `disableCmdFunc`. The runner's error is returned as it is. -/
def enablerCmdFunc (refusal unsupported : String) (methods : List String)
    (cfg : Config) (host : CommandHost) (d : Data) (sn : String) : Except String Unit × List Call :=
  if sn = SystemService ∨ sn = CatchService then (.error refusal, []) else
  match serviceRunner cfg host d sn with
  | .error e => (.error e.text, [])
  | .ok (.systemd unit _) =>
      match unitCalls unit methods with
      | (.error e, calls) => (.error e.text, calls)
      | (.ok (), calls) => (.ok (), calls)
  | .ok (.dockerCompose _) => (.error unsupported, [])

/-- `enableCmdFunc`: the unit is enabled, then started. -/
def enableCmdFunc :=
  enablerCmdFunc "cannot install, reserved service name" "service does not support enable" ["Enable", "Start"]

/-- `disableCmdFunc`: the unit is stopped, then disabled. -/
def disableCmdFunc :=
  enablerCmdFunc "cannot disable system service" "service does not support disable" ["Stop", "Disable"]

/-- `logsCmdFunc`: it refuses `sys` only, and returns the runner's error as it is. -/
def logsCmdFunc (cfg : Config) (host : CommandHost) (follow : Bool) (lines : Int) (d : Data) (sn : String) :
    Except String Unit × List Call :=
  if sn = SystemService then (.error "cannot show logs for system service", []) else
  match serviceRunner cfg host d sn with
  | .error e => (.error ("failed to get service runner: " ++ e.text), [])
  | .ok runner =>
      match runner.logs host.journalctl follow lines with
      | (.error e, calls) => (.error e.text, calls)
      | (.ok (), calls) => (.ok (), calls)

/-- The last step of `removeCmdFunc`: `RemoveService`, its error wrapped. -/
def cleanupService (io : Outcomes) (cfg : Config) (sn : String) (w : World) : Except String Unit × World :=
  match removeService io cfg sn w with
  | (.error e, w') => (.error ("failed to cleanup service \"" ++ sn ++ "\": " ++ e), w')
  | (.ok (), w') => (.ok (), w')

/-- `removeCmdFunc`. A runner error that is `errNoServiceConfigured` leads to
`RemoveService` without asking the operator. -/
def removeCmdFunc (cfg : Config) (host : CommandHost) (sn : String) (w : World) :
    Except String Unit × List Call × World :=
  if sn = SystemService ∨ sn = CatchService then (.error "cannot remove system service", [], w) else
  match serviceRunner cfg host w.db sn with
  | .error e =>
      if e.is errNoServiceConfigured then
        match cleanupService host.io cfg sn w with | (r, w') => (r, [], w')
      else (.error ("failed to get service runner: " ++ e.text), [], w)
  | .ok runner =>
      match host.confirm with
      | .error e => (.error ("failed to confirm removal: " ++ e), [], w)
      | .ok false => (.ok (), [], w)
      | .ok true =>
          match runner.remove with
          | (.error e, calls) =>
              if e.is ErrNotInstalled then
                match cleanupService host.io cfg sn w with | (r, w') => (r, calls, w')
              else (.error ("failed to remove service: " ++ e.text), calls, w)
          | (.ok (), calls) => match cleanupService host.io cfg sn w with | (r, w') => (r, calls, w')

/-- The commands of `runE` that act through the runner. -/
inductive Command where
  | start
  | stop
  | restart
  | enable
  | disable
  | logs (follow : Bool) (lines : Int)
  | remove

/-- The cases of `runE` for those commands: the result, the calls made, and the world
after. -/
def runCommand (cfg : Config) (host : CommandHost) (sn : String) (w : World) :
    Command → Except String Unit × List Call × World
  | .start => match startCmdFunc cfg host w.db sn with | (r, calls) => (r, calls, w)
  | .stop => match stopCmdFunc cfg host w.db sn with | (r, calls) => (r, calls, w)
  | .restart => match restartCmdFunc cfg host w.db sn with | (r, calls) => (r, calls, w)
  | .enable => match enableCmdFunc cfg host w.db sn with | (r, calls) => (r, calls, w)
  | .disable => match disableCmdFunc cfg host w.db sn with | (r, calls) => (r, calls, w)
  | .logs follow lines => match logsCmdFunc cfg host follow lines w.db sn with | (r, calls) => (r, calls, w)
  | .remove => removeCmdFunc cfg host sn w

/-! ### The runner -/

theorem serviceTypeNotFound {d : Data} {sn msg : String} (failed : serviceType d sn = .error msg) :
    msg = "service not found" := by
  unfold serviceType serviceView at failed
  split at failed <;> cases failed
  rfl

theorem serviceRunnerConfigured {cfg : Config} {host : CommandHost} {d : Data} {sn : String} {e : GoError}
    (failed : serviceRunner cfg host d sn = .error e) : e.is errNoServiceConfigured = false := by
  unfold serviceRunner at failed
  split at failed
  · rename_i msg typeFailed
    cases failed
    rw [GoError.isWrap, GoError.isSentinel, serviceTypeNotFound typeFailed]
    rfl
  · split at failed <;> cases failed
    rfl
  · split at failed <;> cases failed
    rfl
  · cases failed
    rfl

/-! ### What `remove` leaves behind -/

theorem cleanupServiceWorld (io : Outcomes) (cfg : Config) (sn : String) (w : World) :
    (cleanupService io cfg sn w).2.files.Sublist w.files ∧
      ((cleanupService io cfg sn w).2.db = w.db ∨
        (cleanupService io cfg sn w).1 = .ok () ∧
          (cleanupService io cfg sn w).2.db = { w.db with services := w.db.services.erase sn }) := by
  have world := removeServiceWorld io cfg sn w
  unfold cleanupService
  split <;> rename_i removed <;> rw [removed] at world <;> simpa using world

theorem removeCmdFuncCases (cfg : Config) (host : CommandHost) (sn : String) (w : World) :
    (removeCmdFunc cfg host sn w).2.2 = w ∨
      host.confirm = .ok true ∧ (removeCmdFunc cfg host sn w).1 = (cleanupService host.io cfg sn w).1 ∧
        (removeCmdFunc cfg host sn w).2.2 = (cleanupService host.io cfg sn w).2 := by
  unfold removeCmdFunc
  split_ifs with reserved
  · exact .inl rfl
  · split
    · rename_i e failed
      simp only [serviceRunnerConfigured failed, Bool.false_eq_true, if_false, true_or]
    · split
      · exact .inl rfl
      · exact .inl rfl
      · rename_i confirmed
        split
        · split_ifs
          · exact .inr ⟨confirmed, rfl, rfl⟩
          · exact .inl rfl
        · exact .inr ⟨confirmed, rfl, rfl⟩

/-- `remove` changes nothing unless the operator confirmed, and then only as
`RemoveService` does: it removes paths, and the service's entry in the store only when the
whole command succeeds. -/
theorem removeOnlyConfirmed (cfg : Config) (host : CommandHost) (sn : String) (w : World) :
    (host.confirm ≠ .ok true → (removeCmdFunc cfg host sn w).2.2 = w) ∧
      (removeCmdFunc cfg host sn w).2.2.files.Sublist w.files ∧
      ((removeCmdFunc cfg host sn w).2.2.db = w.db ∨
        (removeCmdFunc cfg host sn w).1 = .ok () ∧
          (removeCmdFunc cfg host sn w).2.2.db = { w.db with services := w.db.services.erase sn }) := by
  rcases removeCmdFuncCases cfg host sn w with same | ⟨confirmed, result, world⟩
  · simp only [same, List.Sublist.refl, true_or, and_true, implies_true]
  · obtain ⟨files, db⟩ := cleanupServiceWorld host.io cfg sn w
    rw [result, world]
    exact ⟨fun declined => absurd confirmed declined, files, db⟩

end Yeet.Catch
