import Yeet.Go.Filepath
import Yeet.Db.Data

/-! The parts of `catch.Server` the modelled handlers share: the configuration fields they
read, the per-service directories (`serviceRootDir` and the four below it) and how
`ensureDirs` makes them, the two reserved service names, the lookup of a service in the
document (`serviceView`), and how an SSH user string names a service. The file system and
the user database are outcomes of `ensureDirs`, and `strconv.Atoi` is a parameter. -/
namespace Yeet.Catch
open Yeet.Db

/-- `SystemService`, the meta-service that manages the server. -/
def SystemService : String := "sys"

/-- `CatchService`, the daemon itself. -/
def CatchService : String := "catch"

/-- The fields of `catch.Config` the modelled handlers read. -/
structure Config where
  servicesRoot : String
  mountsRoot : String
  internalRegistryAddr : String
  deriving DecidableEq, Repr

def serviceRootDir (cfg : Config) (sn : String) : String := Filepath.join [cfg.servicesRoot, sn]
def serviceBinDir (cfg : Config) (sn : String) : String := Filepath.join [serviceRootDir cfg sn, "bin"]
def serviceRunDir (cfg : Config) (sn : String) : String := Filepath.join [serviceRootDir cfg sn, "run"]
def serviceDataDir (cfg : Config) (sn : String) : String := Filepath.join [serviceRootDir cfg sn, "data"]
def serviceEnvDir (cfg : Config) (sn : String) : String := Filepath.join [serviceRootDir cfg sn, "env"]

/-- A call `ensureDirs` makes of the host. -/
inductive DirCall where
  | mkdirAll (dir : String)
  | lookup (uname : String)
  | chown (dir : String) (uid gid : Int)
  deriving DecidableEq, Repr

/-- The host as `ensureDirs` meets it: `os.MkdirAll`, `user.Lookup` with the user's uid and
gid strings, `strconv.Atoi`, and `os.Chown`. -/
structure DirHost where
  mkdirAll : String → Except String Unit
  lookup : String → Except String (String × String)
  atoi : String → Except String Int
  chown : String → Int → Int → Except String Unit

/-- The directories `ensureDirs` makes, in its order. -/
def serviceDirs (cfg : Config) (sn : String) : List String :=
  [serviceBinDir cfg sn, serviceDataDir cfg sn, serviceEnvDir cfg sn, serviceRunDir cfg sn]

/-- The body of the loop of `ensureDirs` for one directory: its error, and the calls made. -/
def ensureDir (host : DirHost) (uname dir : String) : Except String Unit × List DirCall :=
  match host.mkdirAll dir with
  | .error e => (.error ("failed to create bin directory: " ++ e), [.mkdirAll dir])
  | .ok () =>
      if uname ≠ "" ∧ uname ≠ "root" then
        match host.lookup uname with
        | .error e => (.error ("failed to lookup user: " ++ e), [.mkdirAll dir, .lookup uname])
        | .ok (uidText, gidText) =>
            match host.atoi uidText, host.atoi gidText with
            | .error e, _ => (.error ("failed to convert uid to int: " ++ e), [.mkdirAll dir, .lookup uname])
            | .ok _, .error e => (.error ("failed to convert gid to int: " ++ e), [.mkdirAll dir, .lookup uname])
            | .ok uid, .ok gid =>
                match host.chown dir uid gid with
                | .error e => (.error ("failed to chown directory: " ++ e), [.mkdirAll dir, .lookup uname, .chown dir uid gid])
                | .ok () => (.ok (), [.mkdirAll dir, .lookup uname, .chown dir uid gid])
      else (.ok (), [.mkdirAll dir])

/-- The loop of `ensureDirs`, which returns at the first error. -/
def ensureDirsLoop (host : DirHost) (uname : String) : List String → Except String Unit × List DirCall
  | [] => (.ok (), [])
  | dir :: rest =>
      match ensureDir host uname dir with
      | (.error e, calls) => (.error e, calls)
      | (.ok (), calls) => ((ensureDirsLoop host uname rest).1, calls ++ (ensureDirsLoop host uname rest).2)

/-- `Server.ensureDirs(sn, uname)`. -/
def ensureDirs (host : DirHost) (cfg : Config) (sn uname : String) : Except String Unit × List DirCall :=
  ensureDirsLoop host uname (serviceDirs cfg sn)

theorem ensureDirsLoopFailed (host : DirHost) (uname : String) {dirs : List String} {e : String}
    (failed : (ensureDirsLoop host uname dirs).1 = .error e) :
    ∃ done dir later, dirs = done ++ dir :: later ∧ (∀ d ∈ done, (ensureDir host uname d).1 = .ok ()) ∧
      (ensureDir host uname dir).1 = .error e ∧
      (ensureDirsLoop host uname dirs).2 = done.flatMap (fun d => (ensureDir host uname d).2) ++ (ensureDir host uname dir).2 := by
  induction dirs with
  | nil => cases failed
  | cons dir rest ih =>
    unfold ensureDirsLoop at failed ⊢
    rcases ran : ensureDir host uname dir with ⟨_ | ⟨⟩, calls⟩
    · rw [ran] at failed
      cases failed
      exact ⟨[], dir, rest, rfl, by simp, by rw [ran], by simp [ran]⟩
    · rw [ran] at failed
      obtain ⟨done, bad, later, rfl, passed, badFailed, trace⟩ := ih failed
      refine ⟨dir :: done, bad, later, rfl, ?_, badFailed, ?_⟩
      · simpa [ran] using passed
      · simp [ran, trace]

theorem ensureDirPassedMkdir {host : DirHost} {uname dir : String} (passed : (ensureDir host uname dir).1 = .ok ()) :
    host.mkdirAll dir = .ok () := by
  unfold ensureDir at passed
  split at passed
  · cases passed
  · assumption

theorem ensureDirMkdirFailed {host : DirHost} {uname dir err : String} (failed : host.mkdirAll dir = .error err) :
    (ensureDir host uname dir).1 = .error ("failed to create bin directory: " ++ err) := by
  simp [ensureDir, failed]

/-- `ensureDirs` goes through bin, data, env and run in that order and returns at the first
failure: the directories made before it stay, the calls after it are not made, and a
failed `MkdirAll` of any of the four is reported as the bin directory's. -/
theorem ensureDirsStopsAtFailure (host : DirHost) (cfg : Config) (sn uname : String) {e : String}
    (failed : (ensureDirs host cfg sn uname).1 = .error e) :
    ∃ done dir later, serviceDirs cfg sn = done ++ dir :: later ∧ (∀ d ∈ done, host.mkdirAll d = .ok ()) ∧
      (ensureDirs host cfg sn uname).2 = done.flatMap (fun d => (ensureDir host uname d).2) ++ (ensureDir host uname dir).2 ∧
      ∀ err, host.mkdirAll dir = .error err → e = "failed to create bin directory: " ++ err := by
  obtain ⟨done, dir, later, split, passed, dirFailed, trace⟩ := ensureDirsLoopFailed host uname failed
  refine ⟨done, dir, later, split, fun d mem => ensureDirPassedMkdir (passed d mem), trace, fun err mkdir => ?_⟩
  rw [ensureDirMkdirFailed mkdir] at dirFailed
  cases dirFailed
  rfl

def readOnlyData : DirHost where
  mkdirAll dir := if dir = "/srv/app/data" then .error "read-only file system" else .ok ()
  lookup _ := .ok ("1000", "1000")
  atoi _ := .ok 1000
  chown _ _ _ := .ok ()

theorem dataFailureNamesBin :
    (ensureDirs readOnlyData ⟨"/srv", "/mnt", "127.0.0.1:0"⟩ "app" "deploy").1 =
        .error "failed to create bin directory: read-only file system" ∧
      ∃ done dir later, serviceDirs ⟨"/srv", "/mnt", "127.0.0.1:0"⟩ "app" = done ++ dir :: later ∧
        (∀ d ∈ done, readOnlyData.mkdirAll d = .ok ()) ∧
        (ensureDirs readOnlyData ⟨"/srv", "/mnt", "127.0.0.1:0"⟩ "app" "deploy").2 =
          done.flatMap (fun d => (ensureDir readOnlyData "deploy" d).2) ++ (ensureDir readOnlyData "deploy" dir).2 ∧
        ∀ err, readOnlyData.mkdirAll dir = .error err →
          "failed to create bin directory: read-only file system" = "failed to create bin directory: " ++ err := by
  have failed : (ensureDirs readOnlyData ⟨"/srv", "/mnt", "127.0.0.1:0"⟩ "app" "deploy").1 =
      .error "failed to create bin directory: read-only file system" := rfl
  exact ⟨failed, ensureDirsStopsAtFailure readOnlyData _ "app" "deploy" failed⟩

/-- `Server.serviceView`. -/
def serviceView (d : Data) (sn : String) : Except String Service :=
  match d.services.lookup sn with
  | some sv => .ok sv
  | none => .error "service not found"

/-- `Server.serviceAndUser`: the SSH user is `service` or `user@service`; the result is
the pair (service, user). -/
def serviceAndUser (connUser : String) : Except String (String × String) :=
  if connUser = "" then .error "empty user" else
  match Strings.cut connUser '@' with
  | (_, _, false) => .ok (connUser, "")
  | (user, service, true) =>
      if Strings.contains service '@' then .error ("invalid user: \"" ++ connUser ++ "\"")
      else .ok (service, user)

end Yeet.Catch
