import Yeet.Client.Main
import Yeet.Ftdetect.Detect

/-! What `yeet run <svc> <payload> [args...]` does with its payload, `runRun`: a file is
classified with `ftdetect.DetectFile` for the remote's platform, uploaded with `scp` and
committed; anything else is tried as a local docker image. Each call the client makes to
the remote or to docker is a step whose outcome the host gives; `os.Stat` and the
remote's `GOOS` and `GOARCH` are outcomes too. What the client prints is left out. -/
namespace Yeet.Client
open Yeet.Ftdetect

/-- What `os.Stat` finds at a path, with the bytes of a regular file. -/
inductive Stat where
  | notExist
  | dir
  | file (bytes : Bytes)
  | failed (e : String)

inductive Step where
  /-- `remoteCatchOSAndArch`: `ssh catch version --json`. -/
  | catchVersion
  | pushAllLocalImages (svc : String)
  /-- `stageFile`: `scp <file> <svc>@<host>:stage`. -/
  | stageFile (svc file : String)
  /-- `ssh -tq <svc>@<host> stage <args...>`. -/
  | sshStage (svc : String) (args : List String)
  | pushImage (svc image : String)
  deriving DecidableEq, Repr

/-- The client's machine and the remote as `runRun` meets them. -/
structure RunHost where
  stat : String → Stat
  /-- The remote's `GOOS` and `GOARCH`, as `catch version --json` reports them. -/
  remotePlatform : Except String (String × String)
  step : Step → Except String Unit
  imageExists : String → Bool
  parsers : Parsers

def andThen (host : RunHost) (step : Step) (failure : String → String)
    (rest : Except String Bool × List Step) : Except String Bool × List Step :=
  match host.step step with
  | .error e => (.error (failure e), [step])
  | .ok () => match rest with | (r, steps) => (r, step :: steps)

/-- The tail `tryRunFile` and `tryRunDocker` share: `stage <args...>` when there are
arguments, then `stage commit`. -/
def stageAndCommit (host : RunHost) (svc : String) (args : List String) : Except String Bool × List Step :=
  let commit := andThen host (.sshStage svc ["commit"]) (fun _ => "failed to run service") (.ok true, [])
  if args = [] then commit else andThen host (.sshStage svc args) ("failed to stage args: " ++ ·) commit

/-- The part of `tryRunFile` after `detect`: a compose file's local images are pushed
first, then the file is uploaded and committed. -/
def deployFile (host : RunHost) (svc file : String) (args : List String) (ft : FileType) :
    Except String Bool × List Step :=
  let stage := andThen host (.stageFile svc file) ("failed to stage file: " ++ ·) (stageAndCommit host svc args)
  if ft = .dockerCompose then andThen host (.pushAllLocalImages svc) ("failed to push all local images: " ++ ·) stage
  else stage

/-- `tryRunFile`; the file is opened without error once `os.Stat` found it. -/
def tryRunFile (host : RunHost) (svc file : String) (args : List String) : Except String Bool × List Step :=
  match host.stat file with
  | .notExist => (.ok false, [])
  | .dir => (.ok false, [])
  | .failed e => (.error e, [])
  | .file bytes =>
      match host.remotePlatform with
      | .error e => (.error e, [.catchVersion])
      | .ok (goos, goarch) =>
          match detect host.parsers ⟨bytes, goos, goarch⟩ with
          | .error e => (.error ("failed to detect file type: " ++ e), [.catchVersion])
          | .ok ft => ((deployFile host svc file args ft).1, .catchVersion :: (deployFile host svc file args ft).2)

/-- `tryRunDocker`, which pushes the image as `latest`. -/
def tryRunDocker (host : RunHost) (svc image : String) (args : List String) : Except String Bool × List Step :=
  if !host.imageExists image then (.ok false, []) else
  andThen host (.pushImage svc image) ("failed to push image: " ++ ·) (stageAndCommit host svc args)

/-- `runRun`. -/
def runRun (host : RunHost) (svc payload : String) (args : List String) : Except String Unit × List Step :=
  match tryRunFile host svc payload args with
  | (.error e, steps) => (.error e, steps)
  | (.ok true, steps) => (.ok (), steps)
  | (.ok false, steps) =>
      match tryRunDocker host svc payload args with
      | (.error e, more) => (.error e, steps ++ more)
      | (.ok true, more) => (.ok (), steps ++ more)
      | (.ok false, more) => (.error ("unknown payload: " ++ payload), steps ++ more)

/-! ### What a run of a file can do -/

theorem andThenSteps {host : RunHost} {step : Step} {failure : String → String}
    {rest : Except String Bool × List Step} {s : Step} (mem : s ∈ (andThen host step failure rest).2) :
    s = step ∨ host.step step = .ok () ∧ s ∈ rest.2 := by
  unfold andThen at mem
  split at mem
  · exact .inl (List.mem_singleton.mp mem)
  · rename_i ran
    exact (List.mem_cons.mp mem).imp id fun later => ⟨ran, later⟩

theorem andThenResult {host : RunHost} {step : Step} {failure : String → String}
    {rest : Except String Bool × List Step} {b : Bool} (ok : (andThen host step failure rest).1 = .ok b) :
    host.step step = .ok () ∧ rest.1 = .ok b := by
  unfold andThen at ok
  split at ok
  · cases ok
  · exact ⟨‹_›, ok⟩

theorem stageAndCommitSteps {host : RunHost} {svc : String} {args : List String} {s : Step}
    (mem : s ∈ (stageAndCommit host svc args).2) : ∃ rest, s = .sshStage svc rest := by
  unfold stageAndCommit at mem
  split_ifs at mem
  · rcases andThenSteps mem with same | ⟨-, none⟩
    · exact ⟨_, same⟩
    · cases none
  · rcases andThenSteps mem with same | ⟨-, later⟩
    · exact ⟨_, same⟩
    · rcases andThenSteps later with same | ⟨-, none⟩
      · exact ⟨_, same⟩
      · cases none

theorem stageAndCommitResult {host : RunHost} {svc : String} {args : List String} {b : Bool}
    (ok : (stageAndCommit host svc args).1 = .ok b) : b = true := by
  unfold stageAndCommit at ok
  split_ifs at ok
  · exact Except.ok.inj (andThenResult ok).2.symm
  · exact Except.ok.inj (andThenResult (andThenResult ok).2).2.symm

theorem deployFileSteps {host : RunHost} {svc file : String} {args : List String} {ft : FileType} {s : Step}
    (mem : s ∈ (deployFile host svc file args ft).2) :
    s = .pushAllLocalImages svc ∨ s = .stageFile svc file ∨
      host.step (.stageFile svc file) = .ok () ∧ ∃ rest, s = .sshStage svc rest := by
  have staged : ∀ {s}, s ∈ (andThen host (.stageFile svc file) ("failed to stage file: " ++ ·)
      (stageAndCommit host svc args)).2 → s = .stageFile svc file ∨
        host.step (.stageFile svc file) = .ok () ∧ ∃ rest, s = .sshStage svc rest := fun mem =>
    (andThenSteps mem).imp id fun ⟨ran, later⟩ => ⟨ran, stageAndCommitSteps later⟩
  unfold deployFile at mem
  split_ifs at mem
  · rcases andThenSteps mem with pushed | ⟨-, later⟩
    · exact .inl pushed
    · exact .inr (staged later)
  · exact .inr (staged mem)

theorem deployFileResult {host : RunHost} {svc file : String} {args : List String} {ft : FileType} :
    (deployFile host svc file args ft).1 ≠ .ok false := fun no => by
  unfold deployFile at no
  split_ifs at no
  · exact absurd (stageAndCommitResult (andThenResult (andThenResult no).2).2) (by decide)
  · exact absurd (stageAndCommitResult (andThenResult no).2) (by decide)

theorem tryRunFileSteps {host : RunHost} {svc payload : String} {args : List String} {bytes : Bytes}
    (isFile : host.stat payload = .file bytes) :
    (tryRunFile host svc payload args).1 ≠ .ok false ∧
      ∀ s ∈ (tryRunFile host svc payload args).2, s = .catchVersion ∨
        (∃ goos goarch t, host.remotePlatform = .ok (goos, goarch) ∧ detect host.parsers ⟨bytes, goos, goarch⟩ = .ok t) ∧
          (s = .pushAllLocalImages svc ∨ s = .stageFile svc payload ∨
            host.step (.stageFile svc payload) = .ok () ∧ ∃ rest, s = .sshStage svc rest) := by
  unfold tryRunFile
  rw [isFile]
  dsimp only
  split
  · exact ⟨by simp, fun s mem => .inl (List.mem_singleton.mp mem)⟩
  · rename_i goos goarch platform
    split
    · exact ⟨by simp, fun s mem => .inl (List.mem_singleton.mp mem)⟩
    · rename_i ft detected
      refine ⟨deployFileResult, fun s mem => ?_⟩
      rcases List.mem_cons.mp mem with asked | deployed
      · exact .inl asked
      · exact .inr ⟨⟨goos, goarch, ft, platform, detected⟩, deployFileSteps deployed⟩

/-- `yeet run` of a regular file never falls back to docker: no image is pushed. The file
is uploaded only once the remote reported its platform and `detect` classified the file for
it (so never a file `detect` rejects, such as a binary for another architecture or a file of
fewer than four bytes), and the service is committed only after the upload succeeded. -/
theorem fileRunGated (host : RunHost) (svc payload : String) (args : List String) {bytes : Bytes}
    (isFile : host.stat payload = .file bytes) :
    (∀ svc' image, Step.pushImage svc' image ∉ (runRun host svc payload args).2) ∧
      (Step.stageFile svc payload ∈ (runRun host svc payload args).2 →
        ∃ goos goarch t, host.remotePlatform = .ok (goos, goarch) ∧ detect host.parsers ⟨bytes, goos, goarch⟩ = .ok t) ∧
      (Step.sshStage svc ["commit"] ∈ (runRun host svc payload args).2 → host.step (.stageFile svc payload) = .ok ()) := by
  obtain ⟨notFalse, steps⟩ := @tryRunFileSteps host svc payload args bytes isFile
  have same : (runRun host svc payload args).2 = (tryRunFile host svc payload args).2 := by
    unfold runRun
    split <;> rename_i ran
    · rw [ran]
    · rw [ran]
    · rw [ran] at notFalse
      exact absurd rfl notFalse
  rw [same]
  refine ⟨fun svc' image mem => ?_, fun mem => ?_, fun mem => ?_⟩
  · rcases steps _ mem with no | ⟨-, no | no | ⟨-, rest, no⟩⟩ <;> cases no
  · rcases steps _ mem with no | ⟨found, -⟩
    · cases no
    · exact found
  · rcases steps _ mem with no | ⟨-, no | no | ⟨ran, -⟩⟩
    · cases no
    · cases no
    · cases no
    · exact ran

def crossArchHost : RunHost :=
  ⟨fun _ => .file [0x7f, 0x45, 0x4c, 0x46], .ok ("linux", "arm64"), fun _ => .ok (), fun _ => true, magicOnlyParsers⟩

theorem crossArchNotDeployed :
    crossArchHost.stat "app" = .file [0x7f, 0x45, 0x4c, 0x46] ∧
      (runRun crossArchHost "app" "app" []).2 = [.catchVersion] ∧
      (∀ svc' image, Step.pushImage svc' image ∉ (runRun crossArchHost "app" "app" []).2) ∧
      (Step.stageFile "app" "app" ∈ (runRun crossArchHost "app" "app" []).2 →
        ∃ goos goarch t, crossArchHost.remotePlatform = .ok (goos, goarch) ∧
          detect crossArchHost.parsers ⟨[0x7f, 0x45, 0x4c, 0x46], goos, goarch⟩ = .ok t) ∧
      (Step.sshStage "app" ["commit"] ∈ (runRun crossArchHost "app" "app" []).2 →
        crossArchHost.step (.stageFile "app" "app") = .ok ()) :=
  ⟨rfl, rfl, fileRunGated crossArchHost "app" "app" [] rfl⟩

end Yeet.Client
