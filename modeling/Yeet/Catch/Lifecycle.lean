import Yeet.Db.Data
import Yeet.Catch.Server
import Yeet.Catch.EditUnits

/-! The lifecycle handlers that commit a change and then run a fallible step:
`rollbackCmdFunc`, `editCmdFunc` with `--config` and with unit edits, `mountCmdFunc`,
`umountCmdFunc` and `Server.RemoveService`. The world is the state document and the paths
on the host. Each call into code that is not among the sources (the installer, the
mounter, the tailscale API, the supervisor, the operator's editor) is an outcome the
handler is given. -/
namespace Yeet.Catch
open Yeet.Db

structure World where
  db : Data
  files : List String

/-- What `tailscale.Client.DeleteDevice` returns. -/
inductive DeviceDeletion where
  | deleted
  | notFound
  | failed (e : String)
  deriving DecidableEq, Repr

/-- Outcomes of the calls the handlers make outside the sources. -/
structure Outcomes where
  /-- The Store's write of the document (`Set`, `MutateService`, `MutateData`). -/
  store : Bool
  newInstaller : Except String Unit
  installGen : Int → Except String Unit
  install : Except String Unit
  /-- A `FileInstaller` fed the edited file and closed. -/
  fileInstall : Except String Unit
  mount : Except String Unit
  umount : Except String Unit
  /-- `os.Stat("/sbin/mount.<type>")`. -/
  mounter : String → Bool
  isServiceRunning : Except String Bool
  removeAll : String → Bool
  tsClient : Except String Unit
  deleteDevice : DeviceDeletion
  copyFile : String → Bool
  /-- `fileutil.UpdateVersion`, the path of a unit's next version. -/
  updateVersion : String → String

/-- Modelled from the spec: `Artifacts.Latest(name)`, the file the artifact's `staged` ref
names. -/
def latest (artifacts : GoMap String Artifact) (name : String) : Option String :=
  (artifacts.lookup name).bind (·.refs.lookup "staged")

/-- `Store.MutateService` with its write of the document. -/
def mutateService (io : Outcomes) (d : Data) (name : String) (fn : Service → Except String Service) :
    Except String (Data × Service) :=
  match d.mutateService name fn with
  | .ok r => if io.store then .ok r else .error "failed to write db"
  | .error e => .error e

/-- The function `rollbackCmdFunc` hands to `MutateService`. -/
def rollbackGeneration (maxGenerations : Int) (s : Service) : Except String Service :=
  if s.generation = 0 then .error "no generation to rollback" else
  let minG := s.latestGeneration - maxGenerations
  let gen := s.generation - 1
  if gen < minG then
    .error ("generation " ++ toString gen ++ " is too old, earliest rollback is " ++ toString minG)
  else if gen = 0 then
    .error ("generation " ++ toString s.generation ++ " is the oldest, cannot rollback")
  else .ok { s with generation := gen }

/-- `ttyExecer.rollbackCmdFunc`; `maxGenerations` is the retention constant. -/
def rollbackCmdFunc (io : Outcomes) (maxGenerations : Int) (sn : String) (w : World) :
    Except String Unit × World :=
  match mutateService io w.db sn (rollbackGeneration maxGenerations) with
  | .error e => (.error ("failed to rollback service: " ++ e), w)
  | .ok (d, s) =>
      match io.newInstaller with
      | .error e => (.error ("failed to create installer: " ++ e), { w with db := d })
      | .ok () => (io.installGen s.generation, { w with db := d })

/-- What the operator's session in `e.editFile` comes back with, after the handler's
temporary copies: an error, a file identical to the original, or the edited text. -/
inductive EditSession where
  | failed (e : String)
  | unchanged
  | edited (content : String)

/-- The unit artifacts `editCmdFunc` puts in one buffer, in this order. -/
def editedUnitNames : List String := [ArtifactSystemdUnit, ArtifactSystemdTimerFile]

/-- The units of the buffer that are edited: those whose latest file exists. -/
def unitsBeingEdited (artifacts : GoMap String Artifact) : List String :=
  editedUnitNames.filterMap (latest artifacts)

/-- The loop over the edited sections: each is written to the next version of its unit's
latest file. It returns the new path of each unit and the host's paths after the copies,
or the first error with the paths copied so far. -/
def copyUnits (io : Outcomes) (artifacts : GoMap String Artifact) :
    List (String × String) → List String → Except String (List (String × String)) × List String
  | [], files => (.ok [], files)
  | (name, _) :: sections, files =>
      match latest artifacts name with
      | none => (.error ("no unit file found for \"" ++ name ++ "\""), files)
      | some p =>
          let binPath := io.updateVersion p
          if io.copyFile binPath then
            match copyUnits io artifacts sections (files.insert binPath) with
            | (.ok paths, files) => (.ok ((name, binPath) :: paths), files)
            | (.error e, files) => (.error e, files)
          else (.error "failed to copy temp file to binary path", files)

/-- `s.Artifacts[name].Refs["staged"] = path` for each edited unit. -/
def stageUnits (paths : List (String × String)) (s : Service) : Service :=
  paths.foldl (fun s entry =>
    match s.artifacts.lookup entry.1 with
    | some a => { s with artifacts := s.artifacts.insert entry.1 ⟨a.refs.insert "staged" entry.2⟩ }
    | none => s) s

/-- The `--config` branch of `editCmdFunc` once the operator changed the file:
`json.Unmarshal` of the edited text, the whole service replaced, then `InstallGen`. -/
def commitConfig (io : Outcomes) (parseService : String → Except String Service) (sn content : String)
    (w : World) : Except String Unit × World :=
  match parseService content with
  | .error e => (.error ("failed to unmarshal temp file: " ++ e), w)
  | .ok s2 =>
      match mutateService io w.db sn (fun _ => .ok s2) with
      | .error e => (.error ("failed to update service: " ++ e), w)
      | .ok (d, _) =>
          match io.newInstaller with
          | .error e => (.error ("failed to create installer: " ++ e), { w with db := d })
          | .ok () => (io.installGen s2.generation, { w with db := d })

/-- The unit-edit branch of `editCmdFunc` once the operator changed the buffer: the buffer
is cut into units, each copied to a new version, the `staged` refs moved, then `Install`. -/
def commitUnits (io : Outcomes) (sn content : String) (artifacts : GoMap String Artifact)
    (w : World) : Except String Unit × World :=
  match EditUnits.parseSections content (unitsBeingEdited artifacts).length with
  | .error e => (.error e, w)
  | .ok sections =>
      match copyUnits io artifacts sections w.files with
      | (.error e, files) => (.error e, { w with files })
      | (.ok paths, files) =>
          match mutateService io w.db sn (fun s => .ok (stageUnits paths s)) with
          | .error e => (.error ("failed to update artifacts: " ++ e), { w with files })
          | .ok (d, _) =>
              match io.newInstaller with
              | .error e => (.error ("failed to create installer: " ++ e), ⟨d, files⟩)
              | .ok () => (io.install, ⟨d, files⟩)

/-- `ttyExecer.editCmdFunc` with its `--env` and `--config` flags. -/
def editCmdFunc (io : Outcomes) (parseService : String → Except String Service) (sn : String)
    (editEnv editConfig : Bool) (session : EditSession) (w : World) : Except String Unit × World :=
  match w.db.services.lookup sn with
  | none => (.error "service not found", w)
  | some sv =>
      if !editEnv ∧ !editConfig ∧ sv.serviceType = .systemd ∧ sv.artifacts.entries = [] then
        (.error "no unit files found", w) else
      match session with
      | .failed e => (.error e, w)
      | .unchanged => (.ok (), w)
      | .edited content =>
          if editConfig then commitConfig io parseService sn content w else
          match sv.serviceType with
          | .dockerCompose => (io.fileInstall, w)
          | .systemd => if editEnv then (io.fileInstall, w) else commitUnits io sn content sv.artifacts w
          | .unset => (.error "unsupported service type: ", w)

/-- `mountCmdFunc` with arguments: `host:path [name]`, the `--type`, `--opts` and `--deps`
flags. -/
def mountCmdFunc (io : Outcomes) (cfg : Config) (args : List String) (mountType opts : String)
    (deps : List String) (w : World) : Except String Unit × World :=
  match args with
  | [] => (.ok (), w)
  | source :: rest =>
      if rest.length > 1 then (.error "invalid number of arguments", w) else
      match Strings.cut source ':' with
      | (_, _, false) => (.error ("source \"" ++ source ++ "\" must be in the format host:path"), w)
      | (_, srcPath, true) =>
          let mountName := rest.headD (Filepath.base srcPath)
          if Strings.contains mountName '/' then (.error "target cannot contain a /", w) else
          if !io.mounter mountType then
            (.error ("mount command \"/sbin/mount." ++ mountType ++ "\" not found"), w) else
          let target := Filepath.join [cfg.mountsRoot, mountName]
          if (w.db.volumes.lookup mountName).isSome then
            (.error ("volume \"" ++ mountName ++ "\" already exists; please remove it first"), w) else
          let vol : Volume := ⟨mountName, source, target, mountType, opts, " ".intercalate deps⟩
          if !io.store then (.error "failed to save data", w) else
          let w := { w with db := { w.db with volumes := w.db.volumes.insert mountName vol } }
          match io.mount with
          | .error e => (.error ("failed to mount " ++ source ++ " at " ++ target ++ ": " ++ e), w)
          | .ok () => (.ok (), w)

/-- `umountCmdFunc`. -/
def umountCmdFunc (io : Outcomes) (args : List String) (w : World) : Except String Unit × World :=
  match args with
  | [mountName] =>
      match w.db.volumes.lookup mountName with
      | none => (.error ("volume \"" ++ mountName ++ "\" not found"), w)
      | some vol =>
          match io.umount with
          | .error e => (.error ("failed to umount " ++ vol.path ++ ": " ++ e), w)
          | .ok () =>
              if !io.store then (.error "failed to save data", w)
              else (.ok (), { w with db := { w.db with volumes := w.db.volumes.erase mountName } })
  | _ => (.error "invalid number of arguments", w)

/-- `filepath.Glob(dir/*)`: the paths directly below `dir`. -/
def glob (dir : String) (files : List String) : List String :=
  files.filter fun p =>
    match Strings.cutPrefix p (dir ++ "/") with
    | (rest, true) => rest ≠ "" ∧ !Strings.contains rest '/'
    | (_, false) => false

/-- `os.RemoveAll(dir)`. -/
def removeAll (dir : String) (files : List String) : List String :=
  files.filter fun p => !(p = dir ∨ Strings.hasPrefix p (dir ++ "/"))

/-- The loop of `RemoveService` over the service's directories, `data` skipped; it stops at
the first that cannot be removed. -/
def removeDirs (io : Outcomes) : List String → List String → Except String Unit × List String
  | [], files => (.ok (), files)
  | dir :: dirs, files =>
      if Filepath.base dir = "data" then removeDirs io dirs files
      else if io.removeAll dir then removeDirs io dirs (removeAll dir files)
      else (.error "failed to remove service directory", files)

/-- The tailscale step of `RemoveService`: the service's device is deleted when it has a
stable ID; a device the API does not know is only logged. -/
def deleteDevice (io : Outcomes) (sv : Option Service) : Except String Unit :=
  match sv.bind (·.tsNet) with
  | some ts =>
      if ts.stableId = "" then .ok () else
      match io.tsClient with
      | .error e => .error ("failed to get tailscale client: " ++ e)
      | .ok () =>
          match io.deleteDevice with
          | .failed e => .error ("failed to delete tailscale device: " ++ e)
          | _ => .ok ()
  | none => .ok ()

/-- `Server.RemoveService`. -/
def removeService (io : Outcomes) (cfg : Config) (name : String) (w : World) :
    Except String Unit × World :=
  match io.isServiceRunning with
  | .ok true => (.error "service is not stopped", w)
  | _ =>
      match removeDirs io (glob (Filepath.join [cfg.servicesRoot, name]) w.files) w.files with
      | (.error e, files) => (.error e, { w with files })
      | (.ok (), files) =>
          match deleteDevice io (w.db.services.lookup name) with
          | .error e => (.error e, { w with files })
          | .ok () =>
              if !io.store then (.error "failed to remove service from db", { w with files })
              else (.ok (), ⟨{ w.db with services := w.db.services.erase name }, files⟩)

/-! ### What each handler leaves behind -/

theorem mutateServiceStored {io : Outcomes} {d : Data} {name : String}
    {fn : Service → Except String Service} {r : Data × Service}
    (ok : mutateService io d name fn = .ok r) : d.mutateService name fn = .ok r := by
  unfold mutateService at ok
  split at ok
  · split at ok <;> simp_all
  · cases ok

theorem rollbackCmdFuncCommit (io : Outcomes) (maxGenerations : Int) (sn : String) (w : World) :
    (∀ d s, mutateService io w.db sn (rollbackGeneration maxGenerations) = .ok (d, s) →
      (rollbackCmdFunc io maxGenerations sn w).2 = { w with db := d }) ∧
    ∀ e, mutateService io w.db sn (rollbackGeneration maxGenerations) = .error e →
      (rollbackCmdFunc io maxGenerations sn w).2 = w := by
  refine ⟨fun d s stored => ?_, fun e fails => ?_⟩ <;> unfold rollbackCmdFunc
  · rw [stored]
    dsimp only
    split <;> rfl
  · rw [fails]

theorem rollbackCmdFuncWorld (io : Outcomes) (maxGenerations : Int) (sn : String) (w : World) :
    (rollbackCmdFunc io maxGenerations sn w).2 = w ∨
      ∃ d s, w.db.mutateService sn (rollbackGeneration maxGenerations) = .ok (d, s) ∧
        (rollbackCmdFunc io maxGenerations sn w).2 = { w with db := d } := by
  obtain ⟨committed, failed⟩ := rollbackCmdFuncCommit io maxGenerations sn w
  rcases stored : mutateService io w.db sn (rollbackGeneration maxGenerations) with e | ⟨d, s⟩
  · exact .inl (failed e stored)
  · exact .inr ⟨d, s, mutateServiceStored stored, committed d s stored⟩

theorem commitConfigCommit (io : Outcomes) (parseService : String → Except String Service)
    (sn content : String) (w : World) :
    (∀ s2, parseService content = .ok s2 → (commitConfig io parseService sn content w).2 =
      if io.store then { w with db := { w.db with services := w.db.services.insert sn s2 } } else w) ∧
    ∀ e, parseService content = .error e → (commitConfig io parseService sn content w).2 = w := by
  refine ⟨fun s2 parsed => ?_, fun e fails => ?_⟩ <;> unfold commitConfig
  · rw [parsed]
    cases store : io.store
    · simp only [mutateService, Data.mutateService, store, Bool.false_eq_true, if_false]
    · simp only [mutateService, Data.mutateService, store, if_true]
      split <;> rfl
  · rw [fails]

theorem commitConfigWorld (io : Outcomes) (parseService : String → Except String Service)
    (sn content : String) (w : World) :
    (commitConfig io parseService sn content w).2 = w ∨
      ∃ s2, parseService content = .ok s2 ∧
        (commitConfig io parseService sn content w).2 =
          { w with db := { w.db with services := w.db.services.insert sn s2 } } := by
  obtain ⟨written, failed⟩ := commitConfigCommit io parseService sn content w
  rcases parsed : parseService content with e | s2
  · exact .inl (failed e parsed)
  · rw [written s2 parsed]
    split
    · exact .inr ⟨s2, rfl, rfl⟩
    · exact .inl rfl

theorem copyUnitsKeepsFiles (io : Outcomes) (artifacts : GoMap String Artifact)
    (sections : List (String × String)) (files : List String) :
    files ⊆ (copyUnits io artifacts sections files).2 := by
  induction sections generalizing files with
  | nil => exact List.Subset.refl _
  | cons part sections ih =>
    obtain ⟨name, text⟩ := part
    unfold copyUnits
    split
    · exact List.Subset.refl _
    · rename_i path _
      dsimp only
      split
      · have grown : files ⊆ (copyUnits io artifacts sections (files.insert (io.updateVersion path))).2 :=
          fun _ kept => ih _ (List.mem_insert_of_mem kept)
        split <;> simp_all
      · exact List.Subset.refl _

theorem commitUnitsWorld (io : Outcomes) (sn content : String) (artifacts : GoMap String Artifact)
    (w : World) :
    w.files ⊆ (commitUnits io sn content artifacts w).2.files ∧
      ((commitUnits io sn content artifacts w).2.db = w.db ∨
        ∃ paths d s, w.db.mutateService sn (fun s => .ok (stageUnits paths s)) = .ok (d, s) ∧
          (commitUnits io sn content artifacts w).2.db = d) := by
  unfold commitUnits
  split
  · exact ⟨List.Subset.refl _, .inl rfl⟩
  · rename_i sections _
    have kept := copyUnitsKeepsFiles io artifacts sections w.files
    split
    · rename_i copied
      exact ⟨by simpa [copied] using kept, .inl rfl⟩
    · rename_i paths files copied
      rw [copied] at kept
      split
      · exact ⟨kept, .inl rfl⟩
      · rename_i d s stored
        exact ⟨by split <;> exact kept,
          .inr ⟨paths, d, s, mutateServiceStored stored, by split <;> rfl⟩⟩

theorem commitUnitsCommit (io : Outcomes) (sn content : String) (artifacts : GoMap String Artifact)
    (w : World) (sections : List (String × String))
    (parsed : EditUnits.parseSections content (unitsBeingEdited artifacts).length = .ok sections) :
    (commitUnits io sn content artifacts w).2.files = (copyUnits io artifacts sections w.files).2 ∧
    ∀ paths d s, (copyUnits io artifacts sections w.files).1 = .ok paths →
      mutateService io w.db sn (fun s => .ok (stageUnits paths s)) = .ok (d, s) →
      (commitUnits io sn content artifacts w).2.db = d := by
  unfold commitUnits
  rw [parsed]
  dsimp only
  rcases copyUnits io artifacts sections w.files with ⟨_ | paths, files⟩
  · exact ⟨rfl, fun _ _ _ copied => by cases copied⟩
  · refine ⟨?_, fun _ d s copied stored => ?_⟩
    · dsimp only
      split <;> (try split) <;> rfl
    · cases copied
      dsimp only
      rw [stored]
      dsimp only
      split <;> rfl

theorem editCmdFuncWorld (io : Outcomes) (parseService : String → Except String Service)
    (sn : String) (editEnv editConfig : Bool) (session : EditSession) (w : World) :
    (editCmdFunc io parseService sn editEnv editConfig session w).2 = w ∨
      (∃ content, editConfig ∧ (editCmdFunc io parseService sn editEnv editConfig session w).2 =
          (commitConfig io parseService sn content w).2) ∨
      ∃ content artifacts, (editCmdFunc io parseService sn editEnv editConfig session w).2 =
          (commitUnits io sn content artifacts w).2 := by
  generalize result : editCmdFunc io parseService sn editEnv editConfig session w = r
  unfold editCmdFunc at result
  repeat' split at result
  all_goals subst result
  all_goals first | exact .inl rfl | exact .inr (.inl ⟨_, ‹_›, rfl⟩) | exact .inr (.inr ⟨_, _, rfl⟩)

theorem mountCmdFuncWorld (io : Outcomes) (cfg : Config) (args : List String)
    (mountType opts : String) (deps : List String) (w : World) :
    (mountCmdFunc io cfg args mountType opts deps w).2 = w ∨
      ∃ vol : Volume, (mountCmdFunc io cfg args mountType opts deps w).2 =
        { w with db := { w.db with volumes := w.db.volumes.insert vol.name vol } } := by
  generalize result : mountCmdFunc io cfg args mountType opts deps w = r
  unfold mountCmdFunc at result
  dsimp only at result
  repeat' split at result
  all_goals subst result; first | exact .inl rfl | exact .inr ⟨⟨_, _, _, _, _, _⟩, rfl⟩

theorem mountOutcomeIgnored (io : Outcomes) (cfg : Config) (args : List String)
    (mountType opts : String) (deps : List String) (w : World) (m : Except String Unit) :
    (mountCmdFunc { io with mount := m } cfg args mountType opts deps w).2 =
      (mountCmdFunc io cfg args mountType opts deps w).2 := by
  rcases args with _ | ⟨source, rest⟩
  · rfl
  simp only [mountCmdFunc]
  repeat' split
  all_goals rfl

theorem mountCmdFuncSaves (io : Outcomes) (cfg : Config) (args : List String)
    (mountType opts : String) (deps : List String) (w : World)
    (mounted : (mountCmdFunc io cfg args mountType opts deps w).1 = .ok ()) (nonEmpty : args ≠ []) :
    ∃ vol : Volume, (mountCmdFunc io cfg args mountType opts deps w).2 =
      { w with db := { w.db with volumes := w.db.volumes.insert vol.name vol } } := by
  generalize result : mountCmdFunc io cfg args mountType opts deps w = r at mounted ⊢
  unfold mountCmdFunc at result
  dsimp only at result
  repeat' split at result
  all_goals subst result; first | contradiction | exact ⟨⟨_, _, _, _, _, _⟩, rfl⟩

theorem umountCmdFuncFailure (io : Outcomes) (args : List String) (w : World) (e : String)
    (failed : (umountCmdFunc io args w).1 = .error e) : (umountCmdFunc io args w).2 = w := by
  unfold umountCmdFunc at failed ⊢
  repeat' split at failed
  all_goals simp_all

theorem removeDirsSublist (io : Outcomes) (dirs files : List String) :
    (removeDirs io dirs files).2.Sublist files := by
  induction dirs generalizing files with
  | nil => exact List.Sublist.refl _
  | cons dir dirs ih =>
    unfold removeDirs
    split
    · exact ih files
    · split
      · exact (ih _).trans (List.filter_sublist _)
      · exact List.Sublist.refl _

theorem removeServiceWorld (io : Outcomes) (cfg : Config) (name : String) (w : World) :
    (removeService io cfg name w).2.files.Sublist w.files ∧
      ((removeService io cfg name w).2.db = w.db ∨
        (removeService io cfg name w).1 = .ok () ∧
          (removeService io cfg name w).2.db = { w.db with services := w.db.services.erase name }) := by
  unfold removeService
  split
  · exact ⟨List.Sublist.refl _, .inl rfl⟩
  · have removed := removeDirsSublist io (glob (Filepath.join [cfg.servicesRoot, name]) w.files) w.files
    split
    · rename_i files h
      exact ⟨by simpa [h] using removed, .inl rfl⟩
    · rename_i files h
      rw [h] at removed
      split
      · exact ⟨removed, .inl rfl⟩
      · split
        · exact ⟨removed, .inl rfl⟩
        · exact ⟨removed, .inr ⟨rfl, rfl⟩⟩

theorem removeServiceKeepsRemoval (io : Outcomes) (cfg : Config) (name : String) (w : World)
    (notRunning : io.isServiceRunning ≠ .ok true) :
    (removeService io cfg name w).2.files =
      (removeDirs io (glob (Filepath.join [cfg.servicesRoot, name]) w.files) w.files).2 := by
  unfold removeService
  split
  · contradiction
  · generalize removeDirs io (glob (Filepath.join [cfg.servicesRoot, name]) w.files) w.files = r
    rcases r with ⟨_ | _, files⟩
    · rfl
    · dsimp only
      split <;> (try split) <;> rfl

/-- A lifecycle handler's world is decided by its commit, whatever it returns: a step that
fails after the commit does not undo it. Rollback and `edit --config` leave the document
their `MutateService` wrote; the unit edit leaves its copies and its staged refs; mount leaves
the volume it saved whatever the mount returns; `RemoveService` changes the document only when
it succeeds, but its removals stay; umount, which saves last, changes nothing when it fails. -/
theorem lifecycleCommits (io : Outcomes) (maxGenerations : Int)
    (parseService : String → Except String Service) (cfg : Config) (sn content : String)
    (artifacts : GoMap String Artifact) (args : List String) (mountType opts : String)
    (deps : List String) (w : World) :
    ((∀ d s, mutateService io w.db sn (rollbackGeneration maxGenerations) = .ok (d, s) →
        (rollbackCmdFunc io maxGenerations sn w).2 = { w with db := d }) ∧
      ∀ e, mutateService io w.db sn (rollbackGeneration maxGenerations) = .error e →
        (rollbackCmdFunc io maxGenerations sn w).2 = w) ∧
    ((∀ s2, parseService content = .ok s2 → (commitConfig io parseService sn content w).2 =
        if io.store then { w with db := { w.db with services := w.db.services.insert sn s2 } } else w) ∧
      ∀ e, parseService content = .error e → (commitConfig io parseService sn content w).2 = w) ∧
    (w.files ⊆ (commitUnits io sn content artifacts w).2.files ∧
      ((commitUnits io sn content artifacts w).2.db = w.db ∨
        ∃ paths d s, w.db.mutateService sn (fun s => .ok (stageUnits paths s)) = .ok (d, s) ∧
          (commitUnits io sn content artifacts w).2.db = d) ∧
      ∀ sections, EditUnits.parseSections content (unitsBeingEdited artifacts).length = .ok sections →
        (commitUnits io sn content artifacts w).2.files = (copyUnits io artifacts sections w.files).2 ∧
        ∀ paths d s, (copyUnits io artifacts sections w.files).1 = .ok paths →
          mutateService io w.db sn (fun s => .ok (stageUnits paths s)) = .ok (d, s) →
          (commitUnits io sn content artifacts w).2.db = d) ∧
    (((mountCmdFunc io cfg args mountType opts deps w).2 = w ∨
        ∃ vol : Volume, (mountCmdFunc io cfg args mountType opts deps w).2 =
          { w with db := { w.db with volumes := w.db.volumes.insert vol.name vol } }) ∧
      (∀ m, (mountCmdFunc { io with mount := m } cfg args mountType opts deps w).2 =
        (mountCmdFunc io cfg args mountType opts deps w).2) ∧
      ((mountCmdFunc io cfg args mountType opts deps w).1 = .ok () → args ≠ [] →
        ∃ vol : Volume, (mountCmdFunc io cfg args mountType opts deps w).2 =
          { w with db := { w.db with volumes := w.db.volumes.insert vol.name vol } })) ∧
    (∀ e, (umountCmdFunc io args w).1 = .error e → (umountCmdFunc io args w).2 = w) ∧
    ((removeService io cfg sn w).2.files.Sublist w.files ∧
      ((removeService io cfg sn w).2.db = w.db ∨
        (removeService io cfg sn w).1 = .ok () ∧
          (removeService io cfg sn w).2.db = { w.db with services := w.db.services.erase sn }) ∧
      (io.isServiceRunning ≠ .ok true → (removeService io cfg sn w).2.files =
        (removeDirs io (glob (Filepath.join [cfg.servicesRoot, sn]) w.files) w.files).2)) :=
  ⟨rollbackCmdFuncCommit io maxGenerations sn w, commitConfigCommit io parseService sn content w,
    ⟨(commitUnitsWorld io sn content artifacts w).1, (commitUnitsWorld io sn content artifacts w).2,
      commitUnitsCommit io sn content artifacts w⟩,
    ⟨mountCmdFuncWorld io cfg args mountType opts deps w,
      mountOutcomeIgnored io cfg args mountType opts deps w,
      mountCmdFuncSaves io cfg args mountType opts deps w⟩,
    umountCmdFuncFailure io args w,
    ⟨(removeServiceWorld io cfg sn w).1, (removeServiceWorld io cfg sn w).2,
      removeServiceKeepsRemoval io cfg sn w⟩⟩

def sampleOutcomes : Outcomes :=
  ⟨true, .ok (), fun _ => .ok (), .ok (), .ok (), .ok (), .ok (), fun _ => true, .ok false,
    fun _ => true, .ok (), .deleted, fun _ => true, fun p => p ++ ".1"⟩

def sampleWorld : World :=
  ⟨{ Data.empty with services := (∅ : GoMap String Service).insert "app" ⟨"app", .systemd, 2, 2, ∅, none⟩ },
    []⟩

/-- A rollback whose `InstallGen` fails still leaves the generation lowered. -/
theorem rollbackFailureKeepsGeneration :
    (rollbackCmdFunc { sampleOutcomes with installGen := fun _ => .error "unit failed" } 10 "app"
        sampleWorld).1 = .error "unit failed" ∧
      ((rollbackCmdFunc { sampleOutcomes with installGen := fun _ => .error "unit failed" } 10 "app"
        sampleWorld).2.db.services.lookup "app").map Service.generation = some 1 ∧
      (sampleWorld.db.services.lookup "app").map Service.generation = some 2 :=
  ⟨rfl, rfl, rfl⟩

end Yeet.Catch
