import Yeet.Catch.Server
import Yeet.Svc.DockerCompose

/-! The daemon's side of the registry, `containerRegistry`: the `ManifestHandler` and
`CallbackHandler` methods over the state document and the manifest files. Reads and
writes of the document and of `manifests/sha256/` are taken to succeed; their error
branches only log and return. The installers `SetManifest` starts are recorded, not run:
the installer is not among the sources. -/
namespace Yeet.Registry
open Yeet.Db Yeet.Catch Yeet.Svc

abbrev Blob := List UInt8

/-- `registry.Manifest`. -/
structure Manifest where
  contentType : String
  blob : Blob
  deriving DecidableEq, Repr

structure State where
  db : Data
  manifestFiles : GoMap String Blob
  deriving DecidableEq

def State.empty : State := ⟨Data.empty, ∅⟩

/-- The host: SHA-256 of a blob in lowercase hex, and `os.ReadFile`. -/
structure Host where
  sha256Hex : Blob → String
  readFile : String → Option String

/-- A `FileInstaller` that `SetManifest` starts: the service, whether it only stages, and
the compose file copied into it (`none` when reading the previous one failed and the
installer was failed). -/
structure InstallRun where
  serviceName : String
  stageOnly : Bool
  composeFile : Option String
  deriving DecidableEq, Repr

def composeTemplate (svcName image dataDir : String) : String :=
  "services:\n  " ++ svcName ++ ":\n    image: " ++ image ++
    "\n    restart: unless-stopped\n    volumes:\n      - " ++ dataDir ++ ":/data\n"

def storeManifest (host : Host) (b : Blob) (files : GoMap String Blob) :
    String × GoMap String Blob :=
  (host.sha256Hex b, files.insert (host.sha256Hex b) b)

/-- `ir.Refs[reference] = ...` for each of `references`. -/
def setRefs (references : List String) (entry : ImageManifest) (ir : ImageRepo) : ImageRepo :=
  references.foldl (fun ir reference => ⟨ir.refs.insert reference entry⟩) ir

/-- The refs a tag is stored under, and whether the push deploys. -/
def tagReferences (tag : String) : List String × Bool :=
  match tag with
  | "run" => (["run", "staged"], true)
  | "latest" => (["staged"], false)
  | _ => ([tag], false)

/-- The compose file `SetManifest` copies into the installer: the previous generation's
when there is one and it is not empty, else the template. -/
def composeFor (host : Host) (cfg : Config) (d : Data) (svcName repo : String) : Option String :=
  let template := composeTemplate svcName (InternalRegistryHost ++ "/" ++ repo) (serviceDataDir cfg svcName)
  match d.services.lookup svcName with
  | some svc =>
      if svc.generation > 0 then
        match gen svc.artifacts ArtifactDockerComposeFile (svc.generation - 1) with
        | some prevFile => (host.readFile prevFile).map fun c => if c = "" then template else c
        | none => some template
      else some template
  | none => some template

/-- The writes of a `SetManifest` call for a valid repo: the manifest file, and the refs
the tag is stored under. -/
def recordTag (host : Host) (repo tag : String) (manifest : Manifest) (st : State) : State :=
  let (mh, files) := storeManifest host manifest.blob st.manifestFiles
  let ir := setRefs (tagReferences tag).1 ⟨manifest.contentType, mh⟩
    ((st.db.images.lookup repo).getD ⟨∅⟩)
  ⟨{ st.db with images := st.db.images.insert repo ir }, files⟩

/-- `containerRegistry.SetManifest`. -/
def setManifest (host : Host) (cfg : Config) (repo tag : String) (manifest : Manifest)
    (st : State) : State × List InstallRun :=
  if Strings.count repo '/' ≠ 1 then (st, []) else
  match Strings.cut repo '/' with
  | (_, _, false) => (st, [])
  | (svcName, container, true) =>
      if Strings.contains container '/' then (st, []) else
      (recordTag host repo tag manifest st,
        [⟨svcName, !(tagReferences tag).2, composeFor host cfg st.db svcName repo⟩])

/-- `containerRegistry.SetManifests`. -/
def setManifests (host : Host) (repo : String) (manifests : GoMap String Manifest)
    (st : State) : State :=
  let ir := (st.db.images.lookup repo).getD ⟨∅⟩
  let (ir, files) := manifests.entries.foldl (fun (ir, files) entry =>
    let (mh, files) := storeManifest host entry.2.blob files
    (⟨ir.refs.insert entry.1 ⟨entry.2.contentType, mh⟩⟩, files)) (ir, st.manifestFiles)
  ⟨{ st.db with images := st.db.images.insert repo ir }, files⟩

/-- `containerRegistry.DeleteManifest`. -/
def deleteManifest (repo ref : String) (st : State) : State :=
  match st.db.images.lookup repo with
  | none => st
  | some ir => { st with db := { st.db with images := st.db.images.insert repo ⟨ir.refs.erase ref⟩ } }

/-- `containerRegistry.RepoExists`. -/
def repoExists (repo : String) (st : State) : Bool := (st.db.images.lookup repo).isSome

/-- `containerRegistry.Manifest`. -/
def manifest (repo reference : String) (st : State) : Option Manifest := do
  let ir ← st.db.images.lookup repo
  let m ← ir.refs.lookup reference
  let blob ← st.manifestFiles.lookup m.blobHash
  some ⟨m.contentType, blob⟩

/-- `containerRegistry.OnImageReceived`. -/
def onImageReceived (repo tag _digest : String) : Except String Unit :=
  if Strings.count repo '/' ≠ 1 then
    .error "containers should follow the 'service/container' format"
  else if tag ≠ "latest" ∧ tag ≠ "run" then .error ("invalid tag: \"" ++ tag ++ "\"")
  else .ok ()

def refAt (d : Data) (repo ref : String) : Option ImageManifest :=
  (d.images.lookup repo).bind (·.refs.lookup ref)

theorem lookupSetRefs (references : List String) (entry : ImageManifest) (ir : ImageRepo)
    (ref : String) :
    (setRefs references entry ir).refs.lookup ref =
      if ref ∈ references then some entry else ir.refs.lookup ref := by
  induction references generalizing ir with
  | nil => simp [setRefs]
  | cons r rest ih =>
    simp only [setRefs, List.foldl_cons] at ih ⊢
    rw [ih]
    by_cases hr : ref = r
    · subst hr; simp [AList.lookup_insert]
    · by_cases hin : ref ∈ rest <;> simp [hr, hin, AList.lookup_insert_ne hr]

theorem tagReferencesNoLatest (tag : String) : "latest" ∉ (tagReferences tag).1 := by
  unfold tagReferences
  split
  · simp
  · simp
  · rename_i notLatest
    simpa [eq_comm] using notLatest

theorem lookupGetDRefs (o : Option ImageRepo) (ref : String) :
    (o.getD ⟨∅⟩).refs.lookup ref = o.bind (·.refs.lookup ref) := by
  cases o <;> rfl

theorem refAtInsert (d : Data) (repo repo' ref : String) (ir : ImageRepo) :
    refAt { d with images := d.images.insert repo ir } repo' ref =
      if repo' = repo then ir.refs.lookup ref else refAt d repo' ref := by
  by_cases h : repo' = repo
  · subst h; simp [refAt, AList.lookup_insert]
  · simp [refAt, h, AList.lookup_insert_ne h]

theorem setManifestInvalid {host : Host} {cfg : Config} {repo : String} (tag : String)
    (m : Manifest) (st : State) (invalid : Strings.count repo '/' ≠ 1) :
    setManifest host cfg repo tag m st = (st, []) := by
  simp [setManifest, invalid]

theorem setManifestValid {host : Host} {cfg : Config} {repo : String} (tag : String)
    (m : Manifest) (st : State) (valid : Strings.count repo '/' = 1) :
    setManifest host cfg repo tag m st = (recordTag host repo tag m st,
      [⟨(Strings.cut repo '/').1, !(tagReferences tag).2,
        composeFor host cfg st.db (Strings.cut repo '/').1 repo⟩]) := by
  rcases hc : Strings.cut repo '/' with ⟨svcName, container, _ | _⟩
  · have absent := (Strings.cutNotFound hc).2.2
    simp only [Strings.count] at valid
    exact absurd (List.count_pos_iff.mp (by omega)) absent
  · have split := Strings.cutFound hc
    have inContainer : Strings.count container '/' = 0 := by
      have total := congrArg (List.count '/') split.1
      have before : List.count '/' svcName.toList = 0 := List.count_eq_zero.mpr split.2
      simp only [List.count_append, List.count_cons_self] at total
      simp only [Strings.count] at valid ⊢
      omega
    have free : Strings.contains container '/' = false := by
      simpa [Strings.contains] using List.count_eq_zero.mp inContainer
    simp only [setManifest, valid, hc, free, ne_eq, not_true_eq_false, if_false]
    rfl

theorem refAtRecordTag (host : Host) (repo tag : String) (m : Manifest) (st : State)
    (repo' ref : String) :
    refAt (recordTag host repo tag m st).db repo' ref =
      if repo' = repo ∧ ref ∈ (tagReferences tag).1 then some ⟨m.contentType, host.sha256Hex m.blob⟩
      else refAt st.db repo' ref := by
  simp only [recordTag, storeManifest, refAtInsert, lookupSetRefs, lookupGetDRefs]
  by_cases hr : repo' = repo
  · subst hr
    by_cases hin : ref ∈ (tagReferences tag).1 <;> simp [hin, refAt]
  · simp [hr]

/-- For a service at generation `g ≥ 1` with a compose file for `g` and none for `g - 1`,
the runner passes generation `g`'s file to `docker compose`, while `SetManifest` copies the
template into the installer. -/
theorem pushSkipsCurrentCompose (host : Host) (cfg : Config) {d : Data} {svcName : String} (repo : String)
    {svc : Service} (found : d.services.lookup svcName = some svc) (deployed : 1 ≤ svc.generation)
    {cf : String} (current : gen svc.artifacts ArtifactDockerComposeFile svc.generation = some cf)
    (noPrevious : gen svc.artifacts ArtifactDockerComposeFile (svc.generation - 1) = none)
    (dataDir : String) (args : List String) :
    (∃ rest, command svcName dataDir svc args =
      .ok (["compose", "--project-name", projectName svcName, "--project-directory", dataDir, "--file", cf] ++ rest)) ∧
    composeFor host cfg d svcName repo =
      some (composeTemplate svcName (InternalRegistryHost ++ "/" ++ repo) (serviceDataDir cfg svcName)) := by
  refine ⟨⟨_, by simp only [command, current]; rfl⟩, ?_⟩
  simp [composeFor, found, show svc.generation > 0 by omega, noPrevious]

def editedComposeApp : Service :=
  ⟨"app", .dockerCompose, 1, 1,
    (∅ : GoMap String Artifact).insert ArtifactDockerComposeFile
      ⟨((∅ : GoMap String String).insert "1" "/srv/services/app/bin/compose.yml-1").insert "staged"
        "/srv/services/app/bin/compose.yml-1"⟩,
    none⟩

def editedComposeData : Data :=
  { Data.empty with services := (∅ : GoMap String Service).insert "app" editedComposeApp }

def editedComposeHost : Host :=
  ⟨fun _ => "5d41", fun path => if path = "/srv/services/app/bin/compose.yml-1" then some "services: edited" else none⟩

/-- After the first deploy of `app`, its runner runs generation 1's edited compose file,
and a push of `app/web` feeds the installer the template. -/
theorem pushAfterFirstDeploy :
    command "app" "/srv/services/app/data" editedComposeApp ["up", "-d"] =
        .ok ["compose", "--project-name", "catch-app", "--project-directory", "/srv/services/app/data",
          "--file", "/srv/services/app/bin/compose.yml-1", "up", "-d"] ∧
      editedComposeHost.readFile "/srv/services/app/bin/compose.yml-1" = some "services: edited" ∧
      composeFor editedComposeHost ⟨"/srv/services", "/srv/mounts", "127.0.0.1:5000"⟩ editedComposeData "app"
          "app/web" =
        some (composeTemplate "app" (InternalRegistryHost ++ "/app/web") "/srv/services/app/data") :=
  have skipped := pushSkipsCurrentCompose editedComposeHost ⟨"/srv/services", "/srv/mounts", "127.0.0.1:5000"⟩
    "app/web" (show editedComposeData.services.lookup "app" = some editedComposeApp from rfl) (by decide) rfl rfl
    "/srv/services/app/data" ["up", "-d"]
  ⟨rfl, rfl, skipped.2⟩

end Yeet.Registry
