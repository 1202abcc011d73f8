import Yeet.Catch.Lifecycle
import Yeet.Registry.Manifests

/-! The SFTP file handler's reads, listings and uploads under `/data/`, which all open the
host path `fileHandler.resolvePath` gives, and the two views of a service's env file:
`Server.envFile`, read by `printEnv` (the `env` command and `stage show --env`) and by the
SFTP paths `/env` and `/stage/env`, against the env file the compose runner installs. The
document is read once, successfully; `ensureDirs` and `os.ReadFile` are outcomes the
handler is given. -/
namespace Yeet.Catch
open Yeet.Db Yeet.Svc

/-- `Server.envFile`: the env artifact's latest file, `""` when there is none, whichever
view `staged` asks for. -/
def Server.envFile (sv : Service) (_staged : Bool) : String :=
  (latest sv.artifacts ArtifactEnvFile).getD ""

/-- `Server.printEnv`: the text it writes, or its error. -/
def Server.printEnv (readFile : String → Except String String) (sv : Service) (staged : Bool) :
    Except String String :=
  let ef := Server.envFile sv staged
  if ef = "" then .error "no env file found" else
  match readFile ef with
  | .error e => .error ("failed to read env file: " ++ e)
  | .ok b => .ok (b ++ "\n")

/-- `ttyExecer.envCmdFunc`. -/
def envCmdFunc (readFile : String → Except String String) (d : Data) (sn : String) :
    Except String String :=
  match serviceView d sn with
  | .error e => .error e
  | .ok sv => Server.printEnv readFile sv false

/-- `stage show --env` in `ttyExecer.stageCmdFunc`, past its checks of the name and the
directories: a service that is not found is logged and shown as Go's zero value. -/
def stageShowEnv (readFile : String → Except String String) (d : Data) (sn : String) :
    Except String String :=
  let sv := match serviceView d sn with
    | .ok sv => sv
    | .error _ => Service.fresh ""
  match Server.printEnv readFile sv true with
  | .error e => .error ("failed to print env: " ++ e)
  | .ok text => .ok text

/-- `fileHandler.resolvePath`. -/
def resolvePath (cfg : Config) (d : Data) (connUser fullPath : String) : Except String String :=
  match serviceAndUser connUser with
  | .error e => .error e
  | .ok (sn, _) =>
      if fullPath = "/env" ∨ fullPath = "/stage/env" then
        match serviceView d sn with
        | .error e => .error e
        | .ok sv => .ok (Server.envFile sv (fullPath = "/stage/env"))
      else
        match Strings.cutPrefix fullPath "/data" with
        | (path, false) => .error ("invalid path: \"" ++ path ++ "\"")
        | (path, true) =>
            if !Strings.hasPrefix path "/" && path != "" then .error ("invalid path: \"" ++ path ++ "\"")
            else if path = "/.env" then .error ("invalid path: \"" ++ path ++ "\"")
            else .ok (Filepath.join [serviceRootDir cfg sn, fullPath])

/-- `fileHandler.Fileread`: the host path it opens. -/
def fileread (cfg : Config) (d : Data) (connUser method filepath : String) : Except String String :=
  if method ≠ "Get" then .error ("unsupported method: \"" ++ method ++ "\"")
  else resolvePath cfg d connUser filepath

/-- `fileHandler.Filelist`: the host path its lister stats or lists. -/
def filelist (cfg : Config) (d : Data) (connUser filepath : String) : Except String String :=
  resolvePath cfg d connUser filepath

/-- `fileHandler.uploadFile`, which `Filewrite` calls for the paths under `/data/`: the
host path it opens for writing. -/
def uploadFile (cfg : Config) (d : Data) (ensureDirs : Except String Unit) (connUser dst : String) :
    Except String String :=
  match serviceAndUser connUser with
  | .error e => .error e
  | .ok _ =>
      match ensureDirs with
      | .error e => .error ("failed to create directories: " ++ e)
      | .ok () => resolvePath cfg d connUser dst

/-- Modelled from pkg/sftp, which is not among the sources: `RequestServer` hands every
handler the request's path as `cleanPathWithBase("/", p)`, cleaned and, when it is not
absolute, joined below `/`. -/
def requestPath (p : String) : String :=
  let cleaned := Filepath.clean p
  if Strings.hasPrefix cleaned "/" then cleaned else Filepath.join ["/", cleaned]

theorem cutPrefixData (rest : String) : Strings.cutPrefix ("/data" ++ rest) "/data" = (rest, true) := by
  have chars : ("/data" ++ rest).toList = "/data".toList ++ rest.toList := by simp
  simp [Strings.cutPrefix, Strings.hasPrefix, chars, List.isPrefixOf_iff_prefix]
  rfl

theorem resolvePathData (cfg : Config) (d : Data) {connUser sn user : String} (rest : String)
    (named : serviceAndUser connUser = .ok (sn, user)) :
    resolvePath cfg d connUser ("/data" ++ rest) =
      if (rest = "" ∨ Strings.hasPrefix rest "/") ∧ rest ≠ "/.env" then
        .ok (Filepath.join [serviceRootDir cfg sn, "/data" ++ rest])
      else .error ("invalid path: \"" ++ rest ++ "\"") := by
  have notEnv : ¬("/data" ++ rest = "/env" ∨ "/data" ++ rest = "/stage/env") := by
    rintro (same | same) <;> have := congrArg (fun s => s.toList.take 2) same <;> simp at this
  simp only [resolvePath, named, notEnv, if_false, cutPrefixData]
  by_cases empty : rest = ""
  · subst empty; simp
  · by_cases slash : Strings.hasPrefix rest "/" <;> by_cases dotEnv : rest = "/.env" <;> simp [empty, slash, dotEnv]

theorem openedPaths (cfg : Config) (d : Data) {connUser sn user : String} (filepath : String)
    (named : serviceAndUser connUser = .ok (sn, user)) :
    fileread cfg d connUser "Get" filepath = resolvePath cfg d connUser filepath ∧
      filelist cfg d connUser filepath = resolvePath cfg d connUser filepath ∧
      uploadFile cfg d (.ok ()) connUser filepath = resolvePath cfg d connUser filepath := by
  simp [fileread, filelist, uploadFile, named]

theorem sftpDataBelowDataDir (cfg : Config) (d : Data) {connUser sn user : String} (rest : String)
    (named : serviceAndUser connUser = .ok (sn, user)) (configured : cfg.servicesRoot ≠ "")
    (noParent : ".." ∉ Strings.split rest '/') (host : String)
    (opened : fileread cfg d connUser "Get" ("/data" ++ rest) = .ok host ∨
      filelist cfg d connUser ("/data" ++ rest) = .ok host ∨
      uploadFile cfg d (.ok ()) connUser ("/data" ++ rest) = .ok host) :
    host = serviceDataDir cfg sn ++ Filepath.belowPath ((Strings.split rest '/').filter Filepath.named) := by
  obtain ⟨readPath, listPath, uploadPath⟩ := openedPaths cfg d ("/data" ++ rest) named
  have resolved : resolvePath cfg d connUser ("/data" ++ rest) = .ok host := by
    rcases opened with h | h | h
    · rwa [readPath] at h
    · rwa [listPath] at h
    · rwa [uploadPath] at h
  rw [resolvePathData cfg d rest named] at resolved
  split_ifs at resolved with checked
  cases resolved
  have restSep : rest = "" ∨ ∃ r, rest = "/" ++ r :=
    checked.1.imp id Filepath.hasPrefixSlashEq
  exact Filepath.joinBelow rest (Filepath.joinNeEmpty sn configured) rfl (by decide) (by decide) restSep noParent

theorem requestPathShape (p : String) :
    ∃ elems, requestPath p = "/" ++ "/".intercalate elems ∧
      ∀ e ∈ elems, Filepath.named e = true ∧ e ≠ ".." ∧ '/' ∉ e.toList := by
  unfold requestPath
  dsimp only
  by_cases rooted : Strings.hasPrefix (Filepath.clean p) "/" = true
  · rw [if_pos rooted]
    cases input : Strings.hasPrefix p "/"
    · rw [Filepath.cleanUnrooted input] at rooted
      cases rooted
    · exact Filepath.cleanRootedShape input
  · rw [if_neg rooted, Filepath.joinPair _ (by decide) (Filepath.cleanNeEmpty p)]
    exact Filepath.cleanRootedShape (by rw [String.append_assoc, Filepath.hasPrefixSlash _ (by decide)]; rfl)

theorem dataElems {elems : List String} {path : String}
    (good : ∀ e ∈ elems, Filepath.named e = true ∧ e ≠ ".." ∧ '/' ∉ e.toList)
    (same : "/" ++ "/".intercalate elems = "/data" ++ path) (sep : path = "" ∨ Strings.hasPrefix path "/" = true) :
    ∃ below, elems = "data" :: below ∧ path = Filepath.belowPath below := by
  have plain : ∀ e ∈ elems, '/' ∉ e.toList := fun e mem => (good e mem).2.2
  have body : "/".intercalate elems = "data" ++ path := by
    simpa [String.append_assoc] using Strings.appendLeftCancel (a := "/") (by simpa [String.append_assoc] using same)
  have nonEmpty : elems ≠ [] := by
    rintro rfl
    exact absurd (congrArg String.toList body) (by simp [show "/".intercalate ([] : List String) = "" from rfl])
  rcases sep with rfl | slash
  · refine ⟨[], ?_, rfl⟩
    rw [← Filepath.splitIntercalate nonEmpty plain, body]
    rfl
  · obtain ⟨r, rfl⟩ := Filepath.hasPrefixSlashEq slash
    have splitElems := Filepath.splitIntercalate nonEmpty plain
    rw [body, ← String.append_assoc, Filepath.splitSlash, Strings.splitAbsent (by decide)] at splitElems
    refine ⟨Strings.split r '/', splitElems.symm, ?_⟩
    have restNonEmpty : Strings.split r '/' ≠ [] := by simp [Strings.split, Strings.splitListNeNil]
    rw [← splitElems, List.singleton_append, Filepath.intercalateConsNeNil _ _ restNonEmpty,
      String.append_assoc] at body
    simp [Filepath.belowPath, restNonEmpty, Strings.appendLeftCancel body]

/-- Every path pkg/sftp hands the handlers, other than `/env` and `/stage/env`, that a read,
a listing or an upload opens is the service's data directory or a path below it whose
elements are named and never `..`, and never the data directory's `.env`. -/
theorem requestPathsInDataDir (cfg : Config) (d : Data) {connUser sn user : String}
    (named : serviceAndUser connUser = .ok (sn, user)) (configured : cfg.servicesRoot ≠ "") (p : String)
    (notEnv : requestPath p ≠ "/env" ∧ requestPath p ≠ "/stage/env") (host : String)
    (opened : fileread cfg d connUser "Get" (requestPath p) = .ok host ∨
      filelist cfg d connUser (requestPath p) = .ok host ∨
      uploadFile cfg d (.ok ()) connUser (requestPath p) = .ok host) :
    ∃ below, (∀ e ∈ below, Filepath.named e = true ∧ e ≠ ".." ∧ '/' ∉ e.toList) ∧
      host = serviceDataDir cfg sn ++ Filepath.belowPath below ∧ host ≠ serviceDataDir cfg sn ++ "/.env" := by
  obtain ⟨elems, shape, good⟩ := requestPathShape p
  obtain ⟨readPath, listPath, uploadPath⟩ := openedPaths cfg d (requestPath p) named
  have resolved : resolvePath cfg d connUser (requestPath p) = .ok host := by
    rcases opened with h | h | h
    · rwa [readPath] at h
    · rwa [listPath] at h
    · rwa [uploadPath] at h
  obtain ⟨path, start⟩ : ∃ path, requestPath p = "/data" ++ path := by
    unfold resolvePath at resolved
    rw [named] at resolved
    dsimp only at resolved
    rw [if_neg (by simpa [not_or] using notEnv)] at resolved
    cases cut : Strings.cutPrefix (requestPath p) "/data" with
    | mk path found =>
      cases found
      · simp [cut] at resolved
      · exact ⟨path, Strings.cutPrefixTrue cut⟩
  have checked := resolved
  rw [start, resolvePathData cfg d path named] at checked
  split_ifs at checked with passes
  obtain ⟨below, rfl, rfl⟩ := dataElems good (shape.symm.trans start) passes.1
  have belowGood : ∀ e ∈ below, Filepath.named e = true ∧ e ≠ ".." ∧ '/' ∉ e.toList :=
    fun e mem => good e (List.mem_cons_of_mem _ mem)
  have splitBelow : (Strings.split (Filepath.belowPath below) '/').filter Filepath.named = below ∧
      ".." ∉ Strings.split (Filepath.belowPath below) '/' := by
    by_cases empty : below = []
    · subst empty; decide
    · have lead : Strings.split ("/" ++ "/".intercalate below) '/' = "" :: below := by
        have := Filepath.splitSlash "" ("/".intercalate below)
        rwa [String.empty_append, Filepath.splitIntercalate empty fun e mem => (belowGood e mem).2.2] at this
      simp only [Filepath.belowPath, empty, if_false, lead, List.mem_cons, not_or]
      exact ⟨by rw [List.filter_cons_of_neg (by decide), List.filter_eq_self.mpr fun e mem => (belowGood e mem).1],
        by decide, fun mem => (belowGood ".." mem).2.1 rfl⟩
  have atHost := sftpDataBelowDataDir cfg d (Filepath.belowPath below) named configured splitBelow.2 host
    (by rw [← start]; exact opened)
  rw [splitBelow.1] at atHost
  refine ⟨below, belowGood, atHost, fun dotEnv => passes.2 ?_⟩
  have envBelow : Filepath.belowPath below = "/.env" := Strings.appendLeftCancel (atHost.symm.trans dotEnv)
  by_cases empty : below = []
  · subst empty; exact absurd envBelow (by decide)
  · simp only [Filepath.belowPath, empty, if_false] at envBelow
    have single : below = [".env"] := by
      rw [← Filepath.splitIntercalate empty fun e mem => (belowGood e mem).2.2,
        Strings.appendLeftCancel (a := "/") envBelow]
      decide
    subst single
    rfl

theorem logsReadInDataDir :
    serviceAndUser "app" = .ok ("app", "") ∧ Registry.sampleConfig.servicesRoot ≠ "" ∧
      (requestPath "data/./logs//today.txt" ≠ "/env" ∧ requestPath "data/./logs//today.txt" ≠ "/stage/env") ∧
      fileread Registry.sampleConfig Data.empty "app" "Get" (requestPath "data/./logs//today.txt") =
        .ok "/srv/services/app/data/logs/today.txt" ∧
      ∃ below, (∀ e ∈ below, Filepath.named e = true ∧ e ≠ ".." ∧ '/' ∉ e.toList) ∧
        "/srv/services/app/data/logs/today.txt" = serviceDataDir Registry.sampleConfig "app" ++ Filepath.belowPath below ∧
        "/srv/services/app/data/logs/today.txt" ≠ serviceDataDir Registry.sampleConfig "app" ++ "/.env" :=
  have named : serviceAndUser "app" = .ok ("app", "") := rfl
  have configured : Registry.sampleConfig.servicesRoot ≠ "" := by decide
  have notEnv : requestPath "data/./logs//today.txt" ≠ "/env" ∧ requestPath "data/./logs//today.txt" ≠ "/stage/env" :=
    by decide
  have read : fileread Registry.sampleConfig Data.empty "app" "Get" (requestPath "data/./logs//today.txt") =
      .ok "/srv/services/app/data/logs/today.txt" := rfl
  ⟨named, configured, notEnv, read,
    requestPathsInDataDir Registry.sampleConfig Data.empty named configured _ notEnv _ (.inl read)⟩

/-- Both views of a stored service's env file read the env artifact's latest file: the SFTP
paths `/env` and `/stage/env` resolve to it, and `env` prints what `stage show --env`
prints from it. -/
theorem envViews (cfg : Config) (d : Data) (readFile : String → Except String String)
    (connUser : String) {sn user : String} {sv : Service} (named : serviceAndUser connUser = .ok (sn, user))
    (found : d.services.lookup sn = some sv) :
    resolvePath cfg d connUser "/env" = .ok ((latest sv.artifacts ArtifactEnvFile).getD "") ∧
      resolvePath cfg d connUser "/stage/env" = .ok ((latest sv.artifacts ArtifactEnvFile).getD "") ∧
      envCmdFunc readFile d sn = Server.printEnv readFile sv true ∧
      (stageShowEnv readFile d sn).toOption = (Server.printEnv readFile sv true).toOption := by
  have view : serviceView d sn = .ok sv := by simp [serviceView, found]
  refine ⟨by simp [resolvePath, named, view, Server.envFile], by simp [resolvePath, named, view, Server.envFile],
    by simp [envCmdFunc, view, Server.printEnv, Server.envFile], ?_⟩
  simp only [stageShowEnv, view]
  split <;> simp_all [Except.toOption]

def stagedEnvApp : Service :=
  ⟨"app", .dockerCompose, 1, 2,
    (∅ : GoMap String Artifact).insert ArtifactEnvFile
      ⟨(((∅ : GoMap String String).insert "1" "/srv/services/app/env/env-1").insert "2"
        "/srv/services/app/env/env-2").insert "staged" "/srv/services/app/env/env-2"⟩,
    none⟩

def stagedEnvData : Data := { Data.empty with services := (∅ : GoMap String Service).insert "app" stagedEnvApp }

def stagedEnvFiles (path : String) : Except String String :=
  if path = "/srv/services/app/env/env-1" then .ok "FOO=1"
  else if path = "/srv/services/app/env/env-2" then .ok "FOO=2"
  else .error "no such file or directory"

/-- The compose runner of `app` installs generation 1's env file, while `env` prints and
the SFTP paths `/env` and `/stage/env` name the staged one. -/
theorem envShowsStaged :
    installedEnvFile stagedEnvApp = some "/srv/services/app/env/env-1" ∧
      resolvePath Registry.sampleConfig stagedEnvData "app" "/env" = .ok "/srv/services/app/env/env-2" ∧
      resolvePath Registry.sampleConfig stagedEnvData "app" "/stage/env" = .ok "/srv/services/app/env/env-2" ∧
      envCmdFunc stagedEnvFiles stagedEnvData "app" = .ok "FOO=2\n" :=
  have views := envViews Registry.sampleConfig stagedEnvData stagedEnvFiles "app" rfl rfl
  ⟨rfl, views.1, views.2.1, views.2.2.1⟩

end Yeet.Catch
