import Yeet.Registry.ContainerRegistry

/-! `manifests.handle` of the vendored go-containerregistry server with the daemon's
`containerRegistry` as both its `ManifestHandler` and its `CallbackHandler`. The media-type
predicates and `v1.ParseIndexManifest` are not among the sources and are parameters. -/
namespace Yeet.Registry
open Yeet.Db Yeet.Catch Yeet.Svc

/-- `regError`. -/
structure RegError where
  status : Nat
  code : String
  message : String
  deriving DecidableEq, Repr

structure Descriptor where
  mediaType : String
  digest : String
  deriving DecidableEq, Repr

/-- `types.MediaType`'s predicates and `v1.ParseIndexManifest`. -/
structure MediaTypes where
  isIndex : String → Bool
  isImage : String → Bool
  isDistributable : String → Bool
  parseIndexManifest : Blob → Except String (List Descriptor)

inductive Reply where
  | created (digest : String)
  | found (m : Manifest)
  | accepted
  deriving DecidableEq, Repr

/-- The check a PUT of a manifest list makes before writing: every distributable image or
index it lists is already stored in the repository. -/
def checkIndex (mt : MediaTypes) (repo : String) (mf : Manifest) (st : State) : Option RegError :=
  if mt.isIndex mf.contentType then
    match mt.parseIndexManifest mf.blob with
    | .error e => some ⟨400, "MANIFEST_INVALID", e⟩
    | .ok descs => descs.findSome? fun desc =>
        if !mt.isDistributable desc.mediaType then none
        else if mt.isIndex desc.mediaType || mt.isImage desc.mediaType then
          if (manifest repo desc.digest st).isSome then none
          else some ⟨404, "MANIFEST_UNKNOWN", "Sub-manifest \"" ++ desc.digest ++ "\" not found"⟩
        else none
  else none

/-- The PUT branch of `manifests.handle`, after the body is read: the reply, the registry's
state, and the installers started. -/
def handlePut (host : Host) (cfg : Config) (mt : MediaTypes) (repo target contentType : String)
    (body : Blob) (st : State) : Except RegError Reply × State × List InstallRun :=
  let digest := "sha256:" ++ host.sha256Hex body
  let mf : Manifest := ⟨contentType, body⟩
  match checkIndex mt repo mf st with
  | some err => (.error err, st, [])
  | none =>
      let st := if repoExists repo st then st else setManifests host repo ∅ st
      let (st, byDigest) := setManifest host cfg repo digest mf st
      let (st, byTag) := setManifest host cfg repo target mf st
      match onImageReceived repo target digest with
      | .error e => (.error ⟨500, "CALLBACK_FAILED", e⟩, st, byDigest ++ byTag)
      | .ok () => (.ok (.created digest), st, byDigest ++ byTag)

/-- The GET branch of `manifests.handle`. -/
def handleGet (repo target : String) (st : State) : Except RegError Reply :=
  match manifest repo target st with
  | none => .error ⟨404, "MANIFEST_UNKNOWN", "Unknown manifest"⟩
  | some m => .ok (.found m)

/-- The DELETE branch of `manifests.handle`. -/
def handleDelete (repo target : String) (st : State) : Except RegError Reply × State :=
  if !repoExists repo st then (.error ⟨404, "NAME_UNKNOWN", "Unknown name"⟩, st)
  else if (manifest repo target st).isNone then (.error ⟨404, "MANIFEST_UNKNOWN", "Unknown manifest"⟩, st)
  else (.ok .accepted, deleteManifest repo target st)

structure ManifestHeaders where
  dockerContentDigest : String
  contentType : String
  contentLength : Nat
  deriving DecidableEq, Repr

def manifestHeaders (host : Host) (m : Manifest) : ManifestHeaders :=
  ⟨"sha256:" ++ host.sha256Hex m.blob, m.contentType, m.blob.length⟩

/-- The HEAD branch of `manifests.handle`. -/
def handleHead (host : Host) (repo target : String) (st : State) : Except RegError ManifestHeaders :=
  if !repoExists repo st then .error ⟨404, "NAME_UNKNOWN", "Unknown name"⟩ else
  match manifest repo target st with
  | none => .error ⟨404, "MANIFEST_UNKNOWN", "Unknown manifest"⟩
  | some m => .ok (manifestHeaders host m)

theorem digestNotTag (hex : String) : "sha256:" ++ hex ≠ "run" ∧ "sha256:" ++ hex ≠ "latest" := by
  constructor <;> intro h <;> have := congrArg String.toList h <;> simp at this

theorem tagReferencesOther {tag : String} (notLatest : tag ≠ "latest") (notRun : tag ≠ "run") :
    tagReferences tag = ([tag], false) := by
  unfold tagReferences
  split <;> simp_all

theorem composeForCongr (host : Host) (cfg : Config) {d d' : Data} (svcName repo : String)
    (same : d.services = d'.services) :
    composeFor host cfg d svcName repo = composeFor host cfg d' svcName repo := by
  simp only [composeFor, same]

theorem setManifestServices (host : Host) (cfg : Config) (repo tag : String) (m : Manifest)
    (st : State) : (setManifest host cfg repo tag m st).1.db.services = st.db.services := by
  by_cases valid : Strings.count repo '/' = 1
  · rw [setManifestValid tag m st valid]; rfl
  · rw [setManifestInvalid tag m st valid]

theorem refAtSetManifestsEmpty (host : Host) (repo : String) (st : State) (repo' ref : String) :
    refAt (setManifests host repo ∅ st).db repo' ref = refAt st.db repo' ref := by
  simp only [setManifests, AList.empty_entries, List.foldl_nil, refAtInsert, lookupGetDRefs]
  split_ifs with h
  · subst h; rfl
  · rfl

theorem handlePutChecked {mt : MediaTypes} {repo contentType : String} {body : Blob} {st : State}
    (host : Host) (cfg : Config) (target : String)
    (passes : checkIndex mt repo ⟨contentType, body⟩ st = none) :
    let st₁ := if repoExists repo st then st else setManifests host repo ∅ st
    let byDigest := setManifest host cfg repo ("sha256:" ++ host.sha256Hex body) ⟨contentType, body⟩ st₁
    let byTag := setManifest host cfg repo target ⟨contentType, body⟩ byDigest.1
    handlePut host cfg mt repo target contentType body st =
      (match onImageReceived repo target ("sha256:" ++ host.sha256Hex body) with
        | .error e => .error ⟨500, "CALLBACK_FAILED", e⟩
        | .ok () => .ok (.created ("sha256:" ++ host.sha256Hex body)),
        byTag.1, byDigest.2 ++ byTag.2) := by
  simp only [handlePut, passes]
  split <;> rfl

theorem refAtFirstWrite (host : Host) (repo : String) (st : State) (repo' ref : String) :
    refAt (if repoExists repo st then st else setManifests host repo ∅ st).db repo' ref =
      refAt st.db repo' ref := by
  split_ifs
  · rfl
  · exact refAtSetManifestsEmpty host repo st repo' ref

theorem servicesFirstWrite (host : Host) (repo : String) (st : State) :
    (if repoExists repo st then st else setManifests host repo ∅ st).db.services = st.db.services := by
  split_ifs <;> rfl

theorem validPutWrites (host : Host) (cfg : Config) (mt : MediaTypes) {repo : String}
    (target contentType : String) (body : Blob) (st : State)
    (passes : checkIndex mt repo ⟨contentType, body⟩ st = none) (valid : Strings.count repo '/' = 1) :
    let put := handlePut host cfg mt repo target contentType body st
    let compose := composeFor host cfg st.db (Strings.cut repo '/').1 repo
    put.2.1.db.services = st.db.services ∧
      (∀ repo' ref, refAt put.2.1.db repo' ref =
        if repo' = repo ∧ (ref = "sha256:" ++ host.sha256Hex body ∨ ref ∈ (tagReferences target).1)
        then some ⟨contentType, host.sha256Hex body⟩ else refAt st.db repo' ref) ∧
      put.2.2 = [⟨(Strings.cut repo '/').1, true, compose⟩,
        ⟨(Strings.cut repo '/').1, !(tagReferences target).2, compose⟩] := by
  intro put compose
  have checked := handlePutChecked host cfg target passes
  have notTag := digestNotTag (host.sha256Hex body)
  have byDigest := tagReferencesOther notTag.2 notTag.1
  simp only [setManifestValid _ _ _ valid, byDigest] at checked
  refine ⟨?_, fun repo' ref => ?_, ?_⟩
  · simp only [put, checked]
    exact servicesFirstWrite host repo st
  · simp only [put, checked, refAtRecordTag, refAtFirstWrite, byDigest, List.mem_singleton]
    by_cases hr : repo' = repo <;> by_cases hd : ref = "sha256:" ++ host.sha256Hex body <;> simp [hr, hd]
  · have same := composeForCongr host cfg (Strings.cut repo '/').1 repo (servicesFirstWrite host repo st)
    simp only [put, checked, compose, Bool.not_false, List.singleton_append, List.cons.injEq,
      InstallRun.mk.injEq, and_true, true_and]
    exact ⟨same, same⟩

/-- A PUT that `OnImageReceived` rejects. For a repo without exactly one `/`, no ref and no
service changes and no installer starts. For a valid repo and a tag other than `latest`
and `run`, the manifest is stored under its digest and under the tag, and each of the two
`SetManifest` calls starts a stage-only installer for the service, before the request
fails. -/
theorem rejectedPutEffects (host : Host) (cfg : Config) (mt : MediaTypes)
    (repo target contentType : String) (body : Blob) (st : State)
    (passes : checkIndex mt repo ⟨contentType, body⟩ st = none) :
    let put := handlePut host cfg mt repo target contentType body st
    (Strings.count repo '/' ≠ 1 →
      put.1 = .error ⟨500, "CALLBACK_FAILED", "containers should follow the 'service/container' format"⟩ ∧
      put.2.2 = [] ∧ put.2.1.db.services = st.db.services ∧
      ∀ repo' ref, refAt put.2.1.db repo' ref = refAt st.db repo' ref) ∧
    (Strings.count repo '/' = 1 → target ≠ "latest" → target ≠ "run" →
      put.1 = .error ⟨500, "CALLBACK_FAILED", "invalid tag: \"" ++ target ++ "\""⟩ ∧
      put.2.1.db.services = st.db.services ∧
      (∀ repo' ref, refAt put.2.1.db repo' ref =
        if repo' = repo ∧ (ref = "sha256:" ++ host.sha256Hex body ∨ ref = target)
        then some ⟨contentType, host.sha256Hex body⟩ else refAt st.db repo' ref) ∧
      put.2.2 = [⟨(Strings.cut repo '/').1, true, composeFor host cfg st.db (Strings.cut repo '/').1 repo⟩,
        ⟨(Strings.cut repo '/').1, true, composeFor host cfg st.db (Strings.cut repo '/').1 repo⟩]) := by
  intro put
  have checked := handlePutChecked host cfg target passes
  refine ⟨fun invalid => ?_, fun valid notLatest notRun => ?_⟩
  · simp only [setManifestInvalid _ _ _ invalid, onImageReceived, invalid, ne_eq,
      not_false_eq_true, if_true, List.append_nil] at checked
    simp only [put, checked, servicesFirstWrite, refAtFirstWrite, implies_true, and_self]
  · obtain ⟨services, refs, installers⟩ := validPutWrites host cfg mt target contentType body st passes valid
    have byTag := tagReferencesOther notLatest notRun
    have rejected : onImageReceived repo target ("sha256:" ++ host.sha256Hex body) =
        .error ("invalid tag: \"" ++ target ++ "\"") := by
      simp [onImageReceived, valid, notLatest, notRun]
    refine ⟨by simp only [put, checked, rejected], services, fun repo' ref => ?_, ?_⟩
    · simp only [put, refs, byTag, List.mem_singleton]
    · simp only [put, installers, byTag, Bool.not_false]

def sampleHost : Host := ⟨fun _ => "5d41", fun _ => none⟩
def sampleConfig : Config := ⟨"/srv/services", "/srv/mounts", "127.0.0.1:5000"⟩
def sampleMediaTypes : MediaTypes := ⟨fun _ => false, fun _ => false, fun _ => true, fun _ => .ok []⟩

theorem rejectedTagPutAtAppWeb :
    checkIndex sampleMediaTypes "app/web"
      ⟨"application/vnd.docker.distribution.manifest.v2+json", [123]⟩ State.empty = none ∧
    let put := handlePut sampleHost sampleConfig sampleMediaTypes "app/web" "v1"
      "application/vnd.docker.distribution.manifest.v2+json" [123] State.empty
    put.1 = .error ⟨500, "CALLBACK_FAILED", "invalid tag: \"v1\""⟩ ∧
      put.2.1.db.services = State.empty.db.services ∧
      (∀ repo' ref, refAt put.2.1.db repo' ref =
        if repo' = "app/web" ∧ (ref = "sha256:5d41" ∨ ref = "v1")
        then some ⟨"application/vnd.docker.distribution.manifest.v2+json", "5d41"⟩
        else refAt State.empty.db repo' ref) ∧
      put.2.2 = [⟨"app", true, composeFor sampleHost sampleConfig State.empty.db "app" "app/web"⟩,
        ⟨"app", true, composeFor sampleHost sampleConfig State.empty.db "app" "app/web"⟩] :=
  ⟨rfl, (rejectedPutEffects sampleHost sampleConfig sampleMediaTypes "app/web" "v1"
    "application/vnd.docker.distribution.manifest.v2+json" [123] State.empty rfl).2
    (by decide) (by decide) (by decide)⟩

/-- A PUT of `app/web:v1` is rejected by the callback after it has written the tag's ref
and started installers. -/
theorem rejectedTagPutChangesRefs :
    let put := handlePut sampleHost sampleConfig sampleMediaTypes "app/web" "v1"
      "application/vnd.docker.distribution.manifest.v2+json" [123] State.empty
    put.1 = .error ⟨500, "CALLBACK_FAILED", "invalid tag: \"v1\""⟩ ∧
      refAt put.2.1.db "app/web" "v1" ≠ refAt State.empty.db "app/web" "v1" ∧ put.2.2.length = 2 :=
  ⟨rfl, by decide, by decide⟩

theorem tagReferencesAccepted {target : String} (tagged : target = "latest" ∨ target = "run") (ref : String) :
    (ref ∈ (tagReferences target).1 ↔ ref = "staged" ∨ (target = "run" ∧ ref = "run")) ∧
      (tagReferences target).2 = decide (target = "run") := by
  rcases tagged with rfl | rfl <;> simp [tagReferences, or_comm]

/-- A PUT to a repo `svc/c` with tag `latest` or `run` that passes its index check succeeds.
It stores the manifest under its digest, as `staged`, and as `run` when the tag is `run`;
it changes no other ref and no service; and it starts two installers for `svc`, a
stage-only one for the digest and then one for the tag, which deploys when the tag is
`run`. -/
theorem acceptedPutEffects (host : Host) (cfg : Config) (mt : MediaTypes)
    (repo target contentType : String) (body : Blob) (st : State)
    (passes : checkIndex mt repo ⟨contentType, body⟩ st = none) (valid : Strings.count repo '/' = 1)
    (tagged : target = "latest" ∨ target = "run") :
    let put := handlePut host cfg mt repo target contentType body st
    put.1 = .ok (.created ("sha256:" ++ host.sha256Hex body)) ∧
      put.2.1.db.services = st.db.services ∧
      (∀ repo' ref, refAt put.2.1.db repo' ref =
        if repo' = repo ∧ (ref = "sha256:" ++ host.sha256Hex body ∨ ref = "staged" ∨ (target = "run" ∧ ref = "run"))
        then some ⟨contentType, host.sha256Hex body⟩ else refAt st.db repo' ref) ∧
      put.2.2 = [⟨(Strings.cut repo '/').1, true, composeFor host cfg st.db (Strings.cut repo '/').1 repo⟩,
        ⟨(Strings.cut repo '/').1, decide (target ≠ "run"), composeFor host cfg st.db (Strings.cut repo '/').1 repo⟩] := by
  intro put
  obtain ⟨services, refs, installers⟩ := validPutWrites host cfg mt target contentType body st passes valid
  have accepted : onImageReceived repo target ("sha256:" ++ host.sha256Hex body) = .ok () := by
    rcases tagged with rfl | rfl <;> simp [onImageReceived, valid]
  refine ⟨?_, services, fun repo' ref => ?_, ?_⟩
  · simp only [put, handlePutChecked host cfg target passes, accepted]
  · simp only [put, refs, (tagReferencesAccepted tagged ref).1]
  · simp only [put, installers, (tagReferencesAccepted tagged "").2, decide_not]

/-- A push of `app/web:run` to an empty registry succeeds and starts two installers for
`app`: a stage-only one for the digest, then the deploying one for `run`. -/
theorem runPushStartsTwoInstallers :
    checkIndex sampleMediaTypes "app/web"
      ⟨"application/vnd.docker.distribution.manifest.v2+json", [123]⟩ State.empty = none ∧
    let put := handlePut sampleHost sampleConfig sampleMediaTypes "app/web" "run"
      "application/vnd.docker.distribution.manifest.v2+json" [123] State.empty
    put.1 = .ok (.created "sha256:5d41") ∧
      put.2.2 = [⟨"app", true, composeFor sampleHost sampleConfig State.empty.db "app" "app/web"⟩,
        ⟨"app", false, composeFor sampleHost sampleConfig State.empty.db "app" "app/web"⟩] :=
  have put := acceptedPutEffects sampleHost sampleConfig sampleMediaTypes "app/web" "run"
    "application/vnd.docker.distribution.manifest.v2+json" [123] State.empty rfl (by decide) (.inr rfl)
  ⟨rfl, put.1, put.2.2.2⟩

/-! No write path of the registry stores a ref named `latest`: `latest` is stored as
`staged`, and every other tag, digests included, under its own name. -/

def NoLatestRef (d : Data) : Prop := ∀ repo, refAt d repo "latest" = none

theorem recordTagNoLatest (host : Host) (repo tag : String) (m : Manifest) {st : State}
    (h : NoLatestRef st.db) : NoLatestRef (recordTag host repo tag m st).db := by
  intro repo'
  simp [refAtRecordTag, tagReferencesNoLatest, h repo']

theorem setManifestNoLatest (host : Host) (cfg : Config) (repo tag : String) (m : Manifest)
    {st : State} (h : NoLatestRef st.db) : NoLatestRef (setManifest host cfg repo tag m st).1.db := by
  by_cases valid : Strings.count repo '/' = 1
  · rw [setManifestValid tag m st valid]; exact recordTagNoLatest host repo tag m h
  · rwa [setManifestInvalid tag m st valid]

theorem handlePutNoLatest (host : Host) (cfg : Config) (mt : MediaTypes)
    (repo target contentType : String) (body : Blob) {st : State} (h : NoLatestRef st.db) :
    NoLatestRef (handlePut host cfg mt repo target contentType body st).2.1.db := by
  cases passes : checkIndex mt repo ⟨contentType, body⟩ st with
  | some err => simpa [handlePut, passes] using h
  | none =>
    rw [handlePutChecked host cfg target passes]
    have first : NoLatestRef (if repoExists repo st then st else setManifests host repo ∅ st).db :=
      fun repo' => (refAtFirstWrite host repo st repo' "latest").trans (h repo')
    exact setManifestNoLatest host cfg repo target _ (setManifestNoLatest host cfg repo _ _ first)

theorem handleDeleteNoLatest (repo target : String) {st : State} (h : NoLatestRef st.db) :
    NoLatestRef (handleDelete repo target st).2.db := by
  unfold handleDelete
  split_ifs
  · exact h
  · exact h
  · unfold deleteManifest
    split
    · exact h
    · rename_i ir found
      intro repo'
      rw [refAtInsert]
      split_ifs with same
      · subst same
        have := h repo'
        simp only [refAt, found, Option.some_bind] at this
        by_cases hr : "latest" = target
        · subst hr; exact AList.lookup_erase _ _
        · rw [AList.lookup_erase_ne hr]; exact this
      · exact h repo'

inductive Request where
  | put (repo target contentType : String) (body : Blob)
  | get (repo target : String)
  | delete (repo target : String)

/-- The state after the registry serves one request. -/
def serve (host : Host) (cfg : Config) (mt : MediaTypes) : State → Request → State
  | st, .put repo target contentType body => (handlePut host cfg mt repo target contentType body st).2.1
  | st, .get _ _ => st
  | st, .delete repo target => (handleDelete repo target st).2

theorem serveAllNoLatest (host : Host) (cfg : Config) (mt : MediaTypes) (requests : List Request)
    {st : State} (h : NoLatestRef st.db) :
    NoLatestRef (requests.foldl (serve host cfg mt) st).db := by
  induction requests generalizing st with
  | nil => exact h
  | cons request rest ih =>
    apply ih
    cases request with
    | put repo target contentType body => exact handlePutNoLatest host cfg mt repo target contentType body h
    | get => exact h
    | delete repo target => exact handleDeleteNoLatest repo target h

theorem manifestLatestNone {st : State} (h : NoLatestRef st.db) (repo : String) :
    manifest repo "latest" st = none := by
  have := h repo
  unfold refAt at this
  unfold manifest
  cases found : st.db.images.lookup repo with
  | none => rfl
  | some ir => simp_all

theorem matchingLatestEmpty {d : Data} (h : NoLatestRef d) (svcName : String) :
    matchingRefs d.images svcName "latest" = [] := by
  refine List.eq_nil_iff_forall_not_mem.mpr fun rn mem => ?_
  obtain ⟨_, ir, found, has⟩ := memMatchingRefs.mp mem
  have := h rn
  simp [refAt, found] at this
  simp [this] at has

theorem latestNeverResolves (host : Host) (cfg : Config) (mt : MediaTypes) (requests : List Request)
    (st : State) (h : NoLatestRef st.db) :
    let st' := requests.foldl (serve host cfg mt) st
    (∀ svcName, matchingRefs st'.db.images svcName "latest" = []) ∧
      ∀ repo, handleGet repo "latest" st' = .error ⟨404, "MANIFEST_UNKNOWN", "Unknown manifest"⟩ := by
  have none := serveAllNoLatest host cfg mt requests h
  exact ⟨matchingLatestEmpty none, fun repo => by simp [handleGet, manifestLatestNone none repo]⟩

def latestPush : Except RegError Reply × State × List InstallRun :=
  handlePut sampleHost sampleConfig sampleMediaTypes "app/web" "latest"
    "application/vnd.docker.distribution.manifest.v2+json" [123] State.empty

/-- The push of `app/web:latest` succeeds and is stored as `staged`, yet the compose runner
finds no image to pull and retag, and a GET of `app/web:latest` is 404. -/
theorem pushedLatestNeverPulled :
    latestPush.1 = .ok (.created "sha256:5d41") ∧
      handleGet "app/web" "staged" latestPush.2.1 =
        .ok (.found ⟨"application/vnd.docker.distribution.manifest.v2+json", [123]⟩) ∧
      matchingRefs latestPush.2.1.db.images "app" "latest" = [] ∧
      handleGet "app/web" "latest" latestPush.2.1 = .error ⟨404, "MANIFEST_UNKNOWN", "Unknown manifest"⟩ ∧
      up latestPush.2.1.db.images "app" sampleConfig.internalRegistryAddr (fun _ => true) =
        ([], .ok ["up", "--pull", "always", "-d"]) := by
  have never := latestNeverResolves sampleHost sampleConfig sampleMediaTypes
    [.put "app/web" "latest" "application/vnd.docker.distribution.manifest.v2+json" [123]]
    State.empty (fun _ => rfl)
  exact ⟨rfl, rfl, never.1 "app", never.2 "app/web", upWithoutLatest _ _ (never.1 "app")⟩

end Yeet.Registry
