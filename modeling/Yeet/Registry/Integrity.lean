import Yeet.Registry.Manifests

/-! What the registry's manifest store keeps over any run of manifest requests: every file
under `manifests/sha256/` is named by its content's hash, and every ref of the state
document names a stored file. So a GET of a recorded ref never misses, and answers the
content the ref's hash names. A PUT reads back by its digest and by its tag. The other
writers of the document (the installer, `RemoveService`) are not part of these runs. -/
namespace Yeet.Registry
open Yeet.Db Yeet.Catch

/-- The store's invariant: every manifest file is stored under its content's hash, and
every ref names a stored file. -/
structure Stored (host : Host) (st : State) : Prop where
  hashed : ∀ h b, st.manifestFiles.lookup h = some b → host.sha256Hex b = h
  resolved : ∀ repo ref m, refAt st.db repo ref = some m → m.blobHash ∈ st.manifestFiles

theorem manifestRefAt (repo ref : String) (st : State) :
    manifest repo ref st = (refAt st.db repo ref).bind fun m =>
      (st.manifestFiles.lookup m.blobHash).map fun blob => ⟨m.contentType, blob⟩ := by
  simp only [manifest, refAt, bind, Option.bind_assoc, Option.map_eq_bind, Function.comp_def]

theorem handleGetFound {st : State} {repo ref : String} {m : ImageManifest} {blob : Blob}
    (recorded : refAt st.db repo ref = some m) (file : st.manifestFiles.lookup m.blobHash = some blob) :
    handleGet repo ref st = .ok (.found ⟨m.contentType, blob⟩) := by
  simp [handleGet, manifestRefAt, recorded, file]

@[simp] theorem recordTagFiles (host : Host) (repo tag : String) (m : Manifest) (st : State) :
    (recordTag host repo tag m st).manifestFiles = st.manifestFiles.insert (host.sha256Hex m.blob) m.blob :=
  rfl

@[simp] theorem deleteManifestFiles (repo ref : String) (st : State) :
    (deleteManifest repo ref st).manifestFiles = st.manifestFiles := by
  unfold deleteManifest
  split <;> rfl

theorem refAtDelete (repo ref : String) (st : State) (repo' ref' : String) :
    refAt (deleteManifest repo ref st).db repo' ref' =
      if repo' = repo ∧ ref' = ref then none else refAt st.db repo' ref' := by
  unfold deleteManifest
  split
  · rename_i absent
    split_ifs with named
    · obtain ⟨rfl, -⟩ := named
      simp [refAt, absent]
    · rfl
  · rename_i ir found
    rw [refAtInsert]
    by_cases sameRepo : repo' = repo
    · subst sameRepo
      by_cases sameRef : ref' = ref
      · subst sameRef
        simp [AList.lookup_erase]
      · simp [sameRef, AList.lookup_erase_ne sameRef, refAt, found]
    · simp [sameRepo]

/-! ### Every request keeps the invariant -/

section Steps

variable {host : Host} {st : State}

theorem emptyStored (host : Host) : Stored host State.empty :=
  ⟨fun _ _ none => (nomatch none), fun _ _ _ none => (nomatch none)⟩

theorem recordTagStored (repo tag : String) (m : Manifest) (stored : Stored host st) :
    Stored host (recordTag host repo tag m st) := by
  constructor
  · intro h b file
    rw [recordTagFiles] at file
    by_cases same : h = host.sha256Hex m.blob
    · subst same
      rw [AList.lookup_insert] at file
      cases file
      rfl
    · rw [AList.lookup_insert_ne same] at file
      exact stored.hashed h b file
  · intro repo' ref m' recorded
    rw [refAtRecordTag] at recorded
    rw [recordTagFiles, AList.mem_insert]
    split_ifs at recorded
    · cases recorded
      exact .inl rfl
    · exact .inr (stored.resolved repo' ref m' recorded)

theorem setManifestStored (cfg : Config) (repo tag : String) (m : Manifest) (stored : Stored host st) :
    Stored host (setManifest host cfg repo tag m st).1 := by
  by_cases valid : Strings.count repo '/' = 1
  · rw [setManifestValid tag m st valid]
    exact recordTagStored repo tag m stored
  · rwa [setManifestInvalid tag m st valid]

theorem firstWriteStored (repo : String) (stored : Stored host st) :
    Stored host (if repoExists repo st then st else setManifests host repo ∅ st) := by
  have files : (if repoExists repo st then st else setManifests host repo ∅ st).manifestFiles =
      st.manifestFiles := by
    split_ifs <;> rfl
  refine ⟨fun h b => files ▸ stored.hashed h b, fun repo' ref m recorded => ?_⟩
  rw [refAtFirstWrite] at recorded
  exact files ▸ stored.resolved repo' ref m recorded

theorem handlePutStored (cfg : Config) (mt : MediaTypes) (repo target contentType : String)
    (body : Blob) (stored : Stored host st) :
    Stored host (handlePut host cfg mt repo target contentType body st).2.1 := by
  cases passes : checkIndex mt repo ⟨contentType, body⟩ st with
  | some err => simpa [handlePut, passes] using stored
  | none =>
    have checked := handlePutChecked host cfg target passes
    simp only [checked]
    exact setManifestStored cfg repo target _ (setManifestStored cfg repo _ _ (firstWriteStored repo stored))

theorem handleDeleteStored (repo target : String) (stored : Stored host st) :
    Stored host (handleDelete repo target st).2 := by
  unfold handleDelete
  split_ifs
  · exact stored
  · exact stored
  · refine ⟨fun h b => deleteManifestFiles repo target st ▸ stored.hashed h b, fun repo' ref m recorded => ?_⟩
    rw [refAtDelete] at recorded
    split_ifs at recorded
    exact deleteManifestFiles repo target st ▸ stored.resolved repo' ref m recorded

theorem serveStored (cfg : Config) (mt : MediaTypes) (request : Request) (stored : Stored host st) :
    Stored host (serve host cfg mt st request) := by
  cases request with
  | put repo target contentType body => exact handlePutStored cfg mt repo target contentType body stored
  | get => exact stored
  | delete repo target => exact handleDeleteStored repo target stored

theorem serveAllStored (cfg : Config) (mt : MediaTypes) (requests : List Request) (stored : Stored host st) :
    Stored host (requests.foldl (serve host cfg mt) st) := by
  induction requests generalizing st with
  | nil => exact stored
  | cons request rest ih => exact ih (serveStored cfg mt request stored)

end Steps

/-- Over any run of manifest requests from a store that keeps the invariant (the empty one
does), a GET of a ref the document records never misses: it answers 200 with the recorded
content type and content whose hash is the recorded one. -/
theorem recordedRefsServed (host : Host) (cfg : Config) (mt : MediaTypes) (requests : List Request)
    {st : State} (stored : Stored host st) {repo ref : String} {m : ImageManifest}
    (recorded : refAt (requests.foldl (serve host cfg mt) st).db repo ref = some m) :
    ∃ blob, handleGet repo ref (requests.foldl (serve host cfg mt) st) = .ok (.found ⟨m.contentType, blob⟩) ∧
      host.sha256Hex blob = m.blobHash := by
  have run := serveAllStored cfg mt requests stored
  obtain ⟨blob, file⟩ := Option.isSome_iff_exists.mp (AList.lookup_isSome.mpr (run.resolved repo ref m recorded))
  exact ⟨blob, handleGetFound recorded file, run.hashed _ _ file⟩

def runPush : List Request := [.put "app/web" "run" "application/vnd.oci.image.manifest.v1+json" [123]]

theorem runPushServed :
    Stored sampleHost State.empty ∧
      refAt (runPush.foldl (serve sampleHost sampleConfig sampleMediaTypes) State.empty).db "app/web" "run" =
        some ⟨"application/vnd.oci.image.manifest.v1+json", "5d41"⟩ ∧
      ∃ blob, handleGet "app/web" "run" (runPush.foldl (serve sampleHost sampleConfig sampleMediaTypes) State.empty) =
          .ok (.found ⟨"application/vnd.oci.image.manifest.v1+json", blob⟩) ∧ sampleHost.sha256Hex blob = "5d41" := by
  have recorded : refAt (runPush.foldl (serve sampleHost sampleConfig sampleMediaTypes) State.empty).db "app/web" "run" =
      some ⟨"application/vnd.oci.image.manifest.v1+json", "5d41"⟩ := rfl
  exact ⟨emptyStored sampleHost, recorded,
    recordedRefsServed sampleHost sampleConfig sampleMediaTypes runPush (emptyStored sampleHost) recorded⟩

/-! ### A push reads back -/

theorem validPutFile (host : Host) (cfg : Config) (mt : MediaTypes) {repo : String}
    (target contentType : String) (body : Blob) (st : State)
    (passes : checkIndex mt repo ⟨contentType, body⟩ st = none) (valid : Strings.count repo '/' = 1) :
    (handlePut host cfg mt repo target contentType body st).2.1.manifestFiles.lookup (host.sha256Hex body) =
      some body := by
  have checked := handlePutChecked host cfg target passes
  simp only [setManifestValid _ _ _ valid] at checked
  simp only [checked, recordTagFiles, AList.lookup_insert]

theorem tagReferencesRead (target : String) :
    (if target = "latest" then "staged" else target) ∈ (tagReferences target).1 := by
  unfold tagReferences
  split <;> simp_all

/-- A PUT whose index check passes, to a repo with one `/`, reads back whatever the callback
then answers: by its digest, by its tag (`latest` as `staged`), and by `staged` for `run`.
No check ties a digest target to the body: a PUT to `sha256:<hex>` is read back under that
digest whatever the body's hash. -/
theorem putReadBack (host : Host) (cfg : Config) (mt : MediaTypes) {repo contentType : String}
    {body : Blob} {st : State} (target : String)
    (passes : checkIndex mt repo ⟨contentType, body⟩ st = none) (valid : Strings.count repo '/' = 1) :
    let st' := (handlePut host cfg mt repo target contentType body st).2.1
    handleGet repo ("sha256:" ++ host.sha256Hex body) st' = .ok (.found ⟨contentType, body⟩) ∧
      handleGet repo (if target = "latest" then "staged" else target) st' = .ok (.found ⟨contentType, body⟩) ∧
      (target = "run" → handleGet repo "staged" st' = .ok (.found ⟨contentType, body⟩)) := by
  intro st'
  have refs := (validPutWrites host cfg mt target contentType body st passes valid).2.1 repo
  have file := validPutFile host cfg mt target contentType body st passes valid
  have read : ∀ ref, (ref = "sha256:" ++ host.sha256Hex body ∨ ref ∈ (tagReferences target).1) →
      handleGet repo ref st' = .ok (.found ⟨contentType, body⟩) := fun ref stored =>
    handleGetFound (m := ⟨contentType, host.sha256Hex body⟩) (by rw [refs, if_pos ⟨rfl, stored⟩]) file
  refine ⟨read _ (.inl rfl), read _ (.inr (tagReferencesRead target)), fun run => read _ (.inr ?_)⟩
  subst run
  simp [tagReferences]

theorem mismatchedDigestServed :
    checkIndex sampleMediaTypes "app/web" ⟨"application/vnd.oci.image.manifest.v1+json", [123]⟩ State.empty = none ∧
      Strings.count "app/web" '/' = 1 ∧
      handleGet "app/web" "sha256:beef" (handlePut sampleHost sampleConfig sampleMediaTypes "app/web" "sha256:beef"
        "application/vnd.oci.image.manifest.v1+json" [123] State.empty).2.1 =
        .ok (.found ⟨"application/vnd.oci.image.manifest.v1+json", [123]⟩) := by
  have passes : checkIndex sampleMediaTypes "app/web"
      ⟨"application/vnd.oci.image.manifest.v1+json", [123]⟩ State.empty = none := rfl
  have valid : Strings.count "app/web" '/' = 1 := by decide
  have back := (putReadBack sampleHost sampleConfig sampleMediaTypes "sha256:beef" passes valid).2.1
  rw [if_neg (by decide)] at back
  exact ⟨passes, valid, back⟩

/-! ### A delete reads back -/

/-- After a DELETE the registry accepted, a GET of the deleted ref is a 404 and every other
ref reads as before. A DELETE by digest removes only the digest's ref: the tags that name
the same manifest still read it. -/
theorem deleteReadBack (repo target : String) (st : State)
    (accepted : (handleDelete repo target st).1 = .ok .accepted) :
    handleGet repo target (handleDelete repo target st).2 = .error ⟨404, "MANIFEST_UNKNOWN", "Unknown manifest"⟩ ∧
      ∀ repo' ref, (repo', ref) ≠ (repo, target) →
        handleGet repo' ref (handleDelete repo target st).2 = handleGet repo' ref st := by
  have deleted : (handleDelete repo target st).2 = deleteManifest repo target st := by
    unfold handleDelete at accepted ⊢
    split_ifs at accepted ⊢
    rfl
  rw [deleted]
  refine ⟨by simp [handleGet, manifestRefAt, refAtDelete], fun repo' ref other => ?_⟩
  have kept : ¬(repo' = repo ∧ ref = target) := fun ⟨sameRepo, sameRef⟩ => other (by rw [sameRepo, sameRef])
  simp only [handleGet, manifestRefAt, refAtDelete, deleteManifestFiles, kept, if_false]

def runPushed : State := runPush.foldl (serve sampleHost sampleConfig sampleMediaTypes) State.empty

theorem digestDeleteKeepsTag :
    (handleDelete "app/web" "sha256:5d41" runPushed).1 = .ok .accepted ∧
      handleGet "app/web" "sha256:5d41" (handleDelete "app/web" "sha256:5d41" runPushed).2 =
        .error ⟨404, "MANIFEST_UNKNOWN", "Unknown manifest"⟩ ∧
      handleGet "app/web" "run" (handleDelete "app/web" "sha256:5d41" runPushed).2 =
        .ok (.found ⟨"application/vnd.oci.image.manifest.v1+json", [123]⟩) := by
  have accepted : (handleDelete "app/web" "sha256:5d41" runPushed).1 = .ok .accepted := rfl
  have back := deleteReadBack "app/web" "sha256:5d41" runPushed accepted
  exact ⟨accepted, back.1, (back.2 "app/web" "run" (by decide)).trans rfl⟩

end Yeet.Registry
