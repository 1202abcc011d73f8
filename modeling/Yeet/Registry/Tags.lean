import Mathlib.Data.List.Sort
import Mathlib.Data.String.Basic
import Yeet.Registry.Integrity

/-! The listings of the vendored registry. The tags listing, `manifests.handleTags`, over the
daemon's `containerRegistry.Manifests`: the repository's tags without digests in
`sort.Strings` order, then the loop over them for the `last` query value, then the first
`n`. The catalog, `manifests.handleCatalog`, over `containerRegistry.AllRepos`. The
referrers of a digest, `manifests.handleReferrers`, over `containerRegistry.Manifests`
again. Go orders strings by byte and the model by character, which agree on UTF-8. The
path's parsing into the repository and the JSON encoding of the reply are not modelled;
`strconv.Atoi`, `v1.NewHash` and the JSON decoding of manifest blobs are not among the
sources and are parameters. -/
namespace Yeet.Registry
open Yeet.Db Yeet.Catch

/-- `containerRegistry.Manifests`: the refs of the repository whose manifest file is read,
or `none` for an unknown repository. -/
def manifests (repo : String) (st : State) : Option (List (String × Manifest)) :=
  (st.db.images.lookup repo).map fun ir =>
    ir.refs.entries.filterMap fun entry =>
      (st.manifestFiles.lookup entry.2.blobHash).map fun blob => (entry.1, ⟨entry.2.contentType, blob⟩)

/-- The tags `handleTags` lists: the keys that do not contain `sha256:`, sorted. -/
def sortedTags (c : List (String × Manifest)) : List String :=
  ((c.map (·.1)).filter fun tag => !Strings.containsString tag "sha256:").insertionSort (· ≤ ·)

/-- The loop over the sorted tags for the `last` query value: the tags from the first one
above `last` on, or `none` when no tag is above it. -/
def fromFirstAbove (last : String) : List String → Option (List String)
  | [] => none
  | t :: rest => if last < t then some (t :: rest) else fromFirstAbove last rest

/-- The tags after the `last` query value (`""` when absent): the loop's cut, and the tags
unchanged when it breaks at no tag. -/
def afterLast (last : String) (tags : List String) : List String :=
  if last ≠ "" then (fromFirstAbove last tags).getD tags else tags

/-- `listTags`. -/
structure ListTags where
  name : String
  tags : List String
  deriving DecidableEq, Repr

/-- `manifests.handleTags` with the query values `last` and `n` (`""` when absent): the
reply or its `regError`; `none` is the panic of `tags[:n]` for a negative `n`. -/
def handleTags (atoi : String → Except String Int) (method repo last n : String) (st : State) :
    Option (Except RegError ListTags) :=
  if method ≠ "GET" then some (.error ⟨400, "METHOD_UNKNOWN", "We don't understand your method + url"⟩) else
  match manifests repo st with
  | none => some (.error ⟨404, "NAME_UNKNOWN", "Unknown name"⟩)
  | some c =>
      let tags := afterLast last (sortedTags c)
      if n = "" then some (.ok ⟨repo, tags⟩) else
      match atoi n with
      | .error e => some (.error ⟨400, "BAD_REQUEST", "parsing n: " ++ e⟩)
      | .ok k =>
          if k < tags.length then
            if 0 ≤ k then some (.ok ⟨repo, tags.take k.toNat⟩) else none
          else some (.ok ⟨repo, tags⟩)

theorem sortedTagsSorted (c : List (String × Manifest)) : (sortedTags c).Sorted (· ≤ ·) :=
  List.sorted_insertionSort _ _

theorem fromFirstAboveSorted (last : String) {tags : List String} (sorted : tags.Sorted (· ≤ ·)) :
    fromFirstAbove last tags = if ∃ t ∈ tags, last < t then some (tags.filter (last < ·)) else none := by
  induction tags with
  | nil => simp [fromFirstAbove]
  | cons t rest ih =>
    obtain ⟨atLeast, sortedRest⟩ := List.sorted_cons.mp sorted
    by_cases above : last < t
    · have restAbove : rest.filter (last < ·) = rest :=
        List.filter_eq_self.mpr fun x mem => decide_eq_true (lt_of_lt_of_le above (atLeast x mem))
      rw [fromFirstAbove, if_pos above, if_pos ⟨t, List.mem_cons_self t rest, above⟩, List.filter_cons,
        if_pos (decide_eq_true above), restAbove]
    · rw [fromFirstAbove, if_neg above, ih sortedRest, List.filter_cons, if_neg fun h => above (of_decide_eq_true h)]
      simp only [List.exists_mem_cons_iff, above, false_or]

theorem afterLastSorted (last : String) {tags : List String} (sorted : tags.Sorted (· ≤ ·)) :
    afterLast last tags =
      if last ≠ "" ∧ ∃ t ∈ tags, last < t then tags.filter (last < ·) else tags := by
  rw [afterLast, fromFirstAboveSorted last sorted]
  by_cases given : last = ""
  · rw [if_neg (not_not.mpr given), if_neg fun h => h.1 given]
  · by_cases above : ∃ t ∈ tags, last < t
    · rw [if_pos given, if_pos above, if_pos ⟨given, above⟩]
      rfl
    · rw [if_pos given, if_neg above, if_neg fun h => above h.2]
      rfl

/-- A GET of a stored repository's tags lists its tags without digests, sorted: those
above `last` when `last` is given and some tag is above it, and every tag otherwise; then
the first `k` when `n` parses to `k ≥ 0`. An `n` that parses to a negative number panics,
and one that does not parse is a `400`. -/
theorem tagsListing (atoi : String → Except String Int) (repo last n : String) {st : State}
    {c : List (String × Manifest)} (found : manifests repo st = some c) :
    let after := if last ≠ "" ∧ ∃ t ∈ sortedTags c, last < t then (sortedTags c).filter (last < ·)
      else sortedTags c
    (n = "" → handleTags atoi "GET" repo last n st = some (.ok ⟨repo, after⟩)) ∧
      (∀ k : Nat, n ≠ "" → atoi n = .ok k →
        handleTags atoi "GET" repo last n st = some (.ok ⟨repo, after.take k⟩)) ∧
      (∀ k : Int, n ≠ "" → atoi n = .ok k → k < 0 → handleTags atoi "GET" repo last n st = none) ∧
      (∀ e, n ≠ "" → atoi n = .error e →
        handleTags atoi "GET" repo last n st = some (.error ⟨400, "BAD_REQUEST", "parsing n: " ++ e⟩)) := by
  intro after
  have cut : afterLast last (sortedTags c) = after := afterLastSorted last (sortedTagsSorted c)
  simp only [handleTags, found, cut, ne_eq, not_true_eq_false, if_false]
  refine ⟨fun absent => by rw [if_pos absent], fun k given parsed => ?_, fun k given parsed negative => ?_,
    fun e given failed => by rw [if_neg given, failed]⟩
  · rw [if_neg given, parsed]
    dsimp only
    by_cases shorter : (k : Int) < after.length
    · rw [if_pos shorter, if_pos (Int.natCast_nonneg k), Int.toNat_ofNat]
    · rw [if_neg shorter, List.take_of_length_le (by omega)]
  · rw [if_neg given, parsed]
    dsimp only
    rw [if_pos (by omega), if_neg (by omega)]

/-- `strconv.Atoi` on a string of fewer than 19 bytes, its path on 64-bit platforms: an
optional sign, then decimal digits. -/
def atoiShort (s : String) : Except String Int :=
  let (negative, digits) : Bool × List Char := match s.toList with
    | '-' :: rest => (true, rest)
    | '+' :: rest => (false, rest)
    | cs => (false, cs)
  if digits = [] ∨ !digits.all Char.isDigit then .error ("strconv.Atoi: parsing \"" ++ s ++ "\": invalid syntax")
  else
    let value : Int := digits.foldl (fun v ch => 10 * v + (ch.toNat - '0'.toNat : Nat)) 0
    .ok (if negative then -value else value)

/-- A repository `app/web` with the tags `a` and `b` and the digest of their manifest. -/
def taggedRepo : ImageRepo :=
  ⟨(((∅ : GoMap String ImageManifest).insert "sha256:5d41" ⟨"application/vnd.oci.image.manifest.v1+json", "5d41"⟩).insert
    "a" ⟨"application/vnd.oci.image.manifest.v1+json", "5d41"⟩).insert "b" ⟨"application/vnd.oci.image.manifest.v1+json", "5d41"⟩⟩

def taggedState : State :=
  ⟨{ Data.empty with images := (∅ : GoMap String ImageRepo).insert "app/web" taggedRepo },
    (∅ : GoMap String Blob).insert "5d41" [1]⟩

/-- What `containerRegistry.Manifests` reads of `app/web` in `taggedState`. -/
def taggedManifests : List (String × Manifest) :=
  [("b", ⟨"application/vnd.oci.image.manifest.v1+json", [1]⟩), ("a", ⟨"application/vnd.oci.image.manifest.v1+json", [1]⟩),
    ("sha256:5d41", ⟨"application/vnd.oci.image.manifest.v1+json", [1]⟩)]

theorem taggedManifestsSorted : sortedTags taggedManifests = ["a", "b"] := by
  have kept : (taggedManifests.map (·.1)).filter (fun tag => !Strings.containsString tag "sha256:") = ["b", "a"] := by
    decide
  rw [sortedTags, kept]
  simp only [List.insertionSort, List.orderedInsert]
  rw [if_neg (by rw [String.le_iff_toList_le]; decide)]

/-- A client that asks for the tags after `b`, the last tag of `app/web`, gets both tags
again, and one that asks for `n=-1` makes the handler panic. -/
theorem tagsCursorPastEnd :
    handleTags atoiShort "GET" "app/web" "b" "" taggedState = some (.ok ⟨"app/web", ["a", "b"]⟩) ∧
      handleTags atoiShort "GET" "app/web" "" "-1" taggedState = none :=
  have found : manifests "app/web" taggedState = some taggedManifests := rfl
  have pastEnd := (tagsListing atoiShort "app/web" "b" "" found).1 rfl
  have negative := (tagsListing atoiShort "app/web" "" "-1" found).2.2.1 (-1) (by decide) rfl (by decide)
  ⟨pastEnd.trans (by rw [taggedManifestsSorted, if_neg (by simp only [String.lt_iff_toList_lt]; decide)]), negative⟩

/-! ### The catalog -/

/-- `containerRegistry.AllRepos`: the repositories, in the order the map is ranged. -/
def allRepos (st : State) : List String := st.db.images.entries.map (·.1)

/-- `catalog`. -/
structure Catalog where
  repos : List String
  deriving DecidableEq, Repr

/-- `manifests.handleCatalog` with the query value `n` (`""` when absent), where `atoiValue`
is the value `strconv.Atoi` returns, its error dropped. `none` is the panic of `repos[:n]`
for a negative `n`. -/
def handleCatalog (atoiValue : String → Int) (method n : String) (st : State) : Option (Except RegError Catalog) :=
  let n : Int := if n = "" then 10000 else atoiValue n
  if method = "GET" then
    let repos := allRepos st
    if n < repos.length then
      if 0 ≤ n then some (.ok ⟨repos.take n.toNat⟩) else none
    else some (.ok ⟨repos⟩)
  else some (.error ⟨400, "METHOD_UNKNOWN", "We don't understand your method + url"⟩)

theorem memAllRepos (repo : String) (st : State) : repo ∈ allRepos st ↔ repo ∈ st.db.images := Iff.rfl

theorem allReposNodup (st : State) : (allRepos st).Nodup := st.db.images.nodupKeys

theorem putRepos (host : Host) (cfg : Config) (mt : MediaTypes) {repo : String} (target contentType : String)
    (body : Blob) {st : State} (passes : checkIndex mt repo ⟨contentType, body⟩ st = none) (k : String) :
    k ∈ allRepos (handlePut host cfg mt repo target contentType body st).2.1 ↔ k = repo ∨ k ∈ allRepos st := by
  have setKeys : ∀ tag m (st : State), k ∈ allRepos (setManifest host cfg repo tag m st).1 ↔
      (k = repo ∧ Strings.count repo '/' = 1) ∨ k ∈ allRepos st := fun tag m st => by
    by_cases valid : Strings.count repo '/' = 1
    · rw [setManifestValid tag m st valid]
      simp only [memAllRepos, recordTag, storeManifest, AList.mem_insert, valid, and_true]
    · rw [setManifestInvalid tag m st valid]
      simp [valid]
  have firstKeys : k ∈ allRepos (if repoExists repo st then st else setManifests host repo ∅ st) ↔
      k = repo ∨ k ∈ allRepos st := by
    split_ifs with found
    · have present : repo ∈ st.db.images := AList.lookup_isSome.mp found
      exact ⟨.inr, fun | .inl same => same ▸ present | .inr mem => mem⟩
    · simp only [memAllRepos, setManifests, AList.empty_entries, List.foldl_nil, AList.mem_insert]
  have checked := handlePutChecked host cfg target passes
  simp only [checked, setKeys, firstKeys]
  tauto

/-- Every PUT whose index check passes leaves its repository in the catalog of a store
of fewer than 10000 repositories, also a PUT the callback rejects with a 500 (a name
without exactly one `/`, or a tag other than `latest` and `run`): the repository is
created, without refs, before `OnImageReceived` runs, and nothing removes it. -/
theorem putRepoCataloged (atoiValue : String → Int) (host : Host) (cfg : Config) (mt : MediaTypes)
    {repo : String} (target contentType : String) (body : Blob) {st : State}
    (passes : checkIndex mt repo ⟨contentType, body⟩ st = none) (room : (allRepos st).length < 10000) :
    ∃ repos, handleCatalog atoiValue "GET" "" (handlePut host cfg mt repo target contentType body st).2.1 =
      some (.ok ⟨repos⟩) ∧ repo ∈ repos := by
  have keys := putRepos host cfg mt target contentType body passes
  have within : (allRepos (handlePut host cfg mt repo target contentType body st).2.1).length ≤
      (allRepos st).length + 1 :=
    (List.subperm_of_subset (allReposNodup _) fun k mem =>
      List.mem_cons.mpr ((keys k).mp mem)).length_le
  refine ⟨allRepos (handlePut host cfg mt repo target contentType body st).2.1, ?_, (keys repo).mpr (.inl rfl)⟩
  simp only [handleCatalog, if_true]
  rw [if_neg (by omega)]

theorem rejectedWebCataloged :
    (handlePut sampleHost sampleConfig sampleMediaTypes "web" "run" "application/vnd.oci.image.manifest.v1+json" [123]
        State.empty).1 =
      .error ⟨500, "CALLBACK_FAILED", "containers should follow the 'service/container' format"⟩ ∧
    checkIndex sampleMediaTypes "web" ⟨"application/vnd.oci.image.manifest.v1+json", [123]⟩ State.empty = none ∧
    (allRepos State.empty).length < 10000 ∧
    ∃ repos, handleCatalog (fun _ => 0) "GET" "" (handlePut sampleHost sampleConfig sampleMediaTypes "web" "run"
        "application/vnd.oci.image.manifest.v1+json" [123] State.empty).2.1 = some (.ok ⟨repos⟩) ∧ "web" ∈ repos := by
  have passes : checkIndex sampleMediaTypes "web" ⟨"application/vnd.oci.image.manifest.v1+json", [123]⟩ State.empty =
      none := rfl
  have room : (allRepos State.empty).length < 10000 := by decide
  exact ⟨rfl, passes, room, putRepoCataloged (fun _ => 0) sampleHost sampleConfig sampleMediaTypes "run"
    "application/vnd.oci.image.manifest.v1+json" [123] passes room⟩

/-! ### The referrers -/

/-- What `handleReferrers` reads with `v1.NewHash` and `json.Unmarshal`: whether a string
is a valid digest, the digest of a blob's `subject`, and its `config.mediaType` (`""` when
absent). -/
structure ReferrerParsers where
  newHash : String → Bool
  subjectDigest : Blob → Option String
  configMediaType : Blob → String

/-- The fields of a `v1.Descriptor` `handleReferrers` sets. -/
structure Referrer where
  mediaType : String
  size : Nat
  digest : String
  artifactType : String
  deriving DecidableEq, Repr

/-- The body of the loop of `handleReferrers` for one entry of `Manifests(repo)`. -/
def referrer (rp : ReferrerParsers) (target : String) (entry : String × Manifest) : Option Referrer :=
  if !rp.newHash entry.1 then none else
  match rp.subjectDigest entry.2.blob with
  | none => none
  | some subject =>
      if subject ≠ target then none
      else some ⟨entry.2.contentType, entry.2.blob.length, entry.1, rp.configMediaType entry.2.blob⟩

/-- `manifests.handleReferrers`: the manifests of the index it answers, or its `regError`. -/
def handleReferrers (rp : ReferrerParsers) (method repo target : String) (st : State) :
    Except RegError (List Referrer) :=
  if method ≠ "GET" then .error ⟨400, "METHOD_UNKNOWN", "We don't understand your method + url"⟩
  else if !rp.newHash target then .error ⟨400, "UNSUPPORTED", "Target must be a valid digest"⟩
  else match manifests repo st with
    | none => .error ⟨404, "NAME_UNKNOWN", "Unknown name"⟩
    | some entries => .ok (entries.filterMap (referrer rp target))

theorem memManifests {repo ref : String} {st : State} {entries : List (String × Manifest)}
    (listed : manifests repo st = some entries) {im : ImageManifest} {blob : Blob}
    (recorded : refAt st.db repo ref = some im) (file : st.manifestFiles.lookup im.blobHash = some blob) :
    (ref, ⟨im.contentType, blob⟩) ∈ entries := by
  unfold manifests at listed
  unfold refAt at recorded
  cases found : st.db.images.lookup repo with
  | none => simp [found] at listed
  | some ir =>
    simp only [found, Option.map_some', Option.some.injEq, Option.some_bind] at listed recorded
    subst listed
    exact List.mem_filterMap.mpr ⟨⟨ref, im⟩, AList.mem_lookup_iff.mp recorded, by simp [file]⟩

theorem manifestsRecorded {repo ref : String} {st : State} {im : ImageManifest} (recorded : refAt st.db repo ref = some im) :
    ∃ entries, manifests repo st = some entries := by
  unfold refAt at recorded
  unfold manifests
  cases found : st.db.images.lookup repo with
  | none => simp [found] at recorded
  | some ir => exact ⟨_, rfl⟩

/-- A pushed manifest that names a subject is listed among the subject's referrers under
each ref the push stored it by that is a valid digest: its own digest, and the target when
the target is a digest. A push to a digest other than the body's is therefore listed twice,
under both. -/
theorem pushedReferrerListed (rp : ReferrerParsers) (host : Host) (cfg : Config) (mt : MediaTypes)
    {repo contentType : String} {body : Blob} {st : State} (target : String) {subject : String}
    (passes : checkIndex mt repo ⟨contentType, body⟩ st = none) (valid : Strings.count repo '/' = 1)
    (names : rp.subjectDigest body = some subject) (subjectHash : rp.newHash subject = true) :
    ∃ listed, handleReferrers rp "GET" repo subject (handlePut host cfg mt repo target contentType body st).2.1 =
        .ok listed ∧
      ∀ ref, (ref = "sha256:" ++ host.sha256Hex body ∨ ref ∈ (tagReferences target).1) → rp.newHash ref = true →
        ⟨contentType, body.length, ref, rp.configMediaType body⟩ ∈ listed := by
  have refs := (validPutWrites host cfg mt target contentType body st passes valid).2.1 repo
  have file := validPutFile host cfg mt target contentType body st passes valid
  obtain ⟨entries, listed⟩ := manifestsRecorded ((refs ("sha256:" ++ host.sha256Hex body)).trans (if_pos ⟨rfl, .inl rfl⟩))
  refine ⟨entries.filterMap (referrer rp subject), by simp [handleReferrers, subjectHash, listed], fun ref stored refHash => ?_⟩
  have mem := memManifests listed ((refs ref).trans (if_pos ⟨rfl, stored⟩)) file
  exact List.mem_filterMap.mpr ⟨_, mem, by simp [referrer, refHash, names]⟩

def subjectAaaa : ReferrerParsers := ⟨fun s => Strings.hasPrefix s "sha256:", fun _ => some "sha256:aaaa", fun _ => ""⟩

theorem digestPushListedTwice :
    checkIndex sampleMediaTypes "app/web" ⟨"application/vnd.oci.image.manifest.v1+json", [123]⟩ State.empty = none ∧
      Strings.count "app/web" '/' = 1 ∧ subjectAaaa.subjectDigest [123] = some "sha256:aaaa" ∧
      subjectAaaa.newHash "sha256:aaaa" = true ∧
      (∃ listed, handleReferrers subjectAaaa "GET" "app/web" "sha256:aaaa" (handlePut sampleHost sampleConfig
          sampleMediaTypes "app/web" "sha256:beef" "application/vnd.oci.image.manifest.v1+json" [123] State.empty).2.1 =
          .ok listed ∧
        ∀ ref, (ref = "sha256:" ++ sampleHost.sha256Hex [123] ∨ ref ∈ (tagReferences "sha256:beef").1) →
          subjectAaaa.newHash ref = true →
          ⟨"application/vnd.oci.image.manifest.v1+json", [123].length, ref, subjectAaaa.configMediaType [123]⟩ ∈ listed) ∧
      handleReferrers subjectAaaa "GET" "app/web" "sha256:aaaa" (handlePut sampleHost sampleConfig sampleMediaTypes
          "app/web" "sha256:beef" "application/vnd.oci.image.manifest.v1+json" [123] State.empty).2.1 =
        .ok [⟨"application/vnd.oci.image.manifest.v1+json", 1, "sha256:beef", ""⟩,
          ⟨"application/vnd.oci.image.manifest.v1+json", 1, "sha256:5d41", ""⟩] := by
  have passes : checkIndex sampleMediaTypes "app/web" ⟨"application/vnd.oci.image.manifest.v1+json", [123]⟩
      State.empty = none := rfl
  have valid : Strings.count "app/web" '/' = 1 := by decide
  exact ⟨passes, valid, rfl, by decide,
    pushedReferrerListed subjectAaaa sampleHost sampleConfig sampleMediaTypes "sha256:beef" passes valid rfl (by decide),
    rfl⟩

end Yeet.Registry
