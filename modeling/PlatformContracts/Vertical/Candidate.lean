import PlatformContracts.Vertical.Baseline

/-!
# Candidates (`compare_candidate` of `platform-vertical-fixtures-v0/src/validation.rs`)

* `compareCandidate`: a later observation, with its own source, against the frozen projection.
* `source_ok`: what `validateManifest` says of the source of a case; `findCase_eq_ok`.
* `relaunchManifest`, `relaunchObservation`: a row, and its observation at two revisions.
* `candidate_eq_baseline`: with the source of the case itself, and its tree, a candidate has the
  result of a baseline.
-/

namespace Platform
namespace Vertical

open Contracts

section Candidate

variable (externals : Externals)

def compareCandidate (manifest : VerticalFixtureManifestV0) (caseId : String)
    (expectedProjectionBytes : List UInt8) (candidateSource : GitSourceV0)
    (candidateProductionTreeBytes : List UInt8)
    (verifiedPrerequisites : List (VerifiedPrerequisiteV0 externals.sha256))
    (candidate : ObservationEnvelopeV0) : Validated := do
  validateManifest manifest
  validateObservation candidate
  let case ← findCase manifest caseId
  validateCaseBinding manifest case candidate
  authenticateExactPrerequisites case verifiedPrerequisites
  validateSource candidateSource
  verifyArtifactBytes externals "candidate_source.production_tree" candidateSource.productionTree
    candidateProductionTreeBytes
  check (candidate.implementationRevision = candidateSource.commit)
    (.inconsistent "implementation_revision")
  check (candidateSource.repositoryId = case.source.repositoryId)
    (.inconsistent "candidate_source.repository_id")
  check (candidate.evidence.exactSource = candidateSource.productionTree.digest)
    (.inconsistent "evidence.exact_source")
  compareProjection externals case expectedProjectionBytes candidate

end Candidate

/-! ## The cases of an accepted manifest -/

theorem findCase_eq_ok {manifest : VerticalFixtureManifestV0} {caseId : String}
    {case : FixtureCaseV0} (h : findCase manifest caseId = .ok case) :
    case ∈ manifest.cases ∧ case.caseId = caseId := by
  have hfind := Exec.okOr_eq_ok.mp h
  have hid := List.find?_some hfind
  exact ⟨List.mem_of_find?_eq_some hfind, by simpa using hid⟩

/-- An artifact is valid whatever the field is that names it in an error. -/
theorem validateArtifact_field {field field' : String} {artifact : ArtifactIdentityV0}
    (h : validateArtifact field artifact = .ok ()) : validateArtifact field' artifact = .ok () := by
  simp only [validateArtifact, unit_bind_eq_ok, mapErr_eq_ok] at h ⊢
  exact h

theorem source_ok {manifest : VerticalFixtureManifestV0} {case : FixtureCaseV0}
    (h : validateManifest manifest = .ok ()) (hc : case ∈ manifest.cases) :
    validateSource case.source = .ok () :=
  ((validateManifest_eq_ok.mp h).cases case hc).source

/-- `validate_manifest` checked what `compare_candidate` checks of the source again. -/
theorem tree_ok {externals : Externals} {manifest : VerticalFixtureManifestV0}
    {case : FixtureCaseV0} {tree : List UInt8} (h : validateManifest manifest = .ok ())
    (hc : case ∈ manifest.cases) (hlength : case.source.productionTree.length.toNat = tree.length)
    (hdigest : case.source.productionTree.digest.hex = externals.sha256.digest tree) :
    verifyArtifactBytes externals "candidate_source.production_tree" case.source.productionTree
      tree = .ok () := by
  have hsource := source_ok h hc
  simp only [validateSource, unit_bind_eq_ok] at hsource
  exact verifyArtifactBytes_ok.mpr ⟨validateArtifact_field hsource.2.2, hlength, hdigest⟩

/-! ## A row with one owner

A row with one case, and the SHA-256 of the bytes that it names. -/

def emptyQueue : ArtifactIdentityV0 where
  id := "owner.queue.empty"
  digest := ⟨.sha256, "e3b0c44298fc1c149afbf4c8996fb92427ae41e4649b934ca495991b7852b855"⟩
  length := 0

def relaunchProjection : EquivalenceProjectionV0 where
  orderedEvents := [⟨0, "owner.1", none, none, "completed", none⟩]
  durableState := [⟨"owner.queue", "owner.queue.v1", some emptyQueue, some emptyQueue, .unchanged⟩]
  lifecycle := [⟨"owner.1", none, none, .completed, true⟩]
  ownership := ⟨0, 0, 1, 1⟩
  outputFacts := .ofList [("owner_joined", FactValueV0.boolean true)]
  failClosedFacts := ["no admission after quit"]

/-- `relaunchProjection` as JSON. -/
def relaunchProjectionBytes : List UInt8 :=
  ["\x7b\"ordered_events\":[\x7b\"sequence\":0,\"operation_id\":\"owner.1\",\"attempt_id\":null,",
    "\"correlation_id\":null,\"kind\":\"completed\",\"payload\":null\x7d],\"durable_state\":[\x7b",
    "\"state_id\":\"owner.queue\",\"schema_id\":\"owner.queue.v1\",\"before\":\x7b\"id\":\"owner.",
    "queue.empty\",\"digest\":\x7b\"algorithm\":\"sha256\",\"hex\":\"e3b0c44298fc1c149afbf4c8996f",
    "b92427ae41e4649b934ca495991b7852b855\"\x7d,\"length\":0\x7d,\"after\":\x7b\"id\":\"owner.que",
    "ue.empty\",\"digest\":\x7b\"algorithm\":\"sha256\",\"hex\":\"e3b0c44298fc1c149afbf4c8996fb92",
    "427ae41e4649b934ca495991b7852b855\"\x7d,\"length\":0\x7d,\"disposition\":\"unchanged\"\x7d],",
    "\"lifecycle\":[\x7b\"operation_id\":\"owner.1\",\"attempt_id\":null,\"correlation_id\":null,",
    "\"terminal\":\"completed\",\"released\":true\x7d],\"ownership\":\x7b\"active_operations\":0,",
    "\"retained_tasks\":0,\"expected_workers\":1,\"joined_workers\":1\x7d,\"output_facts\":\x7b\"",
    "owner_joined\":\x7b\"kind\":\"boolean\",\"value\":true\x7d\x7d,\"fail_closed_facts\":[\"no a",
    "dmission after quit\"]\x7d"].flatMap bytes

def relaunchTree : List UInt8 := bytes "production tree"

/-- The tree of a later revision. -/
def laterTree : List UInt8 := bytes "later tree"

/-- The SHA-256 of the bytes here. -/
def relaunchDigest (stream : List UInt8) : String :=
  if stream = relaunchTree then
    "d398170455894f86d187ea7c660d315fbca29d9deaafb68ae38821398edbb309"
  else if stream = laterTree then
    "7e01dee8930f26126c909b444b548542a0dc55031cf5dc2e8ec940d6717751c6"
  else if stream = bytes "model" then
    "9372c470eeadd5ecd9c3c74c2b3cb633f8e2f2fad799250a0f70d652b6b825e4"
  else if stream = relaunchProjectionBytes then
    "6f08f7239ef1ee220f552555b903e8f89e40998f488b97abf4b21a13e4249d43"
  else ""

def relaunchExternals : Externals where
  sha256 := {
    Hasher := List UInt8
    new := []
    update := fun hasher chunk => hasher ++ chunk
    finalize := relaunchDigest
    digest := relaunchDigest }
  projectionFromSlice stream :=
    if stream = relaunchProjectionBytes then .ok relaunchProjection
    else .error "expected value at line 1 column 1"

/-- An artifact with the digest of its bytes. -/
def relaunchArtifact (id : String) (stream : List UInt8) : ArtifactIdentityV0 where
  id := id
  digest := ⟨.sha256, relaunchDigest stream⟩
  length := UInt64.ofNat stream.length

def relaunchPrerequisite : PrerequisiteV0 where
  prerequisiteId := "model.fake"
  kind := .exactExternalArtifact
  identity := relaunchArtifact "model.fake.v1" (bytes "model")

def relaunchSource : GitSourceV0 where
  repositoryId := "delysis/product"
  commit := "aaaaaaaaaaaaaaaaaaaaaaaaaaaaaaaaaaaaaaaa"
  productionTree := relaunchArtifact "production.tree" relaunchTree

def laterSource : GitSourceV0 where
  repositoryId := "delysis/product"
  commit := "bbbbbbbbbbbbbbbbbbbbbbbbbbbbbbbbbbbbbbbb"
  productionTree := relaunchArtifact "production.tree" laterTree

/-- A state that the projection has. -/
def queueState : StateIdentityV0 where
  stateId := "owner.queue"
  schemaId := "owner.queue.v1"
  baseline := ⟨emptyQueue, .generatedFixture, none⟩

/-- A state that it does not have. -/
def profileState : StateIdentityV0 where
  stateId := "owner.profile"
  schemaId := "owner.profile.v1"
  baseline := ⟨relaunchArtifact "owner.profile.marker" relaunchTree, .generatedFixture, none⟩

def relaunchCase (stateIdentities : List StateIdentityV0) : FixtureCaseV0 where
  caseId := "owner.quit_relaunch"
  source := relaunchSource
  inputs := [⟨relaunchArtifact "relaunch.input" relaunchTree, .generatedFixture, none⟩]
  stateIdentities := stateIdentities
  prerequisites := [relaunchPrerequisite]
  replay := [⟨.cargo, ["test"], [], .denied⟩]
  expectedProjection := ⟨"expected.projection", ⟨.sha256,
    "6f08f7239ef1ee220f552555b903e8f89e40998f488b97abf4b21a13e4249d43"⟩, 864⟩

/-- The manifest of a row that declares the states. -/
def relaunchManifest (verticalId : VerticalIdV0) (stateIdentities : List StateIdentityV0) :
    VerticalFixtureManifestV0 where
  schema := verticalFixtureManifestSchemaV0
  verticalId := verticalId
  fixtureClass := verticalId.fixtureClass
  contractRevision := w1ContractRevision
  cases := [relaunchCase stateIdentities]
  omittedClaims := [liveHostedProviderOmission]
  negativeEvidence := []

/-- The observation of a revision, for a row. -/
def relaunchObservation (verticalId : VerticalIdV0) (source : GitSourceV0) :
    ObservationEnvelopeV0 where
  schema := verticalObservationSchemaV0
  verticalId := verticalId
  caseId := "owner.quit_relaunch"
  implementationRevision := source.commit
  observedPrerequisites := [relaunchPrerequisite]
  evidence := {
    schema := evidenceSchemaV0
    tier := .operational
    threatModel := "one local user"
    exactSource := source.productionTree.digest
    exactRuntimeOrArtifact := source.productionTree.digest
    executionKind := .fixture
    omittedClaims := [liveHostedProviderOmission]
    negativeEvidence := [] }
  projection := relaunchProjection

/-- The token of the prerequisite, from two chunks. -/
def relaunchToken : VerifiedPrerequisiteV0 relaunchExternals.sha256 where
  prerequisiteId := relaunchPrerequisite.prerequisiteId
  identity := relaunchPrerequisite.identity
  verified := ⟨[bytes "mod", bytes "el"], by decide +kernel⟩

theorem relaunch_case (verticalId : VerticalIdV0) (stateIdentities : List StateIdentityV0) :
    findCase (relaunchManifest verticalId stateIdentities) "owner.quit_relaunch" =
      .ok (relaunchCase stateIdentities) := by
  simp [findCase, relaunchManifest, relaunchCase, Exec.okOr]

/-- The first revision on the quit/relaunch row, whose case declares a state that its projection
does not have. -/
theorem relaunch_baseline :
    validateBaseline relaunchExternals (relaunchManifest .quitRelaunchFakeOwners [profileState])
      "owner.quit_relaunch" relaunchProjectionBytes [relaunchToken]
      (relaunchObservation .quitRelaunchFakeOwners relaunchSource) = .ok () := by
  decide +kernel

/-! ## Baselines and candidates -/

/-- With the source of the case itself, and bytes with the length and the SHA-256 of its tree, a
candidate has the result of a baseline, the same error included. -/
theorem candidate_eq_baseline (externals : Externals) (manifest : VerticalFixtureManifestV0)
    (caseId : String) (case : FixtureCaseV0) (expectedProjectionBytes tree : List UInt8)
    (verifiedPrerequisites : List (VerifiedPrerequisiteV0 externals.sha256))
    (observation : ObservationEnvelopeV0) (hcase : findCase manifest caseId = .ok case)
    (hlength : case.source.productionTree.length.toNat = tree.length)
    (hdigest : case.source.productionTree.digest.hex = externals.sha256.digest tree) :
    compareCandidate externals manifest caseId expectedProjectionBytes case.source tree
        verifiedPrerequisites observation =
      validateBaseline externals manifest caseId expectedProjectionBytes verifiedPrerequisites
        observation := by
  unfold compareCandidate validateBaseline
  cases hm : validateManifest manifest with
  | error e => rfl
  | ok _ =>
    have hc := (findCase_eq_ok hcase).1
    simp only [hcase, source_ok hm hc, tree_ok hm hc hlength hdigest, ok_bind, check_true]

/-- The first revision of the row, on either path. -/
theorem candidate_eq_baseline_relaunch :
    compareCandidate relaunchExternals (relaunchManifest .quitRelaunchFakeOwners [profileState])
        "owner.quit_relaunch" relaunchProjectionBytes relaunchSource relaunchTree [relaunchToken]
        (relaunchObservation .quitRelaunchFakeOwners relaunchSource) =
      validateBaseline relaunchExternals (relaunchManifest .quitRelaunchFakeOwners [profileState])
        "owner.quit_relaunch" relaunchProjectionBytes [relaunchToken]
        (relaunchObservation .quitRelaunchFakeOwners relaunchSource) :=
  candidate_eq_baseline _ _ _ (relaunchCase [profileState]) _ _ _ _ (relaunch_case _ _)
    (by decide +kernel) (by decide +kernel)

end Vertical
end Platform
