import PlatformContracts.Lib.Exec
import PlatformContracts.Vertical.Observation

/-!
# Baselines (`validate_baseline` of `platform-vertical-fixtures-v0/src/validation.rs`)

* `Sha256`, `Externals`: the hash and the JSON reader that the validators call.
* `VerifiedPrerequisiteV0`: a token of `verify_prerequisite_chunks`. The fields are private there
  and nothing else builds one, so the structure carries that some chunks were verified.
* `validateCaseBinding`, `authenticateExactPrerequisites`, `compareProjection` and
  `validateBaseline`.

A `BTreeMap` that is collected from pairs keeps the last pair of each key.
-/

namespace Platform
namespace Vertical

open Std Contracts

/-- `sha2::Sha256`; the digests are printed with `{:x}`. -/
structure Sha256 where
  Hasher : Type
  new : Hasher
  update : Hasher → List UInt8 → Hasher
  finalize : Hasher → String
  digest : List UInt8 → String

/-- The code outside the crate. -/
structure Externals where
  sha256 : Sha256
  /-- `serde_json::from_slice` of a projection, with the text of its error. -/
  projectionFromSlice : List UInt8 → Except String EquivalenceProjectionV0

/-! ## Prerequisite tokens -/

section Chunks

variable (sha256 : Sha256)

/-- The loop over the chunks, with the length and the hasher so far. -/
def hashChunks (length : UInt64) (digest : sha256.Hasher) :
    List (List UInt8) → Except ValidationError (UInt64 × sha256.Hasher)
  | [] => .ok (length, digest)
  | chunk :: chunks => do
    check (chunk.length < 2 ^ 64) (.invalid "prerequisite_chunks")
    let length ← Exec.okOr (checkedAdd length (UInt64.ofNat chunk.length))
      (.invalid "prerequisite_chunks")
    hashChunks length (sha256.update digest chunk) chunks

/-- `verify_prerequisite_chunks`, without its token. -/
def authenticateChunks (prerequisiteId : String) (identity : ArtifactIdentityV0)
    (chunks : List (List UInt8)) : Validated := do
  validateSafeId "prerequisite_id" prerequisiteId
  validateArtifact "prerequisite.identity" identity
  let (length, digest) ← hashChunks sha256 0 sha256.new chunks
  check (identity.length = length) (.lengthMismatch "prerequisite_chunks")
  check (identity.digest.hex = sha256.finalize digest) (.digestMismatch "prerequisite_chunks")

structure VerifiedPrerequisiteV0 where
  prerequisiteId : String
  identity : ArtifactIdentityV0
  verified : ∃ chunks, authenticateChunks sha256 prerequisiteId identity chunks = .ok ()

def verifyPrerequisiteChunks (prerequisiteId : String) (identity : ArtifactIdentityV0)
    (chunks : List (List UInt8)) : Except ValidationError (VerifiedPrerequisiteV0 sha256) :=
  match h : authenticateChunks sha256 prerequisiteId identity chunks with
  | .ok () => .ok ⟨prerequisiteId, identity, chunks, h⟩
  | .error e => .error e

end Chunks

/-! ## The binding of an observation to its case -/

def findCase (manifest : VerticalFixtureManifestV0) (caseId : String) :
    Except ValidationError FixtureCaseV0 :=
  Exec.okOr (manifest.cases.find? (·.caseId = caseId)) (.missingCase caseId)

def bindObservedPrerequisites (case : FixtureCaseV0) (observation : ObservationEnvelopeV0) :
    Validated := do
  check (case.prerequisites.length = observation.observedPrerequisites.length)
    (.inconsistent "observed_prerequisites")
  let observed : ExtTreeMap String PrerequisiteV0 :=
    .ofList (observation.observedPrerequisites.map fun prerequisite =>
      (prerequisite.prerequisiteId, prerequisite))
  check (∀ expected ∈ case.prerequisites, observed[expected.prerequisiteId]? = some expected)
    (.inconsistent "observed_prerequisites")

/-- The body of the loop over the durable state. -/
def bindDurableState (declared : ExtTreeMap String (String × ArtifactIdentityV0))
    (state : DurableStateFactV0) : Validated := do
  let (schemaId, baseline) ← Exec.okOr declared[state.stateId]?
    (.inconsistent "projection.durable_state.state_id")
  check (state.schemaId = schemaId) (.inconsistent "projection.durable_state.schema_id")
  check (state.before = some baseline) (.inconsistent "projection.durable_state.before")

/-- The `if` of `validate_case_binding`. -/
def bindDeclaredState (case : FixtureCaseV0) (observation : ObservationEnvelopeV0) :
    Validated := do
  let declared : ExtTreeMap String (String × ArtifactIdentityV0) :=
    .ofList (case.stateIdentities.map fun state =>
      (state.stateId, state.schemaId, state.baseline.identity))
  check (declared.size = observation.projection.durableState.length)
    (.inconsistent "projection.durable_state")
  observation.projection.durableState.forM (bindDurableState declared)

def validateCaseBinding (manifest : VerticalFixtureManifestV0) (case : FixtureCaseV0)
    (observation : ObservationEnvelopeV0) : Validated := do
  check (observation.verticalId = manifest.verticalId) (.inconsistent "vertical_id")
  check (observation.caseId = case.caseId) (.inconsistent "case_id")
  check (observation.evidence.omittedClaims = manifest.omittedClaims)
    (.inconsistent "evidence.omitted_claims")
  bindObservedPrerequisites case observation
  if manifest.fixtureClass = .state then bindDeclaredState case observation

/-- A prerequisite and what was supplied for it. -/
def authenticatePrerequisite (supplied : ExtTreeMap String ArtifactIdentityV0)
    (prerequisite : PrerequisiteV0) : Validated := do
  let identity ← Exec.okOr supplied[prerequisite.prerequisiteId]?
    (.inconsistent "verified_prerequisites")
  check (identity = prerequisite.identity) (.inconsistent "verified_prerequisites")

def authenticateExactPrerequisites {sha256 : Sha256} (case : FixtureCaseV0)
    (verifiedPrerequisites : List (VerifiedPrerequisiteV0 sha256)) : Validated := do
  checkUnique
    (fun artifact => validateSafeId "verified_prerequisites.prerequisite_id"
      artifact.prerequisiteId)
    (·.prerequisiteId) (.duplicate "verified_prerequisites.prerequisite_id")
    verifiedPrerequisites
  let supplied : ExtTreeMap String ArtifactIdentityV0 :=
    .ofList (verifiedPrerequisites.map fun artifact => (artifact.prerequisiteId, artifact.identity))
  let exact := case.prerequisites.filter (·.kind = .exactExternalArtifact)
  check (exact.length = supplied.size) (.inconsistent "verified_prerequisites")
  exact.forM (authenticatePrerequisite supplied)

/-! ## The projection -/

section Projection

variable (externals : Externals)

/-- A slice is not longer than a `u64`. -/
def verifyArtifactBytes (field : String) (identity : ArtifactIdentityV0) (bytes : List UInt8) :
    Validated := do
  validateArtifact field identity
  check (identity.length.toNat = bytes.length) (.lengthMismatch field)
  check (identity.digest.hex = externals.sha256.digest bytes) (.digestMismatch field)

theorem verifyArtifactBytes_ok {externals : Externals} {field : String}
    {identity : ArtifactIdentityV0} {bytes : List UInt8} :
    verifyArtifactBytes externals field identity bytes = .ok () ↔
      validateArtifact field identity = .ok () ∧ identity.length.toNat = bytes.length ∧
        identity.digest.hex = externals.sha256.digest bytes := by
  simp only [verifyArtifactBytes, unit_bind_eq_ok, check_eq_ok]

def compareProjection (case : FixtureCaseV0) (expectedProjectionBytes : List UInt8)
    (observation : ObservationEnvelopeV0) : Validated := do
  verifyArtifactBytes externals "expected_projection" case.expectedProjection
    expectedProjectionBytes
  let expected ← mapErr .invalidProjectionJson
    (externals.projectionFromSlice expectedProjectionBytes)
  validateProjection expected
  check (expected = observation.projection) .projectionMismatch

def validateBaseline (manifest : VerticalFixtureManifestV0) (caseId : String)
    (expectedProjectionBytes : List UInt8)
    (verifiedPrerequisites : List (VerifiedPrerequisiteV0 externals.sha256))
    (observation : ObservationEnvelopeV0) : Validated := do
  validateManifest manifest
  validateObservation observation
  let case ← findCase manifest caseId
  validateCaseBinding manifest case observation
  authenticateExactPrerequisites case verifiedPrerequisites
  check (observation.implementationRevision = case.source.commit)
    (.inconsistent "implementation_revision")
  check (observation.evidence.exactSource = case.source.productionTree.digest)
    (.inconsistent "evidence.exact_source")
  compareProjection externals case expectedProjectionBytes observation

end Projection

end Vertical
end Platform
