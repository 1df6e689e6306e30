import PlatformContracts.Vertical.Text

/-!
# Manifests (`validate_manifest` of `platform-vertical-fixtures-v0/src/validation.rs`)

* `validateCase` and the validators below it; `validateManifest`.
* `requirePrerequisite_ok`: a required prerequisite is there. `requiredPrerequisites`: those that a
  row requires; `validateRowPrerequisites_iff`.
* `FixtureCaseV0.Valid`, `VerticalFixtureManifestV0.Valid`: what the two validators check, as
  records; `validateCase_eq_ok`, `validateManifest_eq_ok`.
-/

namespace Platform
namespace Vertical

open Contracts

def liveHostedProviderOmission : String := "live hosted-provider behavior"

def qwenModelPrerequisite : String := "model.qwen.gguf"

def gemmaModelPrerequisite : String := "model.gemma.gguf"

def parakeetModelPrerequisite : String := "model.parakeet"

def parakeetAudioPrerequisite : String := "audio.input"

def appleVoicePrerequisite : String := "voice.apple.installed"

/-! ## Cases -/

def validateSource (source : GitSourceV0) : Validated := do
  validateRepositoryId source.repositoryId
  validateGitCommit "source.commit" source.commit
  validateArtifact "source.production_tree" source.productionTree

/-- Only an artifact that is checked in has a path. -/
def validateFixtureArtifact (artifact : FixtureArtifactV0) : Validated := do
  validateArtifact "artifact.identity" artifact.identity
  match artifact.availability, artifact.relativePath with
  | .checkedIn, some path => validateRelativePath path
  | .checkedIn, none => .error (.empty "artifact.relative_path")
  | _, none => pure ()
  | _, some _ => .error (.inconsistent "artifact.relative_path")

def validateStateIdentity (state : StateIdentityV0) : Validated := do
  validateSafeId "state_id" state.stateId
  validateSafeId "schema_id" state.schemaId
  validateFixtureArtifact state.baseline

def validatePrerequisite (prerequisite : PrerequisiteV0) : Validated := do
  validateSafeId "prerequisite_id" prerequisite.prerequisiteId
  validateArtifact "prerequisite.identity" prerequisite.identity
  rejectAuthorityName "prerequisite_id" prerequisite.prerequisiteId

def requirePrerequisite (case : FixtureCaseV0) (prerequisiteId : String)
    (kind : PrerequisiteKindV0) : Validated :=
  match case.prerequisites.find? (·.prerequisiteId = prerequisiteId) with
  | none => .error (.invalid "prerequisites.required")
  | some prerequisite =>
    check (¬(prerequisite.kind ≠ kind ∨ prerequisite.identity.length = 0))
      (.inconsistent "prerequisites.required")

def validateRowPrerequisites (verticalId : VerticalIdV0) (case : FixtureCaseV0) : Validated :=
  match verticalId with
  | .currentExactQwen => requirePrerequisite case qwenModelPrerequisite .exactExternalArtifact
  | .currentExactGemma => requirePrerequisite case gemmaModelPrerequisite .exactExternalArtifact
  | .currentParakeetModelAudio => do
    requirePrerequisite case parakeetModelPrerequisite .exactExternalArtifact
    requirePrerequisite case parakeetAudioPrerequisite .exactExternalArtifact
  | .appleInstalledVoice => requirePrerequisite case appleVoicePrerequisite .platformInventory
  | verticalId =>
    if verticalId.fixtureClass = .state then
      check (case.stateIdentities ≠ []) (.empty "state_identities")
    else pure ()

def validateReplayProgram : ReplayProgramV0 → Validated
  | .repositoryScript relativePath => validateRelativePath relativePath
  | _ => pure ()

def validateReplay (replay : ReplayRecipeV0) : Validated := do
  validateReplayProgram replay.program
  check (replay.argv ≠ []) (.empty "replay.argv")
  replay.argv.forM validateArgument
  checkUnique (fun name => do
      validateEnvironmentName name
      rejectAuthorityName "replay.required_environment" name)
    id (.duplicate "replay.required_environment") replay.requiredEnvironment

def validateCase (verticalId : VerticalIdV0) (case : FixtureCaseV0) : Validated := do
  validateSafeId "case_id" case.caseId
  validateSource case.source
  check (case.inputs ≠ []) (.empty "inputs")
  validateUniqueById "inputs.identity.id" case.inputs (·.identity.id) validateFixtureArtifact
  validateRowPrerequisites verticalId case
  validateUniqueById "state_identities.state_id" case.stateIdentities (·.stateId)
    validateStateIdentity
  validateUniqueById "prerequisites.prerequisite_id" case.prerequisites (·.prerequisiteId)
    validatePrerequisite
  check (case.replay ≠ []) (.empty "replay")
  case.replay.forM validateReplay
  validateArtifact "expected_projection" case.expectedProjection

/-! ## Manifests -/

def validateNegativeEvidence (evidence : NegativeEvidenceV0) : Validated := do
  validateSafeId "negative_evidence.evidence_id" evidence.evidenceId
  validateArtifact "negative_evidence.artifact" evidence.artifact
  validateText "negative_evidence.reason" evidence.reason

def validateManifest (manifest : VerticalFixtureManifestV0) : Validated := do
  check (manifest.schema = verticalFixtureManifestSchemaV0) (.invalid "schema")
  check (manifest.fixtureClass = manifest.verticalId.fixtureClass) (.inconsistent "class")
  validateGitCommit "contract_revision" manifest.contractRevision
  check (manifest.contractRevision = w1ContractRevision) (.invalid "contract_revision")
  check (manifest.cases ≠ []) (.empty "cases")
  checkUnique (validateCase manifest.verticalId) (·.caseId) (.duplicate "cases.case_id")
    manifest.cases
  validateUniqueText "omitted_claims" manifest.omittedClaims
  checkUnique validateNegativeEvidence (·.evidenceId)
    (.duplicate "negative_evidence.evidence_id") manifest.negativeEvidence
  check (¬(manifest.verticalId = .fteHostedFixtureLoopback ∧
      liveHostedProviderOmission ∉ manifest.omittedClaims))
    (.invalid "omitted_claims.live_hosted_provider")
  check (¬(manifest.verticalId = .fteHostedFixtureLoopback ∧
      manifest.cases.any fun case => case.prerequisites ≠ []))
    (.invalid "cases.prerequisites.hosted_fixture")

/-- The required prerequisite is in the list, with its kind and a length. -/
theorem requirePrerequisite_ok {case : FixtureCaseV0} {prerequisiteId : String}
    {kind : PrerequisiteKindV0} (h : requirePrerequisite case prerequisiteId kind = .ok ()) :
    ∃ prerequisite ∈ case.prerequisites, prerequisite.prerequisiteId = prerequisiteId ∧
      prerequisite.kind = kind ∧ prerequisite.identity.length ≠ 0 := by
  unfold requirePrerequisite at h
  split at h
  · cases h
  · next prerequisite hfind =>
    rw [check_eq_ok, not_or, not_not] at h
    exact ⟨prerequisite, List.mem_of_find?_eq_some hfind,
      by simpa using List.find?_some hfind, h.1, h.2⟩

/-! ## What is accepted -/

/-- The prerequisites that a row requires of each case. -/
def requiredPrerequisites : VerticalIdV0 → List (String × PrerequisiteKindV0)
  | .currentExactQwen => [(qwenModelPrerequisite, .exactExternalArtifact)]
  | .currentExactGemma => [(gemmaModelPrerequisite, .exactExternalArtifact)]
  | .currentParakeetModelAudio =>
    [(parakeetModelPrerequisite, .exactExternalArtifact),
      (parakeetAudioPrerequisite, .exactExternalArtifact)]
  | .appleInstalledVoice => [(appleVoicePrerequisite, .platformInventory)]
  | _ => []

theorem validateRowPrerequisites_iff {verticalId : VerticalIdV0} {case : FixtureCaseV0} :
    validateRowPrerequisites verticalId case = .ok () ↔
      (∀ r ∈ requiredPrerequisites verticalId, requirePrerequisite case r.1 r.2 = .ok ()) ∧
        (verticalId.fixtureClass = .state → case.stateIdentities ≠ []) := by
  cases verticalId <;>
    simp [validateRowPrerequisites, requiredPrerequisites, VerticalIdV0.fixtureClass,
      unit_bind_eq_ok, check_eq_ok, pure, Except.pure]

/-- The checks of `validate_case`, by the field that each is about. -/
@[mk_iff]
structure FixtureCaseV0.Valid (verticalId : VerticalIdV0) (case : FixtureCaseV0) : Prop where
  caseId : validateSafeId "case_id" case.caseId = .ok ()
  source : validateSource case.source = .ok ()
  inputs_ne_nil : case.inputs ≠ []
  inputs : ∀ input ∈ case.inputs, validateFixtureArtifact input = .ok ()
  inputs_nodup : (case.inputs.map (·.identity.id)).Nodup
  row : validateRowPrerequisites verticalId case = .ok ()
  states : ∀ state ∈ case.stateIdentities, validateStateIdentity state = .ok ()
  states_nodup : (case.stateIdentities.map (·.stateId)).Nodup
  prerequisites : ∀ prerequisite ∈ case.prerequisites, validatePrerequisite prerequisite = .ok ()
  prerequisites_nodup : (case.prerequisites.map (·.prerequisiteId)).Nodup
  replay_ne_nil : case.replay ≠ []
  replay : ∀ replay ∈ case.replay, validateReplay replay = .ok ()
  projection : validateArtifact "expected_projection" case.expectedProjection = .ok ()

theorem validateCase_eq_ok {verticalId : VerticalIdV0} {case : FixtureCaseV0} :
    validateCase verticalId case = .ok () ↔ case.Valid verticalId := by
  simp only [validateCase, validateUniqueById, unit_bind_eq_ok, check_eq_ok, checkUnique_eq_ok,
    forM_eq_ok, FixtureCaseV0.valid_iff, and_assoc]

/-- The checks of `validate_manifest`. -/
@[mk_iff]
structure VerticalFixtureManifestV0.Valid (manifest : VerticalFixtureManifestV0) : Prop where
  schema : manifest.schema = verticalFixtureManifestSchemaV0
  row : manifest.fixtureClass = manifest.verticalId.fixtureClass
  commit : validateGitCommit "contract_revision" manifest.contractRevision = .ok ()
  revision : manifest.contractRevision = w1ContractRevision
  cases_ne_nil : manifest.cases ≠ []
  cases : ∀ case ∈ manifest.cases, case.Valid manifest.verticalId
  cases_nodup : (manifest.cases.map (·.caseId)).Nodup
  omitted : validateUniqueText "omitted_claims" manifest.omittedClaims = .ok ()
  negative : ∀ evidence ∈ manifest.negativeEvidence, validateNegativeEvidence evidence = .ok ()
  negative_nodup : (manifest.negativeEvidence.map (·.evidenceId)).Nodup
  hosted_omission : ¬(manifest.verticalId = .fteHostedFixtureLoopback ∧
    liveHostedProviderOmission ∉ manifest.omittedClaims)
  hosted_prerequisites : ¬(manifest.verticalId = .fteHostedFixtureLoopback ∧
    manifest.cases.any fun case => case.prerequisites ≠ [])

theorem validateManifest_eq_ok {manifest : VerticalFixtureManifestV0} :
    validateManifest manifest = .ok () ↔ manifest.Valid := by
  simp only [validateManifest, unit_bind_eq_ok, check_eq_ok, checkUnique_eq_ok,
    validateCase_eq_ok, VerticalFixtureManifestV0.valid_iff, and_assoc]

end Vertical
end Platform
