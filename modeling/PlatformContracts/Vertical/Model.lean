import PlatformContracts.Contracts.Evidence
import PlatformContracts.Contracts.Lifecycle
import PlatformContracts.Contracts.Publication

/-!
# The data of the vertical fixtures (`platform-vertical-fixtures-v0/src/model.rs`)

A row (`VerticalIdV0`) has a class and a manifest; a manifest has cases; an observation envelope
is evidence for one case. A lock has an entry for each row. `BTreeMap` is the ordered map
`Std.ExtTreeMap`; `usize` is a 64-bit word.
-/

namespace Platform
namespace Vertical

open Std Contracts

def verticalFixtureManifestSchemaV0 : String := "delysis.vertical_fixture_manifest.v0"

def verticalObservationSchemaV0 : String := "delysis.vertical_observation.v0"

def verticalFixtureLockSchemaV0 : String := "delysis.vertical_fixture_lock.v0"

def w1ContractRevision : String := "cbab33555ab9355a6ac453d659c55ec9e0666821"

inductive FixtureClassV0 where
  | modelFree
  | real
  | state
  deriving DecidableEq, Repr

inductive VerticalIdV0 where
  | momChatCancelRetry
  | momAttachment
  | fteHostedFixtureLoopback
  | speechPeerCancellation
  | informationInstallQuery
  | loomSuggestionPromotion
  | loomResearchDiagnosticAdmittedDistinction
  | quitRelaunchFakeOwners
  | currentExactQwen
  | currentExactGemma
  | currentParakeetModelAudio
  | appleInstalledVoice
  | momPriorReleaseStore
  | loomPriorProjectStore
  | fteLegacyDatabase
  | informationResourceStore
  | corruptedDisposableCaches
  | partialPublicationStates
  deriving DecidableEq, Repr

def allVerticalIds : List VerticalIdV0 := [
  .momChatCancelRetry,
  .momAttachment,
  .fteHostedFixtureLoopback,
  .speechPeerCancellation,
  .informationInstallQuery,
  .loomSuggestionPromotion,
  .loomResearchDiagnosticAdmittedDistinction,
  .quitRelaunchFakeOwners,
  .currentExactQwen,
  .currentExactGemma,
  .currentParakeetModelAudio,
  .appleInstalledVoice,
  .momPriorReleaseStore,
  .loomPriorProjectStore,
  .fteLegacyDatabase,
  .informationResourceStore,
  .corruptedDisposableCaches,
  .partialPublicationStates]

theorem allVerticalIds_nodup : allVerticalIds.Nodup := by decide

theorem mem_allVerticalIds (verticalId : VerticalIdV0) : verticalId ∈ allVerticalIds := by
  cases verticalId <;> decide

/-- `VerticalIdV0::class`. -/
def VerticalIdV0.fixtureClass : VerticalIdV0 → FixtureClassV0
  | momChatCancelRetry | momAttachment | fteHostedFixtureLoopback | speechPeerCancellation
  | informationInstallQuery | loomSuggestionPromotion
  | loomResearchDiagnosticAdmittedDistinction | quitRelaunchFakeOwners => .modelFree
  | currentExactQwen | currentExactGemma | currentParakeetModelAudio | appleInstalledVoice => .real
  | momPriorReleaseStore | loomPriorProjectStore | fteLegacyDatabase | informationResourceStore
  | corruptedDisposableCaches | partialPublicationStates => .state

/-! ## Manifests -/

structure GitSourceV0 where
  repositoryId : String
  commit : String
  productionTree : ArtifactIdentityV0
  deriving DecidableEq, Repr

inductive ArtifactAvailabilityV0 where
  | checkedIn
  | externalExact
  | runtimeInventory
  | generatedFixture
  deriving DecidableEq, Repr

structure FixtureArtifactV0 where
  identity : ArtifactIdentityV0
  availability : ArtifactAvailabilityV0
  relativePath : Option String
  deriving DecidableEq, Repr

structure StateIdentityV0 where
  stateId : String
  schemaId : String
  baseline : FixtureArtifactV0
  deriving DecidableEq, Repr

inductive PrerequisiteKindV0 where
  | exactExternalArtifact
  | platformInventory
  | localRuntime
  deriving DecidableEq, Repr

structure PrerequisiteV0 where
  prerequisiteId : String
  kind : PrerequisiteKindV0
  identity : ArtifactIdentityV0
  deriving DecidableEq, Repr

inductive ReplayProgramV0 where
  | cargo
  | npm
  | repositoryScript (relativePath : String)
  deriving DecidableEq, Repr

inductive NetworkBoundaryV0 where
  | denied
  | loopbackOnly
  deriving DecidableEq, Repr

structure ReplayRecipeV0 where
  program : ReplayProgramV0
  argv : List String
  requiredEnvironment : List String
  network : NetworkBoundaryV0
  deriving DecidableEq, Repr

inductive EvidenceDispositionV0 where
  | rejected
  | unavailable
  | superseded
  deriving DecidableEq, Repr

structure NegativeEvidenceV0 where
  evidenceId : String
  disposition : EvidenceDispositionV0
  artifact : ArtifactIdentityV0
  reason : String
  deriving DecidableEq, Repr

structure FixtureCaseV0 where
  caseId : String
  source : GitSourceV0
  inputs : List FixtureArtifactV0
  stateIdentities : List StateIdentityV0
  prerequisites : List PrerequisiteV0
  replay : List ReplayRecipeV0
  expectedProjection : ArtifactIdentityV0
  deriving DecidableEq, Repr

structure VerticalFixtureManifestV0 where
  schema : String
  verticalId : VerticalIdV0
  fixtureClass : FixtureClassV0
  contractRevision : String
  cases : List FixtureCaseV0
  omittedClaims : List String
  negativeEvidence : List NegativeEvidenceV0
  deriving DecidableEq, Repr

/-! ## Observations -/

structure EventFactV0 where
  sequence : UInt64
  operationId : String
  attemptId : Option String
  correlationId : Option String
  kind : String
  payload : Option ArtifactIdentityV0
  deriving DecidableEq, Repr

inductive StateDispositionV0 where
  | unchanged
  | created
  | updated
  | removed
  | quarantined
  | recovered
  deriving DecidableEq, Repr

structure DurableStateFactV0 where
  stateId : String
  schemaId : String
  before : Option ArtifactIdentityV0
  after : Option ArtifactIdentityV0
  disposition : StateDispositionV0
  deriving DecidableEq, Repr

structure LifecycleFactV0 where
  operationId : String
  attemptId : Option String
  correlationId : Option String
  terminal : TerminalClass
  released : Bool
  deriving DecidableEq, Repr

structure OwnershipFactsV0 where
  activeOperations : UInt64
  retainedTasks : UInt64
  expectedWorkers : UInt64
  joinedWorkers : UInt64
  deriving DecidableEq, Repr

inductive FactValueV0 where
  | boolean (value : Bool)
  | integer (value : Int64)
  | text (value : String)
  | digest (value : ContentDigest)
  deriving DecidableEq, Repr

structure EquivalenceProjectionV0 where
  orderedEvents : List EventFactV0
  durableState : List DurableStateFactV0
  lifecycle : List LifecycleFactV0
  ownership : OwnershipFactsV0
  outputFacts : ExtTreeMap String FactValueV0
  failClosedFacts : List String
  deriving DecidableEq

structure ObservationEnvelopeV0 where
  schema : String
  verticalId : VerticalIdV0
  caseId : String
  implementationRevision : String
  observedPrerequisites : List PrerequisiteV0
  evidence : EvidenceClaimV0
  projection : EquivalenceProjectionV0
  deriving DecidableEq

/-! ## Locks -/

structure VerticalFixtureLockEntryV0 where
  verticalId : VerticalIdV0
  fixtureClass : FixtureClassV0
  manifest : ArtifactIdentityV0
  deriving DecidableEq, Repr

structure VerticalFixtureLockV0 where
  schema : String
  protocolCommit : String
  contractRevision : String
  entries : List VerticalFixtureLockEntryV0
  deriving DecidableEq, Repr

end Vertical
end Platform
