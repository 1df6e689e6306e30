import PlatformContracts.Contracts.Wire
import PlatformContracts.Vertical.Model

/-!
# The JSON of the vertical fixtures (`Serialize` in `platform-vertical-fixtures-v0/src/model.rs`)

For each type what is derived for it: the members in the order of the fields, enumerations by the
snake_case names of their variants, null for `None`. A replay program has the name of its variant in
the key `kind`, a fact also its value in the key `value`.
-/

namespace Platform
namespace Vertical

open Contracts

/-- A value that may be absent. -/
def encodeOption {α : Type} (f : α → Json) (o : Option α) : Json := o.elim .null f

def encodeStrings (values : List String) : Json := .arr (values.map .str)

/-- A machine integer. -/
def encodeWord (n : UInt64) : Json := .num (.int n.toNat)

def FixtureClassV0.name : FixtureClassV0 → String
  | modelFree => "model_free"
  | real => "real"
  | state => "state"

def VerticalIdV0.name : VerticalIdV0 → String
  | momChatCancelRetry => "mom_chat_cancel_retry"
  | momAttachment => "mom_attachment"
  | fteHostedFixtureLoopback => "fte_hosted_fixture_loopback"
  | speechPeerCancellation => "speech_peer_cancellation"
  | informationInstallQuery => "information_install_query"
  | loomSuggestionPromotion => "loom_suggestion_promotion"
  | loomResearchDiagnosticAdmittedDistinction => "loom_research_diagnostic_admitted_distinction"
  | quitRelaunchFakeOwners => "quit_relaunch_fake_owners"
  | currentExactQwen => "current_exact_qwen"
  | currentExactGemma => "current_exact_gemma"
  | currentParakeetModelAudio => "current_parakeet_model_audio"
  | appleInstalledVoice => "apple_installed_voice"
  | momPriorReleaseStore => "mom_prior_release_store"
  | loomPriorProjectStore => "loom_prior_project_store"
  | fteLegacyDatabase => "fte_legacy_database"
  | informationResourceStore => "information_resource_store"
  | corruptedDisposableCaches => "corrupted_disposable_caches"
  | partialPublicationStates => "partial_publication_states"

/-! ## Manifests -/

def GitSourceV0.encode (source : GitSourceV0) : Json :=
  .object [("repository_id", .str source.repositoryId), ("commit", .str source.commit),
    ("production_tree", ArtifactIdentityV0.codec.encode source.productionTree)]

def ArtifactAvailabilityV0.name : ArtifactAvailabilityV0 → String
  | checkedIn => "checked_in"
  | externalExact => "external_exact"
  | runtimeInventory => "runtime_inventory"
  | generatedFixture => "generated_fixture"

def FixtureArtifactV0.encode (artifact : FixtureArtifactV0) : Json :=
  .object [("identity", ArtifactIdentityV0.codec.encode artifact.identity),
    ("availability", .str artifact.availability.name),
    ("relative_path", encodeOption .str artifact.relativePath)]

def StateIdentityV0.encode (state : StateIdentityV0) : Json :=
  .object [("state_id", .str state.stateId), ("schema_id", .str state.schemaId),
    ("baseline", state.baseline.encode)]

def PrerequisiteKindV0.name : PrerequisiteKindV0 → String
  | exactExternalArtifact => "exact_external_artifact"
  | platformInventory => "platform_inventory"
  | localRuntime => "local_runtime"

def PrerequisiteV0.encode (prerequisite : PrerequisiteV0) : Json :=
  .object [("prerequisite_id", .str prerequisite.prerequisiteId),
    ("kind", .str prerequisite.kind.name),
    ("identity", ArtifactIdentityV0.codec.encode prerequisite.identity)]

def ReplayProgramV0.encode : ReplayProgramV0 → Json
  | cargo => .object [("kind", .str "cargo")]
  | npm => .object [("kind", .str "npm")]
  | repositoryScript relativePath =>
    .object [("kind", .str "repository_script"), ("relative_path", .str relativePath)]

def NetworkBoundaryV0.name : NetworkBoundaryV0 → String
  | denied => "denied"
  | loopbackOnly => "loopback_only"

def ReplayRecipeV0.encode (replay : ReplayRecipeV0) : Json :=
  .object [("program", replay.program.encode), ("argv", encodeStrings replay.argv),
    ("required_environment", encodeStrings replay.requiredEnvironment),
    ("network", .str replay.network.name)]

def EvidenceDispositionV0.name : EvidenceDispositionV0 → String
  | rejected => "rejected"
  | unavailable => "unavailable"
  | superseded => "superseded"

def NegativeEvidenceV0.encode (evidence : NegativeEvidenceV0) : Json :=
  .object [("evidence_id", .str evidence.evidenceId),
    ("disposition", .str evidence.disposition.name),
    ("artifact", ArtifactIdentityV0.codec.encode evidence.artifact),
    ("reason", .str evidence.reason)]

def FixtureCaseV0.encode (case : FixtureCaseV0) : Json :=
  .object [("case_id", .str case.caseId), ("source", case.source.encode),
    ("inputs", .arr (case.inputs.map FixtureArtifactV0.encode)),
    ("state_identities", .arr (case.stateIdentities.map StateIdentityV0.encode)),
    ("prerequisites", .arr (case.prerequisites.map PrerequisiteV0.encode)),
    ("replay", .arr (case.replay.map ReplayRecipeV0.encode)),
    ("expected_projection", ArtifactIdentityV0.codec.encode case.expectedProjection)]

def VerticalFixtureManifestV0.encode (manifest : VerticalFixtureManifestV0) : Json :=
  .object [("schema", .str manifest.schema), ("vertical_id", .str manifest.verticalId.name),
    ("class", .str manifest.fixtureClass.name),
    ("contract_revision", .str manifest.contractRevision),
    ("cases", .arr (manifest.cases.map FixtureCaseV0.encode)),
    ("omitted_claims", encodeStrings manifest.omittedClaims),
    ("negative_evidence", .arr (manifest.negativeEvidence.map NegativeEvidenceV0.encode))]

/-! ## Observations -/

def EventFactV0.encode (event : EventFactV0) : Json :=
  .object [("sequence", encodeWord event.sequence), ("operation_id", .str event.operationId),
    ("attempt_id", encodeOption .str event.attemptId),
    ("correlation_id", encodeOption .str event.correlationId), ("kind", .str event.kind),
    ("payload", encodeOption ArtifactIdentityV0.codec.encode event.payload)]

def StateDispositionV0.name : StateDispositionV0 → String
  | unchanged => "unchanged"
  | created => "created"
  | updated => "updated"
  | removed => "removed"
  | quarantined => "quarantined"
  | recovered => "recovered"

def DurableStateFactV0.encode (state : DurableStateFactV0) : Json :=
  .object [("state_id", .str state.stateId), ("schema_id", .str state.schemaId),
    ("before", encodeOption ArtifactIdentityV0.codec.encode state.before),
    ("after", encodeOption ArtifactIdentityV0.codec.encode state.after),
    ("disposition", .str state.disposition.name)]

def LifecycleFactV0.encode (fact : LifecycleFactV0) : Json :=
  .object [("operation_id", .str fact.operationId),
    ("attempt_id", encodeOption .str fact.attemptId),
    ("correlation_id", encodeOption .str fact.correlationId),
    ("terminal", .str fact.terminal.name), ("released", .bool fact.released)]

def OwnershipFactsV0.encode (ownership : OwnershipFactsV0) : Json :=
  .object [("active_operations", encodeWord ownership.activeOperations),
    ("retained_tasks", encodeWord ownership.retainedTasks),
    ("expected_workers", encodeWord ownership.expectedWorkers),
    ("joined_workers", encodeWord ownership.joinedWorkers)]

def FactValueV0.name : FactValueV0 → String
  | boolean _ => "boolean"
  | integer _ => "integer"
  | text _ => "text"
  | digest _ => "digest"

def FactValueV0.content : FactValueV0 → Json
  | boolean value => .bool value
  | integer value => .num (.int value.toInt)
  | text value => .str value
  | digest value => ContentDigest.codec.encode value

def FactValueV0.encode (fact : FactValueV0) : Json :=
  .object [("kind", .str fact.name), ("value", fact.content)]

def EquivalenceProjectionV0.encode (projection : EquivalenceProjectionV0) : Json :=
  .object [("ordered_events", .arr (projection.orderedEvents.map EventFactV0.encode)),
    ("durable_state", .arr (projection.durableState.map DurableStateFactV0.encode)),
    ("lifecycle", .arr (projection.lifecycle.map LifecycleFactV0.encode)),
    ("ownership", projection.ownership.encode),
    ("output_facts", Codec.ofMap id FactValueV0.encode projection.outputFacts),
    ("fail_closed_facts", encodeStrings projection.failClosedFacts)]

def ObservationEnvelopeV0.encode (observation : ObservationEnvelopeV0) : Json :=
  .object [("schema", .str observation.schema), ("vertical_id", .str observation.verticalId.name),
    ("case_id", .str observation.caseId),
    ("implementation_revision", .str observation.implementationRevision),
    ("observed_prerequisites", .arr (observation.observedPrerequisites.map PrerequisiteV0.encode)),
    ("evidence", EvidenceClaimV0.codec.encode observation.evidence),
    ("projection", observation.projection.encode)]

/-! ## Locks -/

def VerticalFixtureLockEntryV0.encode (entry : VerticalFixtureLockEntryV0) : Json :=
  .object [("vertical_id", .str entry.verticalId.name), ("class", .str entry.fixtureClass.name),
    ("manifest", ArtifactIdentityV0.codec.encode entry.manifest)]

def VerticalFixtureLockV0.encode (lock : VerticalFixtureLockV0) : Json :=
  .object [("schema", .str lock.schema), ("protocol_commit", .str lock.protocolCommit),
    ("contract_revision", .str lock.contractRevision),
    ("entries", .arr (lock.entries.map VerticalFixtureLockEntryV0.encode))]

end Vertical
end Platform
