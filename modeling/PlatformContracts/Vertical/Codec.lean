import PlatformContracts.Contracts.RoundTrip
import PlatformContracts.Vertical.Baseline
import PlatformContracts.Vertical.Wire

/-!
# Readers of the vertical fixtures (`Deserialize` in `platform-vertical-fixtures-v0/src/model.rs`)

For each type its codec, whose writer is that of `Vertical/Wire` (`encode_codec`). The readers match
fields by name, deny unknown keys and take a missing key of an `Option` for `None`. They check
nothing of their own; the envelopes inside a document (artifact identities, digests, evidence) are
checked by their readers.
-/

namespace Platform
namespace Vertical

open Std Contracts Codec Fields

def FixtureClassV0.codec : Codec FixtureClassV0 :=
  .enumeration [.modelFree, .real, .state] name (by intro a; cases a <;> decide) (by decide)

def VerticalIdV0.codec : Codec VerticalIdV0 :=
  .enumeration allVerticalIds name mem_allVerticalIds (by decide)

/-! ## Manifests -/

def GitSourceV0.codec : Codec GitSourceV0 :=
  (record ((field "repository_id" string).both <| (field "commit" string).both <|
      field "production_tree" ArtifactIdentityV0.codec) (by decide)).imap
    { toFun := fun (repositoryId, commit, productionTree) =>
        { repositoryId, commit, productionTree }
      invFun := fun source => (source.repositoryId, source.commit, source.productionTree)
      left_inv := fun _ => rfl
      right_inv := fun _ => rfl }

def ArtifactAvailabilityV0.codec : Codec ArtifactAvailabilityV0 :=
  .enumeration [.checkedIn, .externalExact, .runtimeInventory, .generatedFixture] name
    (by intro a; cases a <;> decide) (by decide)

def FixtureArtifactV0.codec : Codec FixtureArtifactV0 :=
  (record ((field "identity" ArtifactIdentityV0.codec).both <|
      (field "availability" ArtifactAvailabilityV0.codec).both <|
      optional "relative_path" string) (by decide)).imap
    { toFun := fun (identity, availability, relativePath) =>
        { identity, availability, relativePath }
      invFun := fun artifact => (artifact.identity, artifact.availability, artifact.relativePath)
      left_inv := fun _ => rfl
      right_inv := fun _ => rfl }

def StateIdentityV0.codec : Codec StateIdentityV0 :=
  (record ((field "state_id" string).both <| (field "schema_id" string).both <|
      field "baseline" FixtureArtifactV0.codec) (by decide)).imap
    { toFun := fun (stateId, schemaId, baseline) => { stateId, schemaId, baseline }
      invFun := fun state => (state.stateId, state.schemaId, state.baseline)
      left_inv := fun _ => rfl
      right_inv := fun _ => rfl }

def PrerequisiteKindV0.codec : Codec PrerequisiteKindV0 :=
  .enumeration [.exactExternalArtifact, .platformInventory, .localRuntime] name
    (by intro a; cases a <;> decide) (by decide)

def PrerequisiteV0.codec : Codec PrerequisiteV0 :=
  (record ((field "prerequisite_id" string).both <| (field "kind" PrerequisiteKindV0.codec).both <|
      field "identity" ArtifactIdentityV0.codec) (by decide)).imap
    { toFun := fun (prerequisiteId, kind, identity) => { prerequisiteId, kind, identity }
      invFun := fun prerequisite =>
        (prerequisite.prerequisiteId, prerequisite.kind, prerequisite.identity)
      left_inv := fun _ => rfl
      right_inv := fun _ => rfl }

/-- The fields of a program, by its variant. -/
def ReplayProgramV0.fieldsEquiv : Unit ⊕ Unit ⊕ String ≃ ReplayProgramV0 where
  toFun
    | .inl () => .cargo
    | .inr (.inl ()) => .npm
    | .inr (.inr relativePath) => .repositoryScript relativePath
  invFun
    | .cargo => .inl ()
    | .npm => .inr (.inl ())
    | .repositoryScript relativePath => .inr (.inr relativePath)
  left_inv s := by rcases s with _ | _ | _ <;> rfl
  right_inv program := by cases program <;> rfl

/-- The keys of `cargo` and `npm` are not checked: `deny_unknown_fields` does not reach a variant
without fields. -/
def ReplayProgramV0.variants : Variants "kind" (Unit ⊕ Unit ⊕ String) :=
  (Variants.unit "cargo").either
    ((Variants.unit "npm").either
      (Variants.variant "repository_script" (field "relative_path" string) (by decide))
      (by decide))
    (by decide)

def ReplayProgramV0.codec : Codec ReplayProgramV0 :=
  (tagged .internal "kind" variants).imap fieldsEquiv

def NetworkBoundaryV0.codec : Codec NetworkBoundaryV0 :=
  .enumeration [.denied, .loopbackOnly] name (by intro a; cases a <;> decide) (by decide)

def ReplayRecipeV0.codec : Codec ReplayRecipeV0 :=
  (record ((field "program" ReplayProgramV0.codec).both <| (field "argv" (list string)).both <|
      (field "required_environment" (list string)).both <|
      field "network" NetworkBoundaryV0.codec) (by decide)).imap
    { toFun := fun (program, argv, requiredEnvironment, network) =>
        { program, argv, requiredEnvironment, network }
      invFun := fun replay =>
        (replay.program, replay.argv, replay.requiredEnvironment, replay.network)
      left_inv := fun _ => rfl
      right_inv := fun _ => rfl }

def EvidenceDispositionV0.codec : Codec EvidenceDispositionV0 :=
  .enumeration [.rejected, .unavailable, .superseded] name (by intro a; cases a <;> decide)
    (by decide)

def NegativeEvidenceV0.codec : Codec NegativeEvidenceV0 :=
  (record ((field "evidence_id" string).both <|
      (field "disposition" EvidenceDispositionV0.codec).both <|
      (field "artifact" ArtifactIdentityV0.codec).both <| field "reason" string)
      (by decide)).imap
    { toFun := fun (evidenceId, disposition, artifact, reason) =>
        { evidenceId, disposition, artifact, reason }
      invFun := fun evidence =>
        (evidence.evidenceId, evidence.disposition, evidence.artifact, evidence.reason)
      left_inv := fun _ => rfl
      right_inv := fun _ => rfl }

def FixtureCaseV0.codec : Codec FixtureCaseV0 :=
  (record ((field "case_id" string).both <| (field "source" GitSourceV0.codec).both <|
      (field "inputs" (list FixtureArtifactV0.codec)).both <|
      (field "state_identities" (list StateIdentityV0.codec)).both <|
      (field "prerequisites" (list PrerequisiteV0.codec)).both <|
      (field "replay" (list ReplayRecipeV0.codec)).both <|
      field "expected_projection" ArtifactIdentityV0.codec) (by decide)).imap
    { toFun := fun (caseId, source, inputs, stateIdentities, prerequisites, replay,
          expectedProjection) =>
        { caseId, source, inputs, stateIdentities, prerequisites, replay, expectedProjection }
      invFun := fun case => (case.caseId, case.source, case.inputs, case.stateIdentities,
        case.prerequisites, case.replay, case.expectedProjection)
      left_inv := fun _ => rfl
      right_inv := fun _ => rfl }

def VerticalFixtureManifestV0.codec : Codec VerticalFixtureManifestV0 :=
  (record ((field "schema" string).both <| (field "vertical_id" VerticalIdV0.codec).both <|
      (field "class" FixtureClassV0.codec).both <| (field "contract_revision" string).both <|
      (field "cases" (list FixtureCaseV0.codec)).both <|
      (field "omitted_claims" (list string)).both <|
      field "negative_evidence" (list NegativeEvidenceV0.codec)) (by decide)).imap
    { toFun := fun (schema, verticalId, fixtureClass, contractRevision, cases, omittedClaims,
          negativeEvidence) =>
        { schema, verticalId, fixtureClass, contractRevision, cases, omittedClaims,
          negativeEvidence }
      invFun := fun manifest => (manifest.schema, manifest.verticalId, manifest.fixtureClass,
        manifest.contractRevision, manifest.cases, manifest.omittedClaims,
        manifest.negativeEvidence)
      left_inv := fun _ => rfl
      right_inv := fun _ => rfl }

/-! ## Observations -/

def EventFactV0.codec : Codec EventFactV0 :=
  (record ((field "sequence" unsigned).both <| (field "operation_id" string).both <|
      (optional "attempt_id" string).both <| (optional "correlation_id" string).both <|
      (field "kind" string).both <| optional "payload" ArtifactIdentityV0.codec)
      (by decide)).imap
    { toFun := fun (sequence, operationId, attemptId, correlationId, kind, payload) =>
        { sequence, operationId, attemptId, correlationId, kind, payload }
      invFun := fun event => (event.sequence, event.operationId, event.attemptId,
        event.correlationId, event.kind, event.payload)
      left_inv := fun _ => rfl
      right_inv := fun _ => rfl }

def StateDispositionV0.codec : Codec StateDispositionV0 :=
  .enumeration [.unchanged, .created, .updated, .removed, .quarantined, .recovered] name
    (by intro a; cases a <;> decide) (by decide)

def DurableStateFactV0.codec : Codec DurableStateFactV0 :=
  (record ((field "state_id" string).both <| (field "schema_id" string).both <|
      (optional "before" ArtifactIdentityV0.codec).both <|
      (optional "after" ArtifactIdentityV0.codec).both <|
      field "disposition" StateDispositionV0.codec) (by decide)).imap
    { toFun := fun (stateId, schemaId, before, after, disposition) =>
        { stateId, schemaId, before, after, disposition }
      invFun := fun state =>
        (state.stateId, state.schemaId, state.before, state.after, state.disposition)
      left_inv := fun _ => rfl
      right_inv := fun _ => rfl }

def LifecycleFactV0.codec : Codec LifecycleFactV0 :=
  (record ((field "operation_id" string).both <| (optional "attempt_id" string).both <|
      (optional "correlation_id" string).both <| (field "terminal" TerminalClass.codec).both <|
      field "released" bool) (by decide)).imap
    { toFun := fun (operationId, attemptId, correlationId, terminal, released) =>
        { operationId, attemptId, correlationId, terminal, released }
      invFun := fun fact =>
        (fact.operationId, fact.attemptId, fact.correlationId, fact.terminal, fact.released)
      left_inv := fun _ => rfl
      right_inv := fun _ => rfl }

def OwnershipFactsV0.codec : Codec OwnershipFactsV0 :=
  (record ((field "active_operations" unsigned).both <| (field "retained_tasks" unsigned).both <|
      (field "expected_workers" unsigned).both <| field "joined_workers" unsigned)
      (by decide)).imap
    { toFun := fun (activeOperations, retainedTasks, expectedWorkers, joinedWorkers) =>
        { activeOperations, retainedTasks, expectedWorkers, joinedWorkers }
      invFun := fun ownership => (ownership.activeOperations, ownership.retainedTasks,
        ownership.expectedWorkers, ownership.joinedWorkers)
      left_inv := fun _ => rfl
      right_inv := fun _ => rfl }

/-- The content of a fact, by its variant. -/
def FactValueV0.contentEquiv : Bool ⊕ Int64 ⊕ String ⊕ ContentDigest ≃ FactValueV0 where
  toFun
    | .inl value => .boolean value
    | .inr (.inl value) => .integer value
    | .inr (.inr (.inl value)) => .text value
    | .inr (.inr (.inr value)) => .digest value
  invFun
    | .boolean value => .inl value
    | .integer value => .inr (.inl value)
    | .text value => .inr (.inr (.inl value))
    | .digest value => .inr (.inr (.inr value))
  left_inv s := by rcases s with _ | _ | _ | _ <;> rfl
  right_inv fact := by cases fact <;> rfl

def FactValueV0.variants : Variants "kind" (Bool ⊕ Int64 ⊕ String ⊕ ContentDigest) :=
  (Variants.variant "boolean" (field "value" bool) (by decide)).either
    ((Variants.variant "integer" (field "value" signed) (by decide)).either
      ((Variants.variant "text" (field "value" string) (by decide)).either
        (Variants.variant "digest" (field "value" ContentDigest.codec) (by decide))
        (by decide))
      (by decide))
    (by decide)

def FactValueV0.codec : Codec FactValueV0 :=
  (tagged .adjacent "kind" variants).imap contentEquiv

def EquivalenceProjectionV0.codec : Codec EquivalenceProjectionV0 :=
  (record ((field "ordered_events" (list EventFactV0.codec)).both <|
      (field "durable_state" (list DurableStateFactV0.codec)).both <|
      (field "lifecycle" (list LifecycleFactV0.codec)).both <|
      (field "ownership" OwnershipFactsV0.codec).both <|
      (field "output_facts" (map .string FactValueV0.codec)).both <|
      field "fail_closed_facts" (list string)) (by decide)).imap
    { toFun := fun (orderedEvents, durableState, lifecycle, ownership, outputFacts,
          failClosedFacts) =>
        { orderedEvents, durableState, lifecycle, ownership, outputFacts, failClosedFacts }
      invFun := fun projection => (projection.orderedEvents, projection.durableState,
        projection.lifecycle, projection.ownership, projection.outputFacts,
        projection.failClosedFacts)
      left_inv := fun _ => rfl
      right_inv := fun _ => rfl }

def ObservationEnvelopeV0.codec : Codec ObservationEnvelopeV0 :=
  (record ((field "schema" string).both <| (field "vertical_id" VerticalIdV0.codec).both <|
      (field "case_id" string).both <| (field "implementation_revision" string).both <|
      (field "observed_prerequisites" (list PrerequisiteV0.codec)).both <|
      (field "evidence" EvidenceClaimV0.codec).both <|
      field "projection" EquivalenceProjectionV0.codec) (by decide)).imap
    { toFun := fun (schema, verticalId, caseId, implementationRevision, observedPrerequisites,
          evidence, projection) =>
        { schema, verticalId, caseId, implementationRevision, observedPrerequisites, evidence,
          projection }
      invFun := fun observation => (observation.schema, observation.verticalId,
        observation.caseId, observation.implementationRevision,
        observation.observedPrerequisites, observation.evidence, observation.projection)
      left_inv := fun _ => rfl
      right_inv := fun _ => rfl }

/-! ## Locks -/

def VerticalFixtureLockEntryV0.codec : Codec VerticalFixtureLockEntryV0 :=
  (record ((field "vertical_id" VerticalIdV0.codec).both <|
      (field "class" FixtureClassV0.codec).both <| field "manifest" ArtifactIdentityV0.codec)
      (by decide)).imap
    { toFun := fun (verticalId, fixtureClass, manifest) => { verticalId, fixtureClass, manifest }
      invFun := fun entry => (entry.verticalId, entry.fixtureClass, entry.manifest)
      left_inv := fun _ => rfl
      right_inv := fun _ => rfl }

def VerticalFixtureLockV0.codec : Codec VerticalFixtureLockV0 :=
  (record ((field "schema" string).both <| (field "protocol_commit" string).both <|
      (field "contract_revision" string).both <|
      field "entries" (list VerticalFixtureLockEntryV0.codec)) (by decide)).imap
    { toFun := fun (schema, protocolCommit, contractRevision, entries) =>
        { schema, protocolCommit, contractRevision, entries }
      invFun := fun lock =>
        (lock.schema, lock.protocolCommit, lock.contractRevision, lock.entries)
      left_inv := fun _ => rfl
      right_inv := fun _ => rfl }

end Vertical
end Platform
