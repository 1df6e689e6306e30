import PlatformContracts.Vertical.Manifest

/-!
# Observations (`validate_observation` of `platform-vertical-fixtures-v0/src/validation.rs`)

A `BTreeSet` that is only compared is a `Finset`.
-/

namespace Platform
namespace Vertical

open Std Contracts

/-! ## Projections -/

/-- An identifier that may be absent. -/
def validateOptionalId (field : String) : Option String → Validated
  | some value => validateSafeId field value
  | none => pure ()

def validateOptionalArtifact (field : String) : Option ArtifactIdentityV0 → Validated
  | some artifact => validateArtifact field artifact
  | none => pure ()

/-- The body of the loop of `validate_events`, at the index `expected`. -/
def validateEvent (event : EventFactV0) (expected : Nat) : Validated := do
  check (event.sequence.toNat = expected) (.invalid "projection.ordered_events.sequence")
  validateSafeId "event.operation_id" event.operationId
  validateOptionalId "event.attempt_id" event.attemptId
  validateOptionalId "event.correlation_id" event.correlationId
  validateSafeId "event.kind" event.kind
  validateOptionalArtifact "event.payload" event.payload

def validateEvents (events : List EventFactV0) : Validated := do
  check (events ≠ []) (.empty "projection.ordered_events")
  events.zipIdx.forM fun (event, expected) => validateEvent event expected

/-- The states before and after, as the disposition has them. -/
def DurableStateFactV0.validTransition (state : DurableStateFactV0) : Bool :=
  match state.disposition with
  | .unchanged => state.before.isSome && state.before = state.after
  | .created => state.before.isNone && state.after.isSome
  | .updated => state.before.isSome && state.after.isSome && state.before ≠ state.after
  | .removed => state.before.isSome && state.after.isNone
  | .quarantined | .recovered => state.before.isSome && state.after.isSome

def validateDurableState (durableState : List DurableStateFactV0) : Validated := do
  check (durableState ≠ []) (.empty "projection.durable_state")
  let _ ← forUnique
    (fun state => do
      validateSafeId "durable_state.state_id" state.stateId
      validateSafeId "durable_state.schema_id" state.schemaId)
    (·.stateId) (.duplicate "projection.durable_state.state_id")
    (fun state => do
      validateOptionalArtifact "durable_state.before" state.before
      validateOptionalArtifact "durable_state.after" state.after
      check (state.validTransition = true) (.inconsistent "durable_state.disposition"))
    ∅ durableState

def validateLifecycle (lifecycle : List LifecycleFactV0) : Validated := do
  check (lifecycle ≠ []) (.empty "projection.lifecycle")
  checkUnique
    (fun fact => do
      validateSafeId "lifecycle.operation_id" fact.operationId
      validateOptionalId "lifecycle.attempt_id" fact.attemptId
      validateOptionalId "lifecycle.correlation_id" fact.correlationId
      check (fact.released = true) (.invalid "lifecycle.released"))
    (fun fact => (fact.operationId, fact.attemptId))
    (.duplicate "projection.lifecycle.identity") lifecycle

/-- The identity that an event or a lifecycle fact is about. -/
abbrev FactIdentity := String × Option String × Option String

def EventFactV0.identity (event : EventFactV0) : FactIdentity :=
  (event.operationId, event.attemptId, event.correlationId)

def LifecycleFactV0.identity (fact : LifecycleFactV0) : FactIdentity :=
  (fact.operationId, fact.attemptId, fact.correlationId)

def validateEventLifecycleBinding (projection : EquivalenceProjectionV0) : Validated :=
  let eventIdentities : Finset FactIdentity :=
    (projection.orderedEvents.map EventFactV0.identity).toFinset
  let lifecycleIdentities : Finset FactIdentity :=
    (projection.lifecycle.map LifecycleFactV0.identity).toFinset
  check (eventIdentities = lifecycleIdentities)
    (.inconsistent "projection.event_lifecycle_identity")

def validateOwnership (ownership : OwnershipFactsV0) : Validated := do
  check (ownership.activeOperations = 0) (.invalid "ownership.active_operations")
  check (ownership.retainedTasks = 0) (.invalid "ownership.retained_tasks")
  check (ownership.joinedWorkers = ownership.expectedWorkers)
    (.inconsistent "ownership.joined_workers")

def validateFactValue : FactValueV0 → Validated
  | .text text => validateText "output_facts.text" text
  | .digest digest => mapErr (fun _ => .invalid "output_facts.digest") digest.validate
  | _ => pure ()

def validateOutputFacts (outputFacts : ExtTreeMap String FactValueV0) : Validated := do
  check (outputFacts ≠ ∅) (.empty "projection.output_facts")
  outputFacts.toList.forM fun (name, value) => do
    validateSafeId "output_facts.name" name
    validateFactValue value

def validateProjection (projection : EquivalenceProjectionV0) : Validated := do
  validateEvents projection.orderedEvents
  validateDurableState projection.durableState
  validateLifecycle projection.lifecycle
  validateEventLifecycleBinding projection
  validateOwnership projection.ownership
  validateOutputFacts projection.outputFacts
  check (projection.failClosedFacts ≠ []) (.empty "projection.fail_closed_facts")
  validateUniqueText "projection.fail_closed_facts" projection.failClosedFacts

/-! ## Rows with facts of their own -/

def loomRequiredFacts : List (String × FactValueV0) := [
  ("visible_ghost_count", .integer 1),
  ("ghost_anchor", .text "caret_local"),
  ("tab_exact_boundary", .text "promote_visible_ghost"),
  ("tab_without_exact_boundary", .text "ordinary_tab_or_indent"),
  ("additional_candidates", .text "hidden_until_explicit_review"),
  ("persistent_candidate_count", .boolean false),
  ("skip_to_manuscript_control", .boolean false),
  ("primary_use_this_control", .boolean false),
  ("dismissed_manuscript_unchanged", .boolean true),
  ("stale_suggestion_promoted", .boolean false),
  ("ordinary_tab_action", .text "ordinary_tab_inserted")]

def validateLoomProjection (projection : EquivalenceProjectionV0) : Validated :=
  loomRequiredFacts.forM fun (name, value) =>
    check (projection.outputFacts[name]? = some value) (.invalid "loom.output_facts")

/-- The first event of the lifecycle fact. -/
def eventPosition (projection : EquivalenceProjectionV0) (lifecycle : LifecycleFactV0) :
    Option Nat :=
  projection.orderedEvents.findIdx? (·.identity = lifecycle.identity)

/-- `cancelled` was cancelled, and `completed` completed later as another attempt of the same
correlation. -/
def isCancelRetry (projection : EquivalenceProjectionV0)
    (cancelled completed : LifecycleFactV0) : Bool :=
  completed.terminal = .completed && completed.operationId ≠ cancelled.operationId &&
    completed.attemptId.isSome && completed.attemptId ≠ cancelled.attemptId &&
    completed.correlationId = cancelled.correlationId &&
    match eventPosition projection cancelled, eventPosition projection completed with
    | some cancelledPosition, some completedPosition => cancelledPosition < completedPosition
    | _, _ => false

def validateMomChatRetryProjection (projection : EquivalenceProjectionV0) : Validated :=
  let provesCancelRetry := projection.lifecycle.any fun cancelled =>
    cancelled.terminal = .cancelled && cancelled.attemptId.isSome &&
      cancelled.correlationId.isSome &&
      projection.lifecycle.any fun completed => isCancelRetry projection cancelled completed
  check (provesCancelRetry = true) (.invalid "mom_chat_cancel_retry.lifecycle")

/-! ## Observations -/

/-- The kinds of execution that a class allows. -/
def allowsExecution : FixtureClassV0 → ExecutionKind → Bool
  | .modelFree, .fixture => true
  | .real, .localRuntime => true
  | .state, .fixture | .state, .localRuntime => true
  | _, _ => false

def validateObservation (observation : ObservationEnvelopeV0) : Validated := do
  check (observation.schema = verticalObservationSchemaV0) (.invalid "schema")
  validateSafeId "case_id" observation.caseId
  validateGitCommit "implementation_revision" observation.implementationRevision
  validateUniqueById "observed_prerequisites.prerequisite_id" observation.observedPrerequisites
    (·.prerequisiteId) validatePrerequisite
  mapErr (fun _ => .invalid "evidence") observation.evidence.validate
  check (observation.evidence.negativeEvidence = []) (.invalid "evidence.negative_evidence")
  check (observation.evidence.tier = .operational ∨ observation.evidence.tier = .reproducible)
    (.invalid "evidence.tier")
  check (allowsExecution observation.verticalId.fixtureClass observation.evidence.executionKind)
    (.inconsistent "evidence.execution_kind")
  validateProjection observation.projection
  if observation.verticalId = .loomSuggestionPromotion then
    validateLoomProjection observation.projection
  if observation.verticalId = .momChatCancelRetry then
    validateMomChatRetryProjection observation.projection

/-- The checks of `validate_observation`. -/
@[mk_iff]
structure ObservationEnvelopeV0.Valid (observation : ObservationEnvelopeV0) : Prop where
  schema : observation.schema = verticalObservationSchemaV0
  caseId : validateSafeId "case_id" observation.caseId = .ok ()
  revision : validateGitCommit "implementation_revision" observation.implementationRevision =
    .ok ()
  prerequisites : ∀ prerequisite ∈ observation.observedPrerequisites,
    validatePrerequisite prerequisite = .ok ()
  prerequisites_nodup : (observation.observedPrerequisites.map (·.prerequisiteId)).Nodup
  evidence : observation.evidence.validate = .ok ()
  negative : observation.evidence.negativeEvidence = []
  tier : observation.evidence.tier = .operational ∨ observation.evidence.tier = .reproducible
  execution : allowsExecution observation.verticalId.fixtureClass
    observation.evidence.executionKind
  projection : validateProjection observation.projection = .ok ()
  loom : observation.verticalId = .loomSuggestionPromotion →
    validateLoomProjection observation.projection = .ok ()
  retry : observation.verticalId = .momChatCancelRetry →
    validateMomChatRetryProjection observation.projection = .ok ()

theorem validateObservation_eq_ok {observation : ObservationEnvelopeV0} :
    validateObservation observation = .ok () ↔ observation.Valid := by
  simp only [validateObservation, validateUniqueById, unit_bind_eq_ok, check_eq_ok, mapErr_eq_ok,
    checkUnique_eq_ok, ite_bind_eq_ok, ite_eq_ok, ObservationEnvelopeV0.valid_iff, and_assoc]

end Vertical
end Platform
