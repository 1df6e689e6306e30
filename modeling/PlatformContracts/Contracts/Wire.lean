import PlatformContracts.Contracts.Capability
import PlatformContracts.Contracts.Evidence
import PlatformContracts.Contracts.Privacy
import PlatformContracts.Contracts.Publication
import PlatformContracts.Contracts.Shutdown
import PlatformContracts.Lib.Record

/-!
# The wire format of the envelopes (`Serialize` and `Deserialize` in `platform-contracts-v0/src`)

For each type its codec: what is derived for its raw mirror, the fields copied, and `validate`
after the reading. Fields are matched by name, unknown keys are denied, a missing key of an
`Option` is `None`, and enumerations are the snake_case names of their variants. The fields of a
record are in the order of the declaration, which is that of a record read from an array.
-/

namespace Platform
namespace Contracts

open Std Codec Fields

/-- The check that a reader makes on the value it has built. -/
def accepts {ε : Type} [DecidableEq ε] (result : Except ε Unit) : Bool := decide (result = .ok ())

@[simp] theorem accepts_iff {ε : Type} [DecidableEq ε] {result : Except ε Unit} :
    accepts result = true ↔ result = .ok () := decide_eq_true_iff

/-! ## Identifiers and digests -/

theorem Identifier.new_eq_ok {value : String} {id : Identifier} :
    Identifier.new value = .ok id ↔ id.value = value := by
  unfold Identifier.new
  constructor
  · intro h
    split at h
    · cases h; rfl
    · cases h
  · rintro rfl
    split
    · rfl
    · next e h => rw [id.valid] at h; cases h

def Identifier.text : Text Identifier where
  print := Identifier.value
  parse value := (Identifier.new value).toOption
  parse_print id := by
    rw [Identifier.new_eq_ok.mpr rfl]
    rfl
  print_of_parse {value id} h := by
    apply Identifier.new_eq_ok.mp
    cases hnew : Identifier.new value with
    | error e => rw [hnew] at h; cases h
    | ok id' => rw [hnew] at h; cases h; rfl

def Identifier.codec : Codec Identifier := .text text

def DigestAlgorithm.codec : Codec DigestAlgorithm :=
  .enumeration [.sha256] (fun _ => "sha256") (by intro a; cases a; decide) (by decide)

def ContentDigest.codec : Codec ContentDigest :=
  ((record ((field "algorithm" DigestAlgorithm.codec).both (field "hex" string)) (by decide)).imap
    { toFun := fun r => { algorithm := r.1, hex := r.2 }
      invFun := fun digest => (digest.algorithm, digest.hex)
      left_inv := fun _ => rfl
      right_inv := fun _ => rfl }).checked fun digest => accepts digest.validate

/-! ## Service errors -/

def ErrorClass.name : ErrorClass → String
  | invalidRequest => "invalid_request"
  | unsupported => "unsupported"
  | unavailable => "unavailable"
  | permission => "permission"
  | privacy => "privacy"
  | cancelled => "cancelled"
  | timeout => "timeout"
  | resourceExhausted => "resource_exhausted"
  | integrity => "integrity"
  | publication => "publication"
  | storage => "storage"
  | worker => "worker"
  | internal => "internal"

def ErrorClass.codec : Codec ErrorClass :=
  .enumeration [.invalidRequest, .unsupported, .unavailable, .permission, .privacy, .cancelled,
    .timeout, .resourceExhausted, .integrity, .publication, .storage, .worker, .internal] name
    (by intro a; cases a <;> decide) (by decide)

def RetryAdvice.name : RetryAdvice → String
  | immediate => "immediate"
  | afterUserAction => "after_user_action"
  | afterRestart => "after_restart"
  | differentRoute => "different_route"
  | never => "never"

def RetryAdvice.codec : Codec RetryAdvice :=
  .enumeration [.immediate, .afterUserAction, .afterRestart, .differentRoute, .never] name
    (by intro a; cases a <;> decide) (by decide)

def ServiceErrorV0.codec : Codec ServiceErrorV0 :=
  ((record ((field "schema" string).both <| (field "code" string).both <|
      (field "class" ErrorClass.codec).both <| (field "retry" RetryAdvice.codec).both <|
      (optional "operation_id" Identifier.codec).both <|
      (field "service" Identifier.codec).both <| field "safe_detail" string) (by decide)).imap
    { toFun := fun (schema, code, errorClass, retry, operationId, service, safeDetail) =>
        { schema, code, errorClass, retry, operationId, service, safeDetail }
      invFun := fun error => (error.schema, error.code, error.errorClass, error.retry,
        error.operationId, error.service, error.safeDetail)
      left_inv := fun _ => rfl
      right_inv := fun _ => rfl }).checked fun error => accepts error.validate

/-! ## Terminal records -/

def TerminalClass.name : TerminalClass → String
  | completed => "completed"
  | cancelled => "cancelled"
  | failed => "failed"

def TerminalClass.codec : Codec TerminalClass :=
  .enumeration [.completed, .cancelled, .failed] name (by intro a; cases a <;> decide) (by decide)

def TerminalV0.codec : Codec TerminalV0 :=
  ((record ((field "schema" string).both <| (field "operation_id" Identifier.codec).both <|
      (optional "attempt_id" Identifier.codec).both <| (field "class" TerminalClass.codec).both <|
      optional "error" ServiceErrorV0.codec) (by decide)).imap
    { toFun := fun (schema, operationId, attemptId, termClass, error) =>
        { schema, operationId, attemptId, termClass, error }
      invFun := fun terminal => (terminal.schema, terminal.operationId, terminal.attemptId,
        terminal.termClass, terminal.error)
      left_inv := fun _ => rfl
      right_inv := fun _ => rfl }).checked fun terminal => accepts terminal.validate

/-! ## Publication outcomes -/

def ArtifactIdentityV0.codec : Codec ArtifactIdentityV0 :=
  ((record ((field "id" string).both <| (field "digest" ContentDigest.codec).both <|
      field "length" unsigned) (by decide)).imap
    { toFun := fun (id, digest, length) => { id, digest, length }
      invFun := fun artifact => (artifact.id, artifact.digest, artifact.length)
      left_inv := fun _ => rfl
      right_inv := fun _ => rfl }).checked fun artifact => accepts artifact.validate

def DestinationIdentityV0.codec : Codec DestinationIdentityV0 :=
  ((record ((field "filesystem_id" string).both <| field "path_id" string) (by decide)).imap
    { toFun := fun (filesystemId, pathId) => { filesystemId, pathId }
      invFun := fun destination => (destination.filesystemId, destination.pathId)
      left_inv := fun _ => rfl
      right_inv := fun _ => rfl }).checked fun destination => accepts destination.validate

def PublicationReceiptV0.codec : Codec PublicationReceiptV0 :=
  ((record ((field "schema" string).both <| (field "artifact" ArtifactIdentityV0.codec).both <|
      (field "destination" DestinationIdentityV0.codec).both <| (field "visible" bool).both <|
      (field "file_synced" bool).both <| (field "directory_synced" bool).both <|
      field "idempotent_recovery" bool) (by decide)).imap
    { toFun := fun (schema, artifact, destination, visible, fileSynced, directorySynced,
          idempotentRecovery) =>
        { schema, artifact, destination, visible, fileSynced, directorySynced, idempotentRecovery }
      invFun := fun receipt => (receipt.schema, receipt.artifact, receipt.destination,
        receipt.visible, receipt.fileSynced, receipt.directorySynced, receipt.idempotentRecovery)
      left_inv := fun _ => rfl
      right_inv := fun _ => rfl }).checked fun receipt => accepts receipt.validate

/-- The fields of an outcome, by its variant. -/
def PublicationOutcomeV0.fieldsEquiv :
    ServiceErrorV0 ⊕ PublicationReceiptV0 ⊕ PublicationReceiptV0 × ServiceErrorV0 ≃
      PublicationOutcomeV0 where
  toFun
    | .inl error => .notPublished error
    | .inr (.inl receipt) => .published receipt
    | .inr (.inr (receipt, error)) => .publishedDurabilityUnknown receipt error
  invFun
    | .notPublished error => .inl error
    | .published receipt => .inr (.inl receipt)
    | .publishedDurabilityUnknown receipt error => .inr (.inr (receipt, error))
  left_inv s := by rcases s with _ | _ | _ <;> rfl
  right_inv outcome := by cases outcome <;> rfl

def PublicationOutcomeV0.variants :
    Variants "kind"
      (ServiceErrorV0 ⊕ PublicationReceiptV0 ⊕ PublicationReceiptV0 × ServiceErrorV0) :=
  (Variants.variant "not_published" (field "error" ServiceErrorV0.codec) (by decide)).either
    ((Variants.variant "published" (field "receipt" PublicationReceiptV0.codec) (by decide)).either
      (Variants.variant "published_durability_unknown"
        ((field "receipt" PublicationReceiptV0.codec).both (field "error" ServiceErrorV0.codec))
        (by decide))
      (by decide))
    (by decide)

def PublicationOutcomeV0.codec : Codec PublicationOutcomeV0 :=
  ((tagged .internal "kind" variants).imap fieldsEquiv).checked fun outcome =>
    accepts outcome.validate

/-! ## Closed summaries -/

def SupervisorPhase.codec : Codec SupervisorPhase :=
  .enumeration [.running, .quiescing, .closed]
    (fun
      | .running => "running"
      | .quiescing => "quiescing"
      | .closed => "closed")
    (by intro a; cases a <;> decide) (by decide)

def ShutdownResourceKind.name : ShutdownResourceKind → String
  | operationRegistry => "operation_registry"
  | taskSupervisor => "task_supervisor"
  | backend => "backend"
  | workerPool => "worker_pool"
  | runtime => "runtime"

def ShutdownResourceKind.codec : Codec ShutdownResourceKind :=
  .enumeration [.operationRegistry, .taskSupervisor, .backend, .workerPool, .runtime] name
    (by intro a; cases a <;> decide) (by decide)

def ShutdownResourceState.name : ShutdownResourceState → String
  | stopped => "stopped"
  | failed => "failed"

def ShutdownResourceState.codec : Codec ShutdownResourceState :=
  .enumeration [.stopped, .failed] name (by intro a; cases a <;> decide) (by decide)

def ShutdownResourceV0.codec : Codec ShutdownResourceV0 :=
  ((record ((field "resource_id" string).both <| (field "service" Identifier.codec).both <|
      (field "kind" ShutdownResourceKind.codec).both <|
      (field "state" ShutdownResourceState.codec).both <|
      (field "expected_workers" unsigned).both <| field "joined_workers" unsigned)
      (by decide)).imap
    { toFun := fun (resourceId, service, kind, state, expectedWorkers, joinedWorkers) =>
        { resourceId, service, kind, state, expectedWorkers, joinedWorkers }
      invFun := fun resource => (resource.resourceId, resource.service, resource.kind,
        resource.state, resource.expectedWorkers, resource.joinedWorkers)
      left_inv := fun _ => rfl
      right_inv := fun _ => rfl }).checked fun resource => accepts resource.validate

def ShutdownFailureV0.codec : Codec ShutdownFailureV0 :=
  ((record ((field "failure_id" string).both <| (field "resource_id" string).both <|
      (field "service" Identifier.codec).both <| field "error" ServiceErrorV0.codec)
      (by decide)).imap
    { toFun := fun (failureId, resourceId, service, error) =>
        { failureId, resourceId, service, error }
      invFun := fun failure => (failure.failureId, failure.resourceId, failure.service,
        failure.error)
      left_inv := fun _ => rfl
      right_inv := fun _ => rfl }).checked fun failure => accepts failure.validate

def ClosedSummaryV0.codec : Codec ClosedSummaryV0 :=
  ((record ((field "schema" string).both <| (field "phase" SupervisorPhase.codec).both <|
      (field "active_operations" unsigned).both <| (field "retained_tasks" unsigned).both <|
      (field "expected_workers" unsigned).both <| (field "joined_workers" unsigned).both <|
      (field "resources" (list ShutdownResourceV0.codec)).both <|
      field "failures" (list ShutdownFailureV0.codec)) (by decide)).imap
    { toFun := fun (schema, phase, activeOperations, retainedTasks, expectedWorkers, joinedWorkers,
          resources, failures) =>
        { schema, phase, activeOperations, retainedTasks, expectedWorkers, joinedWorkers,
          resources, failures }
      invFun := fun summary => (summary.schema, summary.phase, summary.activeOperations,
        summary.retainedTasks, summary.expectedWorkers, summary.joinedWorkers, summary.resources,
        summary.failures)
      left_inv := fun _ => rfl
      right_inv := fun _ => rfl }).checked fun summary => accepts summary.validate

/-! ## Capability snapshots -/

def Readiness.name : Readiness → String
  | ready => "ready"
  | unavailable => "unavailable"
  | unknown => "unknown"

def Readiness.codec : Codec Readiness :=
  .enumeration [.ready, .unavailable, .unknown] name (by intro a; cases a <;> decide) (by decide)

def TriState.name : TriState → String
  | yes => "yes"
  | no => "no"
  | unknown => "unknown"

def TriState.codec : Codec TriState :=
  .enumeration [.yes, .no, .unknown] name (by intro a; cases a <;> decide) (by decide)

def CapabilityEntryV0.codec : Codec CapabilityEntryV0 :=
  ((record ((field "operation" string).both <| (field "backend_or_resource_id" string).both <|
      (field "readiness" Readiness.codec).both <| (field "limits" (map .string unsigned)).both <|
      (field "network" TriState.codec).both <| (field "privacy_eligible" TriState.codec).both <|
      (field "evidence_source" string).both <| (field "evidence_outcome" string).both <|
      (optional "observed_at_unix_ms" unsigned).both <| optional "remediation" string)
      (by decide)).imap
    { toFun := fun (operation, backendOrResourceId, readiness, limits, network, privacyEligible,
          evidenceSource, evidenceOutcome, observedAtUnixMs, remediation) =>
        { operation, backendOrResourceId, readiness, limits, network, privacyEligible,
          evidenceSource, evidenceOutcome, observedAtUnixMs, remediation }
      invFun := fun entry => (entry.operation, entry.backendOrResourceId, entry.readiness,
        entry.limits, entry.network, entry.privacyEligible, entry.evidenceSource,
        entry.evidenceOutcome, entry.observedAtUnixMs, entry.remediation)
      left_inv := fun _ => rfl
      right_inv := fun _ => rfl }).checked fun entry => accepts entry.validate

def CapabilitySourceReportV0.codec : Codec CapabilitySourceReportV0 :=
  ((record ((field "source_id" string).both <| (field "outcome" string).both <|
      optional "safe_detail" string) (by decide)).imap
    { toFun := fun (sourceId, outcome, safeDetail) => { sourceId, outcome, safeDetail }
      invFun := fun report => (report.sourceId, report.outcome, report.safeDetail)
      left_inv := fun _ => rfl
      right_inv := fun _ => rfl }).checked fun report => accepts report.validate

def CapabilitySnapshotV0.codec : Codec CapabilitySnapshotV0 :=
  ((record ((field "schema" string).both <| (field "snapshot_id" ContentDigest.codec).both <|
      (field "target" string).both <|
      (field "services" (map Identifier.text (list CapabilityEntryV0.codec))).both <|
      field "reports" (list CapabilitySourceReportV0.codec)) (by decide)).imap
    { toFun := fun (schema, snapshotId, target, services, reports) =>
        { schema, snapshotId, target, services, reports }
      invFun := fun snapshot => (snapshot.schema, snapshot.snapshotId, snapshot.target,
        snapshot.services, snapshot.reports)
      left_inv := fun _ => rfl
      right_inv := fun _ => rfl }).checked fun snapshot => accepts snapshot.validate

/-! ## Evidence claims -/

def EvidenceTier.name : EvidenceTier → String
  | operational => "operational"
  | reproducible => "reproducible"
  | researchEligible => "research_eligible"
  | externallyAttested => "externally_attested"

def EvidenceTier.codec : Codec EvidenceTier :=
  .enumeration [.operational, .reproducible, .researchEligible, .externallyAttested] name
    (by intro a; cases a <;> decide) (by decide)

def ExecutionKind.name : ExecutionKind → String
  | fixture => "fixture"
  | localRuntime => "local_runtime"
  | hostedNetwork => "hosted_network"

def ExecutionKind.codec : Codec ExecutionKind :=
  .enumeration [.fixture, .localRuntime, .hostedNetwork] name (by intro a; cases a <;> decide)
    (by decide)

def EvidenceClaimV0.codec : Codec EvidenceClaimV0 :=
  ((record ((field "schema" string).both <| (field "tier" EvidenceTier.codec).both <|
      (field "threat_model" string).both <| (field "exact_source" ContentDigest.codec).both <|
      (field "exact_runtime_or_artifact" ContentDigest.codec).both <|
      (field "execution_kind" ExecutionKind.codec).both <|
      (field "omitted_claims" (list string)).both <| field "negative_evidence" (list string))
      (by decide)).imap
    { toFun := fun (schema, tier, threatModel, exactSource, exactRuntimeOrArtifact, executionKind,
          omittedClaims, negativeEvidence) =>
        { schema, tier, threatModel, exactSource, exactRuntimeOrArtifact, executionKind,
          omittedClaims, negativeEvidence }
      invFun := fun claim => (claim.schema, claim.tier, claim.threatModel, claim.exactSource,
        claim.exactRuntimeOrArtifact, claim.executionKind, claim.omittedClaims,
        claim.negativeEvidence)
      left_inv := fun _ => rfl
      right_inv := fun _ => rfl }).checked fun claim => accepts claim.validate

/-! ## Privacy policies -/

def NetworkPolicyV0.name : NetworkPolicyV0 → String
  | deny => "deny"
  | allowListed => "allow_listed"
  | allowHosted => "allow_hosted"

def NetworkPolicyV0.codec : Codec NetworkPolicyV0 :=
  .enumeration [.deny, .allowListed, .allowHosted] name (by intro a; cases a <;> decide)
    (by decide)

def DataHandlingV0.name : DataHandlingV0 → String
  | localOnly => "local_only"
  | hostedAllowed => "hosted_allowed"

def DataHandlingV0.codec : Codec DataHandlingV0 :=
  .enumeration [.localOnly, .hostedAllowed] name (by intro a; cases a <;> decide) (by decide)

def DataTierV0.name : DataTierV0 → String
  | «public» => "public"
  | «private» => "private"
  | restricted => "restricted"
  | unknown => "unknown"

def DataTierV0.codec : Codec DataTierV0 :=
  .enumeration [.public, .private, .restricted, .unknown] name (by intro a; cases a <;> decide)
    (by decide)

def PayloadRedactionV0.name : PayloadRedactionV0 → String
  | localOnly => "local_only"
  | requiredBeforeEgress => "required_before_egress"

def PayloadRedactionV0.codec : Codec PayloadRedactionV0 :=
  .enumeration [.localOnly, .requiredBeforeEgress] name (by intro a; cases a <;> decide)
    (by decide)

def LoggingPolicyV0.name : LoggingPolicyV0 → String
  | disabled => "disabled"
  | redactedMetadataOnly => "redacted_metadata_only"

def LoggingPolicyV0.codec : Codec LoggingPolicyV0 :=
  .enumeration [.disabled, .redactedMetadataOnly] name (by intro a; cases a <;> decide)
    (by decide)

def PrivacyPolicyV0.codec : Codec PrivacyPolicyV0 :=
  ((record ((field "schema" string).both <| (field "network" NetworkPolicyV0.codec).both <|
      (field "data_handling" DataHandlingV0.codec).both <|
      (field "allowed_provider_ids" (list Identifier.codec)).both <|
      (field "allowed_hosted_data_tiers" (list DataTierV0.codec)).both <|
      (field "payload_redaction" PayloadRedactionV0.codec).both <|
      field "logging" LoggingPolicyV0.codec) (by decide)).imap
    { toFun := fun (schema, network, dataHandling, allowedProviderIds, allowedHostedDataTiers,
          payloadRedaction, logging) =>
        { schema, network, dataHandling, allowedProviderIds, allowedHostedDataTiers,
          payloadRedaction, logging }
      invFun := fun policy => (policy.schema, policy.network, policy.dataHandling,
        policy.allowedProviderIds, policy.allowedHostedDataTiers, policy.payloadRedaction,
        policy.logging)
      left_inv := fun _ => rfl
      right_inv := fun _ => rfl }).checked fun policy => accepts policy.validate

end Contracts
end Platform
