import PlatformContracts.Contracts.Wire

/-!
# Round trips of the envelopes

* `valid_codec`, for each type: what comes back from the wire is what `validate` accepts, because
  the checks of the parts are among those of the whole.
* `decode_exact`: reading undoes writing on the valid values, and gives no others.
* `encode_exact`: writing undoes reading on the documents in the form of the writer, with all their
  optional keys. A document without such a key is read too, and gets the key when it is written
  again; and so are arrays for records, and objects for variants without fields.
-/

namespace Platform
namespace Contracts

open Std Codec

/-! ## The parts of a valid envelope are valid -/

/-- The check after the reading decides, when it says that the parts are valid. -/
theorem and_accepts {ε : Type} [DecidableEq ε] {parts : Bool} {result : Except ε Unit}
    (h : result = .ok () → parts = true) : (parts && accepts result) = accepts result := by
  rw [Bool.eq_iff_iff, Bool.and_eq_true, accepts_iff]
  exact and_iff_right_of_imp h

@[simp] theorem Identifier.valid_codec {id : Identifier} : codec.valid id = true := rfl

theorem ContentDigest.valid_codec {digest : ContentDigest} :
    codec.valid digest = accepts digest.validate :=
  and_accepts fun _ => rfl

theorem ServiceErrorV0.valid_codec {error : ServiceErrorV0} :
    codec.valid error = accepts error.validate := by
  refine and_accepts fun _ => ?_
  simp [ErrorClass.codec, RetryAdvice.codec, Option.all_eq_true]

theorem TerminalV0.valid_codec {terminal : TerminalV0} :
    codec.valid terminal = accepts terminal.validate := by
  refine and_accepts fun h => ?_
  have herror : ∀ error, terminal.error = some error → error.validate = .ok () := by
    intro error he
    have := (validate_eq_ok.mp h).2
    rw [he] at this
    exact this.2.2.1
  simpa [TerminalClass.codec, Option.all_eq_true, ServiceErrorV0.valid_codec] using herror

theorem ArtifactIdentityV0.valid_codec {artifact : ArtifactIdentityV0} :
    codec.valid artifact = accepts artifact.validate := by
  refine and_accepts fun h => ?_
  have hdigest : artifact.digest.validate = .ok () := by
    rw [validate, unit_bind_eq_ok, mapErr_eq_ok] at h
    exact h.2
  simp [ContentDigest.valid_codec, hdigest]

theorem DestinationIdentityV0.valid_codec {destination : DestinationIdentityV0} :
    codec.valid destination = accepts destination.validate :=
  and_accepts fun _ => rfl

theorem PublicationReceiptV0.valid_codec {receipt : PublicationReceiptV0} :
    codec.valid receipt = accepts receipt.validate := by
  refine and_accepts fun h => ?_
  obtain ⟨-, hartifact, hdestination, -⟩ := validate_eq_ok.mp h
  simp [ArtifactIdentityV0.valid_codec, DestinationIdentityV0.valid_codec, hartifact,
    hdestination]

theorem PublicationOutcomeV0.valid_codec {outcome : PublicationOutcomeV0} :
    codec.valid outcome = accepts outcome.validate := by
  refine and_accepts fun h => ?_
  cases outcome with
  | notPublished error =>
    have herror : error.validate = .ok () := h
    simp [variants, fieldsEquiv, ServiceErrorV0.valid_codec, herror]
  | published receipt =>
    have hreceipt := (validate_published.mp h).1
    simp [variants, fieldsEquiv, PublicationReceiptV0.valid_codec, hreceipt]
  | publishedDurabilityUnknown receipt error =>
    obtain ⟨hreceipt, herror, -⟩ := validate_durabilityUnknown.mp h
    simp [variants, fieldsEquiv, PublicationReceiptV0.valid_codec, ServiceErrorV0.valid_codec,
      hreceipt, herror]

theorem ShutdownResourceV0.valid_codec {resource : ShutdownResourceV0} :
    codec.valid resource = accepts resource.validate :=
  and_accepts fun _ => rfl

theorem ShutdownFailureV0.valid_codec {failure : ShutdownFailureV0} :
    codec.valid failure = accepts failure.validate := by
  refine and_accepts fun h => ?_
  obtain ⟨-, -, herror, -⟩ := validate_eq_ok.mp h
  simp [ServiceErrorV0.valid_codec, herror]

theorem ClosedSummaryV0.valid_parts {summary : ClosedSummaryV0} (h : summary.validate = .ok ()) :
    (∀ resource ∈ summary.resources, resource.validate = .ok ()) ∧
      ∀ failure ∈ summary.failures, failure.validate = .ok () := by
  have hc := validate_eq_ok.mp h
  refine ⟨fun r hr => ShutdownResourceV0.validate_eq_ok.mpr (hc.resource r hr), fun f hf => ?_⟩
  obtain ⟨r, hr, hid, -⟩ := hc.declared f hf
  obtain ⟨hfid, herror⟩ := hc.failure f hf
  exact ShutdownFailureV0.validate_eq_ok.mpr ⟨hfid, hid ▸ (hc.resource r hr).1, herror⟩

theorem ClosedSummaryV0.valid_codec {summary : ClosedSummaryV0} :
    codec.valid summary = accepts summary.validate := by
  refine and_accepts fun h => ?_
  simpa [SupervisorPhase.codec, ShutdownResourceV0.valid_codec, ShutdownFailureV0.valid_codec]
    using valid_parts h

theorem CapabilityEntryV0.valid_codec {entry : CapabilityEntryV0} :
    codec.valid entry = accepts entry.validate := by
  refine and_accepts fun _ => ?_
  simp [Readiness.codec, TriState.codec, Option.all_eq_true]

theorem CapabilitySourceReportV0.valid_codec {report : CapabilitySourceReportV0} :
    codec.valid report = accepts report.validate := by
  refine and_accepts fun _ => ?_
  simp [Option.all_eq_true]

theorem CapabilitySnapshotV0.valid_codec {snapshot : CapabilitySnapshotV0} :
    codec.valid snapshot = accepts snapshot.validate := by
  refine and_accepts fun h => ?_
  obtain ⟨-, hid, -, -, hservices, hreports⟩ := validate_eq_ok.mp h
  simpa [ContentDigest.valid_codec, CapabilityEntryV0.valid_codec,
    CapabilitySourceReportV0.valid_codec, hid] using
    ⟨fun service entries he => (hservices service entries he).2, hreports.1⟩

theorem EvidenceClaimV0.valid_codec {claim : EvidenceClaimV0} :
    codec.valid claim = accepts claim.validate := by
  refine and_accepts fun h => ?_
  obtain ⟨-, -, hsource, hruntime, -⟩ := validate_eq_ok.mp h
  simp [EvidenceTier.codec, ExecutionKind.codec, ContentDigest.valid_codec, hsource, hruntime]

theorem PrivacyPolicyV0.valid_codec {policy : PrivacyPolicyV0} :
    codec.valid policy = accepts policy.validate := by
  refine and_accepts fun _ => ?_
  simp [NetworkPolicyV0.codec, DataHandlingV0.codec, DataTierV0.codec, PayloadRedactionV0.codec,
    LoggingPolicyV0.codec]

/-! ## Reading what was written -/

/-- Reading undoes writing on the values that `validate` accepts, and gives no other value. -/
structure DecodesExactly {α : Type} (c : Codec α) (validate : α → Except ContractError Unit) :
    Prop where
  decode_encode : ∀ v, c.decode (c.encode v) = if validate v = .ok () then some v else none
  validate_of_decode : ∀ j v, c.decode j = some v → validate v = .ok ()

theorem DecodesExactly.of_valid {α : Type} {c : Codec α} {validate : α → Except ContractError Unit}
    (h : ∀ {v}, c.valid v = accepts (validate v)) : DecodesExactly c validate where
  decode_encode v := by
    rw [c.decode_encode, h]
    simp only [accepts_iff]
  validate_of_decode j v hd := by
    rw [← accepts_iff, ← h]
    exact c.valid_of_decode hd

theorem decode_exact :
    DecodesExactly ServiceErrorV0.codec ServiceErrorV0.validate ∧
    DecodesExactly TerminalV0.codec TerminalV0.validate ∧
    DecodesExactly PublicationOutcomeV0.codec PublicationOutcomeV0.validate ∧
    DecodesExactly ClosedSummaryV0.codec ClosedSummaryV0.validate ∧
    DecodesExactly CapabilitySnapshotV0.codec CapabilitySnapshotV0.validate ∧
    DecodesExactly EvidenceClaimV0.codec EvidenceClaimV0.validate ∧
    DecodesExactly PrivacyPolicyV0.codec PrivacyPolicyV0.validate :=
  ⟨.of_valid ServiceErrorV0.valid_codec, .of_valid TerminalV0.valid_codec,
    .of_valid PublicationOutcomeV0.valid_codec, .of_valid ClosedSummaryV0.valid_codec,
    .of_valid CapabilitySnapshotV0.valid_codec, .of_valid EvidenceClaimV0.valid_codec,
    .of_valid PrivacyPolicyV0.valid_codec⟩

/-! ## Documents in the form of the writer

A reader takes a record also from an array, a variant without fields also from an object with its
name as the only key, and a field of type `Option` also when its key is missing. `Complete` says
for each envelope that it has none of these forms, in it and in its parts. -/

theorem mem_keys_iff {j : Json} {k : String} : k ∈ j.keys ↔ ∃ v, j.get? k = some v := by
  rw [Json.mem_keys, Option.isSome_iff_exists]

def ContentDigest.Complete (j : Json) : Prop := j.isObj ∧ j.At "algorithm" (·.isStr)

def ServiceErrorV0.Complete (j : Json) : Prop :=
  j.isObj ∧ j.At "class" (·.isStr) ∧ j.At "retry" (·.isStr) ∧ "operation_id" ∈ j.keys

def TerminalV0.Complete (j : Json) : Prop :=
  j.isObj ∧ "attempt_id" ∈ j.keys ∧ j.At "class" (·.isStr) ∧
    ∃ error, j.get? "error" = some error ∧ (error = .null ∨ ServiceErrorV0.Complete error)

def ArtifactIdentityV0.Complete (j : Json) : Prop :=
  j.isObj ∧ j.At "digest" ContentDigest.Complete

def PublicationReceiptV0.Complete (j : Json) : Prop :=
  j.isObj ∧ j.At "artifact" ArtifactIdentityV0.Complete ∧ j.At "destination" (·.isObj)

def PublicationOutcomeV0.Complete (j : Json) : Prop :=
  j.isObj ∧ j.At "receipt" PublicationReceiptV0.Complete ∧ j.At "error" ServiceErrorV0.Complete

def ShutdownResourceV0.Complete (j : Json) : Prop :=
  j.isObj ∧ j.At "kind" (·.isStr) ∧ j.At "state" (·.isStr)

def ShutdownFailureV0.Complete (j : Json) : Prop :=
  j.isObj ∧ j.At "error" ServiceErrorV0.Complete

def ClosedSummaryV0.Complete (j : Json) : Prop :=
  j.isObj ∧ j.At "phase" (·.isStr) ∧ j.At "resources" (Json.Each ShutdownResourceV0.Complete) ∧
    j.At "failures" (Json.Each ShutdownFailureV0.Complete)

def CapabilityEntryV0.Complete (j : Json) : Prop :=
  j.isObj ∧ j.At "readiness" (·.isStr) ∧ j.At "network" (·.isStr) ∧
    j.At "privacy_eligible" (·.isStr) ∧ "observed_at_unix_ms" ∈ j.keys ∧ "remediation" ∈ j.keys

def CapabilitySourceReportV0.Complete (j : Json) : Prop := j.isObj ∧ "safe_detail" ∈ j.keys

def CapabilitySnapshotV0.Complete (j : Json) : Prop :=
  j.isObj ∧ j.At "snapshot_id" ContentDigest.Complete ∧
    (j.At "services" fun services =>
      ∀ service, services.At service (Json.Each CapabilityEntryV0.Complete)) ∧
    j.At "reports" (Json.Each CapabilitySourceReportV0.Complete)

section Complete

variable {j : Json}

theorem ContentDigest.full_codec : codec.full j = true ↔ Complete j := by
  simp [codec, DigestAlgorithm.codec, Complete]

theorem ServiceErrorV0.full_codec : codec.full j = true ↔ Complete j := by
  simp [codec, ErrorClass.codec, RetryAdvice.codec, Identifier.codec, Complete, mem_keys_iff]

theorem TerminalV0.full_codec : codec.full j = true ↔ Complete j := by
  simp [codec, TerminalClass.codec, Identifier.codec, ServiceErrorV0.full_codec, Complete,
    mem_keys_iff]

theorem ArtifactIdentityV0.full_codec : codec.full j = true ↔ Complete j := by
  simp [codec, ContentDigest.full_codec, Complete]

theorem PublicationReceiptV0.full_codec : codec.full j = true ↔ Complete j := by
  simp [codec, ArtifactIdentityV0.full_codec, DestinationIdentityV0.codec, Complete]

/-- The tag of an object that is read is that of its variant, and gives the keys. -/
theorem PublicationOutcomeV0.full_codec {outcome : PublicationOutcomeV0}
    (h : codec.decode j = some outcome) : codec.full j = true ↔ Complete j := by
  obtain ⟨hread, -⟩ := Option.filter_eq_some_iff.mp h
  obtain ⟨s, hs, -⟩ := Option.map_eq_some_iff.mp hread
  show (tagged .internal "kind" variants).full j = true ↔ _
  rw [full_tagged]
  by_cases hj : j.isObj
  · obtain ⟨htag, hs⟩ := (read_internal hj).mp hs
    rw [Complete, and_iff_right hj]
    rcases s with error | receipt | ⟨receipt, error⟩
    · have hkeys : ∀ k ∈ j.keys, k = "kind" ∨ k ∈ ["error"] := by
        simp [variants, Variants.either, Variants.variant] at hs
        exact hs.1
      have hreceipt : "receipt" ∉ j.keys := fun hmem => by simpa using hkeys _ hmem
      rw [and_iff_right (Json.at_of_not_mem hreceipt), htag]
      simp [variants, Variants.either, Variants.variant, ServiceErrorV0.full_codec]
    · have hkeys : ∀ k ∈ j.keys, k = "kind" ∨ k ∈ ["receipt"] := by
        simp [variants, Variants.either, Variants.variant] at hs
        exact hs.1
      have herror : "error" ∉ j.keys := fun hmem => by simpa using hkeys _ hmem
      rw [and_iff_left (Json.at_of_not_mem herror), htag]
      simp [variants, Variants.either, Variants.variant, PublicationReceiptV0.full_codec]
    · rw [htag]
      simp [variants, Variants.either, Variants.variant, ServiceErrorV0.full_codec,
        PublicationReceiptV0.full_codec]
  · refine iff_of_false ?_ fun hc => hj hc.1
    rintro ⟨n, hn, -⟩
    exact hj (Json.isObj_of_get? hn)

theorem ShutdownResourceV0.full_codec : codec.full j = true ↔ Complete j := by
  simp [codec, ShutdownResourceKind.codec, ShutdownResourceState.codec, Identifier.codec,
    Complete]

theorem ShutdownFailureV0.full_codec : codec.full j = true ↔ Complete j := by
  simp [codec, Identifier.codec, ServiceErrorV0.full_codec, Complete]

theorem ClosedSummaryV0.full_codec : codec.full j = true ↔ Complete j := by
  simp [codec, SupervisorPhase.codec, ShutdownResourceV0.full_codec,
    ShutdownFailureV0.full_codec, Complete]

theorem CapabilityEntryV0.full_codec : codec.full j = true ↔ Complete j := by
  simp [codec, Readiness.codec, TriState.codec, Complete, mem_keys_iff]

theorem CapabilitySourceReportV0.full_codec : codec.full j = true ↔ Complete j := by
  simp [codec, Complete, mem_keys_iff]

theorem CapabilitySnapshotV0.full_codec : codec.full j = true ↔ Complete j := by
  simp [codec, ContentDigest.full_codec, CapabilityEntryV0.full_codec,
    CapabilitySourceReportV0.full_codec, Complete]

end Complete

/-! ## Writing what was read -/

/-- The documents that are written back as they were read are those in the form of the writer, with
all their optional keys. -/
theorem encode_exact (j : Json) :
    (∀ error : ServiceErrorV0, ServiceErrorV0.codec.decode j = some error →
      (ServiceErrorV0.codec.encode error = j ↔ ServiceErrorV0.Complete j)) ∧
    (∀ terminal : TerminalV0, TerminalV0.codec.decode j = some terminal →
      (TerminalV0.codec.encode terminal = j ↔ TerminalV0.Complete j)) ∧
    (∀ outcome : PublicationOutcomeV0, PublicationOutcomeV0.codec.decode j = some outcome →
      (PublicationOutcomeV0.codec.encode outcome = j ↔ PublicationOutcomeV0.Complete j)) ∧
    (∀ snapshot : CapabilitySnapshotV0, CapabilitySnapshotV0.codec.decode j = some snapshot →
      (CapabilitySnapshotV0.codec.encode snapshot = j ↔ CapabilitySnapshotV0.Complete j)) ∧
    (∀ summary : ClosedSummaryV0, ClosedSummaryV0.codec.decode j = some summary →
      (ClosedSummaryV0.codec.encode summary = j ↔ ClosedSummaryV0.Complete j)) := by
  refine ⟨fun error h => ?_, fun terminal h => ?_, fun outcome h => ?_, fun snapshot h => ?_,
    fun summary h => ?_⟩
  · rw [ServiceErrorV0.codec.encode_decode h, ServiceErrorV0.full_codec]
  · rw [TerminalV0.codec.encode_decode h, TerminalV0.full_codec]
  · rw [PublicationOutcomeV0.codec.encode_decode h, PublicationOutcomeV0.full_codec h]
  · rw [CapabilitySnapshotV0.codec.encode_decode h, CapabilitySnapshotV0.full_codec]
  · rw [ClosedSummaryV0.codec.encode_decode h, ClosedSummaryV0.full_codec]

/-- An error about no operation, with the key of the operation left out. -/
def errorWithoutOperation : Json :=
  .object [("schema", .str "delysis.service_error.v0"), ("code", .str "timeout.waiter"),
    ("class", .str "timeout"), ("retry", .str "immediate"), ("service", .str "gateway"),
    ("safe_detail", .str "the caller stopped waiting")]

/-- It is read, and what is written has the key. -/
theorem encode_adds_operation :
    ∃ error, ServiceErrorV0.codec.decode errorWithoutOperation = some error ∧
      ServiceErrorV0.codec.encode error ≠ errorWithoutOperation := by
  have hread : (ServiceErrorV0.codec.decode errorWithoutOperation).isSome := by decide +kernel
  obtain ⟨error, h⟩ := Option.isSome_iff_exists.mp hread
  refine ⟨error, h, ?_⟩
  rw [Ne, ServiceErrorV0.codec.encode_decode h, ServiceErrorV0.full_codec]
  intro hc
  have hkey : "operation_id" ∉ errorWithoutOperation.keys := by decide
  exact hkey hc.2.2.2

/-- An error about no operation, its class an object with the name as the only key. -/
def errorOfClassObject : Json :=
  .object [("schema", .str "delysis.service_error.v0"), ("code", .str "timeout.waiter"),
    ("class", .object [("timeout", .null)]), ("retry", .str "immediate"), ("operation_id", .null),
    ("service", .str "gateway"), ("safe_detail", .str "the caller stopped waiting")]

/-- It has all its keys, and is not written back either. -/
example : ∃ error, ServiceErrorV0.codec.decode errorOfClassObject = some error ∧
    ServiceErrorV0.codec.encode error ≠ errorOfClassObject := by
  have hread : (ServiceErrorV0.codec.decode errorOfClassObject).isSome := by decide +kernel
  obtain ⟨error, h⟩ := Option.isSome_iff_exists.mp hread
  refine ⟨error, h, ?_⟩
  rw [Ne, ServiceErrorV0.codec.encode_decode h, ServiceErrorV0.full_codec]
  intro hc
  exact absurd (hc.2.1 _ rfl) (by decide)

end Contracts
end Platform
