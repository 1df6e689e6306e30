import PlatformContracts.Contracts.RoundTrip
import PlatformContracts.Contracts.Schemas

/-!
# Valid envelopes conform to their schemas

For each type, the JSON of a value that `validate` accepts is accepted by the schema of the type.
The lengths of the schemas are in code points, those of `validate` in bytes, which are no fewer.
-/

namespace Platform
namespace Contracts

open Std Schema Schemas

/-! ## Helpers of the schemas -/

section Helpers

variable {α : Type} {j : Json} {s : String} {a : Schema} {l : List α} {f : α → Json}

@[simp] theorem boundedString_str {min max : Nat} :
    boundedString min max (.str s) = true ↔ min ≤ s.length ∧ s.length ≤ max := by
  simp [boundedString]

@[simp] theorem constString_str {t : String} : constString t (.str s) = true ↔ s = t := by
  rw [constString, const, Json.same_str, Json.str.injEq]

theorem enumStrings_str {names : List String} :
    enumStrings names (.str s) = true ↔ s ∈ names := by
  simp [enumStrings, enum_strings_iff]

theorem nullOr_elim {o : Option α} (hnull : a .null = false) (hf : ∀ x, f x ≠ .null) :
    nullOr a (o.elim .null f) = true ↔ ∀ x, o = some x → a (f x) = true := by
  cases o with
  | none => simp [nullOr, oneOf_pair, hnull]
  | some x =>
    have htype : type .null (f x) = false := by
      have := hf x
      cases h : f x <;> simp_all [type]
    simp [nullOr, oneOf_pair, htype]

@[simp] theorem natural_nat {n : Nat} : natural (.num (.int n)) = true := accepts_natural

@[simp] theorem type_boolean_bool {b : Bool} : type .boolean (.bool b) = true := rfl

@[simp] theorem type_array_arr {items : List Json} : type .array (.arr items) = true := rfl

theorem items_map : items a (.arr (l.map f)) = true ↔ ∀ x ∈ l, a (f x) = true := by
  simp [items]

theorem array_map : array a (.arr (l.map f)) = true ↔ ∀ x ∈ l, a (f x) = true := by
  simp [array, items_map]

theorem arrayOf_map {min : Nat} :
    arrayOf min a (.arr (l.map f)) = true ↔ min ≤ l.length ∧ ∀ x ∈ l, a (f x) = true := by
  simp [arrayOf, items_map, minItems]

/-- Different elements have different values when `f` tells them apart by a string. -/
theorem uniqueArray_map (hf : ∀ x y, (f x).same (f y) = true ↔ x = y) :
    uniqueArray a (.arr (l.map f)) = true ↔ l.Nodup ∧ ∀ x ∈ l, a (f x) = true := by
  have hpair : (l.map f).Pairwise (fun x y => x.same y = false) ↔ l.Nodup := by
    rw [List.pairwise_map]
    simp only [← Bool.not_eq_true, hf]
    rfl
  simp [uniqueArray, items_map, uniqueItems, hpair]

/-- A variant is rejected by the record of another. -/
theorem rejects_other_tag {tag k t : String} {members : List (String × Schema)}
    {values : List (String × Json)} (hne : k ≠ t) :
    closed ((tag, constString t) :: members) (.object ((tag, .str k) :: values)) = false := by
  refine closed_eq_false (v := .str k) List.mem_cons_self (by simp) ?_
  rw [← Bool.not_eq_true, constString_str]
  exact hne

end Helpers

/-! ## Strings -/

theorem boundedString_of_validate {field value : String} {max : Nat}
    (h : validateNonemptyBounded field value max = .ok ()) :
    boundedString 1 max (.str value) = true :=
  boundedString_str.mpr (length_of_bounded h)

/-- A pattern of one or more characters has the lower bound in it. -/
theorem plusString_str {cls : Char → Bool} {max : Nat} {s : String} :
    allOf [boundedString 1 max, pattern (.plus (.chars cls))] (.str s) = true ↔
      s.toList ∈ (Regex.plus (.chars cls)).language ∧ s.length ≤ max := by
  simp only [allOf_cons, allOf_nil, Bool.and_true, Bool.and_eq_true, boundedString_str,
    pattern_str, Regex.mem_plus_chars, Ne, String.toList_eq_nil_iff]
  constructor
  · rintro ⟨⟨-, hmax⟩, hmem⟩
    exact ⟨hmem, hmax⟩
  · rintro ⟨⟨hne, hmem⟩, hmax⟩
    have : s.length ≠ 0 := fun h => hne (String.length_eq_zero_iff.mp h)
    exact ⟨⟨by omega, hmax⟩, hne, hmem⟩

theorem identifier_str {value : String} :
    Schemas.identifier (.str value) = true ↔ validateIdentifier value = .ok () :=
  plusString_str.trans validateIdentifier_iff.symm

@[simp] theorem identifier_value {id : Identifier} :
    Schemas.identifier (.str id.value) = true :=
  identifier_str.mpr id.valid

theorem code_str {code : String} :
    allOf [boundedString 1 128, pattern codePattern] (.str code) = true ↔
      validateCode code = .ok () := by
  rw [validateCode_iff]
  simp only [allOf_cons, allOf_nil, Bool.and_true, Bool.and_eq_true, boundedString_str,
    pattern_str]
  constructor
  · rintro ⟨⟨-, hmax⟩, hmem⟩
    exact ⟨hmem, hmax⟩
  · rintro ⟨hmem, hmax⟩
    have := wordClass_ascii.length_of_separated (d := '.') (by decide) hmem
    have hpos := List.length_pos_iff.mpr this.2
    exact ⟨⟨by omega, hmax⟩, hmem⟩

theorem opaqueId_str {value : String} :
    Shutdown.opaqueId (.str value) = true ↔ IsOpaqueId value :=
  plusString_str.trans isOpaqueId_iff.symm

theorem limitKey_str {key : String} : Capability.limitKey (.str key) = true ↔ isLimitKey key :=
  plusString_str.trans isLimitKey_iff.symm

theorem digest_encode {digest : ContentDigest} :
    Schemas.digest (ContentDigest.codec.encode digest) = true ↔ digest.validate = .ok () := by
  show Schemas.digest (.object [("algorithm", .str "sha256"), ("hex", .str digest.hex)]) = true ↔
    validateSha256 digest.hex = .ok ()
  rw [Schemas.digest, closed_object rfl (by decide), validateSha256_iff]
  simp

/-! ## Service errors -/

@[simp] theorem ErrorClass.enum_name {c : ErrorClass} :
    enumStrings ["invalid_request", "unsupported", "unavailable", "permission", "privacy",
      "cancelled", "timeout", "resource_exhausted", "integrity", "publication", "storage",
      "worker", "internal"] (.str c.name) = true := by
  cases c <;> decide

@[simp] theorem RetryAdvice.enum_name {c : RetryAdvice} :
    enumStrings ["immediate", "after_user_action", "after_restart", "different_route", "never"]
      (.str c.name) = true := by
  cases c <;> decide

@[simp] theorem nullOr_identifier {o : Option Identifier} :
    nullOr Schemas.identifier (o.elim .null fun id => .str id.value) = true := by
  rw [nullOr_elim rfl (by simp)]
  simp

theorem ServiceErrorV0.encode_eq {error : ServiceErrorV0} :
    codec.encode error = .object [("schema", .str error.schema), ("code", .str error.code),
      ("class", .str error.errorClass.name), ("retry", .str error.retry.name),
      ("operation_id", error.operationId.elim .null fun id => .str id.value),
      ("service", .str error.service.value), ("safe_detail", .str error.safeDetail)] := rfl

theorem ServiceErrorV0.schema_iff {error : ServiceErrorV0} :
    serviceError (codec.encode error) = true ↔ error.schema = serviceErrorSchemaV0 ∧
      validateCode error.code = .ok () ∧
      1 ≤ error.safeDetail.length ∧ error.safeDetail.length ≤ 2048 := by
  rw [serviceError, encode_eq, closed_object rfl (by decide), serviceErrorSchemaV0]
  simp only [List.forall₂_cons, List.Forall₂.nil, code_str, constString_str, ErrorClass.enum_name,
    RetryAdvice.enum_name, nullOr_identifier, identifier_value, boundedString_str, true_and,
    and_true]

theorem ServiceErrorV0.conforms {error : ServiceErrorV0} (h : error.validate = .ok ()) :
    serviceError (codec.encode error) = true := by
  simp only [validate, unit_bind_eq_ok, check_eq_ok] at h
  exact schema_iff.mpr ⟨h.1, h.2.1, length_of_bounded h.2.2⟩

@[simp] theorem ServiceErrorV0.get_class {error : ServiceErrorV0} :
    (codec.encode error).get? "class" = some (.str error.errorClass.name) := by
  simp [encode_eq]

@[simp] theorem ServiceErrorV0.get_operationId {error : ServiceErrorV0} :
    (codec.encode error).get? "operation_id" =
      some (error.operationId.elim .null fun id => .str id.value) := by
  simp [encode_eq]

theorem ErrorClass.name_ne_cancelled {c : ErrorClass} (h : c ≠ .cancelled) :
    constString "cancelled" (.str c.name) = false := by
  rw [← Bool.not_eq_true, constString_str]
  cases c with
  | cancelled => exact absurd rfl h
  | _ => decide

/-! ## Terminal records -/

@[simp] theorem TerminalClass.enum_name {c : TerminalClass} :
    enumStrings ["completed", "cancelled", "failed"] (.str c.name) = true := by
  cases c <;> decide

theorem TerminalV0.encode_eq {terminal : TerminalV0} :
    codec.encode terminal = .object [("schema", .str terminal.schema),
      ("operation_id", .str terminal.operationId.value),
      ("attempt_id", terminal.attemptId.elim .null fun id => .str id.value),
      ("class", .str terminal.termClass.name),
      ("error", terminal.error.elim .null ServiceErrorV0.codec.encode)] := rfl

theorem TerminalV0.conforms {terminal : TerminalV0} (h : terminal.validate = .ok ()) :
    Schemas.terminal (codec.encode terminal) = true := by
  obtain ⟨hschema, herror⟩ := validate_eq_ok.mp h
  rw [terminalSchemaV0] at hschema
  have hvalid : ∀ error, terminal.error = some error →
      serviceError (ServiceErrorV0.codec.encode error) = true := by
    intro error he
    rw [he] at herror
    exact ServiceErrorV0.conforms herror.2.2.1
  have hrecord : closed [("schema", constString "delysis.operation_terminal.v0"),
      ("operation_id", Schemas.identifier), ("attempt_id", nullOr Schemas.identifier),
      ("class", enumStrings ["completed", "cancelled", "failed"]),
      ("error", nullOr serviceError)] (codec.encode terminal) = true := by
    rw [encode_eq, closed_object rfl (by decide)]
    simpa [hschema, nullOr_elim (a := serviceError) rfl ServiceErrorV0.codec.encode_ne_null]
      using hvalid
  simp only [Schemas.terminal, allOf_cons, allOf_nil, hrecord, Bool.true_and, Bool.and_true,
    Bool.and_eq_true, ifThen_iff, terminalError]
  cases he : terminal.error with
  | none =>
    rw [he] at herror
    simp [encode_eq, he, herror, TerminalClass.name]
  | some error =>
    rw [he] at herror
    obtain ⟨hclass, hcancel, -, hid⟩ := herror
    cases hc : terminal.termClass with
    | completed => exact absurd hc hclass
    | cancelled =>
      have := hcancel.mp hc
      simp [encode_eq, he, hc, TerminalClass.name, hvalid error he, this, ErrorClass.name, hid]
    | failed =>
      have : error.errorClass ≠ .cancelled := fun e => by simpa [hc] using hcancel.mpr e
      simp [encode_eq, he, hc, TerminalClass.name, hvalid error he, Schema.not,
        ErrorClass.name_ne_cancelled this, hid]

/-! ## Publication outcomes -/

theorem ArtifactIdentityV0.encode_eq {artifact : ArtifactIdentityV0} :
    codec.encode artifact = .object [("id", .str artifact.id),
      ("digest", ContentDigest.codec.encode artifact.digest),
      ("length", .num (.int artifact.length.toNat))] := rfl

theorem ArtifactIdentityV0.conforms {artifact : ArtifactIdentityV0}
    (h : artifact.validate = .ok ()) : Publication.artifact (codec.encode artifact) = true := by
  rw [validate, unit_bind_eq_ok, mapErr_eq_ok] at h
  rw [Publication.artifact, encode_eq, closed_object rfl (by decide)]
  simpa [digest_encode, h.2] using length_of_bounded h.1

theorem DestinationIdentityV0.conforms {destination : DestinationIdentityV0}
    (h : destination.validate = .ok ()) :
    Publication.destination (codec.encode destination) = true := by
  rw [validate, unit_bind_eq_ok] at h
  show Publication.destination (.object [("filesystem_id", .str destination.filesystemId),
    ("path_id", .str destination.pathId)]) = true
  rw [Publication.destination, closed_object rfl (by decide)]
  simpa using ⟨length_of_bounded h.1, length_of_bounded h.2⟩

theorem PublicationReceiptV0.encode_eq {receipt : PublicationReceiptV0} :
    codec.encode receipt = .object [("schema", .str receipt.schema),
      ("artifact", ArtifactIdentityV0.codec.encode receipt.artifact),
      ("destination", DestinationIdentityV0.codec.encode receipt.destination),
      ("visible", .bool receipt.visible), ("file_synced", .bool receipt.fileSynced),
      ("directory_synced", .bool receipt.directorySynced),
      ("idempotent_recovery", .bool receipt.idempotentRecovery)] := rfl

@[simp] theorem PublicationReceiptV0.get_fileSynced {receipt : PublicationReceiptV0} :
    (codec.encode receipt).get? "file_synced" = some (.bool receipt.fileSynced) := by
  simp [encode_eq]

@[simp] theorem PublicationReceiptV0.get_directorySynced {receipt : PublicationReceiptV0} :
    (codec.encode receipt).get? "directory_synced" = some (.bool receipt.directorySynced) := by
  simp [encode_eq]

theorem PublicationReceiptV0.conforms {receipt : PublicationReceiptV0}
    (h : receipt.validate = .ok ()) : Publication.receipt (codec.encode receipt) = true := by
  obtain ⟨hschema, hartifact, hdestination, hvisible, hsynced⟩ := validate_eq_ok.mp h
  rw [publicationReceiptSchemaV0] at hschema
  have hrecord := ArtifactIdentityV0.conforms hartifact
  have hplace := DestinationIdentityV0.conforms hdestination
  simp only [Publication.receipt, allOf_cons, allOf_nil, Bool.and_true, Bool.and_eq_true]
  constructor
  · rw [encode_eq, closed_object rfl (by decide)]
    simp [hschema, hrecord, hplace, hvisible, const]
  · rw [ifThen_iff]
    simpa [const] using hsynced

theorem PublicationOutcomeV0.conforms {outcome : PublicationOutcomeV0}
    (h : outcome.validate = .ok ()) : publication (codec.encode outcome) = true := by
  cases outcome with
  | notPublished error =>
    show publication (.object [("kind", .str "not_published"),
      ("error", ServiceErrorV0.codec.encode error)]) = true
    refine oneOf_triple (.inl ⟨?_, rejects_other_tag (by decide), rejects_other_tag (by decide)⟩)
    rw [Publication.notPublished, closed_object rfl (by decide)]
    simpa using ServiceErrorV0.conforms h
  | published receipt =>
    obtain ⟨hreceipt, hfile, hdirectory⟩ := validate_published.mp h
    show publication (.object [("kind", .str "published"),
      ("receipt", PublicationReceiptV0.codec.encode receipt)]) = true
    refine oneOf_triple (.inr (.inl ⟨rejects_other_tag (by decide), ?_,
      rejects_other_tag (by decide)⟩))
    rw [Publication.published, closed_object rfl (by decide)]
    simp [PublicationReceiptV0.conforms hreceipt, const, hfile, hdirectory]
  | publishedDurabilityUnknown receipt error =>
    obtain ⟨hreceipt, herror, hdirectory, hclass⟩ := validate_durabilityUnknown.mp h
    show publication (.object [("kind", .str "published_durability_unknown"),
      ("receipt", PublicationReceiptV0.codec.encode receipt),
      ("error", ServiceErrorV0.codec.encode error)]) = true
    refine oneOf_triple (.inr (.inr ⟨rejects_other_tag (by decide), rejects_other_tag (by decide),
      ?_⟩))
    rw [Publication.publishedDurabilityUnknown, closed_object rfl (by decide)]
    simp [PublicationReceiptV0.conforms hreceipt, const, hdirectory,
      ServiceErrorV0.conforms herror, hclass, ErrorClass.name]

/-! ## Closed summaries -/

@[simp] theorem ShutdownResourceKind.enum_name {k : ShutdownResourceKind} :
    enumStrings ["operation_registry", "task_supervisor", "backend", "worker_pool", "runtime"]
      (.str k.name) = true := by
  cases k <;> decide

@[simp] theorem ShutdownResourceState.enum_name {s : ShutdownResourceState} :
    enumStrings ["stopped", "failed"] (.str s.name) = true := by
  cases s <;> decide

theorem ShutdownResourceV0.conforms {resource : ShutdownResourceV0}
    (h : resource.validate = .ok ()) : Shutdown.resource (codec.encode resource) = true := by
  obtain ⟨hid, -⟩ := validate_eq_ok.mp h
  show Shutdown.resource (.object [("resource_id", .str resource.resourceId),
    ("service", .str resource.service.value), ("kind", .str resource.kind.name),
    ("state", .str resource.state.name),
    ("expected_workers", .num (.int resource.expectedWorkers.toNat)),
    ("joined_workers", .num (.int resource.joinedWorkers.toNat))]) = true
  rw [Shutdown.resource, closed_object rfl (by decide)]
  simpa using opaqueId_str.mpr hid

theorem ShutdownFailureV0.conforms {failure : ShutdownFailureV0}
    (h : failure.validate = .ok ()) : Shutdown.failure (codec.encode failure) = true := by
  obtain ⟨hid, hresource, herror, -⟩ := validate_eq_ok.mp h
  show Shutdown.failure (.object [("failure_id", .str failure.failureId),
    ("resource_id", .str failure.resourceId), ("service", .str failure.service.value),
    ("error", ServiceErrorV0.codec.encode failure.error)]) = true
  rw [Shutdown.failure, closed_object rfl (by decide)]
  simpa using ⟨opaqueId_str.mpr hid, opaqueId_str.mpr hresource, ServiceErrorV0.conforms herror⟩

theorem ClosedSummaryV0.conforms {summary : ClosedSummaryV0} (h : summary.validate = .ok ()) :
    shutdown (codec.encode summary) = true := by
  have hc := validate_eq_ok.mp h
  obtain ⟨hresources, hfailures⟩ := valid_parts h
  have hschema := hc.schema
  rw [closedSummarySchemaV0] at hschema
  have hphase : SupervisorPhase.codec.encode summary.phase = .str "closed" := by
    rw [hc.phase]
    rfl
  have hzero : ∀ n : UInt64, n = 0 → const (.num (.int 0)) (.num (.int n.toNat)) = true := by
    rintro _ rfl
    rfl
  have hne : 1 ≤ summary.resources.length := List.length_pos_iff.mpr hc.nonempty
  show shutdown (.object [("schema", .str summary.schema),
    ("phase", SupervisorPhase.codec.encode summary.phase),
    ("active_operations", .num (.int summary.activeOperations.toNat)),
    ("retained_tasks", .num (.int summary.retainedTasks.toNat)),
    ("expected_workers", .num (.int summary.expectedWorkers.toNat)),
    ("joined_workers", .num (.int summary.joinedWorkers.toNat)),
    ("resources", .arr (summary.resources.map ShutdownResourceV0.codec.encode)),
    ("failures", .arr (summary.failures.map ShutdownFailureV0.codec.encode))]) = true
  rw [shutdown, closed_object rfl (by decide)]
  simpa [hschema, hphase, hzero _ hc.activeOperations, hzero _ hc.retainedTasks, arrayOf_map,
    array_map, hne] using ⟨fun r hr => ShutdownResourceV0.conforms (hresources r hr),
      fun f hf => ShutdownFailureV0.conforms (hfailures f hf)⟩

/-! ## Capability snapshots -/

section Map

variable {κ α : Type} {cmp : κ → κ → Ordering} [TransCmp cmp] [LawfulEqCmp cmp]
  {print : κ → String} {f : α → Json} {m : ExtTreeMap κ α cmp}

theorem propertyNames_ofMap {a : Schema} (hprint : Function.Injective print)
    (h : ∀ (k : κ) (x : α), m[k]? = some x → a (.str (print k)) = true) :
    propertyNames a (Codec.ofMap print f m) = true := by
  simp only [propertyNames, decide_eq_true_eq, mem_keys_iff]
  rintro s ⟨v, hv⟩
  obtain ⟨k, x, rfl, hx, -⟩ := (Codec.get?_ofMap hprint).mp hv
  exact h k x hx

theorem additionalProperties_ofMap {a : Schema} (hprint : Function.Injective print)
    (h : ∀ (k : κ) (x : α), m[k]? = some x → a (f x) = true) :
    additionalProperties [] a (Codec.ofMap print f m) = true := by
  simp only [additionalProperties, decide_eq_true_eq, mem_keys_iff]
  rintro s ⟨v, hv⟩
  obtain ⟨k, x, rfl, hx, rfl⟩ := (Codec.get?_ofMap hprint).mp hv
  exact .inr (by simpa [hv] using h k x hx)

theorem minProperties_ofMap (hprint : Function.Injective print) (h : m.isEmpty = false) :
    minProperties 1 (Codec.ofMap print f m) = true := by
  have hsome : ∃ (k : κ) (x : α), m[k]? = some x := by
    by_contra hnone
    have hsize : m.size = 0 := size_eq_zero_iff.mpr fun k =>
      Option.eq_none_iff_forall_ne_some.mpr fun x hx => hnone ⟨k, x, hx⟩
    rw [isEmpty_iff_size.mpr hsize] at h
    cases h
  obtain ⟨k, x, hx⟩ := hsome
  have hmem : print k ∈ (Codec.ofMap print f m).keys :=
    mem_keys_iff.mpr ⟨_, (Codec.get?_ofMap hprint).mpr ⟨k, x, rfl, hx, rfl⟩⟩
  simp only [minProperties, Bool.or_eq_true, decide_eq_true_eq]
  exact .inr (Finset.card_pos.mpr ⟨_, hmem⟩)

omit [LawfulEqCmp cmp] in
@[simp] theorem type_object_ofMap : type .object (Codec.ofMap print f m) = true := rfl

end Map

theorem validateOptional_eq_ok {field : String} {max : Nat} {o : Option String} :
    validateOptional field max o = .ok () ↔
      ∀ value, o = some value → validateNonemptyBounded field value max = .ok () := by
  cases o <;> simp [validateOptional, pure, Except.pure]

/-- An optional string is null or in its bounds. -/
theorem nullOr_boundedString {field : String} {max : Nat} {o : Option String}
    (h : validateOptional field max o = .ok ()) :
    nullOr (boundedString 1 max) (o.elim .null .str) = true := by
  rw [nullOr_elim rfl (by simp)]
  exact fun value hv => boundedString_of_validate (validateOptional_eq_ok.mp h value hv)

@[simp] theorem Readiness.enum_name {r : Readiness} :
    enumStrings ["ready", "unavailable", "unknown"] (.str r.name) = true := by
  cases r <;> decide

@[simp] theorem TriState.enum_name {s : TriState} :
    enumStrings ["yes", "no", "unknown"] (.str s.name) = true := by
  cases s <;> decide

@[simp] theorem nullOr_natural {o : Option UInt64} :
    nullOr natural (o.elim .null fun n => .num (.int n.toNat)) = true := by
  rw [nullOr_elim rfl (by simp)]
  simp

theorem CapabilityEntryV0.encode_eq {entry : CapabilityEntryV0} :
    codec.encode entry = .object [("operation", .str entry.operation),
      ("backend_or_resource_id", .str entry.backendOrResourceId),
      ("readiness", .str entry.readiness.name),
      ("limits", Codec.ofMap Text.string.print Codec.unsigned.encode entry.limits),
      ("network", .str entry.network.name), ("privacy_eligible", .str entry.privacyEligible.name),
      ("evidence_source", .str entry.evidenceSource),
      ("evidence_outcome", .str entry.evidenceOutcome),
      ("observed_at_unix_ms", entry.observedAtUnixMs.elim .null fun n => .num (.int n.toNat)),
      ("remediation", entry.remediation.elim .null .str)] := rfl

theorem CapabilityEntryV0.conforms {entry : CapabilityEntryV0} (h : entry.validate = .ok ()) :
    Capability.entry (codec.encode entry) = true := by
  obtain ⟨hop, hbackend, hsource, houtcome, hlimits, hremediation, hbounded⟩ := validate_eq_ok.mp h
  have hnames : propertyNames Capability.limitKey
      (Codec.ofMap Text.string.print Codec.unsigned.encode entry.limits) = true := by
    refine propertyNames_ofMap Text.string.print_injective fun k n hk =>
      limitKey_str.mpr (hlimits k ?_)
    exact ExtTreeMap.mem_keys.mpr (ExtTreeMap.mem_iff_isSome_getElem?.mpr (by simp [hk]))
  have hvalues : additionalProperties [] natural
      (Codec.ofMap Text.string.print Codec.unsigned.encode entry.limits) = true :=
    additionalProperties_ofMap Text.string.print_injective fun _ _ _ => natural_nat
  simp only [Capability.entry, allOf_cons, allOf_nil, Bool.and_true, Bool.and_eq_true]
  constructor
  · rw [encode_eq, closed_object rfl (by decide)]
    simpa [hnames, hvalues, nullOr_boundedString hbounded] using
      ⟨length_of_bounded hop, length_of_bounded hbackend, length_of_bounded hsource,
        length_of_bounded houtcome⟩
  · rw [ifThen_iff]
    cases hr : entry.readiness with
    | ready => simp [encode_eq, hr, Readiness.name, enumStrings_str]
    | unavailable | unknown =>
      obtain ⟨value, hv⟩ := Option.ne_none_iff_exists'.mp (hremediation (by simp [hr]))
      have := length_of_bounded (validateOptional_eq_ok.mp hbounded value hv)
      simp [encode_eq, hv, this.1]

theorem CapabilitySourceReportV0.conforms {report : CapabilitySourceReportV0}
    (h : report.validate = .ok ()) : Capability.report (codec.encode report) = true := by
  obtain ⟨hid, houtcome, hdetail⟩ := validate_eq_ok.mp h
  show Capability.report (.object [("source_id", .str report.sourceId),
    ("outcome", .str report.outcome), ("safe_detail", report.safeDetail.elim .null .str)]) = true
  rw [Capability.report, closed_object rfl (by decide)]
  simpa [nullOr_boundedString hdetail] using ⟨length_of_bounded hid, length_of_bounded houtcome⟩

theorem CapabilitySnapshotV0.conforms {snapshot : CapabilitySnapshotV0}
    (h : snapshot.validate = .ok ()) : capability (codec.encode snapshot) = true := by
  obtain ⟨hschema, hid, htarget, hempty, hservices, hreports, -⟩ := validate_eq_ok.mp h
  rw [capabilitySchemaV0] at hschema
  have hnames : propertyNames Schemas.identifier (Codec.ofMap Identifier.text.print
      (Codec.list CapabilityEntryV0.codec).encode snapshot.services) = true :=
    propertyNames_ofMap Identifier.text.print_injective fun _ _ _ => identifier_value
  have hvalues : additionalProperties [] (arrayOf 1 Capability.entry) (Codec.ofMap
      Identifier.text.print (Codec.list CapabilityEntryV0.codec).encode snapshot.services) =
        true := by
    refine additionalProperties_ofMap Identifier.text.print_injective fun service entries he =>
      arrayOf_map.mpr ?_
    obtain ⟨hne, hentries⟩ := hservices service entries he
    exact ⟨List.length_pos_iff.mpr hne, fun e hmem => CapabilityEntryV0.conforms (hentries e hmem)⟩
  show capability (.object [("schema", .str snapshot.schema),
    ("snapshot_id", ContentDigest.codec.encode snapshot.snapshotId),
    ("target", .str snapshot.target),
    ("services", Codec.ofMap Identifier.text.print (Codec.list CapabilityEntryV0.codec).encode
      snapshot.services),
    ("reports", .arr (snapshot.reports.map CapabilitySourceReportV0.codec.encode))]) = true
  rw [capability, closed_object rfl (by decide)]
  simpa [hschema, digest_encode, hid, hnames, hvalues,
    minProperties_ofMap Identifier.text.print_injective hempty, array_map] using
    ⟨length_of_bounded htarget,
      fun r hr => CapabilitySourceReportV0.conforms (hreports r hr)⟩

/-! ## Evidence claims -/

@[simp] theorem ExecutionKind.enum_name {k : ExecutionKind} :
    enumStrings ["fixture", "local_runtime", "hosted_network"] (.str k.name) = true := by
  cases k <;> decide

theorem EvidenceTier.enum_name {tier : EvidenceTier} :
    enumStrings ["operational", "reproducible"] (.str tier.name) = true ↔
      tier = .operational ∨ tier = .reproducible := by
  cases tier <;> decide

theorem uniqueStrings_map {a : Schema} {values : List String} :
    uniqueArray a (.arr (values.map .str)) = true ↔
      values.Nodup ∧ ∀ value ∈ values, a (.str value) = true :=
  uniqueArray_map fun x y => by rw [Json.same_str, Json.str.injEq, eq_comm]

theorem EvidenceClaimV0.encode_eq {claim : EvidenceClaimV0} :
    codec.encode claim = .object [("schema", .str claim.schema), ("tier", .str claim.tier.name),
      ("threat_model", .str claim.threatModel),
      ("exact_source", ContentDigest.codec.encode claim.exactSource),
      ("exact_runtime_or_artifact", ContentDigest.codec.encode claim.exactRuntimeOrArtifact),
      ("execution_kind", .str claim.executionKind.name),
      ("omitted_claims", .arr (claim.omittedClaims.map .str)),
      ("negative_evidence", .arr (claim.negativeEvidence.map .str))] := rfl

/-- Not empty and of at most so many code points. -/
def InCodePoints (max : Nat) (value : String) : Prop := 1 ≤ value.length ∧ value.length ≤ max

theorem EvidenceClaimV0.schema_iff {claim : EvidenceClaimV0} :
    evidence (codec.encode claim) = true ↔ claim.schema = evidenceSchemaV0 ∧
      (claim.tier = .operational ∨ claim.tier = .reproducible) ∧
      InCodePoints 4096 claim.threatModel ∧
      claim.exactSource.validate = .ok () ∧ claim.exactRuntimeOrArtifact.validate = .ok () ∧
      (claim.omittedClaims.Nodup ∧ ∀ value ∈ claim.omittedClaims, InCodePoints 2048 value) ∧
      claim.negativeEvidence.Nodup ∧
        ∀ value ∈ claim.negativeEvidence, InCodePoints 2048 value := by
  rw [evidence, encode_eq, closed_object rfl (by decide), evidenceSchemaV0]
  simp only [List.forall₂_cons, List.Forall₂.nil, constString_str, EvidenceTier.enum_name,
    ExecutionKind.enum_name, boundedString_str, digest_encode, Evidence.claims, uniqueStrings_map,
    InCodePoints, true_and, and_true]

theorem EvidenceClaimV0.conforms {claim : EvidenceClaimV0} (h : claim.validate = .ok ()) :
    evidence (codec.encode claim) = true := by
  obtain ⟨hschema, hmodel, hsource, hruntime, homitted, hnegative, htier⟩ := validate_eq_ok.mp h
  rw [validateUniqueNonempty_eq_ok] at homitted hnegative
  exact schema_iff.mpr ⟨hschema, htier, length_of_bounded hmodel, hsource, hruntime,
    ⟨homitted.2, fun v hv => length_of_bounded (homitted.1 v hv)⟩, hnegative.2,
    fun v hv => length_of_bounded (hnegative.1 v hv)⟩

/-! ## Privacy policies -/

@[simp] theorem NetworkPolicyV0.enum_name {n : NetworkPolicyV0} :
    enumStrings ["deny", "allow_listed", "allow_hosted"] (.str n.name) = true := by
  cases n <;> decide

@[simp] theorem DataHandlingV0.enum_name {d : DataHandlingV0} :
    enumStrings ["local_only", "hosted_allowed"] (.str d.name) = true := by
  cases d <;> decide

@[simp] theorem PayloadRedactionV0.enum_name {r : PayloadRedactionV0} :
    enumStrings ["local_only", "required_before_egress"] (.str r.name) = true := by
  cases r <;> decide

@[simp] theorem LoggingPolicyV0.enum_name {l : LoggingPolicyV0} :
    enumStrings ["disabled", "redacted_metadata_only"] (.str l.name) = true := by
  cases l <;> decide

theorem DataTierV0.enum_name {tier : DataTierV0} :
    enumStrings ["public", "private", "restricted"] (.str tier.name) = true ↔
      tier ≠ .unknown := by
  cases tier <;> decide

theorem DataTierV0.name_inj {a b : DataTierV0} : a.name = b.name ↔ a = b := by
  cases a <;> cases b <;> decide

theorem PrivacyPolicyV0.encode_eq {policy : PrivacyPolicyV0} :
    codec.encode policy = .object [("schema", .str policy.schema),
      ("network", .str policy.network.name), ("data_handling", .str policy.dataHandling.name),
      ("allowed_provider_ids", .arr (policy.allowedProviderIds.map fun id => .str id.value)),
      ("allowed_hosted_data_tiers",
        .arr (policy.allowedHostedDataTiers.map fun tier => .str tier.name)),
      ("payload_redaction", .str policy.payloadRedaction.name),
      ("logging", .str policy.logging.name)] := rfl

theorem minItems_map {α : Type} {f : α → Json} {l : List α} :
    minItems 1 (.arr (l.map f)) = true ↔ l ≠ [] := by
  simp [minItems, Nat.one_le_iff_ne_zero]

theorem maxItems_map {α : Type} {f : α → Json} {l : List α} :
    maxItems 0 (.arr (l.map f)) = true ↔ l = [] := by
  simp [maxItems]

/-- `Bounded` in the words of the conditionals of the schema. -/
theorem PrivacyPolicyV0.bounded_iff {policy : PrivacyPolicyV0} :
    policy.Bounded ↔
      (policy.dataHandling.name = "local_only" → policy.network.name = "deny" ∧
        policy.allowedProviderIds = [] ∧ policy.allowedHostedDataTiers = [] ∧
        policy.payloadRedaction.name = "local_only") ∧
      (policy.dataHandling.name = "hosted_allowed" →
        policy.network.name ∈ ["allow_listed", "allow_hosted"] ∧
        policy.allowedHostedDataTiers ≠ [] ∧
        policy.payloadRedaction.name = "required_before_egress") ∧
      (policy.network.name = "allow_listed" → policy.allowedProviderIds ≠ []) ∧
      (policy.network.name = "allow_hosted" → policy.allowedProviderIds = []) := by
  rcases policy with ⟨schema, network, dataHandling, providers, tiers, redaction, logging⟩
  cases dataHandling <;> cases network <;> cases redaction <;>
    simp [Bounded, DataHandlingV0.name, NetworkPolicyV0.name, PayloadRedactionV0.name]

/-- The schema accepts the JSON of a policy exactly when the policy is valid. -/
theorem PrivacyPolicyV0.schema_iff {policy : PrivacyPolicyV0} :
    privacyPolicy (codec.encode policy) = true ↔ policy.validate = .ok () := by
  rw [validate_eq_ok, privacyPolicySchemaV0]
  have hproviders : uniqueArray Schemas.identifier
      (.arr (policy.allowedProviderIds.map fun id => .str id.value)) = true ↔
        policy.allowedProviderIds.Nodup := by
    rw [uniqueArray_map fun x y => by
      rw [Json.same_str, Json.str.injEq, eq_comm]
      exact ⟨Identifier.ext_value, fun h => h ▸ rfl⟩]
    simp
  have htiers : uniqueArray (enumStrings ["public", "private", "restricted"])
      (.arr (policy.allowedHostedDataTiers.map fun tier => .str tier.name)) = true ↔
        policy.allowedHostedDataTiers.Nodup ∧ .unknown ∉ policy.allowedHostedDataTiers := by
    rw [uniqueArray_map fun x y => by
      rw [Json.same_str, Json.str.injEq, eq_comm, DataTierV0.name_inj]]
    simp only [DataTierV0.enum_name]
    exact and_congr_right fun _ => ⟨fun h hmem => h _ hmem rfl, fun h x hx e => h (e ▸ hx)⟩
  simp only [privacyPolicy, allOf_cons, allOf_nil, Bool.and_true, Bool.and_eq_true, ifThen_iff]
  rw [encode_eq, closed_object rfl (by decide)]
  rw [bounded_iff]
  simp [hproviders, htiers, minItems_map, maxItems_map, enumStrings_str, and_assoc]

/-! ## All of them -/

theorem schemas_accept :
    (∀ error : ServiceErrorV0, error.validate = .ok () →
      serviceError (ServiceErrorV0.codec.encode error) = true) ∧
    (∀ record : TerminalV0, record.validate = .ok () →
      Schemas.terminal (TerminalV0.codec.encode record) = true) ∧
    (∀ outcome : PublicationOutcomeV0, outcome.validate = .ok () →
      publication (PublicationOutcomeV0.codec.encode outcome) = true) ∧
    (∀ summary : ClosedSummaryV0, summary.validate = .ok () →
      shutdown (ClosedSummaryV0.codec.encode summary) = true) ∧
    (∀ snapshot : CapabilitySnapshotV0, snapshot.validate = .ok () →
      capability (CapabilitySnapshotV0.codec.encode snapshot) = true) ∧
    (∀ claim : EvidenceClaimV0, claim.validate = .ok () →
      evidence (EvidenceClaimV0.codec.encode claim) = true) ∧
    ∀ policy : PrivacyPolicyV0,
      privacyPolicy (PrivacyPolicyV0.codec.encode policy) = true ↔ policy.validate = .ok () :=
  ⟨fun _ => ServiceErrorV0.conforms, fun _ => TerminalV0.conforms,
    fun _ => PublicationOutcomeV0.conforms, fun _ => ClosedSummaryV0.conforms,
    fun _ => CapabilitySnapshotV0.conforms, fun _ => EvidenceClaimV0.conforms,
    fun _ => PrivacyPolicyV0.schema_iff⟩

end Contracts
end Platform
