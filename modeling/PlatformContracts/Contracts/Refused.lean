import PlatformContracts.Contracts.Conformance

/-!
# Documents that a schema accepts and a reader refuses

The schemas bound texts in code points, the readers in bytes.

* `exists_encode`, for errors and evidence: a document that the schema accepts is the JSON of a
  value.
* `schema_decodes`: such a document is read exactly when its texts fit in bytes as well.
-/

namespace Platform
namespace Contracts

open Schema Schemas

/-! ## Values of accepted documents -/

section Values

variable {j v : Json}

theorem str_of_type (h : type .string v = true) : ∃ s, v = .str s := by
  cases v <;> simp_all [type]

theorem str_of_boundedString {min max : Nat} (h : boundedString min max v = true) :
    ∃ s, v = .str s := by
  rw [boundedString, allOf_cons, Bool.and_eq_true] at h
  exact str_of_type h.1

theorem str_of_bounded_pattern {min max : Nat} {r : Regex}
    (h : allOf [boundedString min max, pattern r] v = true) : ∃ s, v = .str s := by
  rw [allOf_cons, Bool.and_eq_true] at h
  exact str_of_boundedString h.1

theorem str_of_constString {s : String} (h : constString s v = true) : v = .str s :=
  Json.same_str.mp h

/-- One of the names of an enumeration is the name of a variant. -/
theorem name_of_enumStrings {α : Type} {names : List String} (h : enumStrings names v = true)
    (name : α → String) (variants : List α) (hnames : variants.map name = names) :
    ∃ a, v = .str (name a) := by
  obtain ⟨s, hs, rfl⟩ := enum_strings_iff.mp h
  obtain ⟨a, -, rfl⟩ := List.mem_map.mp (hnames ▸ hs)
  exact ⟨a, rfl⟩

theorem id_of_identifier (h : Schemas.identifier v = true) :
    ∃ id : Identifier, v = .str id.value := by
  obtain ⟨s, rfl⟩ := str_of_bounded_pattern h
  exact ⟨⟨s, identifier_str.mp h⟩, rfl⟩

theorem elim_of_nullOr_identifier (h : nullOr Schemas.identifier v = true) :
    ∃ o : Option Identifier, v = o.elim .null fun id => .str id.value := by
  rcases oneOf_pair.mp h with ⟨hid, -⟩ | ⟨-, hnull⟩
  · obtain ⟨id, rfl⟩ := id_of_identifier hid
    exact ⟨some id, rfl⟩
  · cases v with
    | null => exact ⟨none, rfl⟩
    | _ => cases hnull

/-- A document that a record accepts is the object of its members. -/
theorem object_of_closed {members : List (String × Schema)} {values : List (String × Json)}
    (h : closed members j = true) (hkeys : values.map Prod.fst = members.map Prod.fst)
    (hn : (members.map Prod.fst).Nodup) (hget : ∀ p ∈ values, j.get? p.1 = some p.2) :
    Json.object values = j := by
  obtain ⟨hj, hclosed, -⟩ := closed_iff.mp h
  exact (Json.object_eq_iff (hkeys ▸ hn) hj (hkeys ▸ hclosed)).mpr hget

end Values

theorem ServiceErrorV0.exists_encode {j : Json} (h : serviceError j = true) :
    ∃ error : ServiceErrorV0, codec.encode error = j := by
  have hmembers := (closed_iff.mp h).2.2
  simp only [List.forall_mem_cons, List.not_mem_nil, false_imp_iff, implies_true, and_true]
    at hmembers
  obtain ⟨⟨_, hschema, h1⟩, ⟨_, hcode, h2⟩, ⟨_, hclass, h3⟩, ⟨_, hretry, h4⟩, ⟨_, hop, h5⟩,
    ⟨_, hservice, h6⟩, ⟨_, hdetail, h7⟩⟩ := hmembers
  obtain rfl := str_of_constString h1
  obtain ⟨code, rfl⟩ := str_of_bounded_pattern h2
  obtain ⟨errorClass, rfl⟩ := name_of_enumStrings h3 ErrorClass.name [.invalidRequest,
    .unsupported, .unavailable, .permission, .privacy, .cancelled, .timeout, .resourceExhausted,
    .integrity, .publication, .storage, .worker, .internal] rfl
  obtain ⟨retry, rfl⟩ := name_of_enumStrings h4 RetryAdvice.name [.immediate, .afterUserAction,
    .afterRestart, .differentRoute, .never] rfl
  obtain ⟨operationId, rfl⟩ := elim_of_nullOr_identifier h5
  obtain ⟨service, rfl⟩ := id_of_identifier h6
  obtain ⟨detail, rfl⟩ := str_of_boundedString h7
  refine ⟨⟨serviceErrorSchemaV0, code, errorClass, retry, operationId, service, detail⟩, ?_⟩
  rw [encode_eq]
  refine object_of_closed h rfl (by decide) ?_
  simp [serviceErrorSchemaV0, hschema, hcode, hclass, hretry, hop, hservice, hdetail]

theorem ContentDigest.exists_encode {v : Json} (h : Schemas.digest v = true) :
    ∃ digest : ContentDigest, codec.encode digest = v := by
  have hmembers := (closed_iff.mp h).2.2
  simp only [List.forall_mem_cons, List.not_mem_nil, false_imp_iff, implies_true, and_true]
    at hmembers
  obtain ⟨⟨_, halgorithm, h1⟩, ⟨_, hhex, h2⟩⟩ := hmembers
  obtain rfl := str_of_constString h1
  rw [allOf_cons, Bool.and_eq_true] at h2
  obtain ⟨hex, rfl⟩ := str_of_type h2.1
  refine ⟨⟨.sha256, hex⟩, ?_⟩
  show Json.object [("algorithm", .str "sha256"), ("hex", .str hex)] = v
  refine object_of_closed h rfl (by decide) ?_
  simp [halgorithm, hhex]

theorem strings_of_claims {v : Json} (h : Evidence.claims v = true) :
    ∃ values : List String, v = .arr (values.map .str) := by
  simp only [Evidence.claims, uniqueArray, allOf_cons, allOf_nil, Bool.and_true,
    Bool.and_eq_true] at h
  cases v with
  | arr items =>
    have hitems : ∀ item ∈ items, ∃ s, item = .str s := fun item hi =>
      str_of_boundedString (List.all_eq_true.mp h.2.2 item hi)
    clear h
    induction items with
    | nil => exact ⟨[], rfl⟩
    | cons item items ih =>
      rw [List.forall_mem_cons] at hitems
      obtain ⟨s, rfl⟩ := hitems.1
      obtain ⟨values, hv⟩ := ih hitems.2
      rw [Json.arr.injEq] at hv
      exact ⟨s :: values, by rw [hv, List.map_cons]⟩
  | _ => cases h.1

theorem EvidenceClaimV0.exists_encode {j : Json} (h : evidence j = true) :
    ∃ claim : EvidenceClaimV0, codec.encode claim = j := by
  have hmembers := (closed_iff.mp h).2.2
  simp only [List.forall_mem_cons, List.not_mem_nil, false_imp_iff, implies_true, and_true]
    at hmembers
  obtain ⟨⟨_, hschema, h1⟩, ⟨_, htier, h2⟩, ⟨_, hmodel, h3⟩, ⟨_, hsource, h4⟩, ⟨_, hruntime, h5⟩,
    ⟨_, hkind, h6⟩, ⟨_, homitted, h7⟩, ⟨_, hnegative, h8⟩⟩ := hmembers
  obtain rfl := str_of_constString h1
  obtain ⟨tier, rfl⟩ := name_of_enumStrings h2 EvidenceTier.name [.operational, .reproducible] rfl
  obtain ⟨model, rfl⟩ := str_of_boundedString h3
  obtain ⟨source, rfl⟩ := ContentDigest.exists_encode h4
  obtain ⟨runtime, rfl⟩ := ContentDigest.exists_encode h5
  obtain ⟨kind, rfl⟩ := name_of_enumStrings h6 ExecutionKind.name [.fixture, .localRuntime,
    .hostedNetwork] rfl
  obtain ⟨omitted, rfl⟩ := strings_of_claims h7
  obtain ⟨negative, rfl⟩ := strings_of_claims h8
  refine ⟨⟨evidenceSchemaV0, tier, model, source, runtime, kind, omitted, negative⟩, ?_⟩
  rw [encode_eq]
  refine object_of_closed h rfl (by decide) ?_
  simp [evidenceSchemaV0, hschema, htier, hmodel, hsource, hruntime, hkind, homitted, hnegative]

/-! ## What fits in bytes -/

/-- The text of the document is in the bound of the reader. -/
def ServiceErrorV0.DetailFits (j : Json) : Prop :=
  ∀ detail, j.get? "safe_detail" = some (.str detail) → (bytes detail).length ≤ 2048

def EvidenceClaimV0.TextsFit (j : Json) : Prop :=
  (∀ model, j.get? "threat_model" = some (.str model) → (bytes model).length ≤ 4096) ∧
    ∀ key ∈ ["omitted_claims", "negative_evidence"], ∀ items, j.get? key = some (.arr items) →
      ∀ text, .str text ∈ items → (bytes text).length ≤ 2048

theorem validateNonemptyBounded_of_length {field value : String} {max : Nat}
    (h : 1 ≤ value.length) :
    validateNonemptyBounded field value max = .ok () ↔ (bytes value).length ≤ max := by
  rw [validateNonemptyBounded_eq_ok, Ne, bytes_eq_nil, and_iff_right]
  rintro rfl
  exact absurd h (by decide)

/-- The reader of a value that its schema accepts. -/
theorem isSome_decode_encode {α : Type} {c : Codec α} {validate : α → Except ContractError Unit}
    (hc : DecodesExactly c validate) {v : α} :
    (c.decode (c.encode v)).isSome ↔ validate v = .ok () := by
  rw [hc.decode_encode]
  split <;> simp [*]

/-- A document that the schema accepts is read exactly when its texts fit in bytes. -/
theorem schema_decodes (j : Json) :
    (serviceError j = true →
      ((ServiceErrorV0.codec.decode j).isSome ↔ ServiceErrorV0.DetailFits j)) ∧
    (evidence j = true →
      ((EvidenceClaimV0.codec.decode j).isSome ↔ EvidenceClaimV0.TextsFit j)) := by
  constructor
  · intro h
    obtain ⟨error, rfl⟩ := ServiceErrorV0.exists_encode h
    obtain ⟨hschema, hcode, hmin, -⟩ := ServiceErrorV0.schema_iff.mp h
    rw [isSome_decode_encode (.of_valid ServiceErrorV0.valid_codec)]
    simp only [ServiceErrorV0.validate, unit_bind_eq_ok, check_eq_ok, hschema, hcode, true_and,
      validateNonemptyBounded_of_length hmin]
    simp [ServiceErrorV0.DetailFits, ServiceErrorV0.encode_eq]
  · intro h
    obtain ⟨claim, rfl⟩ := EvidenceClaimV0.exists_encode h
    obtain ⟨hschema, htier, hmodel, hsource, hruntime, homitted, hnegative⟩ :=
      EvidenceClaimV0.schema_iff.mp h
    rw [isSome_decode_encode (.of_valid EvidenceClaimV0.valid_codec),
      EvidenceClaimV0.validate_eq_ok]
    have hunique : ∀ {field : String} {values : List String}, values.Nodup ∧
        (∀ value ∈ values, InCodePoints 2048 value) →
        (validateUniqueNonempty field values = .ok () ↔
          ∀ value ∈ values, (bytes value).length ≤ 2048) := by
      intro field values hv
      rw [validateUniqueNonempty_eq_ok, and_iff_left hv.1]
      exact forall₂_congr fun value hmem => validateNonemptyBounded_of_length (hv.2 value hmem).1
    simp only [hschema, hsource, hruntime, htier, hunique homitted, hunique hnegative, true_and,
      and_true, validateNonemptyBounded_of_length hmodel.1]
    simp [EvidenceClaimV0.TextsFit, EvidenceClaimV0.encode_eq]

/-- An error with a detail of 2000 characters of two bytes. -/
def accentedError : ServiceErrorV0 where
  schema := serviceErrorSchemaV0
  code := "timeout.waiter"
  errorClass := .timeout
  retry := .immediate
  operationId := none
  service := ⟨"gateway", by decide⟩
  safeDetail := String.ofList (List.replicate 2000 'é')

/-- The schema accepts its JSON, and the reader refuses it. -/
theorem accentedError_refused :
    serviceError (ServiceErrorV0.codec.encode accentedError) = true ∧
      ServiceErrorV0.codec.decode (ServiceErrorV0.codec.encode accentedError) = none := by
  have hlength : accentedError.safeDetail.length = 2000 := by
    show (String.ofList (List.replicate 2000 'é')).length = 2000
    rw [String.length_ofList, List.length_replicate]
  have hbytes : (bytes accentedError.safeDetail).length = 4000 := by
    show (bytes (String.ofList (List.replicate 2000 'é'))).length = 4000
    rw [bytes_ofList, List.length_flatMap, List.map_replicate, List.sum_replicate]
    decide
  have hschema : serviceError (ServiceErrorV0.codec.encode accentedError) = true :=
    ServiceErrorV0.schema_iff.mpr ⟨rfl, by decide, by omega, by omega⟩
  refine ⟨hschema, ?_⟩
  rw [← Option.not_isSome_iff_eq_none,
    isSome_decode_encode (.of_valid ServiceErrorV0.valid_codec)]
  intro h
  simp only [ServiceErrorV0.validate, unit_bind_eq_ok, validateNonemptyBounded_eq_ok] at h
  omega

end Contracts
end Platform
