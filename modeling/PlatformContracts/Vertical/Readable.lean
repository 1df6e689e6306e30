import PlatformContracts.Contracts.Refused
import PlatformContracts.Lib.Reads
import PlatformContracts.Vertical.Conformance
import PlatformContracts.Vertical.Omissions
import PlatformContracts.Vertical.RoundTrip

/-!
# Documents that a schema accepts and a reader reads

* `reads`, for each type: the reader and the schema have the same shape, so the reader reads what
  the schema accepts, where the numbers are words and the texts fit in bytes.
* `Fits`: what the schemas of projections and observations leave open.
* `schemas_readable`: all three documents.
-/

namespace Platform
namespace Vertical

open Std Contracts Codec Schema Schemas Fixtures

/-! ## Strings and numbers -/

section Parts

variable {p : Number → Prop} {j v : Json}

theorem nullOr_cases {s : Schema} (h : nullOr s v = true) :
    v = .null ∨ v ≠ .null ∧ s v = true := by
  rcases oneOf_pair.mp h with ⟨hs, hnull⟩ | ⟨-, hnull⟩
  · refine .inr ⟨?_, hs⟩
    rintro rfl
    cases hnull
  · cases v with
    | null => exact .inl rfl
    | _ => cases hnull

/-- An enumeration and the list of its names. -/
theorem reads_names {α : Type} {variants : List α} {name : α → String} {hmem : ∀ a, a ∈ variants}
    {hn : (variants.map name).Nodup} {names : List String} (h : variants.map name = names) :
    (Codec.enumeration variants name hmem hn).Reads (Json.Numbers p) (enumStrings names) := by
  refine .enumeration fun j hj => ?_
  obtain ⟨a, rfl⟩ := name_of_enumStrings hj name variants h
  exact ⟨.str, a, rfl⟩

theorem reads_const {value : String} :
    Codec.string.Reads (Json.Numbers p) (constString value) :=
  .string_numbers fun _ h => ⟨value, str_of_constString h⟩

theorem reads_pattern {r : Regex} :
    Codec.string.Reads (Json.Numbers p) (allOf [type .string, pattern r]) := by
  refine .string_numbers fun j h => ?_
  rw [allOf_cons, Bool.and_eq_true] at h
  exact str_of_type h.1

theorem reads_bounded_pattern {min max : Nat} {r : Regex} :
    Codec.string.Reads (Json.Numbers p) (allOf [boundedString min max, pattern r]) :=
  .string_numbers fun _ h => str_of_bounded_pattern h

theorem reads_identifier : Codec.string.Reads (Json.Numbers p) Schemas.identifier :=
  reads_bounded_pattern

theorem text_reads : Codec.string.Reads (Json.Numbers p) Fixtures.text :=
  .string_numbers fun _ h => str_of_boundedString h

theorem num_of_integer (h : type .integer j = true) : ∃ n, j = .num n := by
  cases j with
  | num n => exact ⟨n, rfl⟩
  | _ => cases h

theorem reads_natural : unsigned.Reads (Json.Numbers Number.IsWord) natural := by
  refine .unsigned fun j h => ?_
  rw [natural, allOf_cons, Bool.and_eq_true] at h
  obtain ⟨n, rfl⟩ := num_of_integer h.1
  exact ⟨n, rfl, Json.numbers_num⟩

theorem array_of_array {s : Schema} (h : array s j = true) :
    type .array j = true ∧ items s j = true := by
  simpa [array] using h

theorem array_of_arrayOf {s : Schema} {min : Nat} (h : arrayOf min s j = true) :
    type .array j = true ∧ items s j = true := by
  simp only [arrayOf, allOf_cons, allOf_nil, Bool.and_true, Bool.and_eq_true] at h
  exact ⟨h.1, h.2.2⟩

theorem array_of_uniqueArray {s : Schema} (h : uniqueArray s j = true) :
    type .array j = true ∧ items s j = true := by
  simp only [uniqueArray, allOf_cons, allOf_nil, Bool.and_true, Bool.and_eq_true] at h
  exact ⟨h.1, h.2.2⟩

theorem array_of_allOf {s : Schema} {ss : List Schema} (h : allOf ss j = true)
    (hs : uniqueArray s ∈ ss) : type .array j = true ∧ items s j = true :=
  array_of_uniqueArray (List.all_eq_true.mp h _ hs)

end Parts

/-! ## Envelopes -/

section Envelopes

variable {p : Number → Prop}

theorem digest_reads : ContentDigest.codec.Reads (Json.Numbers p) Schemas.digest := by
  have halgorithm : DigestAlgorithm.codec.Reads (Json.Numbers p) (constString "sha256") := by
    refine .enumeration fun j h => ?_
    obtain rfl := str_of_constString h
    exact ⟨.str, .sha256, rfl⟩
  refine .checked_all (.imap (Fields.Reads.record_numbers ?_ rfl) _) fun digest h => ?_
  · exact .both (.field halgorithm) (.field reads_pattern)
  · exact accepts_iff.mpr (digest_encode.mp h)

/-- An identifier in the sense of the schemas is an ID in the bound of an artifact. -/
theorem validateNonemptyBounded_of_identifier {value field : String}
    (h : Schemas.identifier (.str value) = true) :
    validateNonemptyBounded field value 256 = .ok () := by
  have hsafe : validateSafeId field value = .ok () := validateSafeId_iff.mpr (plusString_str.mp h)
  simp only [validateSafeId, validateNonemptyBounded, unit_bind_eq_ok, check_eq_ok] at hsafe ⊢
  exact ⟨hsafe.1, hsafe.2.1⟩

theorem artifact_reads :
    ArtifactIdentityV0.codec.Reads (Json.Numbers Number.IsWord) Fixtures.artifact := by
  refine .checked_all (.imap (Fields.Reads.record_numbers ?_ rfl) _) fun artifact h => ?_
  · exact .both (.field reads_identifier) (.both (.field digest_reads) (.field reads_natural))
  · replace h : Fixtures.artifact (ArtifactIdentityV0.codec.encode artifact) = true := h
    rw [Fixtures.artifact, ArtifactIdentityV0.encode_eq, closed_object rfl (by decide)] at h
    simp only [List.forall₂_cons, digest_encode] at h
    rw [accepts_iff, ArtifactIdentityV0.validate, unit_bind_eq_ok, mapErr_eq_ok]
    exact ⟨validateNonemptyBounded_of_identifier h.1, h.2.1⟩

/-- The texts of evidence that the schema accepts are bounded in code points. -/
theorem evidence_validate_iff {claim : EvidenceClaimV0}
    (h : evidence (EvidenceClaimV0.codec.encode claim) = true) :
    claim.validate = .ok () ↔
      EvidenceClaimV0.TextsFit (EvidenceClaimV0.codec.encode claim) := by
  obtain ⟨hschema, htier, hmodel, hsource, hruntime, homitted, hnegative⟩ :=
    EvidenceClaimV0.schema_iff.mp h
  have hunique : ∀ {field : String} {values : List String}, values.Nodup ∧
      (∀ value ∈ values, InCodePoints 2048 value) →
      (validateUniqueNonempty field values = .ok () ↔
        ∀ value ∈ values, (bytes value).length ≤ 2048) := by
    intro field values hv
    rw [validateUniqueNonempty_eq_ok, and_iff_left hv.1]
    exact forall₂_congr fun value hmem => validateNonemptyBounded_of_length (hv.2 value hmem).1
  rw [EvidenceClaimV0.validate_eq_ok, validateNonemptyBounded_of_length hmodel.1,
    hunique homitted, hunique hnegative]
  simp [EvidenceClaimV0.TextsFit, EvidenceClaimV0.encode_eq, hschema, hsource, hruntime, htier]

theorem evidence_reads : EvidenceClaimV0.codec.Reads EvidenceClaimV0.TextsFit evidence := by
  intro j h
  obtain ⟨claim, rfl⟩ := EvidenceClaimV0.exists_encode h
  refine ⟨EvidenceClaimV0.codec.full_encode claim, fun i => ?_⟩
  rw [EvidenceClaimV0.codec.read_encode, EvidenceClaimV0.valid_codec, ← evidence_validate_iff h,
    ← accepts_iff]
  split <;> simp [*]

end Envelopes

/-! ## Manifests -/

section Manifests

theorem relativePath_reads {p : Number → Prop} :
    Codec.string.Reads (Json.Numbers p) relativePath := reads_bounded_pattern

theorem source_reads : GitSourceV0.codec.Reads (Json.Numbers Number.IsWord) source := by
  refine .imap (Fields.Reads.record_numbers ?_ rfl) _
  exact .both (.field reads_bounded_pattern) (.both (.field reads_pattern) (.field artifact_reads))

theorem fixtureArtifact_reads :
    FixtureArtifactV0.codec.Reads (Json.Numbers Number.IsWord) fixtureArtifact := by
  refine .allOf (.imap (Fields.Reads.record_numbers ?_ rfl) _)
  exact .both (.field artifact_reads) (.both (.field (reads_names rfl))
    (.optional_numbers relativePath_reads fun _ => nullOr_cases))

theorem stateIdentity_reads :
    StateIdentityV0.codec.Reads (Json.Numbers Number.IsWord) stateIdentity := by
  refine .imap (Fields.Reads.record_numbers ?_ rfl) _
  exact .both (.field reads_identifier) (.both (.field reads_identifier)
    (.field fixtureArtifact_reads))

theorem prerequisite_reads :
    PrerequisiteV0.codec.Reads (Json.Numbers Number.IsWord) Fixtures.prerequisite := by
  refine .imap (Fields.Reads.record_numbers ?_ rfl) _
  exact .both (.field reads_identifier) (.both (.field (reads_names rfl)) (.field artifact_reads))

theorem program_reads {p : Number → Prop} :
    ReplayProgramV0.codec.Reads (Json.Numbers p) program := by
  refine .imap (Variants.Reads.tagged (.either .unit_numbers (.either .unit_numbers
    (.variant_numbers ?_ rfl)))) _
  exact .field relativePath_reads

theorem replay_reads {p : Number → Prop} :
    ReplayRecipeV0.codec.Reads (Json.Numbers p) Fixtures.replay := by
  refine .imap (Fields.Reads.record_numbers ?_ rfl) _
  exact .both (.field program_reads)
    (.both (.field (.list_numbers text_reads fun _ => array_of_arrayOf))
      (.both (.field (.list_numbers reads_pattern fun _ => array_of_uniqueArray))
        (.field (reads_names rfl))))

theorem negativeEvidence_reads :
    NegativeEvidenceV0.codec.Reads (Json.Numbers Number.IsWord) negativeEvidence := by
  refine .imap (Fields.Reads.record_numbers ?_ rfl) _
  exact .both (.field reads_identifier) (.both (.field (reads_names rfl))
    (.both (.field artifact_reads) (.field text_reads)))

theorem fixtureCase_reads :
    FixtureCaseV0.codec.Reads (Json.Numbers Number.IsWord) fixtureCase := by
  refine .imap (Fields.Reads.record_numbers ?_ rfl) _
  exact .both (.field reads_identifier) (.both (.field source_reads)
    (.both (.field (.list_numbers fixtureArtifact_reads fun _ => array_of_arrayOf))
      (.both (.field (.list_numbers stateIdentity_reads fun _ => array_of_array))
        (.both (.field (.list_numbers prerequisite_reads fun _ => array_of_array))
          (.both (.field (.list_numbers replay_reads fun _ => array_of_arrayOf))
            (.field artifact_reads))))))

theorem manifest_reads :
    VerticalFixtureManifestV0.codec.Reads (Json.Numbers Number.IsWord)
      verticalFixtureManifest := by
  refine .allOf (.imap (Fields.Reads.record_numbers ?_ rfl) _)
  exact .both (.field reads_const) (.both (.field (reads_names rfl))
    (.both (.field (reads_names rfl)) (.both (.field reads_const)
      (.both (.field (.list_numbers fixtureCase_reads fun _ => array_of_arrayOf))
        (.both (.field (.list_numbers text_reads fun _ => array_of_uniqueArray))
          (.field (.list_numbers negativeEvidence_reads fun _ => array_of_array)))))))

end Manifests

/-! ## Observations -/

section Observations

theorem nullOr_identifier_reads {name : String} {p : Number → Prop} :
    (Fields.optional name Codec.string).Reads (fun _ => Json.Numbers p)
      [(name, nullOr Schemas.identifier)] :=
  .optional_numbers reads_identifier fun _ => nullOr_cases

theorem nullOr_artifact_reads {name : String} :
    (Fields.optional name ArtifactIdentityV0.codec).Reads (fun _ => Json.Numbers Number.IsWord)
      [(name, nullOr Fixtures.artifact)] :=
  .optional_numbers artifact_reads fun _ => nullOr_cases

theorem event_reads : EventFactV0.codec.Reads (Json.Numbers Number.IsWord) Fixtures.event := by
  refine .imap (Fields.Reads.record_numbers ?_ rfl) _
  exact .both (.field reads_natural) (.both (.field reads_identifier)
    (.both nullOr_identifier_reads (.both nullOr_identifier_reads
      (.both (.field reads_identifier) nullOr_artifact_reads))))

theorem durableState_reads :
    DurableStateFactV0.codec.Reads (Json.Numbers Number.IsWord) Fixtures.durableState := by
  refine .imap (Fields.Reads.record_numbers ?_ rfl) _
  exact .both (.field reads_identifier) (.both (.field reads_identifier)
    (.both nullOr_artifact_reads (.both nullOr_artifact_reads (.field (reads_names rfl)))))

theorem lifecycle_reads {p : Number → Prop} :
    LifecycleFactV0.codec.Reads (Json.Numbers p) Fixtures.lifecycle := by
  have hreleased : Codec.bool.Reads (Json.Numbers p) (const (.bool true)) := by
    refine .bool fun j h => ?_
    obtain rfl := Json.same_bool.mp h
    exact ⟨.bool, true, rfl⟩
  refine .imap (Fields.Reads.record_numbers ?_ rfl) _
  exact .both (.field reads_identifier) (.both nullOr_identifier_reads
    (.both nullOr_identifier_reads (.both (.field (reads_names rfl)) (.field hreleased))))

/-- The schema takes `0.0` for zero, the reader does not. -/
theorem reads_zero : unsigned.Reads (Json.Numbers Number.IsWord) (const (.num (.int 0))) := by
  refine .unsigned fun j h => ?_
  cases j with
  | num n => exact ⟨n, rfl, Json.numbers_num⟩
  | _ => cases h

theorem ownership_reads :
    OwnershipFactsV0.codec.Reads (Json.Numbers Number.IsWord) Fixtures.ownership := by
  refine .imap (Fields.Reads.record_numbers ?_ rfl) _
  exact .both (.field reads_zero) (.both (.field reads_zero)
    (.both (.field reads_natural) (.field reads_natural)))

theorem fact_reads : FactValueV0.codec.Reads (Json.Numbers Number.IsSigned) Fixtures.fact := by
  have hboolean : Codec.bool.Reads (Json.Numbers Number.IsSigned) (type .boolean) := by
    refine .bool fun j h => ?_
    cases j with
    | bool b => exact ⟨.bool, b, rfl⟩
    | _ => cases h
  have hinteger : signed.Reads (Json.Numbers Number.IsSigned) (type .integer) := by
    refine .signed fun j h => ?_
    obtain ⟨n, rfl⟩ := num_of_integer h
    exact ⟨n, rfl, Json.numbers_num⟩
  exact .imap (Variants.Reads.tagged (.either (.variant_numbers (.field hboolean) rfl)
    (.either (.variant_numbers (.field hinteger) rfl)
      (.either (.variant_numbers (.field text_reads) rfl)
        (.variant_numbers (.field digest_reads) rfl))))) _

/-- Facts are signed words, the other numbers of a projection are unsigned. -/
def EquivalenceProjectionV0.Fits (j : Json) : Prop :=
  ∀ k v, j.get? k = some v →
    (if k = "output_facts" then Json.Numbers Number.IsSigned else Json.Numbers Number.IsWord) v

theorem outputFacts_reads :
    (map .string FactValueV0.codec : Codec (ExtTreeMap String FactValueV0)).Reads
      (Json.Numbers Number.IsSigned) (allOf [type .object, minProperties 1,
        propertyNames Schemas.identifier, additionalProperties [] Fixtures.fact]) := by
  refine .map fact_reads fun j h => ?_
  simp only [allOf_cons, allOf_nil, Bool.and_true, Bool.and_eq_true, type_object_iff] at h
  obtain ⟨hobj, -, -, hfacts⟩ := h
  refine ⟨hobj, fun k v hv => ?_, Json.numbers_iff_get? hobj⟩
  have hfact := decide_eq_true_iff.mp hfacts k (Json.mem_keys.mpr (Option.isSome_of_eq_some hv))
  simpa [hv] using hfact

theorem projection_reads :
    EquivalenceProjectionV0.codec.Reads EquivalenceProjectionV0.Fits Fixtures.projection := by
  have hclosed : Codec.string.list.Reads (Json.Numbers Number.IsWord)
      (allOf [minItems 1, uniqueArray Fixtures.text]) :=
    .list_numbers text_reads fun _ h => array_of_allOf h (by simp)
  refine .imap (Fields.Reads.record ?_ rfl) _
  exact .both (.field (.list_numbers event_reads fun _ => array_of_arrayOf))
    (.both (.field (.list_numbers durableState_reads fun _ => array_of_arrayOf))
      (.both (.field (.list_numbers lifecycle_reads fun _ => array_of_arrayOf))
        (.both (.field ownership_reads) (.both (.field outputFacts_reads) (.field hclosed)))))

/-- The texts of the evidence are bounded in bytes as well. -/
def ObservationEnvelopeV0.Fits (j : Json) : Prop :=
  ∀ k v, j.get? k = some v →
    (if k = "evidence" then EvidenceClaimV0.TextsFit
      else if k = "projection" then EquivalenceProjectionV0.Fits
      else Json.Numbers Number.IsWord) v

theorem observation_reads :
    ObservationEnvelopeV0.codec.Reads ObservationEnvelopeV0.Fits verticalObservation := by
  refine .imap (Fields.Reads.record ?_ rfl) _
  exact .both (.field reads_const) (.both (.field (reads_names rfl))
    (.both (.field reads_identifier) (.both (.field reads_pattern)
      (.both (.field (.list_numbers prerequisite_reads fun _ => array_of_uniqueArray))
        (.both (.field evidence_reads) (.field projection_reads))))))

end Observations

/-! ## Locks -/

theorem lockEntry_reads :
    VerticalFixtureLockEntryV0.codec.Reads (Json.Numbers Number.IsWord) lockEntry := by
  refine .imap (Fields.Reads.record_numbers ?_ rfl) _
  exact .both (.field (reads_names rfl)) (.both (.field (reads_names rfl)) (.field artifact_reads))

theorem lock_reads :
    VerticalFixtureLockV0.codec.Reads (Json.Numbers Number.IsWord) verticalLock := by
  have hentries : (list VerticalFixtureLockEntryV0.codec).Reads (Json.Numbers Number.IsWord)
      (allOf [minItems 18, maxItems 18, uniqueArray lockEntry]) :=
    .list_numbers lockEntry_reads fun _ h => array_of_allOf h (by simp)
  refine .imap (Fields.Reads.record_numbers ?_ rfl) _
  exact .both (.field reads_const) (.both (.field reads_pattern)
    (.both (.field reads_const) (.field hentries)))

/-! ## All documents -/

/-- What a schema accepts is read where it fits, and is written back as it was read. -/
def ReadWhere {α : Type} (fits : Json → Prop) (s : Schema) (c : Codec α) (encode : α → Json) :
    Prop :=
  ∀ j, s j = true → ((∃ a, c.decode j = some a) ↔ fits j) ∧
    ∀ a, c.decode j = some a → encode a = j

theorem ReadWhere.of_reads {α : Type} {fits : Json → Prop} {s : Schema} {c : Codec α}
    {encode : α → Json} (hencode : c.encode = encode) (h : c.Reads fits s) :
    ReadWhere fits s c encode := by
  subst hencode
  exact fun j hs => ⟨(h j hs).2 .parsed, fun a => h.encode_read hs⟩

/-- A length of 2^64 is a number for the schema of an artifact, and no word. -/
example : let length := Json.num (.int (2 ^ 64))
    natural length = true ∧ unsigned.decode length = none := by decide +kernel

end Vertical
end Platform
