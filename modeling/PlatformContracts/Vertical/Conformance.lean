import PlatformContracts.Contracts.Conformance
import PlatformContracts.Vertical.Lock
import PlatformContracts.Vertical.Schemas
import PlatformContracts.Vertical.Wire

/-!
# Valid fixtures conform to their schemas

For each type, the JSON of a value that its validator accepts is accepted by the schema of the type.

* `requiresPrerequisite_encode`: a prerequisite that the row requires is what the schema's
  `contains` looks for. `mem_modelFreeRows` and its siblings: the lists of the schema's conditionals
  are the classes of `VerticalIdV0::class`.
* `VerticalFixtureManifestV0.conforms`, `ObservationEnvelopeV0.conforms`,
  `VerticalFixtureLockV0.conforms`; `vertical_schemas_accept`: all of them.
-/

namespace Platform
namespace Vertical

open Std Contracts Schema Schemas Fixtures

/-! ## Helpers of the schemas -/

section Helpers

variable {α : Type} {a : Schema} {l : List α} {f : α → Json} {o : Option α} {field : String}

theorem nullOr_encodeOption (hnull : a .null = false) (hf : ∀ x, f x ≠ .null) :
    nullOr a (encodeOption f o) = true ↔ ∀ x, o = some x → a (f x) = true :=
  nullOr_elim hnull hf

/-- Records are different when a key that tells them apart has different strings. -/
theorem uniqueArray_of_ids {id : α → String} {k : String}
    (hget : ∀ x, (f x).get? k = some (.str (id x))) (hn : (l.map id).Nodup)
    (hl : ∀ x ∈ l, a (f x) = true) : uniqueArray a (.arr (l.map f)) = true := by
  have hpair : (l.map f).Pairwise fun x y => x.same y = false := by
    rw [List.pairwise_map]
    exact (List.pairwise_map.mp hn).imp fun hne => Json.not_same_of_str (hget _) (hget _) hne
  simp only [uniqueArray, allOf_cons, allOf_nil, type_array_arr, Bool.true_and, Bool.and_true,
    Bool.and_eq_true, items_map, uniqueItems, decide_eq_true_eq]
  exact ⟨hpair, hl⟩

theorem text_of_validate {value : String} (h : validateText field value = .ok ()) :
    Fixtures.text (.str value) = true :=
  boundedString_str.mpr (validateText_length h)

theorem uniqueTexts {values : List String} (h : validateUniqueText field values = .ok ()) :
    uniqueArray Fixtures.text (encodeStrings values) = true := by
  rw [validateUniqueText, checkUnique_eq_ok, List.map_id] at h
  exact uniqueStrings_map.mpr ⟨h.2, fun value hv => text_of_validate (h.1 value hv)⟩

theorem safeId_of_validate {value : String} (h : validateSafeId field value = .ok ()) :
    Schemas.identifier (.str value) = true :=
  plusString_str.mpr (validateSafeId_iff.mp h)

theorem gitCommit_of_validate {value : String} (h : validateGitCommit field value = .ok ()) :
    gitCommit (.str value) = true := by
  simpa [gitCommit] using validateGitCommit_iff.mp h

theorem relativePath_of_validate {value : String} (h : validateRelativePath value = .ok ()) :
    relativePath (.str value) = true := by
  simpa [relativePath, and_comm] using validateRelativePath_pattern h

@[simp] theorem natural_encodeWord {n : UInt64} : natural (encodeWord n) = true := natural_nat

theorem artifact_of_validate {artifact : ArtifactIdentityV0}
    (h : validateArtifact field artifact = .ok ()) :
    Fixtures.artifact (ArtifactIdentityV0.codec.encode artifact) = true := by
  simp only [validateArtifact, ArtifactIdentityV0.validate, unit_bind_eq_ok, mapErr_eq_ok] at h
  rw [Fixtures.artifact, ArtifactIdentityV0.encode_eq, closed_object rfl (by decide)]
  simp [safeId_of_validate h.1, digest_encode, h.2.2]

theorem nullOr_safeId {o : Option String} (h : validateOptionalId field o = .ok ()) :
    nullOr Schemas.identifier (encodeOption .str o) = true := by
  refine (nullOr_encodeOption rfl (by simp)).mpr ?_
  rintro value rfl
  exact safeId_of_validate h

theorem nullOr_artifact {o : Option ArtifactIdentityV0}
    (h : validateOptionalArtifact field o = .ok ()) :
    nullOr Fixtures.artifact (encodeOption ArtifactIdentityV0.codec.encode o) = true := by
  refine (nullOr_encodeOption rfl ArtifactIdentityV0.codec.encode_ne_null).mpr ?_
  rintro artifact rfl
  exact artifact_of_validate h

end Helpers

/-! ## Enumerations -/

@[simp] theorem VerticalIdV0.enum_name {verticalId : VerticalIdV0} :
    Fixtures.verticalId (.str verticalId.name) = true := by
  cases verticalId <;> decide

@[simp] theorem FixtureClassV0.enum_name {fixtureClass : FixtureClassV0} :
    Fixtures.fixtureClass (.str fixtureClass.name) = true := by
  cases fixtureClass <;> decide

@[simp] theorem ArtifactAvailabilityV0.enum_name {availability : ArtifactAvailabilityV0} :
    enumStrings ["checked_in", "external_exact", "runtime_inventory", "generated_fixture"]
      (.str availability.name) = true := by
  cases availability <;> decide

@[simp] theorem PrerequisiteKindV0.enum_name {kind : PrerequisiteKindV0} :
    enumStrings ["exact_external_artifact", "platform_inventory", "local_runtime"]
      (.str kind.name) = true := by
  cases kind <;> decide

@[simp] theorem NetworkBoundaryV0.enum_name {network : NetworkBoundaryV0} :
    enumStrings ["denied", "loopback_only"] (.str network.name) = true := by
  cases network <;> decide

@[simp] theorem EvidenceDispositionV0.enum_name {disposition : EvidenceDispositionV0} :
    enumStrings ["rejected", "unavailable", "superseded"] (.str disposition.name) = true := by
  cases disposition <;> decide

@[simp] theorem StateDispositionV0.enum_name {disposition : StateDispositionV0} :
    enumStrings ["unchanged", "created", "updated", "removed", "quarantined", "recovered"]
      (.str disposition.name) = true := by
  cases disposition <;> decide

/-! ## Prerequisites -/

theorem PrerequisiteV0.conforms {prerequisite : PrerequisiteV0}
    (h : validatePrerequisite prerequisite = .ok ()) :
    Fixtures.prerequisite prerequisite.encode = true := by
  simp only [validatePrerequisite, unit_bind_eq_ok] at h
  rw [Fixtures.prerequisite, encode, closed_object rfl (by decide)]
  simp [safeId_of_validate h.1, artifact_of_validate h.2.1]

/-! ## Cases -/

theorem GitSourceV0.conforms {source : GitSourceV0} (h : validateSource source = .ok ()) :
    Fixtures.source source.encode = true := by
  simp only [validateSource, unit_bind_eq_ok] at h
  obtain ⟨hrepository, hcommit, htree⟩ := h
  obtain ⟨hpattern, hlen⟩ := validateRepositoryId_iff.mp hrepository
  have hmin : 3 ≤ source.repositoryId.length := by
    obtain ⟨owner, repository, ho, hr, -, hw⟩ := mem_repositoryPattern.mp hpattern
    have := List.length_pos_iff.mpr ho
    have := List.length_pos_iff.mpr hr
    rw [← String.length_toList, hw]
    simp
    omega
  rw [Fixtures.source, encode, closed_object rfl (by decide)]
  simp [hpattern, hlen, hmin, gitCommit_of_validate hcommit, artifact_of_validate htree]

/-- Only an artifact that is checked in has a path. -/
theorem validateFixtureArtifact_path {artifact : FixtureArtifactV0}
    (h : validateFixtureArtifact artifact = .ok ()) :
    artifact.availability = .checkedIn ∧
        (∃ path, artifact.relativePath = some path ∧ validateRelativePath path = .ok ()) ∨
      artifact.availability ≠ .checkedIn ∧ artifact.relativePath = none := by
  simp only [validateFixtureArtifact, unit_bind_eq_ok] at h
  rcases artifact with ⟨identity, availability, path⟩
  cases availability with
  | checkedIn =>
    cases path with
    | none => cases h.2
    | some path => exact .inl ⟨rfl, path, rfl, h.2⟩
  | _ =>
    cases path with
    | none => exact .inr ⟨by simp, rfl⟩
    | some path => cases h.2

theorem ArtifactAvailabilityV0.name_checkedIn {availability : ArtifactAvailabilityV0} :
    availability.name = "checked_in" ↔ availability = .checkedIn := by
  cases availability <;> decide

theorem FixtureArtifactV0.conforms {artifact : FixtureArtifactV0}
    (h : validateFixtureArtifact artifact = .ok ()) :
    Fixtures.fixtureArtifact artifact.encode = true := by
  have hpath := validateFixtureArtifact_path h
  simp only [validateFixtureArtifact, unit_bind_eq_ok] at h
  have hidentity := artifact_of_validate h.1
  have hnull : nullOr Fixtures.relativePath (encodeOption .str artifact.relativePath) = true := by
    refine (nullOr_encodeOption rfl (by simp)).mpr fun path hp => ?_
    rcases hpath with ⟨-, path', hp', hvalid⟩ | ⟨-, hnone⟩
    · obtain rfl := Option.some.inj (hp.symm.trans hp')
      exact relativePath_of_validate hvalid
    · rw [hp] at hnone
      cases hnone
  simp only [fixtureArtifact, allOf_cons, allOf_nil, Bool.and_true, Bool.and_eq_true]
  constructor
  · rw [encode, closed_object rfl (by decide)]
    simp [hidentity, hnull]
  · rcases hpath with ⟨hin, path, hp, hvalid⟩ | ⟨hout, hnone⟩
    · simp [ifThenElse, encode, hin, hp, ArtifactAvailabilityV0.name, encodeOption,
        relativePath_of_validate hvalid]
    · have : constString "checked_in" (.str artifact.availability.name) = false := by
        rw [← Bool.not_eq_true, constString_str, ArtifactAvailabilityV0.name_checkedIn]
        exact hout
      simp [ifThenElse, encode, this, hnone, encodeOption]

theorem StateIdentityV0.conforms {state : StateIdentityV0}
    (h : validateStateIdentity state = .ok ()) : Fixtures.stateIdentity state.encode = true := by
  simp only [validateStateIdentity, unit_bind_eq_ok] at h
  rw [Fixtures.stateIdentity, encode, closed_object rfl (by decide)]
  simp [safeId_of_validate h.1, safeId_of_validate h.2.1, FixtureArtifactV0.conforms h.2.2]

theorem ReplayProgramV0.conforms {program : ReplayProgramV0}
    (h : validateReplayProgram program = .ok ()) : Fixtures.program program.encode = true := by
  cases program with
  | cargo =>
    refine oneOf_triple (.inl ⟨?_, rejects_other_tag (by decide), rejects_other_tag (by decide)⟩)
    rw [programRecord, encode, closed_object rfl (by decide)]
    simp
  | npm =>
    refine oneOf_triple (.inr (.inl ⟨rejects_other_tag (by decide), ?_,
      rejects_other_tag (by decide)⟩))
    rw [programRecord, encode, closed_object rfl (by decide)]
    simp
  | repositoryScript path =>
    refine oneOf_triple (.inr (.inr ⟨rejects_other_tag (by decide), rejects_other_tag (by decide),
      ?_⟩))
    rw [programRecord, encode, closed_object rfl (by decide)]
    simpa using relativePath_of_validate h

theorem ReplayRecipeV0.conforms {replay : ReplayRecipeV0} (h : validateReplay replay = .ok ()) :
    Fixtures.replay replay.encode = true := by
  simp only [validateReplay, unit_bind_eq_ok, check_eq_ok, forM_eq_ok, checkUnique_eq_ok,
    List.map_id] at h
  obtain ⟨hprogram, hne, hargv, henvironment, hn⟩ := h
  have hargs : arrayOf 1 Fixtures.text (encodeStrings replay.argv) = true :=
    arrayOf_map.mpr ⟨List.length_pos_iff.mpr hne, fun value hv =>
      boundedString_str.mpr (validateArgument_length (hargv value hv))⟩
  have hnames : uniqueArray (allOf [type .string, pattern environmentPattern])
      (encodeStrings replay.requiredEnvironment) = true := by
    refine uniqueStrings_map.mpr ⟨hn, fun name hm => ?_⟩
    simpa using validateEnvironmentName_iff.mp (henvironment name hm).1
  rw [Fixtures.replay, encode, closed_object rfl (by decide)]
  simp [ReplayProgramV0.conforms hprogram, hargs, hnames]

theorem FixtureCaseV0.conforms {verticalId : VerticalIdV0} {case : FixtureCaseV0}
    (h : case.Valid verticalId) : Fixtures.fixtureCase case.encode = true := by
  rw [Fixtures.fixtureCase, encode, closed_object rfl (by decide)]
  simpa [safeId_of_validate h.caseId, GitSourceV0.conforms h.source,
    artifact_of_validate h.projection, arrayOf_map, array_map, Nat.one_le_iff_ne_zero,
    h.inputs_ne_nil, h.replay_ne_nil] using
    ⟨fun a ha => FixtureArtifactV0.conforms (h.inputs a ha),
      fun a ha => StateIdentityV0.conforms (h.states a ha),
      fun a ha => PrerequisiteV0.conforms (h.prerequisites a ha),
      fun a ha => ReplayRecipeV0.conforms (h.replay a ha)⟩

/-! ## Rows -/

/-- The value of the key that tells rows apart. -/
@[simp] theorem VerticalFixtureManifestV0.get_verticalId {manifest : VerticalFixtureManifestV0} :
    manifest.encode.get? "vertical_id" = some (.str manifest.verticalId.name) := by
  simp [encode]

@[simp] theorem VerticalFixtureManifestV0.get_class {manifest : VerticalFixtureManifestV0} :
    manifest.encode.get? "class" = some (.str manifest.fixtureClass.name) := by
  simp [encode]

@[simp] theorem VerticalFixtureManifestV0.get_cases {manifest : VerticalFixtureManifestV0} :
    manifest.encode.get? "cases" = some (.arr (manifest.cases.map FixtureCaseV0.encode)) := by
  simp [encode]

@[simp] theorem FixtureCaseV0.get_stateIdentities {case : FixtureCaseV0} :
    case.encode.get? "state_identities" =
      some (.arr (case.stateIdentities.map StateIdentityV0.encode)) := by
  simp [encode]

@[simp] theorem FixtureCaseV0.get_prerequisites {case : FixtureCaseV0} :
    case.encode.get? "prerequisites" =
      some (.arr (case.prerequisites.map PrerequisiteV0.encode)) := by
  simp [encode]

theorem VerticalIdV0.mem_modelFreeRows {verticalId : VerticalIdV0} :
    verticalId.name ∈ modelFreeRows ↔ verticalId.fixtureClass = .modelFree := by
  cases verticalId <;> decide

theorem VerticalIdV0.mem_realRows {verticalId : VerticalIdV0} :
    verticalId.name ∈ realRows ↔ verticalId.fixtureClass = .real := by
  cases verticalId <;> decide

theorem VerticalIdV0.mem_stateRows {verticalId : VerticalIdV0} :
    verticalId.name ∈ stateRows ↔ verticalId.fixtureClass = .state := by
  cases verticalId <;> decide

theorem VerticalIdV0.names_nodup : (allVerticalIds.map VerticalIdV0.name).Nodup := by decide

theorem VerticalIdV0.name_injective : Function.Injective VerticalIdV0.name := fun a b h =>
  List.inj_on_of_nodup_map names_nodup (mem_allVerticalIds a) (mem_allVerticalIds b) h

theorem requiresPrerequisite_encode {manifest : VerticalFixtureManifestV0}
    (prerequisiteId : String) (kind : PrerequisiteKindV0)
    (h : ∀ case ∈ manifest.cases, requirePrerequisite case prerequisiteId kind = .ok ()) :
    requiresPrerequisite prerequisiteId kind.name manifest.encode = true := by
  simp only [requiresPrerequisite, properties_cons, properties_nil, Bool.and_true,
    VerticalFixtureManifestV0.get_cases, Option.all_some, items_map]
  intro case hcase
  obtain ⟨prerequisite, hmem, hid, hkind, hlen⟩ := requirePrerequisite_ok (h case hcase)
  simp only [FixtureCaseV0.get_prerequisites, Option.all_some, contains, List.any_map,
    List.any_eq_true, Function.comp_apply]
  refine ⟨prerequisite, hmem, ?_⟩
  have hmin : minimum 1 (.num (.int prerequisite.identity.length.toNat)) = true := by
    have hpos : 1 ≤ prerequisite.identity.length.toNat :=
      Nat.one_le_iff_ne_zero.mpr fun h0 => hlen (UInt64.toNat_inj.mp h0)
    simpa [minimum, Number.value] using hpos
  simp [PrerequisiteV0.encode, ArtifactIdentityV0.encode_eq, hid, hkind, hmin, required]

theorem requiresState_encode {manifest : VerticalFixtureManifestV0}
    (h : ∀ case ∈ manifest.cases, case.stateIdentities ≠ []) :
    requiresState manifest.encode = true := by
  simp only [requiresState, properties_cons, properties_nil, Bool.and_true,
    VerticalFixtureManifestV0.get_cases, Option.all_some, items_map]
  intro case hcase
  simpa only [FixtureCaseV0.get_stateIdentities, Option.all_some, minItems_map] using h case hcase

section Conditionals

variable {manifest : VerticalFixtureManifestV0}

theorem rowIn_encode {rows : List String} :
    rowIn rows manifest.encode = true ↔ manifest.verticalId.name ∈ rows := by
  simp [rowIn, enumStrings_str]

theorem rowIs_encode (verticalId : VerticalIdV0) :
    rowIs verticalId.name manifest.encode = true ↔ manifest.verticalId = verticalId := by
  simp [rowIs, VerticalIdV0.name_injective.eq_iff]

theorem classIs_encode (fixtureClass : FixtureClassV0) (h : manifest.fixtureClass = fixtureClass) :
    classIs fixtureClass.name manifest.encode = true := by
  simp [classIs, h]

/-- Each conditional of the schema, from the class of the row and the prerequisites of each case. -/
theorem conditionals_encode (h : manifest.Valid) :
    allOf [ifThen (rowIn modelFreeRows) (classIs "model_free"),
      ifThen (rowIn realRows) (classIs "real"),
      ifThen (rowIn stateRows) (classIs "state"),
      ifThen (rowIn stateRows) requiresState,
      ifThen (rowIs "current_exact_qwen") requiresQwenModel,
      ifThen (rowIs "current_exact_gemma") requiresGemmaModel,
      ifThen (rowIs "current_parakeet_model_audio")
        (allOf [requiresParakeetModel, requiresParakeetAudio]),
      ifThen (rowIs "apple_installed_voice") requiresAppleVoice] manifest.encode = true := by
  have hclass := h.row
  have hrows := fun case hc => validateRowPrerequisites_iff.mp (h.cases case hc).row
  have hrequired : ∀ verticalId, manifest.verticalId = verticalId → ∀ prerequisiteId kind,
      (prerequisiteId, kind) ∈ requiredPrerequisites verticalId →
        requiresPrerequisite prerequisiteId kind.name manifest.encode = true := by
    rintro verticalId rfl prerequisiteId kind hr
    exact requiresPrerequisite_encode prerequisiteId kind fun case hc => (hrows case hc).1 _ hr
  simp only [allOf_cons, allOf_nil, Bool.and_true, Bool.and_eq_true, ifThen_iff]
  refine ⟨?_, ?_, ?_, ?_, ?_, ?_, ?_, ?_⟩
  · intro h
    exact classIs_encode .modelFree
      (hclass.trans (VerticalIdV0.mem_modelFreeRows.mp (rowIn_encode.mp h)))
  · intro h
    exact classIs_encode .real (hclass.trans (VerticalIdV0.mem_realRows.mp (rowIn_encode.mp h)))
  · intro h
    exact classIs_encode .state (hclass.trans (VerticalIdV0.mem_stateRows.mp (rowIn_encode.mp h)))
  · intro h
    have hstate := VerticalIdV0.mem_stateRows.mp (rowIn_encode.mp h)
    exact requiresState_encode fun case hc => (hrows case hc).2 hstate
  · intro h
    exact hrequired _ ((rowIs_encode .currentExactQwen).mp h) qwenModelPrerequisite
      .exactExternalArtifact (.head _)
  · intro h
    exact hrequired _ ((rowIs_encode .currentExactGemma).mp h) gemmaModelPrerequisite
      .exactExternalArtifact (.head _)
  · intro h
    have hboth := hrequired _ ((rowIs_encode .currentParakeetModelAudio).mp h)
    exact ⟨hboth parakeetModelPrerequisite .exactExternalArtifact (.head _),
      hboth parakeetAudioPrerequisite .exactExternalArtifact (.tail _ (.head _))⟩
  · intro h
    exact hrequired _ ((rowIs_encode .appleInstalledVoice).mp h) appleVoicePrerequisite
      .platformInventory (.head _)

end Conditionals

/-! ## Manifests -/

theorem NegativeEvidenceV0.conforms {evidence : NegativeEvidenceV0}
    (h : validateNegativeEvidence evidence = .ok ()) :
    Fixtures.negativeEvidence evidence.encode = true := by
  simp only [validateNegativeEvidence, unit_bind_eq_ok] at h
  rw [Fixtures.negativeEvidence, encode, closed_object rfl (by decide)]
  simp [safeId_of_validate h.1, artifact_of_validate h.2.1, text_of_validate h.2.2]

theorem contractRevision_value : contractRevision (.str w1ContractRevision) = true :=
  constString_str.mpr rfl

theorem VerticalFixtureManifestV0.conforms {manifest : VerticalFixtureManifestV0}
    (h : validateManifest manifest = .ok ()) :
    verticalFixtureManifest manifest.encode = true := by
  have hvalid := validateManifest_eq_ok.mp h
  have hschema := hvalid.schema
  rw [verticalFixtureManifestSchemaV0] at hschema
  have hrecord : manifestRecord manifest.encode = true := by
    rw [manifestRecord, encode, closed_object rfl (by decide)]
    simpa [hschema, hvalid.revision, contractRevision_value, uniqueTexts hvalid.omitted,
      arrayOf_map, array_map, Nat.one_le_iff_ne_zero, hvalid.cases_ne_nil] using
      ⟨fun case hc => FixtureCaseV0.conforms (hvalid.cases case hc),
        fun evidence he => NegativeEvidenceV0.conforms (hvalid.negative evidence he)⟩
  rw [verticalFixtureManifest, allOf_cons, Bool.and_eq_true]
  exact ⟨hrecord, conditionals_encode hvalid⟩

/-! ## Projections -/

theorem EventFactV0.conforms {event : EventFactV0} {expected : Nat}
    (h : validateEvent event expected = .ok ()) : Fixtures.event event.encode = true := by
  simp only [validateEvent, unit_bind_eq_ok] at h
  obtain ⟨-, hoperation, hattempt, hcorrelation, hkind, hpayload⟩ := h
  rw [Fixtures.event, encode, closed_object rfl (by decide)]
  simp [safeId_of_validate hoperation, nullOr_safeId hattempt, nullOr_safeId hcorrelation,
    safeId_of_validate hkind, nullOr_artifact hpayload]

theorem events_conform {events : List EventFactV0} (h : validateEvents events = .ok ()) :
    arrayOf 1 Fixtures.event (.arr (events.map EventFactV0.encode)) = true := by
  simp only [validateEvents, unit_bind_eq_ok, check_eq_ok, forM_eq_ok] at h
  refine arrayOf_map.mpr ⟨List.length_pos_iff.mpr h.1, fun event he => ?_⟩
  obtain ⟨n, hn, rfl⟩ := List.getElem_of_mem he
  exact EventFactV0.conforms (h.2 (events[n], n) (by simp [List.mem_zipIdx_iff_getElem?]))

theorem durableState_conforms {durableState : List DurableStateFactV0}
    (h : validateDurableState durableState = .ok ()) :
    arrayOf 1 Fixtures.durableState (.arr (durableState.map DurableStateFactV0.encode)) = true := by
  rw [validateDurableState, unit_bind_eq_ok, check_eq_ok, bind_eq_ok] at h
  obtain ⟨hne, ids, hloop, -⟩ := h
  refine arrayOf_map.mpr ⟨List.length_pos_iff.mpr hne, fun state hs => ?_⟩
  have hstate := (forUnique_eq_ok.mp hloop).1 state hs
  simp only [unit_bind_eq_ok] at hstate
  obtain ⟨⟨hid, hschema⟩, -, hbefore, hafter, -⟩ := hstate
  rw [Fixtures.durableState, DurableStateFactV0.encode, closed_object rfl (by decide)]
  simp [safeId_of_validate hid, safeId_of_validate hschema, nullOr_artifact hbefore,
    nullOr_artifact hafter]

theorem lifecycle_conforms {lifecycle : List LifecycleFactV0}
    (h : validateLifecycle lifecycle = .ok ()) :
    arrayOf 1 Fixtures.lifecycle (.arr (lifecycle.map LifecycleFactV0.encode)) = true := by
  simp only [validateLifecycle, unit_bind_eq_ok, check_eq_ok, checkUnique_eq_ok] at h
  obtain ⟨hne, hfacts, -⟩ := h
  refine arrayOf_map.mpr ⟨List.length_pos_iff.mpr hne, fun fact hf => ?_⟩
  obtain ⟨hoperation, hattempt, hcorrelation, hreleased⟩ := hfacts fact hf
  rw [Fixtures.lifecycle, LifecycleFactV0.encode, closed_object rfl (by decide)]
  simp [safeId_of_validate hoperation, nullOr_safeId hattempt, nullOr_safeId hcorrelation,
    hreleased, const]

theorem OwnershipFactsV0.conforms {ownership : OwnershipFactsV0}
    (h : validateOwnership ownership = .ok ()) :
    Fixtures.ownership ownership.encode = true := by
  simp only [validateOwnership, unit_bind_eq_ok, check_eq_ok] at h
  rw [Fixtures.ownership, encode, closed_object rfl (by decide)]
  simp [encodeWord, h.1, h.2.1, const, Json.same, Number.value]

/-- A record of one kind against the value of a fact of another, or of its own. -/
theorem factRecord_object {kind : String} {value : Schema} {k : String} {v : Json} :
    factRecord kind value (.object [("kind", .str k), ("value", v)]) =
      (decide (k = kind) && value v) := by
  have hn : (List.map Prod.fst [("kind", constString kind), ("value", value)]).Nodup := by simp
  rw [Bool.eq_iff_iff, factRecord, closed_object rfl hn]
  simp

theorem FactValueV0.conforms {fact : FactValueV0} (h : validateFactValue fact = .ok ()) :
    Fixtures.fact fact.encode = true := by
  cases fact with
  | boolean value => simp [Fixtures.fact, oneOf, encode, name, content, factRecord_object]
  | integer value =>
    have : type .integer (.num (.int value.toInt)) = true := by simp [type, Number.value]
    simp [Fixtures.fact, oneOf, encode, name, content, factRecord_object, this]
  | text value =>
    have := text_of_validate h
    simp [Fixtures.fact, oneOf, encode, name, content, factRecord_object, this]
  | digest value =>
    have := digest_encode.mpr (mapErr_eq_ok.mp h)
    simp [Fixtures.fact, oneOf, encode, name, content, factRecord_object, this]

theorem outputFacts_conform {outputFacts : ExtTreeMap String FactValueV0}
    (h : validateOutputFacts outputFacts = .ok ()) :
    allOf [type .object, minProperties 1, propertyNames Schemas.identifier,
      additionalProperties [] Fixtures.fact]
        (Codec.ofMap id FactValueV0.encode outputFacts) = true := by
  simp only [validateOutputFacts, unit_bind_eq_ok, check_eq_ok, forM_eq_ok] at h
  obtain ⟨hne, hfacts⟩ := h
  have hempty : outputFacts.isEmpty = false := by
    rwa [← Bool.not_eq_true, ExtTreeMap.isEmpty_iff]
  have hfact : ∀ (name : String) (value : FactValueV0), outputFacts[name]? = some value →
      validateSafeId "output_facts.name" name = .ok () ∧ validateFactValue value = .ok () :=
    fun name value hv =>
      hfacts (name, value) (ExtTreeMap.mem_toList_iff_getElem?_eq_some.mpr hv)
  have hnames : propertyNames Schemas.identifier
      (Codec.ofMap id FactValueV0.encode outputFacts) = true :=
    propertyNames_ofMap Function.injective_id fun name value hv =>
      safeId_of_validate (hfact name value hv).1
  have hvalues : additionalProperties [] Fixtures.fact
      (Codec.ofMap id FactValueV0.encode outputFacts) = true :=
    additionalProperties_ofMap Function.injective_id fun name value hv =>
      FactValueV0.conforms (hfact name value hv).2
  simp [hnames, hvalues, minProperties_ofMap Function.injective_id hempty]

theorem EquivalenceProjectionV0.conforms {projection : EquivalenceProjectionV0}
    (h : validateProjection projection = .ok ()) :
    Fixtures.projection projection.encode = true := by
  simp only [validateProjection, unit_bind_eq_ok, check_eq_ok] at h
  obtain ⟨hevents, hstate, hlifecycle, -, hownership, hfacts, hne, hclosed⟩ := h
  rw [Fixtures.projection, encode, closed_object rfl (by decide)]
  simp only [List.forall₂_cons, List.Forall₂.nil, events_conform hevents,
    durableState_conforms hstate, lifecycle_conforms hlifecycle,
    OwnershipFactsV0.conforms hownership, outputFacts_conform hfacts, and_true, true_and]
  exact Bool.and_eq_true_iff.mpr ⟨minItems_map.mpr hne, Bool.and_eq_true_iff.mpr
    ⟨uniqueTexts hclosed, rfl⟩⟩

/-! ## Observations -/

theorem PrerequisiteV0.get_prerequisiteId {prerequisite : PrerequisiteV0} :
    prerequisite.encode.get? "prerequisite_id" = some (.str prerequisite.prerequisiteId) := by
  simp [encode]

theorem ObservationEnvelopeV0.conforms {observation : ObservationEnvelopeV0}
    (h : validateObservation observation = .ok ()) :
    verticalObservation observation.encode = true := by
  have hvalid := validateObservation_eq_ok.mp h
  have hschema := hvalid.schema
  rw [verticalObservationSchemaV0] at hschema
  have hobserved : uniqueArray Fixtures.prerequisite
      (.arr (observation.observedPrerequisites.map PrerequisiteV0.encode)) = true :=
    uniqueArray_of_ids (fun _ => PrerequisiteV0.get_prerequisiteId) hvalid.prerequisites_nodup
      fun p hp => PrerequisiteV0.conforms (hvalid.prerequisites p hp)
  rw [verticalObservation, encode, closed_object rfl (by decide)]
  simp [hschema, safeId_of_validate hvalid.caseId, gitCommit_of_validate hvalid.revision, hobserved,
    EvidenceClaimV0.conforms hvalid.evidence, EquivalenceProjectionV0.conforms hvalid.projection]

/-! ## Locks -/

theorem VerticalFixtureLockEntryV0.get_verticalId {entry : VerticalFixtureLockEntryV0} :
    entry.encode.get? "vertical_id" = some (.str entry.verticalId.name) := by
  simp [encode]

theorem VerticalFixtureLockV0.conforms {lock : VerticalFixtureLockV0} (h : lock.WellFormed) :
    verticalLock lock.encode = true := by
  have hschema := h.schema
  rw [verticalFixtureLockSchemaV0] at hschema
  have hlen : lock.entries.length = 18 := by
    rw [← List.length_map, h.rows.length_eq]
    rfl
  have hentries : uniqueArray Fixtures.lockEntry
      (.arr (lock.entries.map VerticalFixtureLockEntryV0.encode)) = true := by
    refine uniqueArray_of_ids (fun _ => VerticalFixtureLockEntryV0.get_verticalId) ?_
      fun entry he => ?_
    · have hn := h.rows.nodup_iff.mpr allVerticalIds_nodup
      rw [show (fun entry : VerticalFixtureLockEntryV0 => entry.verticalId.name) =
        VerticalIdV0.name ∘ (·.verticalId) from rfl, ← List.map_map]
      exact hn.map VerticalIdV0.name_injective
    · rw [Fixtures.lockEntry, VerticalFixtureLockEntryV0.encode, closed_object rfl (by decide)]
      simp [artifact_of_validate (h.artifacts entry he)]
  rw [verticalLock, encode, closed_object rfl (by decide)]
  simp [hschema, gitCommit_of_validate h.protocolCommit, h.contractRevision,
    contractRevision_value, hentries, minItems, maxItems, hlen]

/-- The JSON of every manifest, observation and lock that its validator accepts, the lock with some
streams, is accepted by its schema. -/
theorem vertical_schemas_accept :
    (∀ manifest : VerticalFixtureManifestV0, validateManifest manifest = .ok () →
      verticalFixtureManifest manifest.encode = true) ∧
    (∀ observation : ObservationEnvelopeV0, validateObservation observation = .ok () →
      verticalObservation observation.encode = true) ∧
    ∀ (externals : LockExternals) (lock : VerticalFixtureLockV0) (streams : List (List UInt8)),
      validateLock externals lock streams = .ok () → verticalLock lock.encode = true :=
  ⟨fun _ => VerticalFixtureManifestV0.conforms, fun _ => ObservationEnvelopeV0.conforms,
    fun _ _ _ h => VerticalFixtureLockV0.conforms (validateLock_ok.mp h).1⟩

theorem vertical_schemas_accept_rows : verticalLock rowsLock.encode = true :=
  vertical_schemas_accept.2.2 rowExternals rowsLock (allVerticalIds.map rowBytes)
    (validateLock_ok.mpr ⟨rowsLock_wellFormed, rowsLock_matched⟩)

end Vertical
end Platform
