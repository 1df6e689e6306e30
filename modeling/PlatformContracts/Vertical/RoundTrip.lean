import PlatformContracts.Vertical.Codec
import PlatformContracts.Vertical.Lock

/-!
# Round trips of the vertical fixtures

* `encode_codec`, for each type: the codec writes what `Vertical/Wire` writes.
* `artifacts`, `digests`, `Intact`: the envelopes inside a document, and that they are valid.
  `valid_codec`: the readers check this and nothing else.
* `Intact.of_validate`: a validator checks all the envelopes.
* `ReadsBack`: what a writer and a reader of documents owe each other; `fixtures_read_back`.
-/

namespace Platform
namespace Vertical

open Std Contracts Codec

/-! ## Writers -/

theorem ReplayProgramV0.encode_codec : codec.encode = encode := by
  funext program
  cases program <;> rfl

theorem ReplayRecipeV0.encode_codec : codec.encode = encode := by
  funext replay
  show Json.object [("program", ReplayProgramV0.codec.encode replay.program), _, _, _] = _
  rw [ReplayProgramV0.encode_codec]
  rfl

theorem FixtureCaseV0.encode_codec : codec.encode = encode := by
  funext case
  show Json.object [_, _, _, _, _, ("replay", .arr (case.replay.map ReplayRecipeV0.codec.encode)),
    _] = _
  rw [ReplayRecipeV0.encode_codec]
  rfl

theorem VerticalFixtureManifestV0.encode_codec : codec.encode = encode := by
  funext manifest
  show Json.object [_, _, _, _, ("cases", .arr (manifest.cases.map FixtureCaseV0.codec.encode)), _,
    _] = _
  rw [FixtureCaseV0.encode_codec]
  rfl

theorem FactValueV0.encode_codec : codec.encode = encode := by
  funext fact
  cases fact <;> rfl

theorem EquivalenceProjectionV0.encode_codec : codec.encode = encode := by
  funext projection
  show Json.object [_, _, _, _,
    ("output_facts", ofMap id FactValueV0.codec.encode projection.outputFacts), _] = _
  rw [FactValueV0.encode_codec]
  rfl

theorem ObservationEnvelopeV0.encode_codec : codec.encode = encode := by
  funext observation
  show Json.object [_, _, _, _, _, _,
    ("projection", EquivalenceProjectionV0.codec.encode observation.projection)] = _
  rw [EquivalenceProjectionV0.encode_codec]
  rfl

theorem VerticalFixtureLockV0.encode_codec : codec.encode = encode := rfl

/-! ## The envelopes inside a document -/

def FixtureCaseV0.artifacts (case : FixtureCaseV0) : List ArtifactIdentityV0 :=
  case.source.productionTree :: case.inputs.map (·.identity) ++
    case.stateIdentities.map (·.baseline.identity) ++ case.prerequisites.map (·.identity) ++
    [case.expectedProjection]

def VerticalFixtureManifestV0.artifacts (manifest : VerticalFixtureManifestV0) :
    List ArtifactIdentityV0 :=
  manifest.cases.flatMap FixtureCaseV0.artifacts ++ manifest.negativeEvidence.map (·.artifact)

def DurableStateFactV0.artifacts (state : DurableStateFactV0) : List ArtifactIdentityV0 :=
  state.before.toList ++ state.after.toList

def EquivalenceProjectionV0.artifacts (projection : EquivalenceProjectionV0) :
    List ArtifactIdentityV0 :=
  projection.orderedEvents.flatMap (·.payload.toList) ++
    projection.durableState.flatMap DurableStateFactV0.artifacts

/-- The digest that the fact is. -/
def FactValueV0.digests : FactValueV0 → List ContentDigest
  | digest value => [value]
  | _ => []

def EquivalenceProjectionV0.digests (projection : EquivalenceProjectionV0) : List ContentDigest :=
  projection.outputFacts.toList.flatMap (·.2.digests)

def VerticalFixtureManifestV0.Intact (manifest : VerticalFixtureManifestV0) : Prop :=
  ∀ artifact ∈ manifest.artifacts, artifact.validate = .ok ()

@[mk_iff]
structure EquivalenceProjectionV0.Intact (projection : EquivalenceProjectionV0) : Prop where
  artifacts : ∀ artifact ∈ projection.artifacts, artifact.validate = .ok ()
  digests : ∀ digest ∈ projection.digests, digest.validate = .ok ()

@[mk_iff]
structure ObservationEnvelopeV0.Intact (observation : ObservationEnvelopeV0) : Prop where
  prerequisites : ∀ prerequisite ∈ observation.observedPrerequisites,
    prerequisite.identity.validate = .ok ()
  evidence : observation.evidence.validate = .ok ()
  projection : observation.projection.Intact

def VerticalFixtureLockV0.Intact (lock : VerticalFixtureLockV0) : Prop :=
  ∀ entry ∈ lock.entries, entry.manifest.validate = .ok ()

/-! ## What the readers check -/

section Valid

theorem FixtureArtifactV0.valid_codec {artifact : FixtureArtifactV0} :
    codec.valid artifact = true ↔ artifact.identity.validate = .ok () := by
  simp [codec, ArtifactAvailabilityV0.codec, ArtifactIdentityV0.valid_codec, Option.all_eq_true]

theorem PrerequisiteV0.valid_codec {prerequisite : PrerequisiteV0} :
    codec.valid prerequisite = true ↔ prerequisite.identity.validate = .ok () := by
  simp [codec, PrerequisiteKindV0.codec, ArtifactIdentityV0.valid_codec]

theorem ReplayRecipeV0.valid_codec {replay : ReplayRecipeV0} : codec.valid replay = true := by
  have hprogram : ReplayProgramV0.codec.valid replay.program = true := by
    cases replay.program <;> rfl
  simp [codec, NetworkBoundaryV0.codec, hprogram]

theorem FixtureCaseV0.valid_codec {case : FixtureCaseV0} :
    codec.valid case = true ↔ ∀ artifact ∈ case.artifacts, artifact.validate = .ok () := by
  simp [codec, artifacts, GitSourceV0.codec, StateIdentityV0.codec, FixtureArtifactV0.valid_codec,
    PrerequisiteV0.valid_codec, ReplayRecipeV0.valid_codec, ArtifactIdentityV0.valid_codec,
    or_imp, forall_and]

theorem VerticalFixtureManifestV0.valid_codec {manifest : VerticalFixtureManifestV0} :
    codec.valid manifest = true ↔ manifest.Intact := by
  rw [Intact, artifacts, List.forall_mem_append, List.forall_mem_flatMap]
  simp [codec, VerticalIdV0.codec, FixtureClassV0.codec, NegativeEvidenceV0.codec,
    EvidenceDispositionV0.codec, FixtureCaseV0.valid_codec, ArtifactIdentityV0.valid_codec]

theorem EventFactV0.valid_codec {event : EventFactV0} :
    codec.valid event = true ↔ ∀ artifact ∈ event.payload, artifact.validate = .ok () := by
  simp [codec, ArtifactIdentityV0.valid_codec, Option.all_eq_true]

theorem DurableStateFactV0.valid_codec {state : DurableStateFactV0} :
    codec.valid state = true ↔ ∀ artifact ∈ state.artifacts, artifact.validate = .ok () := by
  simp [codec, artifacts, StateDispositionV0.codec, ArtifactIdentityV0.valid_codec,
    Option.all_eq_true, or_imp, forall_and]

theorem LifecycleFactV0.valid_codec {fact : LifecycleFactV0} : codec.valid fact = true := by
  simp [codec, TerminalClass.codec, Option.all_eq_true]

theorem FactValueV0.valid_codec {fact : FactValueV0} :
    codec.valid fact = true ↔ ∀ digest ∈ fact.digests, digest.validate = .ok () := by
  cases fact <;> simp [codec, variants, contentEquiv, digests, ContentDigest.valid_codec]

theorem EquivalenceProjectionV0.valid_codec {projection : EquivalenceProjectionV0} :
    codec.valid projection = true ↔ projection.Intact := by
  rw [intact_iff, artifacts, digests, List.forall_mem_append, List.forall_mem_flatMap,
    List.forall_mem_flatMap, List.forall_mem_flatMap]
  simp [codec, OwnershipFactsV0.codec, EventFactV0.valid_codec, DurableStateFactV0.valid_codec,
    LifecycleFactV0.valid_codec, FactValueV0.valid_codec, and_assoc]

theorem ObservationEnvelopeV0.valid_codec {observation : ObservationEnvelopeV0} :
    codec.valid observation = true ↔ observation.Intact := by
  rw [intact_iff]
  simp [codec, VerticalIdV0.codec, PrerequisiteV0.valid_codec, EvidenceClaimV0.valid_codec,
    EquivalenceProjectionV0.valid_codec]

theorem VerticalFixtureLockV0.valid_codec {lock : VerticalFixtureLockV0} :
    codec.valid lock = true ↔ lock.Intact := by
  simp [codec, Intact, VerticalFixtureLockEntryV0.codec, VerticalIdV0.codec, FixtureClassV0.codec,
    ArtifactIdentityV0.valid_codec]

end Valid

/-! ## What the validators check -/

section Validate

variable {field : String} {artifact : ArtifactIdentityV0}

theorem validate_of_validateArtifact (h : validateArtifact field artifact = .ok ()) :
    artifact.validate = .ok () := by
  rw [validateArtifact, unit_bind_eq_ok, mapErr_eq_ok] at h
  exact h.2

theorem validate_of_optional {o : Option ArtifactIdentityV0}
    (h : validateOptionalArtifact field o = .ok ()) (ha : artifact ∈ o) :
    artifact.validate = .ok () := by
  obtain rfl := Option.mem_def.mp ha
  exact validate_of_validateArtifact h

theorem FixtureArtifactV0.identity_valid {artifact : FixtureArtifactV0}
    (h : validateFixtureArtifact artifact = .ok ()) : artifact.identity.validate = .ok () := by
  rw [validateFixtureArtifact, unit_bind_eq_ok] at h
  exact validate_of_validateArtifact h.1

theorem PrerequisiteV0.identity_valid {prerequisite : PrerequisiteV0}
    (h : validatePrerequisite prerequisite = .ok ()) :
    prerequisite.identity.validate = .ok () := by
  simp only [validatePrerequisite, unit_bind_eq_ok] at h
  exact validate_of_validateArtifact h.2.1

theorem FixtureCaseV0.Valid.artifacts_valid {verticalId : VerticalIdV0} {case : FixtureCaseV0}
    (h : case.Valid verticalId) : ∀ artifact ∈ case.artifacts, artifact.validate = .ok () := by
  have hsource := h.source
  simp only [validateSource, unit_bind_eq_ok] at hsource
  have hstate : ∀ state ∈ case.stateIdentities,
      state.baseline.identity.validate = .ok () := by
    intro state hs
    have hstate := h.states state hs
    simp only [validateStateIdentity, unit_bind_eq_ok] at hstate
    exact FixtureArtifactV0.identity_valid hstate.2.2
  simp only [artifacts, List.forall_mem_append, List.forall_mem_cons, List.forall_mem_map]
  exact ⟨⟨⟨⟨validate_of_validateArtifact hsource.2.2,
    fun input hi => FixtureArtifactV0.identity_valid (h.inputs input hi)⟩, hstate⟩,
    fun prerequisite hp => PrerequisiteV0.identity_valid (h.prerequisites prerequisite hp)⟩,
    validate_of_validateArtifact h.projection, by simp⟩

theorem VerticalFixtureManifestV0.Intact.of_validate {manifest : VerticalFixtureManifestV0}
    (h : validateManifest manifest = .ok ()) : manifest.Intact := by
  have hvalid := validateManifest_eq_ok.mp h
  rw [Intact, artifacts, List.forall_mem_append, List.forall_mem_flatMap, List.forall_mem_map]
  refine ⟨fun case hc => (hvalid.cases case hc).artifacts_valid, fun evidence he => ?_⟩
  have hevidence := hvalid.negative evidence he
  simp only [validateNegativeEvidence, unit_bind_eq_ok] at hevidence
  exact validate_of_validateArtifact hevidence.2.1

theorem EquivalenceProjectionV0.Intact.of_validate {projection : EquivalenceProjectionV0}
    (h : validateProjection projection = .ok ()) : projection.Intact := by
  simp only [validateProjection, validateEvents, validateDurableState, validateOutputFacts,
    unit_bind_eq_ok, check_eq_ok, forM_eq_ok] at h
  obtain ⟨⟨-, hevents⟩, ⟨-, hstates⟩, -, -, -, ⟨-, hfacts⟩, -⟩ := h
  obtain ⟨ids, hloop, -⟩ := bind_eq_ok.mp hstates
  constructor
  · rw [EquivalenceProjectionV0.artifacts, List.forall_mem_append, List.forall_mem_flatMap,
      List.forall_mem_flatMap]
    constructor
    · intro event he artifact ha
      obtain ⟨n, hn, rfl⟩ := List.getElem_of_mem he
      have hevent := hevents (projection.orderedEvents[n], n)
        (by simp [List.mem_zipIdx_iff_getElem?])
      simp only [validateEvent, unit_bind_eq_ok] at hevent
      exact validate_of_optional hevent.2.2.2.2.2 (Option.mem_toList.mp ha)
    · intro state hs artifact ha
      have hstate := (forUnique_eq_ok.mp hloop).1 state hs
      simp only [unit_bind_eq_ok] at hstate
      rcases List.mem_append.mp ha with ha | ha
      · exact validate_of_optional hstate.2.2.1 (Option.mem_toList.mp ha)
      · exact validate_of_optional hstate.2.2.2.1 (Option.mem_toList.mp ha)
  · rw [EquivalenceProjectionV0.digests, List.forall_mem_flatMap]
    rintro ⟨name, value⟩ hv digest hd
    have hfact := (hfacts (name, value) hv).2
    cases value with
    | digest value =>
      obtain rfl := List.mem_singleton.mp hd
      exact mapErr_eq_ok.mp hfact
    | _ => cases hd

theorem ObservationEnvelopeV0.Intact.of_validate {observation : ObservationEnvelopeV0}
    (h : validateObservation observation = .ok ()) : observation.Intact := by
  have hvalid := validateObservation_eq_ok.mp h
  exact ⟨fun prerequisite hp => PrerequisiteV0.identity_valid (hvalid.prerequisites _ hp),
    hvalid.evidence, .of_validate hvalid.projection⟩

theorem VerticalFixtureLockV0.Intact.of_validate {lock : VerticalFixtureLockV0}
    (h : ∃ externals streams, validateLock externals lock streams = .ok ()) : lock.Intact := by
  obtain ⟨externals, streams, h⟩ := h
  intro entry he
  exact validate_of_validateArtifact ((validateLock_ok.mp h).1.artifacts entry he)

end Validate

/-! ## The round trips -/

/-- Reading undoes writing on the documents whose envelopes are valid, and gives no others. The
accepted documents are among them, so two of them have different JSON. -/
structure ReadsBack {α : Type} (c : Codec α) (encode : α → Json) (intact accepted : α → Prop) :
    Prop where
  decode_encode : ∀ a b, c.decode (encode a) = some b ↔ b = a ∧ intact a
  intact_of_decode : ∀ j a, c.decode j = some a → intact a
  decode_accepted : ∀ a, accepted a → c.decode (encode a) = some a
  encode_injective : ∀ a b, accepted a → accepted b → encode a = encode b → a = b

theorem ReadsBack.of_valid {α : Type} {c : Codec α} {encode : α → Json}
    {intact accepted : α → Prop} (hencode : c.encode = encode)
    (hvalid : ∀ {a}, c.valid a = true ↔ intact a) (haccepted : ∀ {a}, accepted a → intact a) :
    ReadsBack c encode intact accepted := by
  subst hencode
  have hdecode : ∀ a b, c.decode (c.encode a) = some b ↔ b = a ∧ intact a := by
    intro a b
    rw [c.decode_encode, ← hvalid]
    by_cases hv : c.valid a = true
    · simp [hv, eq_comm]
    · simp [hv]
  have hintact : ∀ j a, c.decode j = some a → intact a := fun j a h =>
    hvalid.mp (c.valid_of_decode h)
  refine ⟨hdecode, hintact, fun a ha => (hdecode a a).mpr ⟨rfl, haccepted ha⟩,
    fun a b ha _ h => ?_⟩
  have hread := (hdecode a a).mpr ⟨rfl, haccepted ha⟩
  rw [h] at hread
  exact ((hdecode b a).mp hread).1

/-- **Round trips.** Manifests, observations, projections and locks. -/
theorem fixtures_read_back :
    ReadsBack VerticalFixtureManifestV0.codec VerticalFixtureManifestV0.encode
      VerticalFixtureManifestV0.Intact (validateManifest · = .ok ()) ∧
    ReadsBack ObservationEnvelopeV0.codec ObservationEnvelopeV0.encode
      ObservationEnvelopeV0.Intact (validateObservation · = .ok ()) ∧
    ReadsBack EquivalenceProjectionV0.codec EquivalenceProjectionV0.encode
      EquivalenceProjectionV0.Intact (validateProjection · = .ok ()) ∧
    ReadsBack VerticalFixtureLockV0.codec VerticalFixtureLockV0.encode
      VerticalFixtureLockV0.Intact fun lock =>
        ∃ externals streams, validateLock externals lock streams = .ok () :=
  ⟨.of_valid VerticalFixtureManifestV0.encode_codec VerticalFixtureManifestV0.valid_codec
      .of_validate,
    .of_valid ObservationEnvelopeV0.encode_codec ObservationEnvelopeV0.valid_codec .of_validate,
    .of_valid EquivalenceProjectionV0.encode_codec EquivalenceProjectionV0.valid_codec
      .of_validate,
    .of_valid VerticalFixtureLockV0.encode_codec VerticalFixtureLockV0.valid_codec .of_validate⟩

end Vertical
end Platform
