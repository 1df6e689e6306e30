import PlatformContracts.Lib.Keyed
import PlatformContracts.Vertical.Candidate

/-!
# What an accepted observation is bound to

The validators compare an observation with its case by a count and a lookup in one direction,
through maps that merge equal keys. The other direction comes from the distinct keys that
`validate_manifest` and `validate_observation` checked.

* `Bound`: an observation and its tokens are bound to a case. `bindObservedPrerequisites_ok`,
  `authenticateExactPrerequisites_ok`, `bindDeclaredState_ok`: each part of the binding.
* `StreamMatches`, `token_stream`: what a token of `verify_prerequisite_chunks` stands for.
* `binding_exact`: the binding is accepted exactly when it is there.
* `Accepted`: an observation that a baseline or a candidate check accepted; `frozen_unique`: two
  of them are the same as far as a case says; `declared_bound`: the states of a state row.
-/

namespace Platform
namespace Vertical

open Std Contracts

/-! ## Keys of the durable state -/

theorem validateDurableState_keys {durableState : List DurableStateFactV0}
    (h : validateDurableState durableState = .ok ()) : (durableState.map (·.stateId)).Nodup := by
  simp only [validateDurableState, unit_bind_eq_ok] at h
  obtain ⟨_, hloop, -⟩ := bind_eq_ok.mp h.2
  exact (forUnique_eq_ok.mp hloop).2.1

theorem observation_states {observation : ObservationEnvelopeV0}
    (h : validateObservation observation = .ok ()) :
    (observation.projection.durableState.map (·.stateId)).Nodup := by
  have hprojection := (validateObservation_eq_ok.mp h).projection
  simp only [validateProjection, unit_bind_eq_ok] at hprojection
  exact validateDurableState_keys hprojection.2.1

/-! ## The parts of the binding -/

/-- An ID and what it stands for. -/
def PrerequisiteV0.entry (prerequisite : PrerequisiteV0) : String × ArtifactIdentityV0 :=
  (prerequisite.prerequisiteId, prerequisite.identity)

def VerifiedPrerequisiteV0.entry {sha256 : Sha256} (token : VerifiedPrerequisiteV0 sha256) :
    String × ArtifactIdentityV0 :=
  (token.prerequisiteId, token.identity)

/-- The prerequisites of the case that need a token. -/
def FixtureCaseV0.exactPrerequisites (case : FixtureCaseV0) : List PrerequisiteV0 :=
  case.prerequisites.filter (·.kind = .exactExternalArtifact)

/-- A declared state: its ID, its schema and the identity before. -/
def StateIdentityV0.entry (state : StateIdentityV0) :
    String × String × Option ArtifactIdentityV0 :=
  (state.stateId, state.schemaId, some state.baseline.identity)

/-- An observed state. -/
def DurableStateFactV0.entry (state : DurableStateFactV0) :
    String × String × Option ArtifactIdentityV0 :=
  (state.stateId, state.schemaId, state.before)

section Parts

variable {case : FixtureCaseV0} {observation : ObservationEnvelopeV0}

theorem bindObservedPrerequisites_ok (hc : (case.prerequisites.map (·.prerequisiteId)).Nodup)
    (ho : (observation.observedPrerequisites.map (·.prerequisiteId)).Nodup) :
    bindObservedPrerequisites case observation = .ok () ↔
      observation.observedPrerequisites.Perm case.prerequisites := by
  have hkeys : ((observation.observedPrerequisites.map fun p => (p.prerequisiteId, p)).map
      Prod.fst).Nodup := by rwa [List.map_map]
  simp only [bindObservedPrerequisites, unit_bind_eq_ok, check_eq_ok, Keyed.lookup_ofList hkeys]
  rw [List.perm_comm, Keyed.perm_iff_mem hc.of_map]
  simp

/-- The keys of what needs a token are among the keys of the case. -/
theorem exact_entries (hc : (case.prerequisites.map (·.prerequisiteId)).Nodup) :
    (case.exactPrerequisites.map PrerequisiteV0.entry).Nodup := by
  have hkeys : (case.exactPrerequisites.map (·.prerequisiteId)).Nodup :=
    hc.sublist (List.filter_sublist.map _)
  refine List.Nodup.of_map Prod.fst ?_
  rwa [List.map_map]

/-- What the tokens supply, by ID. -/
def suppliedPrerequisites {sha256 : Sha256} (tokens : List (VerifiedPrerequisiteV0 sha256)) :
    ExtTreeMap String ArtifactIdentityV0 :=
  .ofList (tokens.map (·.entry))

theorem authenticatePrerequisite_ok {supplied : ExtTreeMap String ArtifactIdentityV0}
    {prerequisite : PrerequisiteV0} :
    authenticatePrerequisite supplied prerequisite = .ok () ↔
      supplied[prerequisite.prerequisiteId]? = some prerequisite.identity := by
  unfold authenticatePrerequisite
  rw [bind_eq_ok]
  simp only [Exec.okOr_eq_ok, check_eq_ok]
  constructor
  · rintro ⟨_, h, rfl⟩
    exact h
  · intro h
    exact ⟨_, h, rfl⟩

theorem prerequisite_safeId {prerequisite : PrerequisiteV0}
    (h : validatePrerequisite prerequisite = .ok ()) :
    validateSafeId "prerequisite_id" prerequisite.prerequisiteId = .ok () := by
  simp only [validatePrerequisite, unit_bind_eq_ok] at h
  exact h.1

theorem authenticateExactPrerequisites_ok {sha256 : Sha256}
    {tokens : List (VerifiedPrerequisiteV0 sha256)}
    (hc : (case.prerequisites.map (·.prerequisiteId)).Nodup)
    (hv : ∀ prerequisite ∈ case.prerequisites, validatePrerequisite prerequisite = .ok ()) :
    authenticateExactPrerequisites case tokens = .ok () ↔
      (tokens.map (·.entry)).Perm (case.exactPrerequisites.map (·.entry)) := by
  have hcheck : authenticateExactPrerequisites case tokens = .ok () ↔
      ((∀ token ∈ tokens, validateSafeId "verified_prerequisites.prerequisite_id"
        token.prerequisiteId = .ok ()) ∧ (tokens.map (·.prerequisiteId)).Nodup) ∧
      case.exactPrerequisites.length = (suppliedPrerequisites tokens).size ∧
      ∀ prerequisite ∈ case.exactPrerequisites,
        (suppliedPrerequisites tokens)[prerequisite.prerequisiteId]? =
          some prerequisite.identity := by
    simp only [authenticateExactPrerequisites, unit_bind_eq_ok, checkUnique_eq_ok, check_eq_ok,
      forM_eq_ok, authenticatePrerequisite_ok]
    rfl
  rw [hcheck, List.perm_comm, Keyed.perm_iff_mem (exact_entries hc)]
  have hkeys (hn : (tokens.map (·.prerequisiteId)).Nodup) :
      ((tokens.map VerifiedPrerequisiteV0.entry).map Prod.fst).Nodup := by
    rwa [List.map_map]
  constructor
  · rintro ⟨⟨-, hn⟩, hlen, hmem⟩
    rw [suppliedPrerequisites, Keyed.size_ofList (hkeys hn), List.length_map] at hlen
    refine ⟨by rw [List.length_map, List.length_map, hlen], fun e he => ?_⟩
    obtain ⟨prerequisite, hp, rfl⟩ := List.mem_map.mp he
    exact (Keyed.lookup_ofList (hkeys hn)).mp (hmem prerequisite hp)
  · rintro ⟨hlen, hmem⟩
    have hperm := (Keyed.perm_iff_mem (exact_entries hc)).mpr ⟨hlen, hmem⟩
    have hn : (tokens.map (·.prerequisiteId)).Nodup := by
      have := (hperm.map Prod.fst).nodup_iff.mp (by
        rw [List.map_map]
        exact hc.sublist (List.filter_sublist.map _))
      rwa [List.map_map] at this
    refine ⟨⟨fun token ht => ?_, hn⟩, ?_, fun prerequisite hp => ?_⟩
    · obtain ⟨prerequisite, hp, he⟩ := List.mem_map.mp (hperm.mem_iff.mpr
        (List.mem_map.mpr ⟨token, ht, rfl⟩))
      have hid : prerequisite.prerequisiteId = token.prerequisiteId := congrArg Prod.fst he
      rw [← hid]
      exact validateSafeId_field (prerequisite_safeId (hv prerequisite (List.mem_of_mem_filter hp)))
    · rw [suppliedPrerequisites, Keyed.size_ofList (hkeys hn)]
      simpa only [List.length_map] using hlen
    · exact (Keyed.lookup_ofList (hkeys hn)).mpr (hmem _ (List.mem_map.mpr ⟨prerequisite, hp, rfl⟩))

theorem bindDurableState_ok {declared : ExtTreeMap String (String × ArtifactIdentityV0)}
    {state : DurableStateFactV0} :
    bindDurableState declared state = .ok () ↔
      ∃ baseline, declared[state.stateId]? = some (state.schemaId, baseline) ∧
        state.before = some baseline := by
  unfold bindDurableState
  rw [bind_eq_ok]
  simp only [Exec.okOr_eq_ok, unit_bind_eq_ok, check_eq_ok]
  constructor
  · rintro ⟨⟨schemaId, baseline⟩, hd, rfl, hb⟩
    exact ⟨baseline, hd, hb⟩
  · rintro ⟨baseline, hd, hb⟩
    exact ⟨(state.schemaId, baseline), hd, rfl, hb⟩

theorem bindDeclaredState_ok (hc : (case.stateIdentities.map (·.stateId)).Nodup)
    (ho : (observation.projection.durableState.map (·.stateId)).Nodup) :
    bindDeclaredState case observation = .ok () ↔
      (observation.projection.durableState.map (·.entry)).Perm
        (case.stateIdentities.map (·.entry)) := by
  have hkeys : ((case.stateIdentities.map fun state =>
      (state.stateId, state.schemaId, state.baseline.identity)).map Prod.fst).Nodup := by
    rwa [List.map_map]
  have hentries : (observation.projection.durableState.map DurableStateFactV0.entry).Nodup := by
    refine List.Nodup.of_map Prod.fst ?_
    rwa [List.map_map]
  simp only [bindDeclaredState, unit_bind_eq_ok, check_eq_ok, forM_eq_ok, bindDurableState_ok,
    Keyed.size_ofList hkeys, Keyed.lookup_ofList hkeys]
  rw [Keyed.perm_iff_mem hentries, List.forall_mem_map]
  simp only [List.length_map, List.mem_map, StateIdentityV0.entry, DurableStateFactV0.entry,
    Prod.mk.injEq]
  refine and_congr eq_comm (forall₂_congr fun state _ => ?_)
  constructor
  · rintro ⟨baseline, ⟨declared, hd, hid, hs, rfl⟩, hb⟩
    exact ⟨declared, hd, hid, hs, hb.symm⟩
  · rintro ⟨declared, hd, hid, hs, hb⟩
    exact ⟨_, ⟨declared, hd, hid, hs, rfl⟩, hb.symm⟩

/-- The observation and the tokens are bound to the case. IDs are distinct on both sides of each
reordering (`FixtureCaseV0.Valid`), so each is a correspondence by ID. -/
structure Bound {sha256 : Sha256} (manifest : VerticalFixtureManifestV0) (case : FixtureCaseV0)
    (observation : ObservationEnvelopeV0) (tokens : List (VerifiedPrerequisiteV0 sha256)) :
    Prop where
  verticalId : observation.verticalId = manifest.verticalId
  caseId : observation.caseId = case.caseId
  omittedClaims : observation.evidence.omittedClaims = manifest.omittedClaims
  prerequisites : observation.observedPrerequisites.Perm case.prerequisites
  tokens : (tokens.map (·.entry)).Perm (case.exactPrerequisites.map (·.entry))
  states : manifest.verticalId.fixtureClass = .state →
    (observation.projection.durableState.map (·.entry)).Perm (case.stateIdentities.map (·.entry))

theorem bound_iff {sha256 : Sha256} {manifest : VerticalFixtureManifestV0}
    {tokens : List (VerifiedPrerequisiteV0 sha256)} (hm : validateManifest manifest = .ok ())
    (hc : case ∈ manifest.cases) (ho : validateObservation observation = .ok ()) :
    (validateCaseBinding manifest case observation = .ok () ∧
      authenticateExactPrerequisites case tokens = .ok ()) ↔
      Bound manifest case observation tokens := by
  have hmanifest := validateManifest_eq_ok.mp hm
  have hcase := hmanifest.cases case hc
  have hobservation := validateObservation_eq_ok.mp ho
  have hprerequisites := bindObservedPrerequisites_ok hcase.prerequisites_nodup
    hobservation.prerequisites_nodup
  have htokens : authenticateExactPrerequisites case tokens = .ok () ↔ _ :=
    authenticateExactPrerequisites_ok hcase.prerequisites_nodup hcase.prerequisites
  have hstates := bindDeclaredState_ok hcase.states_nodup (observation_states ho)
  have hclass := hmanifest.row
  rw [htokens]
  simp only [validateCaseBinding, unit_bind_eq_ok, check_eq_ok, hprerequisites]
  constructor
  · rintro ⟨⟨hvertical, hcase, homitted, hp, hif⟩, ht⟩
    refine ⟨hvertical, hcase, homitted, hp, ht, fun hs => hstates.mp ?_⟩
    rwa [if_pos (hclass.trans hs)] at hif
  · rintro ⟨hvertical, hcase, homitted, hp, ht, hs⟩
    refine ⟨⟨hvertical, hcase, homitted, hp, ?_⟩, ht⟩
    split
    · rename_i h
      exact hstates.mpr (hs (hclass.symm.trans h))
    · rfl

end Parts

/-! ## Tokens and their streams -/

section Tokens

variable {sha256 : Sha256}

/-- The chunks are a byte stream with the length and the SHA-256 of the identity. -/
structure StreamMatches (sha256 : Sha256) (identity : ArtifactIdentityV0)
    (chunks : List (List UInt8)) : Prop where
  length : identity.length.toNat = chunks.flatten.length
  digest : identity.digest.hex = sha256.finalize (chunks.foldl sha256.update sha256.new)

/-- The digest that is updated with the parts of a stream is the digest of the stream. -/
def Sha256.Streams (sha256 : Sha256) : Prop :=
  ∀ chunks : List (List UInt8),
    sha256.finalize (chunks.foldl sha256.update sha256.new) = sha256.digest chunks.flatten

theorem hashChunks_ok {length l : UInt64} {digest d : sha256.Hasher} {chunks : List (List UInt8)}
    (h : hashChunks sha256 length digest chunks = .ok (l, d)) :
    l.toNat = length.toNat + chunks.flatten.length ∧ d = chunks.foldl sha256.update digest := by
  induction chunks generalizing length digest with
  | nil =>
    obtain ⟨rfl, rfl⟩ : length = l ∧ digest = d := by simpa [hashChunks] using h
    exact ⟨rfl, rfl⟩
  | cons chunk chunks ih =>
    rw [hashChunks, unit_bind_eq_ok, check_eq_ok] at h
    obtain ⟨hlt, h⟩ := h
    obtain ⟨next, hadd, h⟩ := bind_eq_ok.mp h
    have hnext := checkedAdd_eq_some.mp (Exec.okOr_eq_ok.mp hadd)
    rw [UInt64.toNat_ofNat_of_lt' hlt] at hnext
    obtain ⟨hl, rfl⟩ := ih h
    rw [List.flatten_cons, List.length_append]
    exact ⟨by omega, rfl⟩

/-- A token stands for a stream with the length and the digest of its identity. -/
theorem token_stream (token : VerifiedPrerequisiteV0 sha256) :
    ∃ chunks, StreamMatches sha256 token.identity chunks := by
  obtain ⟨chunks, h⟩ := token.verified
  simp only [authenticateChunks, unit_bind_eq_ok] at h
  obtain ⟨⟨length, digest⟩, hhash, h⟩ := bind_eq_ok.mp h.2.2
  simp only [unit_bind_eq_ok, check_eq_ok] at h
  obtain ⟨hlength, rfl⟩ := hashChunks_ok hhash
  refine ⟨chunks, ?_, h.2⟩
  rw [h.1, hlength]
  exact Nat.zero_add _

/-- Each prerequisite that needs a token has one. -/
theorem Bound.streamed {manifest : VerticalFixtureManifestV0} {case : FixtureCaseV0}
    {observation : ObservationEnvelopeV0} {tokens : List (VerifiedPrerequisiteV0 sha256)}
    (h : Bound manifest case observation tokens) {prerequisite : PrerequisiteV0}
    (hp : prerequisite ∈ case.exactPrerequisites) :
    ∃ token ∈ tokens, token.entry = prerequisite.entry ∧
      ∃ chunks, StreamMatches sha256 prerequisite.identity chunks := by
  have hmem := h.tokens.mem_iff.mpr (List.mem_map.mpr ⟨prerequisite, hp, rfl⟩)
  obtain ⟨token, ht, he⟩ := List.mem_map.mp hmem
  have hidentity : token.identity = prerequisite.identity := congrArg Prod.snd he
  exact ⟨token, ht, he, hidentity ▸ token_stream token⟩

end Tokens

/-! ## Accepted observations -/

section Accepted

variable (externals : Externals)

/-- An observation that `validate_baseline` or `compare_candidate` accepted against a case, with
the expected bytes, the tokens, and the source that it was checked against. -/
inductive Accepted (manifest : VerticalFixtureManifestV0) (caseId : String)
    (expectedProjectionBytes : List UInt8)
    (tokens : List (VerifiedPrerequisiteV0 externals.sha256)) :
    GitSourceV0 → ObservationEnvelopeV0 → Prop
  | baseline {case : FixtureCaseV0} {observation : ObservationEnvelopeV0} :
      findCase manifest caseId = .ok case →
      validateBaseline externals manifest caseId expectedProjectionBytes tokens observation =
        .ok () →
      Accepted manifest caseId expectedProjectionBytes tokens case.source observation
  | candidate {source : GitSourceV0} {tree : List UInt8} {observation : ObservationEnvelopeV0} :
      compareCandidate externals manifest caseId expectedProjectionBytes source tree tokens
        observation = .ok () →
      Accepted manifest caseId expectedProjectionBytes tokens source observation

/-- What is known of an accepted observation. -/
structure Frozen (manifest : VerticalFixtureManifestV0) (case : FixtureCaseV0)
    (expectedProjectionBytes : List UInt8)
    (tokens : List (VerifiedPrerequisiteV0 externals.sha256)) (source : GitSourceV0)
    (observation : ObservationEnvelopeV0) : Prop where
  validManifest : validateManifest manifest = .ok ()
  validObservation : validateObservation observation = .ok ()
  bound : Bound manifest case observation tokens
  exactSource : observation.evidence.exactSource = source.productionTree.digest
  digest : case.expectedProjection.digest.hex = externals.sha256.digest expectedProjectionBytes
  projection : externals.projectionFromSlice expectedProjectionBytes = .ok observation.projection

variable {externals} {manifest : VerticalFixtureManifestV0} {caseId : String}
  {case : FixtureCaseV0} {expected expected' : List UInt8}
  {tokens tokens' : List (VerifiedPrerequisiteV0 externals.sha256)}
  {source source' : GitSourceV0} {observation observation' : ObservationEnvelopeV0}

theorem compareProjection_ok :
    compareProjection externals case expected observation = .ok () ↔
      verifyArtifactBytes externals "expected_projection" case.expectedProjection expected =
        .ok () ∧
      externals.projectionFromSlice expected = .ok observation.projection ∧
      validateProjection observation.projection = .ok () := by
  unfold compareProjection
  rw [unit_bind_eq_ok, bind_eq_ok]
  simp only [mapErr_eq_ok, unit_bind_eq_ok, check_eq_ok]
  constructor
  · rintro ⟨hv, _, hp, hval, rfl⟩
    exact ⟨hv, hp, hval⟩
  · rintro ⟨hv, hp, hval⟩
    exact ⟨hv, _, hp, hval, rfl⟩

theorem Accepted.frozen
    (h : Accepted externals manifest caseId expected tokens source observation) :
    ∃ case, findCase manifest caseId = .ok case ∧
      Frozen externals manifest case expected tokens source observation := by
  cases h with
  | @baseline case _ hcase h =>
    simp only [validateBaseline, unit_bind_eq_ok, hcase, ok_bind, check_eq_ok,
      compareProjection_ok, verifyArtifactBytes_ok] at h
    obtain ⟨hm, ho, hb, ht, -, hs, ⟨-, -, hd⟩, hp, -⟩ := h
    exact ⟨case, hcase, hm, ho,
      (bound_iff hm (findCase_eq_ok hcase).1 ho).mp ⟨hb, ht⟩, hs, hd, hp⟩
  | candidate h =>
    rw [compareCandidate, unit_bind_eq_ok, unit_bind_eq_ok] at h
    obtain ⟨hm, ho, h⟩ := h
    obtain ⟨case, hcase, h⟩ := bind_eq_ok.mp h
    simp only [unit_bind_eq_ok, check_eq_ok, compareProjection_ok, verifyArtifactBytes_ok] at h
    obtain ⟨hb, ht, -, -, -, -, hs, ⟨-, -, hd⟩, hp, -⟩ := h
    exact ⟨case, hcase, hm, ho,
      (bound_iff hm (findCase_eq_ok hcase).1 ho).mp ⟨hb, ht⟩, hs, hd, hp⟩

/-- The first revision of a row, as a baseline. -/
theorem relaunch_accepted :
    Accepted relaunchExternals (relaunchManifest .quitRelaunchFakeOwners [profileState])
      "owner.quit_relaunch" relaunchProjectionBytes [relaunchToken] relaunchSource
      (relaunchObservation .quitRelaunchFakeOwners relaunchSource) :=
  .baseline (relaunch_case _ _) relaunch_baseline

/-- A later revision, as a candidate. -/
theorem later_accepted :
    Accepted relaunchExternals (relaunchManifest .quitRelaunchFakeOwners [profileState])
      "owner.quit_relaunch" relaunchProjectionBytes [relaunchToken] laterSource
      (relaunchObservation .quitRelaunchFakeOwners laterSource) := by
  have h : compareCandidate relaunchExternals
      (relaunchManifest .quitRelaunchFakeOwners [profileState]) "owner.quit_relaunch"
      relaunchProjectionBytes laterSource laterTree [relaunchToken]
      (relaunchObservation .quitRelaunchFakeOwners laterSource) = .ok () := by decide +kernel
  exact .candidate h

/-! ## The binding is exact -/

/-- The binding checks accept an observation of a case exactly when it and its tokens are bound to
the case. A token comes only from `verify_prerequisite_chunks`, so in an accepted baseline or
candidate each exact-external prerequisite of the case was matched against a byte stream of the
declared length and SHA-256. -/
theorem binding_exact (externals : Externals) (manifest : VerticalFixtureManifestV0)
    (case : FixtureCaseV0) (observation : ObservationEnvelopeV0)
    (tokens : List (VerifiedPrerequisiteV0 externals.sha256))
    (hm : validateManifest manifest = .ok ()) (hc : case ∈ manifest.cases)
    (ho : validateObservation observation = .ok ()) :
    ((validateCaseBinding manifest case observation = .ok () ∧
      authenticateExactPrerequisites case tokens = .ok ()) ↔
      Bound manifest case observation tokens) ∧
    (∀ expected source,
      Accepted externals manifest case.caseId expected tokens source observation →
      ∀ prerequisite ∈ case.prerequisites, prerequisite.kind = .exactExternalArtifact →
        ∃ token ∈ tokens, token.prerequisiteId = prerequisite.prerequisiteId ∧
          token.identity = prerequisite.identity ∧
          ∃ chunks, StreamMatches externals.sha256 prerequisite.identity chunks ∧
            (externals.sha256.Streams →
              prerequisite.identity.digest.hex = externals.sha256.digest chunks.flatten)) := by
  refine ⟨bound_iff hm hc ho, fun expected source h prerequisite hp hkind => ?_⟩
  obtain ⟨case', hcase', hf⟩ := h.frozen
  obtain rfl : case' = case := by
    obtain ⟨hc', hid⟩ := findCase_eq_ok hcase'
    exact List.inj_on_of_nodup_map (validateManifest_eq_ok.mp hm).cases_nodup hc' hc hid
  have hexact : prerequisite ∈ case'.exactPrerequisites := by
    rw [FixtureCaseV0.exactPrerequisites, List.mem_filter]
    exact ⟨hp, by simpa using hkind⟩
  obtain ⟨token, ht, he, chunks, hs⟩ := hf.bound.streamed hexact
  obtain ⟨hid, hidentity⟩ := Prod.mk.inj he
  exact ⟨token, ht, hid, hidentity, chunks, hs, fun hstreams => hs.digest.trans (hstreams chunks)⟩

/-- The first revision of the row, with the token of its model. -/
theorem binding_exact_relaunch :
    Bound (relaunchManifest .quitRelaunchFakeOwners [profileState]) (relaunchCase [profileState])
        (relaunchObservation .quitRelaunchFakeOwners relaunchSource) [relaunchToken] ∧
      ∃ chunks, StreamMatches relaunchExternals.sha256 relaunchPrerequisite.identity chunks := by
  obtain ⟨case, hcase, hf⟩ := relaunch_accepted.frozen
  obtain rfl := Except.ok.inj ((relaunch_case _ _).symm.trans hcase)
  have h := binding_exact relaunchExternals _ (relaunchCase [profileState]) _ [relaunchToken]
    hf.validManifest (by decide) hf.validObservation
  obtain ⟨-, -, -, -, chunks, hs, -⟩ := h.2 relaunchProjectionBytes relaunchSource
    relaunch_accepted relaunchPrerequisite (by decide) rfl
  exact ⟨h.1.mp (h.1.mpr hf.bound), chunks, hs⟩

/-! ## Frozen behaviour -/

/-- Two observations that were accepted against one case, each on either path and with its own
bytes, tokens and source, agree on all that the case freezes, unless SHA-256 collides on the two
expected projections. -/
theorem frozen_unique
    (h : Accepted externals manifest caseId expected tokens source observation)
    (h' : Accepted externals manifest caseId expected' tokens' source' observation')
    (hcollide : externals.sha256.digest expected = externals.sha256.digest expected' →
      expected = expected') :
    observation.projection = observation'.projection ∧
      observation.evidence.omittedClaims = observation'.evidence.omittedClaims ∧
      observation.observedPrerequisites.Perm observation'.observedPrerequisites ∧
      observation.evidence.exactSource = source.productionTree.digest ∧
      observation'.evidence.exactSource = source'.productionTree.digest := by
  obtain ⟨case, hcase, hf⟩ := h.frozen
  obtain ⟨case', hcase', hf'⟩ := h'.frozen
  obtain rfl : case = case' := Except.ok.inj (hcase.symm.trans hcase')
  obtain rfl := hcollide (hf.digest.symm.trans hf'.digest)
  exact ⟨Except.ok.inj (hf.projection.symm.trans hf'.projection),
    hf.bound.omittedClaims.trans hf'.bound.omittedClaims.symm,
    hf.bound.prerequisites.trans hf'.bound.prerequisites.symm, hf.exactSource, hf'.exactSource⟩

/-- The two revisions of the row, one on each path. -/
theorem frozen_unique_relaunch :
    (relaunchObservation .quitRelaunchFakeOwners relaunchSource).projection =
      (relaunchObservation .quitRelaunchFakeOwners laterSource).projection :=
  (frozen_unique relaunch_accepted later_accepted fun _ => rfl).1

/-! ## Declared states -/

/-- Each state that the case declares is in the observation, with its schema and its baseline. -/
def StatesBound (case : FixtureCaseV0) (observation : ObservationEnvelopeV0) : Prop :=
  ∀ state ∈ case.stateIdentities, ∃ fact ∈ observation.projection.durableState,
    fact.stateId = state.stateId ∧ fact.schemaId = state.schemaId ∧
      fact.before = some state.baseline.identity

/-- On a model-free row the states are not compared: an accepted observation may lack one. -/
theorem declared_unbound :
    findCase (relaunchManifest .quitRelaunchFakeOwners [profileState]) "owner.quit_relaunch" =
        .ok (relaunchCase [profileState]) ∧
      validateBaseline relaunchExternals (relaunchManifest .quitRelaunchFakeOwners [profileState])
        "owner.quit_relaunch" relaunchProjectionBytes [relaunchToken]
        (relaunchObservation .quitRelaunchFakeOwners relaunchSource) = .ok () ∧
      ¬StatesBound (relaunchCase [profileState])
        (relaunchObservation .quitRelaunchFakeOwners relaunchSource) := by
  refine ⟨relaunch_case _ _, relaunch_baseline, fun h => ?_⟩
  obtain ⟨fact, hfact, hid, -⟩ := h profileState (by decide)
  obtain rfl := List.mem_singleton.mp hfact
  exact absurd hid (by decide)

/-- On a state row each state that the case declares is bound. -/
theorem declared_bound (hclass : manifest.verticalId.fixtureClass = .state)
    (hcase : findCase manifest caseId = .ok case)
    (h : Accepted externals manifest caseId expected tokens source observation) :
    StatesBound case observation := by
  obtain ⟨case', hcase', hf⟩ := h.frozen
  obtain rfl : case' = case := Except.ok.inj (hcase'.symm.trans hcase)
  intro state hs
  have hmem := (hf.bound.states hclass).mem_iff.mpr (List.mem_map.mpr ⟨state, hs, rfl⟩)
  obtain ⟨fact, hfact, he⟩ := List.mem_map.mp hmem
  obtain ⟨hid, hschema, hbefore⟩ := by
    simpa only [DurableStateFactV0.entry, StateIdentityV0.entry, Prod.mk.injEq] using he
  exact ⟨fact, hfact, hid, hschema, hbefore⟩

/-- The state row with the state that its projection has. -/
theorem declared_bound_relaunch :
    StatesBound (relaunchCase [queueState])
      (relaunchObservation .corruptedDisposableCaches relaunchSource) := by
  have h : validateBaseline relaunchExternals
      (relaunchManifest .corruptedDisposableCaches [queueState]) "owner.quit_relaunch"
      relaunchProjectionBytes [relaunchToken]
      (relaunchObservation .corruptedDisposableCaches relaunchSource) = .ok () := by decide +kernel
  exact declared_bound rfl (relaunch_case _ _) (.baseline (relaunch_case _ _) h)

end Accepted

end Vertical
end Platform
