import PlatformContracts.Vertical.Candidate

/-!
# Omitted claims of a manifest and of its observations

`validate_case_binding` wants the omitted claims of an observation to be those of the manifest.
Two crates check the one list: `validate_unique_text` in a manifest, up to 4096 bytes a claim, and
`validate_unique_nonempty` in the evidence of an observation, up to 2048 bytes.

* `validateManifest_omitted`, `EvidenceClaimV0.validate_omitted`: what each accepts.
* `omissions_observable`: the list of an accepted manifest can be observed exactly when no claim
  is longer than 2048 bytes.
-/

namespace Platform
namespace Vertical

open Contracts

section Omissions

variable {manifest : VerticalFixtureManifestV0}

theorem validateManifest_omitted (h : validateManifest manifest = .ok ()) :
    (∀ omitted ∈ manifest.omittedClaims, bytes omitted ≠ []) ∧ manifest.omittedClaims.Nodup := by
  have homitted := (validateManifest_eq_ok.mp h).omitted
  rw [validateUniqueText, checkUnique_eq_ok, List.map_id] at homitted
  obtain ⟨hall, hn⟩ := homitted
  refine ⟨fun omitted ho => ?_, hn⟩
  have htext := hall omitted ho
  simp only [validateText, unit_bind_eq_ok, check_eq_ok] at htext
  exact htext.1

theorem validateUniqueNonempty_ok {field : String} {values : List String} :
    validateUniqueNonempty field values = .ok () ↔
      (∀ value ∈ values, bytes value ≠ [] ∧ (bytes value).length ≤ 2048) ∧ values.Nodup := by
  simp only [validateUniqueNonempty, checkUnique_eq_ok, validateNonemptyBounded, unit_bind_eq_ok,
    check_eq_ok, List.map_id]

/-- A claim with the omitted claims of an accepted manifest is valid when it is otherwise valid
and they are short. -/
theorem validate_omitted (h : validateManifest manifest = .ok ()) {claim : EvidenceClaimV0}
    (ho : claim.omittedClaims = manifest.omittedClaims) :
    claim.validate = .ok () ↔ ({ claim with omittedClaims := [] }).validate = .ok () ∧
      ∀ omitted ∈ manifest.omittedClaims, (bytes omitted).length ≤ 2048 := by
  obtain ⟨hne, hn⟩ := validateManifest_omitted h
  simp only [EvidenceClaimV0.validate, unit_bind_eq_ok, validateUniqueNonempty_ok, ho]
  constructor
  · rintro ⟨hs, ht, he, hr, ⟨hall, -⟩, hrest⟩
    exact ⟨⟨hs, ht, he, hr, ⟨by simp, .nil⟩, hrest⟩, fun omitted hm => (hall omitted hm).2⟩
  · rintro ⟨⟨hs, ht, he, hr, -, hrest⟩, hshort⟩
    exact ⟨hs, ht, he, hr, ⟨fun omitted hm => ⟨hne omitted hm, hshort omitted hm⟩, hn⟩, hrest⟩

/-- The observation of a revision, with other omitted claims. -/
def omittingObservation (omittedClaims : List String) : ObservationEnvelopeV0 :=
  let observation := relaunchObservation .quitRelaunchFakeOwners relaunchSource
  { observation with evidence := { observation.evidence with omittedClaims } }

theorem omittingObservation_nil : validateObservation (omittingObservation []) = .ok () := by
  decide +kernel

/-- Omitted claims that are valid in evidence are in a valid observation. -/
theorem omittingObservation_ok {omittedClaims : List String}
    (h : (omittingObservation omittedClaims).evidence.validate = .ok ()) :
    validateObservation (omittingObservation omittedClaims) = .ok () := by
  have hvalid := validateObservation_eq_ok.mp omittingObservation_nil
  exact validateObservation_eq_ok.mpr { hvalid with evidence := h }

theorem omitting_otherwise (omittedClaims : List String) :
    ({ (omittingObservation omittedClaims).evidence with omittedClaims := [] }).validate =
      .ok () :=
  (validateObservation_eq_ok.mp omittingObservation_nil).evidence

/-- Every claim that repeats the omitted claims of an accepted manifest and is otherwise valid is
valid, exactly when no omitted claim is longer than 2048 bytes; and exactly then some observation
that repeats them is accepted. -/
theorem omissions_observable (manifest : VerticalFixtureManifestV0)
    (h : validateManifest manifest = .ok ()) :
    ((∀ claim : EvidenceClaimV0, claim.omittedClaims = manifest.omittedClaims →
        ({ claim with omittedClaims := [] }).validate = .ok () → claim.validate = .ok ()) ↔
      ∀ omitted ∈ manifest.omittedClaims, (bytes omitted).length ≤ 2048) ∧
    ((∃ observation : ObservationEnvelopeV0,
        observation.evidence.omittedClaims = manifest.omittedClaims ∧
          validateObservation observation = .ok ()) ↔
      ∀ omitted ∈ manifest.omittedClaims, (bytes omitted).length ≤ 2048) := by
  constructor
  · constructor
    · intro hall
      have hclaim := hall (omittingObservation manifest.omittedClaims).evidence rfl
        (omitting_otherwise _)
      exact ((validate_omitted h rfl).mp hclaim).2
    · intro hshort claim ho hother
      exact (validate_omitted h ho).mpr ⟨hother, hshort⟩
  · constructor
    · rintro ⟨observation, ho, hvalid⟩
      have hevidence := (validateObservation_eq_ok.mp hvalid).evidence
      exact ((validate_omitted h ho).mp hevidence).2
    · intro hshort
      exact ⟨omittingObservation manifest.omittedClaims, rfl, omittingObservation_ok
        ((validate_omitted h rfl).mpr ⟨omitting_otherwise _, hshort⟩)⟩

theorem relaunchManifest_profile :
    validateManifest (relaunchManifest .quitRelaunchFakeOwners [profileState]) = .ok () := by
  have h := relaunch_baseline
  rw [validateBaseline, unit_bind_eq_ok] at h
  exact h.1

theorem omissions_observable_relaunch :
    ∃ observation : ObservationEnvelopeV0,
      observation.evidence.omittedClaims = [liveHostedProviderOmission] ∧
        validateObservation observation = .ok () :=
  (omissions_observable (relaunchManifest .quitRelaunchFakeOwners [profileState])
    relaunchManifest_profile).2.mpr fun omitted ho => by
      obtain rfl := List.mem_singleton.mp ho
      decide

theorem bytes_replicate (n : Nat) :
    bytes (String.ofList (List.replicate n 'a')) = List.replicate n 0x61 := by
  have hchar : String.utf8EncodeChar 'a' = [0x61] := by decide
  rw [bytes_ofList]
  induction n with
  | zero => rfl
  | succ n ih => rw [List.replicate_succ, List.flatMap_cons, ih, hchar]; rfl

/-- One byte more than evidence allows. -/
def longClaim : String := String.ofList (List.replicate 2049 'a')

theorem bytes_longClaim : bytes longClaim = List.replicate 2049 0x61 := bytes_replicate 2049

def longManifest : VerticalFixtureManifestV0 :=
  { relaunchManifest .quitRelaunchFakeOwners [profileState] with omittedClaims := [longClaim] }

/-- Outside the hosted row, a manifest may omit any claims. -/
theorem VerticalFixtureManifestV0.Valid.omitting (h : manifest.Valid)
    (hrow : manifest.verticalId ≠ .fteHostedFixtureLoopback) {omittedClaims : List String}
    (ho : validateUniqueText "omitted_claims" omittedClaims = .ok ()) :
    ({ manifest with omittedClaims } : VerticalFixtureManifestV0).Valid :=
  { h with omitted := ho, hosted_omission := fun hosted => hrow hosted.1 }

theorem longManifest_ok : validateManifest longManifest = .ok () := by
  have h := validateManifest_eq_ok.mp relaunchManifest_profile
  refine validateManifest_eq_ok.mpr (h.omitting (by decide) ?_)
  rw [validateUniqueText, checkUnique_eq_ok]
  refine ⟨fun omitted ho => ?_, List.nodup_singleton longClaim⟩
  obtain rfl : omitted = longClaim := List.mem_singleton.mp ho
  simp only [validateText, unit_bind_eq_ok, check_eq_ok, bytes_longClaim, List.length_replicate]
  refine ⟨fun hnil => ?_, by decide, fun hzero => ?_⟩
  · rw [List.replicate_eq_nil_iff] at hnil
    omega
  · exact absurd (List.eq_of_mem_replicate hzero) (by decide)

/-- An accepted manifest whose omitted claims no valid evidence repeats. -/
theorem omissions_unobservable :
    validateManifest longManifest = .ok () ∧
      (omittingObservation [longClaim]).evidence.omittedClaims = longManifest.omittedClaims ∧
      ({ (omittingObservation [longClaim]).evidence with omittedClaims := [] }).validate =
        .ok () ∧
      (omittingObservation [longClaim]).evidence.validate ≠ .ok () := by
  refine ⟨longManifest_ok, rfl, omitting_otherwise _, fun h => ?_⟩
  have hshort := ((validate_omitted longManifest_ok rfl).mp h).2 longClaim List.mem_cons_self
  rw [bytes_longClaim, List.length_replicate] at hshort
  omega

end Omissions

end Vertical
end Platform
