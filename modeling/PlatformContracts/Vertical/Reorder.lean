import PlatformContracts.Lib.Keyed
import PlatformContracts.Lib.Reorder
import PlatformContracts.Vertical.Candidate

/-!
# Manifests in another order

* `VerticalFixtureManifestV0.Reordered`: the lists of a manifest in another order, at every depth.
* `FixtureCaseV0.Listed`: the IDs of a case are distinct, and what its row requires is there once.
* `validateManifest_reordered`: the verdict does not depend on the order. A prerequisite is looked
  up by its first match, before the IDs are known to be distinct: an accepted case has one match.
-/

namespace Platform
namespace Vertical

open Contracts

/-! ## Recipes and cases -/

/-- The environment of the recipe in another order. -/
structure ReplayRecipeV0.Reordered (replay replay' : ReplayRecipeV0) : Prop where
  program : replay.program = replay'.program
  argv : replay.argv = replay'.argv
  requiredEnvironment : replay.requiredEnvironment.Perm replay'.requiredEnvironment
  network : replay.network = replay'.network

/-- The lists of the case in another order. -/
structure FixtureCaseV0.Reordered (case case' : FixtureCaseV0) : Prop where
  caseId : case.caseId = case'.caseId
  source : case.source = case'.source
  inputs : case.inputs.Perm case'.inputs
  stateIdentities : case.stateIdentities.Perm case'.stateIdentities
  prerequisites : case.prerequisites.Perm case'.prerequisites
  replay : Platform.Reordered ReplayRecipeV0.Reordered case.replay case'.replay
  expectedProjection : case.expectedProjection = case'.expectedProjection

/-- The lists of the manifest in another order, with those of its cases. -/
structure VerticalFixtureManifestV0.Reordered (manifest manifest' : VerticalFixtureManifestV0) :
    Prop where
  schema : manifest.schema = manifest'.schema
  verticalId : manifest.verticalId = manifest'.verticalId
  fixtureClass : manifest.fixtureClass = manifest'.fixtureClass
  contractRevision : manifest.contractRevision = manifest'.contractRevision
  cases : Platform.Reordered FixtureCaseV0.Reordered manifest.cases manifest'.cases
  omittedClaims : manifest.omittedClaims.Perm manifest'.omittedClaims
  negativeEvidence : manifest.negativeEvidence.Perm manifest'.negativeEvidence

theorem validateReplay_reordered {replay replay' : ReplayRecipeV0}
    (h : replay.Reordered replay') :
    validateReplay replay = .ok () ↔ validateReplay replay' = .ok () := by
  simp only [validateReplay, unit_bind_eq_ok]
  rw [h.program, h.argv, checkUnique_perm h.requiredEnvironment]

/-! ## Required prerequisites -/

/-- With distinct IDs, the first match is the only one. -/
theorem validateRowPrerequisites_reordered {verticalId : VerticalIdV0}
    {case case' : FixtureCaseV0} (h : case.Reordered case')
    (hn : (case.prerequisites.map (·.prerequisiteId)).Nodup) :
    validateRowPrerequisites verticalId case = .ok () ↔
      validateRowPrerequisites verticalId case' = .ok () := by
  have hrequire : ∀ prerequisiteId kind, requirePrerequisite case prerequisiteId kind =
      requirePrerequisite case' prerequisiteId kind := by
    intro prerequisiteId kind
    unfold requirePrerequisite
    rw [Keyed.find_perm h.prerequisites hn]
  rw [validateRowPrerequisites_iff, validateRowPrerequisites_iff]
  simp only [hrequire, ne_eq, (Reordered.of_perm h.stateIdentities).eq_nil_iff]

/-! ## The IDs of a case -/

/-- The IDs of the case are distinct, and each prerequisite that its row requires is there once,
with its kind and a length. -/
structure FixtureCaseV0.Listed (verticalId : VerticalIdV0) (case : FixtureCaseV0) : Prop where
  inputs : (case.inputs.map (·.identity.id)).Nodup
  states : (case.stateIdentities.map (·.stateId)).Nodup
  prerequisites : (case.prerequisites.map (·.prerequisiteId)).Nodup
  required : ∀ r ∈ requiredPrerequisites verticalId,
    case.prerequisites.countP (·.prerequisiteId = r.1) = 1 ∧
      ∀ prerequisite ∈ case.prerequisites, prerequisite.prerequisiteId = r.1 →
        prerequisite.kind = r.2 ∧ prerequisite.identity.length ≠ 0

theorem requirePrerequisite_once {case : FixtureCaseV0} {prerequisiteId : String}
    {kind : PrerequisiteKindV0} (hn : (case.prerequisites.map (·.prerequisiteId)).Nodup)
    (h : requirePrerequisite case prerequisiteId kind = .ok ()) :
    case.prerequisites.countP (·.prerequisiteId = prerequisiteId) = 1 ∧
      ∀ prerequisite ∈ case.prerequisites, prerequisite.prerequisiteId = prerequisiteId →
        prerequisite.kind = kind ∧ prerequisite.identity.length ≠ 0 := by
  obtain ⟨prerequisite, hmem, rfl, hkind, hlen⟩ := requirePrerequisite_ok h
  constructor
  · have hcount := List.count_eq_one_of_mem hn (List.mem_map_of_mem hmem)
    rwa [List.count, List.countP_map] at hcount
  · intro other hother hid
    rw [List.inj_on_of_nodup_map hn hother hmem hid]
    exact ⟨hkind, hlen⟩

theorem FixtureCaseV0.Valid.listed {verticalId : VerticalIdV0} {case : FixtureCaseV0}
    (h : case.Valid verticalId) : case.Listed verticalId where
  inputs := h.inputs_nodup
  states := h.states_nodup
  prerequisites := h.prerequisites_nodup
  required r hr :=
    requirePrerequisite_once h.prerequisites_nodup ((validateRowPrerequisites_iff.mp h.row).1 r hr)

/-! ## The verdict in another order -/

theorem validateCase_reordered {verticalId : VerticalIdV0} {case case' : FixtureCaseV0}
    (h : case.Reordered case') :
    validateCase verticalId case = .ok () ↔ validateCase verticalId case' = .ok () := by
  have hids := (h.prerequisites.map (·.prerequisiteId)).nodup_iff
  by_cases hn : (case.prerequisites.map (·.prerequisiteId)).Nodup
  · have hreplay := forM_reordered h.replay fun _ _ => validateReplay_reordered
    simp only [validateCase, validateUniqueById, unit_bind_eq_ok, check_eq_ok, ne_eq]
    rw [h.caseId, h.source, (Reordered.of_perm h.inputs).eq_nil_iff, checkUnique_perm h.inputs,
      validateRowPrerequisites_reordered h hn, checkUnique_perm h.stateIdentities,
      checkUnique_perm h.prerequisites, h.replay.eq_nil_iff, hreplay, h.expectedProjection]
  · exact iff_of_false (fun hok => hn (validateCase_eq_ok.mp hok).prerequisites_nodup)
      fun hok => hn (hids.mpr (validateCase_eq_ok.mp hok).prerequisites_nodup)

/-- A manifest is accepted in any order of its lists, and of those of its cases. In an accepted
one the IDs are distinct, and what the row requires is there once. -/
theorem validateManifest_reordered {manifest manifest' : VerticalFixtureManifestV0}
    (h : manifest.Reordered manifest') :
    (validateManifest manifest = .ok () ↔ validateManifest manifest' = .ok ()) ∧
      (validateManifest manifest = .ok () → (manifest.cases.map (·.caseId)).Nodup ∧
        ∀ case ∈ manifest.cases, case.Listed manifest.verticalId) := by
  refine ⟨?_, fun hok => ?_⟩
  swap
  · have hvalid := validateManifest_eq_ok.mp hok
    exact ⟨hvalid.cases_nodup, fun case hc => (hvalid.cases case hc).listed⟩
  have hcases : checkUnique (validateCase manifest'.verticalId) (·.caseId)
      (.duplicate "cases.case_id") manifest.cases = .ok () ↔
      checkUnique (validateCase manifest'.verticalId) (·.caseId)
        (.duplicate "cases.case_id") manifest'.cases = .ok () :=
    checkUnique_reordered h.cases (fun _ _ => validateCase_reordered) fun _ _ hc => hc.caseId
  have hhosted : (manifest.cases.any fun case => case.prerequisites ≠ []) =
      manifest'.cases.any fun case => case.prerequisites ≠ [] :=
    h.cases.any_eq fun _ _ hc =>
      decide_eq_decide.mpr (not_congr (Reordered.of_perm hc.prerequisites).eq_nil_iff)
  simp only [validateManifest, validateUniqueText, unit_bind_eq_ok, check_eq_ok, ne_eq]
  rw [h.schema, h.fixtureClass, h.verticalId, h.contractRevision, h.cases.eq_nil_iff, hcases,
    checkUnique_perm h.omittedClaims, checkUnique_perm h.negativeEvidence,
    h.omittedClaims.mem_iff, hhosted]

def parakeetCase (caseId : String) (prerequisiteIds requiredEnvironment : List String) :
    FixtureCaseV0 :=
  { relaunchCase [] with
    caseId := caseId
    prerequisites := prerequisiteIds.map fun prerequisiteId =>
      { relaunchPrerequisite with prerequisiteId }
    replay := [⟨.cargo, ["test"], requiredEnvironment, .denied⟩] }

def parakeetManifest (cases : List FixtureCaseV0) : VerticalFixtureManifestV0 :=
  { relaunchManifest .currentParakeetModelAudio [] with cases }

def parakeetCases : List FixtureCaseV0 :=
  [parakeetCase "speech.short" [parakeetModelPrerequisite, parakeetAudioPrerequisite]
      ["HOME", "PATH"],
    parakeetCase "speech.long" [parakeetModelPrerequisite, parakeetAudioPrerequisite] []]

/-- The cases, the prerequisites and the environment in another order. -/
def parakeetCases' : List FixtureCaseV0 :=
  [parakeetCase "speech.long" [parakeetAudioPrerequisite, parakeetModelPrerequisite] [],
    parakeetCase "speech.short" [parakeetAudioPrerequisite, parakeetModelPrerequisite]
      ["PATH", "HOME"]]

theorem parakeetCase_reordered (caseId first second : String)
    {environment environment' : List String} (h : environment.Perm environment') :
    (parakeetCase caseId [first, second] environment).Reordered
      (parakeetCase caseId [second, first] environment') where
  caseId := rfl
  source := rfl
  inputs := .refl _
  stateIdentities := .refl _
  prerequisites := .swap ..
  replay := ⟨[⟨.cargo, ["test"], environment', .denied⟩], .cons ⟨rfl, rfl, h, rfl⟩ .nil, .refl _⟩
  expectedProjection := rfl

theorem validateManifest_reordered_parakeet :
    (validateManifest (parakeetManifest parakeetCases) = .ok () ↔
      validateManifest (parakeetManifest parakeetCases') = .ok ()) ∧
      (validateManifest (parakeetManifest parakeetCases) = .ok () →
        (parakeetCases.map (·.caseId)).Nodup ∧
          ∀ case ∈ parakeetCases, case.Listed .currentParakeetModelAudio) :=
  validateManifest_reordered {
    schema := rfl
    verticalId := rfl
    fixtureClass := rfl
    contractRevision := rfl
    cases := ⟨_, .cons (parakeetCase_reordered _ _ _ (.swap ..))
      (.cons (parakeetCase_reordered _ _ _ .nil) .nil), .swap ..⟩
    omittedClaims := .refl _
    negativeEvidence := .refl _ }

end Vertical
end Platform
