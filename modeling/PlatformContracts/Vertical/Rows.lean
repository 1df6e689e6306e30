import PlatformContracts.Lib.Keyed
import PlatformContracts.Vertical.Baseline

/-!
# Rows (`validate_row_baselines` of `platform-vertical-fixtures-v0/src/validation.rs`)

* `CaseBaselineV0`, `rowLoop`, `validateRowBaselines`.
* `rowLoop_ok`: what the loop accepts; `rowLoop_perm`: with as many cases as the manifest, it
  meets each case of the manifest once.
* `row_completeness`: a row is accepted exactly when its cases are the manifest's, each once, and
  each is accepted.
-/

namespace Platform
namespace Vertical

structure CaseBaselineV0 (sha256 : Sha256) where
  expectedProjectionBytes : List UInt8
  verifiedPrerequisites : List (VerifiedPrerequisiteV0 sha256)
  observation : ObservationEnvelopeV0

section Rows

variable (externals : Externals) (manifest : VerticalFixtureManifestV0)

/-- The case that an element of a row claims to be about. -/
def CaseBaselineV0.caseId {sha256 : Sha256} (case : CaseBaselineV0 sha256) : String :=
  case.observation.caseId

/-- `validate_baseline` of an element of a row. -/
def CaseBaselineV0.validate (case : CaseBaselineV0 externals.sha256) : Validated :=
  validateBaseline externals manifest case.caseId case.expectedProjectionBytes
    case.verifiedPrerequisites case.observation

def manifestCaseIds : Finset String := (manifest.cases.map (·.caseId)).toFinset

/-- The loop over the cases, with the set of the case IDs that it saw. -/
def rowLoop (cases : List (CaseBaselineV0 externals.sha256)) :
    Except ValidationError (Finset String) :=
  forUnique (fun _ => pure ()) (·.caseId) (.duplicate "row_baselines.case_id")
    (fun case => do
      check (case.caseId ∈ manifestCaseIds manifest) (.missingCase case.caseId)
      case.validate externals manifest)
    ∅ cases

def validateRowBaselines (cases : List (CaseBaselineV0 externals.sha256)) : Validated := do
  validateManifest manifest
  check (cases.length = manifest.cases.length) (.inconsistent "row_baselines.cases")
  let observedCaseIds ← rowLoop externals manifest cases
  check (observedCaseIds = manifestCaseIds manifest) (.inconsistent "row_baselines.cases")

variable {externals manifest} {cases : List (CaseBaselineV0 externals.sha256)}

theorem mem_manifestCaseIds {caseId : String} :
    caseId ∈ manifestCaseIds manifest ↔ caseId ∈ manifest.cases.map (·.caseId) := by
  rw [manifestCaseIds, List.mem_toFinset]

/-- The loop accepts elements about different cases of the manifest that are accepted. -/
theorem rowLoop_ok {ids : Finset String} :
    rowLoop externals manifest cases = .ok ids ↔
      (∀ case ∈ cases, case.caseId ∈ manifest.cases.map (·.caseId) ∧
        case.validate externals manifest = .ok ()) ∧
      (cases.map (·.caseId)).Nodup ∧ ids = (cases.map (·.caseId)).toFinset := by
  unfold rowLoop
  simp only [forUnique_eq_ok, unit_bind_eq_ok, check_eq_ok, mem_manifestCaseIds,
    Finset.notMem_empty, not_false_eq_true, true_and, Finset.empty_union, pure, Except.pure]

/-- Different cases of the manifest, and as many as it has, are its cases in some order. -/
theorem caseIds_perm (hn : (cases.map (·.caseId)).Nodup)
    (hmem : ∀ case ∈ cases, case.caseId ∈ manifest.cases.map (·.caseId))
    (hlen : cases.length = manifest.cases.length) :
    (cases.map (·.caseId)).Perm (manifest.cases.map (·.caseId)) := by
  refine (Keyed.perm_iff_mem hn).mpr ⟨by rw [List.length_map, List.length_map, hlen], ?_⟩
  intro caseId h
  obtain ⟨case, hc, rfl⟩ := List.mem_map.mp h
  exact hmem case hc

/-- Once the loop has finished, the set that it saw is the manifest's. -/
theorem rowLoop_caseIds {ids : Finset String} (hlen : cases.length = manifest.cases.length)
    (h : rowLoop externals manifest cases = .ok ids) : ids = manifestCaseIds manifest := by
  obtain ⟨hcases, hn, rfl⟩ := rowLoop_ok.mp h
  exact List.toFinset_eq_of_perm _ _ (caseIds_perm hn (fun case hc => (hcases case hc).1) hlen)

theorem validateRowBaselines_ok :
    validateRowBaselines externals manifest cases = .ok () ↔
      validateManifest manifest = .ok () ∧
      (cases.map (·.caseId)).Perm (manifest.cases.map (·.caseId)) ∧
      ∀ case ∈ cases, case.validate externals manifest = .ok () := by
  unfold validateRowBaselines
  rw [unit_bind_eq_ok, unit_bind_eq_ok, check_eq_ok, bind_eq_ok]
  simp only [check_eq_ok]
  constructor
  · rintro ⟨hm, hlen, ids, hloop, -⟩
    obtain ⟨hcases, hn, -⟩ := rowLoop_ok.mp hloop
    exact ⟨hm, caseIds_perm hn (fun case hc => (hcases case hc).1) hlen,
      fun case hc => (hcases case hc).2⟩
  · rintro ⟨hm, hperm, hcases⟩
    have hlen : cases.length = manifest.cases.length := by
      simpa only [List.length_map] using hperm.length_eq
    have hloop : rowLoop externals manifest cases = .ok (cases.map (·.caseId)).toFinset :=
      rowLoop_ok.mpr ⟨fun case hc =>
        ⟨hperm.subset (List.mem_map.mpr ⟨case, hc, rfl⟩), hcases case hc⟩,
        hperm.nodup_iff.mpr (validateManifest_eq_ok.mp hm).cases_nodup, rfl⟩
    exact ⟨hm, hlen, _, hloop, rowLoop_caseIds hlen hloop⟩

/-- A row is accepted exactly when the manifest is, its elements are about the cases of the
manifest, each once, and each element is accepted. So the order of the elements does not matter,
every case of the manifest is met once and no other, and the last comparison rejects nothing. -/
theorem row_completeness (externals : Externals) (manifest : VerticalFixtureManifestV0)
    (cases : List (CaseBaselineV0 externals.sha256)) :
    (validateRowBaselines externals manifest cases = .ok () ↔
      validateManifest manifest = .ok () ∧
      (cases.map (·.observation.caseId)).Perm (manifest.cases.map (·.caseId)) ∧
      ∀ case ∈ cases, validateBaseline externals manifest case.observation.caseId
        case.expectedProjectionBytes case.verifiedPrerequisites case.observation = .ok ()) ∧
    (∀ cases', cases.Perm cases' → (validateRowBaselines externals manifest cases = .ok () ↔
      validateRowBaselines externals manifest cases' = .ok ())) ∧
    (validateRowBaselines externals manifest cases = .ok () →
      ∀ caseId, (cases.map (·.observation.caseId)).count caseId =
        if caseId ∈ manifest.cases.map (·.caseId) then 1 else 0) ∧
    (cases.length = manifest.cases.length → ∀ ids,
      rowLoop externals manifest cases = .ok ids → ids = manifestCaseIds manifest) := by
  refine ⟨validateRowBaselines_ok, fun cases' hp => ?_, fun h caseId => ?_,
    fun hlen _ => rowLoop_caseIds hlen⟩
  · rw [validateRowBaselines_ok, validateRowBaselines_ok]
    have hids := hp.map CaseBaselineV0.caseId
    exact and_congr_right fun _ => and_congr
      ⟨fun h => hids.symm.trans h, fun h => hids.trans h⟩
      ⟨fun h case hc => h case (hp.mem_iff.mpr hc), fun h case hc => h case (hp.mem_iff.mp hc)⟩
  · obtain ⟨hm, hperm, -⟩ := validateRowBaselines_ok.mp h
    have hcount := hperm.count_eq caseId
    have hn := (validateManifest_eq_ok.mp hm).cases_nodup
    split
    · rename_i hmem
      exact hcount.trans (List.count_eq_one_of_mem hn hmem)
    · rename_i hmem
      exact hcount.trans (List.count_eq_zero_of_not_mem hmem)

end Rows

end Vertical
end Platform
