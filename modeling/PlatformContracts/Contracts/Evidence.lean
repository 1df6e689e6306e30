import PlatformContracts.Contracts.Basic

/-!
# Evidence claims (`platform-contracts-v0/src/evidence.rs`)

`EvidenceClaimV0` and its `validate`; `EvidenceClaimV0.validate_eq_ok`: what a valid claim is.
-/

namespace Platform
namespace Contracts

def evidenceSchemaV0 : String := "delysis.evidence_claim.v0"

inductive EvidenceTier where
  | operational
  | reproducible
  | researchEligible
  | externallyAttested
  deriving DecidableEq, Repr

inductive ExecutionKind where
  | fixture
  | localRuntime
  | hostedNetwork
  deriving DecidableEq, Repr

structure EvidenceClaimV0 where
  schema : String
  tier : EvidenceTier
  threatModel : String
  exactSource : ContentDigest
  exactRuntimeOrArtifact : ContentDigest
  executionKind : ExecutionKind
  omittedClaims : List String
  negativeEvidence : List String
  deriving DecidableEq, Repr

def validateUniqueNonempty (field : String) (values : List String) : Except ContractError Unit :=
  checkUnique (fun value => validateNonemptyBounded field value 2048) id (.duplicate field) values

def EvidenceClaimV0.validate (claim : EvidenceClaimV0) : Except ContractError Unit := do
  check (claim.schema = evidenceSchemaV0) (.invalid "schema")
  validateNonemptyBounded "threat_model" claim.threatModel 4096
  mapErr (fun _ => .invalid "exact_source") claim.exactSource.validate
  mapErr (fun _ => .invalid "exact_runtime_or_artifact") claim.exactRuntimeOrArtifact.validate
  validateUniqueNonempty "omitted_claims" claim.omittedClaims
  validateUniqueNonempty "negative_evidence" claim.negativeEvidence
  check (¬(claim.tier = .researchEligible ∨ claim.tier = .externallyAttested))
    (.inconsistent "tier")

theorem validateUniqueNonempty_eq_ok {field : String} {values : List String} :
    validateUniqueNonempty field values = .ok () ↔
      (∀ value ∈ values, validateNonemptyBounded field value 2048 = .ok ()) ∧ values.Nodup := by
  rw [validateUniqueNonempty, checkUnique_eq_ok, List.map_id]

theorem EvidenceClaimV0.validate_eq_ok {claim : EvidenceClaimV0} :
    claim.validate = .ok () ↔ claim.schema = evidenceSchemaV0 ∧
      validateNonemptyBounded "threat_model" claim.threatModel 4096 = .ok () ∧
      claim.exactSource.validate = .ok () ∧ claim.exactRuntimeOrArtifact.validate = .ok () ∧
      validateUniqueNonempty "omitted_claims" claim.omittedClaims = .ok () ∧
      validateUniqueNonempty "negative_evidence" claim.negativeEvidence = .ok () ∧
      (claim.tier = .operational ∨ claim.tier = .reproducible) := by
  have htier : ¬(claim.tier = .researchEligible ∨ claim.tier = .externallyAttested) ↔
      claim.tier = .operational ∨ claim.tier = .reproducible := by
    cases claim.tier <;> decide
  unfold validate
  simp only [unit_bind_eq_ok, check_eq_ok, mapErr_eq_ok, htier]

end Contracts
end Platform
