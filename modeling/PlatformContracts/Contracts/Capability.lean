import PlatformContracts.Lib.FinMap
import PlatformContracts.Contracts.Basic

/-!
# Capability snapshots (`platform-contracts-v0/src/capability.rs`)

`CapabilityEntryV0`, `CapabilitySourceReportV0`, `CapabilitySnapshotV0` and their `validate`.
`BTreeMap` is the ordered map `Std.ExtTreeMap`; identifiers are ordered as their strings.
`CapabilityEntryV0.validate_eq_ok` and `CapabilitySnapshotV0.validate_eq_ok`: what is valid.
-/

namespace Platform
namespace Contracts

open Std

def capabilitySchemaV0 : String := "delysis.capability_snapshot.v0"

instance : Ord Identifier where
  compare a b := compare a.value b.value

theorem Identifier.ext_value {a b : Identifier} (h : a.value = b.value) : a = b := by
  cases a
  cases b
  simpa using h

instance : TransOrd Identifier where
  eq_swap {a b} := by
    show compare a.value b.value = (compare b.value a.value).swap
    exact OrientedOrd.eq_swap
  isLE_trans {a b c} := by
    show (compare a.value b.value).isLE → (compare b.value c.value).isLE →
      (compare a.value c.value).isLE
    exact TransOrd.isLE_trans

instance : LawfulEqOrd Identifier where
  compare_self {a} := by
    show compare a.value a.value = .eq
    exact ReflOrd.compare_self
  eq_of_compare {a b} h := by
    apply Identifier.ext_value
    have h' : compare a.value b.value = .eq := h
    exact LawfulEqOrd.eq_of_compare h'

inductive Readiness where
  | ready
  | unavailable
  | unknown
  deriving DecidableEq, Repr

inductive TriState where
  | yes
  | no
  | unknown
  deriving DecidableEq, Repr

structure CapabilityEntryV0 where
  operation : String
  backendOrResourceId : String
  readiness : Readiness
  limits : ExtTreeMap String UInt64
  network : TriState
  privacyEligible : TriState
  evidenceSource : String
  evidenceOutcome : String
  observedAtUnixMs : Option UInt64
  remediation : Option String

/-- A key of `limits`: 1 to 128 lower-case letters, digits and underscores. -/
def isLimitKey (key : String) : Bool :=
  !(bytes key).isEmpty && (bytes key).length ≤ 128 &&
    (bytes key).all fun byte => isAsciiLowercase byte || isAsciiDigit byte || byte == 0x5F

/-- `if let Some(value) = value { validate_nonempty_bounded(field, value, max)? }`. -/
def validateOptional (field : String) (max : Nat) : Option String → Except ContractError Unit
  | none => pure ()
  | some value => validateNonemptyBounded field value max

def CapabilityEntryV0.validate (entry : CapabilityEntryV0) : Except ContractError Unit := do
  validateNonemptyBounded "operation" entry.operation 128
  validateNonemptyBounded "backend_or_resource_id" entry.backendOrResourceId 256
  validateNonemptyBounded "evidence_source" entry.evidenceSource 512
  validateNonemptyBounded "evidence_outcome" entry.evidenceOutcome 512
  check (entry.limits.keys.all isLimitKey) (.invalid "limits")
  check (¬(entry.readiness ≠ .ready ∧ entry.remediation = none)) (.inconsistent "remediation")
  validateOptional "remediation" 1024 entry.remediation

structure CapabilitySourceReportV0 where
  sourceId : String
  outcome : String
  safeDetail : Option String
  deriving DecidableEq, Repr

def CapabilitySourceReportV0.validate (report : CapabilitySourceReportV0) :
    Except ContractError Unit := do
  validateNonemptyBounded "source_id" report.sourceId 256
  validateNonemptyBounded "outcome" report.outcome 128
  validateOptional "safe_detail" 2048 report.safeDetail

structure CapabilitySnapshotV0 where
  schema : String
  snapshotId : ContentDigest
  target : String
  services : ExtTreeMap ServiceId (List CapabilityEntryV0)
  reports : List CapabilitySourceReportV0

def CapabilitySnapshotV0.validate (snapshot : CapabilitySnapshotV0) :
    Except ContractError Unit := do
  check (snapshot.schema = capabilitySchemaV0) (.invalid "schema")
  mapErr (fun _ => .invalid "snapshot_id") snapshot.snapshotId.validate
  validateNonemptyBounded "target" snapshot.target 256
  check (¬snapshot.services.isEmpty) (.empty "services")
  (snapshot.services.toList.map (·.2)).forM fun entries => do
    check (entries ≠ []) (.empty "service_entries")
    entries.forM CapabilityEntryV0.validate
  checkUnique CapabilitySourceReportV0.validate (·.sourceId) (.duplicate "reports.source_id")
    snapshot.reports

/-! ## What is valid -/

theorem CapabilityEntryV0.validate_eq_ok {entry : CapabilityEntryV0} :
    entry.validate = .ok () ↔
      validateNonemptyBounded "operation" entry.operation 128 = .ok () ∧
      validateNonemptyBounded "backend_or_resource_id" entry.backendOrResourceId 256 = .ok () ∧
      validateNonemptyBounded "evidence_source" entry.evidenceSource 512 = .ok () ∧
      validateNonemptyBounded "evidence_outcome" entry.evidenceOutcome 512 = .ok () ∧
      (∀ key ∈ entry.limits.keys, isLimitKey key) ∧
      (entry.readiness ≠ .ready → entry.remediation ≠ none) ∧
      validateOptional "remediation" 1024 entry.remediation = .ok () := by
  unfold validate
  simp only [unit_bind_eq_ok, check_eq_ok, List.all_eq_true, not_and, ne_eq]

theorem CapabilitySourceReportV0.validate_eq_ok {report : CapabilitySourceReportV0} :
    report.validate = .ok () ↔
      validateNonemptyBounded "source_id" report.sourceId 256 = .ok () ∧
      validateNonemptyBounded "outcome" report.outcome 128 = .ok () ∧
      validateOptional "safe_detail" 2048 report.safeDetail = .ok () := by
  unfold validate
  simp only [unit_bind_eq_ok]

theorem CapabilitySnapshotV0.validate_eq_ok {snapshot : CapabilitySnapshotV0} :
    snapshot.validate = .ok () ↔ snapshot.schema = capabilitySchemaV0 ∧
      snapshot.snapshotId.validate = .ok () ∧
      validateNonemptyBounded "target" snapshot.target 256 = .ok () ∧
      snapshot.services.isEmpty = false ∧
      (∀ (service : ServiceId) (entries : List CapabilityEntryV0),
        snapshot.services[service]? = some entries →
          entries ≠ [] ∧ ∀ entry ∈ entries, entry.validate = .ok ()) ∧
      (∀ report ∈ snapshot.reports, report.validate = .ok ()) ∧
      (snapshot.reports.map (·.sourceId)).Nodup := by
  have hvalues : ∀ {p : List CapabilityEntryV0 → Prop},
      (∀ entries ∈ snapshot.services.toList.map (·.2), p entries) ↔
        ∀ (service : ServiceId) entries,
          snapshot.services[service]? = some entries → p entries := by
    intro p
    rw [List.forall_mem_map]
    exact ⟨fun h service entries he =>
        h (service, entries) (ExtTreeMap.mem_toList_iff_getElem?_eq_some.mpr he),
      fun h e he => h e.1 e.2 (ExtTreeMap.mem_toList_iff_getElem?_eq_some.mp he)⟩
  unfold validate
  simp only [unit_bind_eq_ok, check_eq_ok, mapErr_eq_ok, forM_eq_ok, checkUnique_eq_ok, hvalues,
    Bool.not_eq_true]

end Contracts
end Platform
