import PlatformContracts.Lib.Exec
import PlatformContracts.Lib.Keyed
import PlatformContracts.Contracts.Lifecycle

/-!
# Closed summaries (`platform-contracts-v0/src/shutdown.rs`)

* `ShutdownResourceV0`, `ShutdownFailureV0`, `ClosedSummaryV0` and their `validate`. `usize` is a
  64-bit word, `BTreeMap` the ordered map `Std.ExtTreeMap`.
* `validateResources_eq_ok`, `validateFailures_eq_ok`: what each loop accepts and collects.
* `ClosedSummaryV0.Consistent`: the accounting that a summary has to keep.
* `closed_consistent`: the accepted summaries are the consistent ones.
-/

namespace Platform
namespace Contracts

open Std

def closedSummarySchemaV0 : String := "delysis.closed_summary.v0"

inductive ShutdownResourceKind where
  | operationRegistry
  | taskSupervisor
  | backend
  | workerPool
  | runtime
  deriving DecidableEq, Repr

inductive ShutdownResourceState where
  | stopped
  | failed
  deriving DecidableEq, Repr

/-- A letter, a digit, or one of `. _ - :`. -/
def isOpaqueIdByte (byte : UInt8) : Bool :=
  (0x41 ≤ byte && byte ≤ 0x5A) || isAsciiLowercase byte || isAsciiDigit byte ||
    byte == 0x2E || byte == 0x5F || byte == 0x2D || byte == 0x3A

def validateOpaqueId (field value : String) : Except ContractError Unit := do
  validateNonemptyBounded field value 256
  check ((bytes value).all isOpaqueIdByte) (.invalid field)

structure ShutdownResourceV0 where
  resourceId : String
  service : ServiceId
  kind : ShutdownResourceKind
  state : ShutdownResourceState
  expectedWorkers : UInt64
  joinedWorkers : UInt64
  deriving DecidableEq

def ShutdownResourceV0.validate (resource : ShutdownResourceV0) : Except ContractError Unit := do
  validateOpaqueId "resource_id" resource.resourceId
  check (¬resource.joinedWorkers > resource.expectedWorkers)
    (.inconsistent "resource.joined_workers")
  check (¬(resource.state = .stopped ∧ resource.joinedWorkers ≠ resource.expectedWorkers))
    (.inconsistent "resource.state")

structure ShutdownFailureV0 where
  failureId : String
  resourceId : String
  service : ServiceId
  error : ServiceErrorV0
  deriving DecidableEq

def ShutdownFailureV0.validate (failure : ShutdownFailureV0) : Except ContractError Unit := do
  validateOpaqueId "failure_id" failure.failureId
  validateOpaqueId "failure.resource_id" failure.resourceId
  failure.error.validate
  check (failure.error.service = failure.service) (.inconsistent "failure.service")

structure ClosedSummaryV0 where
  schema : String
  phase : SupervisorPhase
  activeOperations : UInt64
  retainedTasks : UInt64
  expectedWorkers : UInt64
  joinedWorkers : UInt64
  resources : List ShutdownResourceV0
  failures : List ShutdownFailureV0
  deriving DecidableEq

/-- What the loop over the resources collects. -/
structure Tally where
  resources : ExtTreeMap String ShutdownResourceV0
  expectedWorkers : UInt64
  joinedWorkers : UInt64

/-- The loop over the resources, with what it has collected so far. -/
def validateResources (tally : Tally) :
    List ShutdownResourceV0 → Except ContractError Tally
  | [] => .ok tally
  | resource :: resources => do
    resource.validate
    check (tally.resources[resource.resourceId]? = none) (.duplicate "resources.resource_id")
    let expectedWorkers ← Exec.okOr (checkedAdd tally.expectedWorkers resource.expectedWorkers)
      (.invalid "expected_workers")
    let joinedWorkers ← Exec.okOr (checkedAdd tally.joinedWorkers resource.joinedWorkers)
      (.invalid "joined_workers")
    validateResources
      { resources := tally.resources.insert resource.resourceId resource
        expectedWorkers, joinedWorkers } resources

/-- The loop over the failures, with the IDs and the failed resources so far; the failed resources
after it. -/
def validateFailures (resources : ExtTreeMap String ShutdownResourceV0)
    (failureIds failedResources : Finset String) :
    List ShutdownFailureV0 → Except ContractError (Finset String)
  | [] => .ok failedResources
  | failure :: failures => do
    failure.validate
    check (failure.failureId ∉ failureIds) (.duplicate "failures.failure_id")
    let resource ← Exec.okOr resources[failure.resourceId]? (.inconsistent "failure.resource_id")
    check (resource.service = failure.service) (.inconsistent "failure.service")
    validateFailures resources (insert failure.failureId failureIds)
      (insert failure.resourceId failedResources) failures

/-- `ClosedSummaryV0::validate` without its last check. -/
def ClosedSummaryV0.validateRecords (summary : ClosedSummaryV0) : Except ContractError Unit := do
  check (summary.schema = closedSummarySchemaV0) (.invalid "schema")
  check (summary.phase = .closed) (.invalid "phase")
  check (summary.activeOperations = 0) (.invalid "active_operations")
  check (summary.retainedTasks = 0) (.invalid "retained_tasks")
  check (summary.resources ≠ []) (.empty "resources")
  let tally ← validateResources ⟨∅, 0, 0⟩ summary.resources
  check (summary.expectedWorkers = tally.expectedWorkers) (.inconsistent "expected_workers")
  check (summary.joinedWorkers = tally.joinedWorkers) (.inconsistent "joined_workers")
  let failedResources ← validateFailures tally.resources ∅ ∅ summary.failures
  summary.resources.forM fun resource =>
    check (resource.state = .stopped ∧ resource.resourceId ∉ failedResources ∨
      resource.state = .failed ∧ resource.resourceId ∈ failedResources)
      (.inconsistent "resource.state")

def ClosedSummaryV0.validate (summary : ClosedSummaryV0) : Except ContractError Unit := do
  summary.validateRecords
  check (¬(summary.failures = [] ∧ (summary.joinedWorkers ≠ summary.expectedWorkers ∨
    ∃ resource ∈ summary.resources, resource.state ≠ .stopped)))
    (.inconsistent "successful.resources")

def ClosedSummaryV0.succeeded (summary : ClosedSummaryV0) : Bool := summary.failures.isEmpty

/-! ## Records -/

/-- What a valid opaque ID is. -/
def IsOpaqueId (value : String) : Prop :=
  bytes value ≠ [] ∧ (bytes value).length ≤ 256 ∧ ∀ byte ∈ bytes value, isOpaqueIdByte byte

theorem validateOpaqueId_eq_ok {field value : String} :
    validateOpaqueId field value = .ok () ↔ IsOpaqueId value := by
  unfold validateOpaqueId validateNonemptyBounded IsOpaqueId
  simp only [unit_bind_eq_ok, check_eq_ok, List.all_eq_true, and_assoc]

theorem ShutdownResourceV0.validate_eq_ok {resource : ShutdownResourceV0} :
    resource.validate = .ok () ↔ IsOpaqueId resource.resourceId ∧
      resource.joinedWorkers ≤ resource.expectedWorkers ∧
      (resource.state = .stopped → resource.joinedWorkers = resource.expectedWorkers) := by
  unfold validate
  simp only [unit_bind_eq_ok, check_eq_ok, validateOpaqueId_eq_ok, gt_iff_lt, UInt64.not_lt,
    not_and, ne_eq, not_not]

theorem ShutdownFailureV0.validate_eq_ok {failure : ShutdownFailureV0} :
    failure.validate = .ok () ↔ IsOpaqueId failure.failureId ∧ IsOpaqueId failure.resourceId ∧
      failure.error.validate = .ok () ∧ failure.error.service = failure.service := by
  unfold validate
  simp only [unit_bind_eq_ok, check_eq_ok, validateOpaqueId_eq_ok]

/-! ## The loops -/

/-- The workers that a field gives over the resources, without a bound. -/
def workers (field : ShutdownResourceV0 → UInt64) (resources : List ShutdownResourceV0) : Nat :=
  (resources.map fun resource => (field resource).toNat).sum

@[simp] theorem workers_nil {field : ShutdownResourceV0 → UInt64} : workers field [] = 0 := rfl

@[simp] theorem workers_cons {field : ShutdownResourceV0 → UInt64} {resource : ShutdownResourceV0}
    {resources : List ShutdownResourceV0} :
    workers field (resource :: resources) = (field resource).toNat + workers field resources := rfl

theorem workers_perm {field : ShutdownResourceV0 → UInt64}
    {resources resources' : List ShutdownResourceV0} (h : resources.Perm resources') :
    workers field resources = workers field resources' :=
  (h.map _).sum_nat

/-- The loop accepts valid resources with new distinct IDs whose sums are words: the partial sums
are below the sums. -/
theorem validateResources_eq_ok {tally tally' : Tally} {resources : List ShutdownResourceV0} :
    validateResources tally resources = .ok tally' ↔
      (∀ resource ∈ resources, resource.validate = .ok () ∧
        tally.resources[resource.resourceId]? = none) ∧
      (resources.map (·.resourceId)).Nodup ∧
      tally'.resources = resources.foldl (fun m r => m.insert r.resourceId r) tally.resources ∧
      tally'.expectedWorkers.toNat =
        tally.expectedWorkers.toNat + workers (·.expectedWorkers) resources ∧
      tally'.joinedWorkers.toNat =
        tally.joinedWorkers.toNat + workers (·.joinedWorkers) resources := by
  induction resources generalizing tally with
  | nil =>
    rcases tally with ⟨m, e, j⟩
    rcases tally' with ⟨m', e', j'⟩
    simp [validateResources, ← UInt64.toNat_inj, eq_comm]
  | cons resource resources ih =>
    simp only [validateResources, unit_bind_eq_ok, check_eq_ok, Exec.okOr_bind_eq_ok,
      checkedAdd_eq_some, ih, lookup_insert, List.forall_mem_cons, List.map_cons, List.nodup_cons,
      List.foldl_cons, workers_cons]
    constructor
    · rintro ⟨hv, hnew, e, he, j, hj, hall, hnodup, hm, hex, hjo⟩
      refine ⟨⟨⟨hv, hnew⟩, fun r hr => ⟨(hall r hr).1, ?_⟩⟩, ⟨?_, hnodup⟩, hm, by omega, by omega⟩
      · have := (hall r hr).2
        grind
      · intro hmem
        obtain ⟨r, hr, hid⟩ := List.mem_map.mp hmem
        have := (hall r hr).2
        grind
    · rintro ⟨⟨⟨hv, hnew⟩, hall⟩, ⟨hid, hnodup⟩, hm, hex, hjo⟩
      have hel := tally'.expectedWorkers.toNat_lt
      have hjl := tally'.joinedWorkers.toNat_lt
      have hword : ∀ n, n < 2 ^ 64 → (UInt64.ofNat n).toNat = n := fun n hn => by
        rw [UInt64.toNat_ofNat', Nat.mod_eq_of_lt hn]
      have he := hword (tally.expectedWorkers.toNat + resource.expectedWorkers.toNat) (by omega)
      have hj := hword (tally.joinedWorkers.toNat + resource.joinedWorkers.toNat) (by omega)
      refine ⟨hv, hnew, _, he, _, hj, fun r hr => ⟨(hall r hr).1, ?_⟩, hnodup, hm, by omega,
        by omega⟩
      have hne : r.resourceId ≠ resource.resourceId := fun e =>
        hid (e ▸ List.mem_map_of_mem hr)
      rw [if_neg hne]
      exact (hall r hr).2

/-- The loop accepts valid failures with new distinct IDs that name a resource of their
service. -/
theorem validateFailures_eq_ok {resources : ExtTreeMap String ShutdownResourceV0}
    {failureIds failedResources failedResources' : Finset String}
    {failures : List ShutdownFailureV0} :
    validateFailures resources failureIds failedResources failures = .ok failedResources' ↔
      (∀ failure ∈ failures, failure.validate = .ok () ∧ failure.failureId ∉ failureIds ∧
        ∃ resource : ShutdownResourceV0, resources[failure.resourceId]? = some resource ∧
          resource.service = failure.service) ∧
      (failures.map (·.failureId)).Nodup ∧
      failedResources' = failedResources ∪ (failures.map (·.resourceId)).toFinset := by
  induction failures generalizing failureIds failedResources with
  | nil => simp [validateFailures, eq_comm]
  | cons failure failures ih =>
    simp only [validateFailures, unit_bind_eq_ok, check_eq_ok, Exec.okOr_bind_eq_ok, ih,
      List.forall_mem_cons, List.map_cons, List.nodup_cons, List.toFinset_cons,
      Finset.mem_insert, not_or, Finset.insert_union, Finset.union_insert]
    constructor
    · rintro ⟨hv, hnew, resource, hfind, hservice, hall, hnodup, rfl⟩
      refine ⟨⟨⟨hv, hnew, resource, hfind, hservice⟩, fun f hf => ?_⟩, ⟨?_, hnodup⟩, rfl⟩
      · obtain ⟨hvf, ⟨-, hnf⟩, hres⟩ := hall f hf
        exact ⟨hvf, hnf, hres⟩
      · intro hmem
        obtain ⟨f, hf, hid⟩ := List.mem_map.mp hmem
        exact (hall f hf).2.1.1 hid
    · rintro ⟨⟨⟨hv, hnew, resource, hfind, hservice⟩, hall⟩, ⟨hid, hnodup⟩, rfl⟩
      refine ⟨hv, hnew, resource, hfind, hservice, fun f hf => ?_, hnodup, rfl⟩
      obtain ⟨hvf, hnf, hres⟩ := hall f hf
      exact ⟨hvf, ⟨fun e => hid (e ▸ List.mem_map_of_mem hf), hnf⟩, hres⟩

/-! ## Consistent accounting -/

namespace ClosedSummaryV0

/-- What a closed summary says of its resources and failures, record by record and across
them. -/
structure Consistent (summary : ClosedSummaryV0) : Prop where
  schema : summary.schema = closedSummarySchemaV0
  phase : summary.phase = .closed
  activeOperations : summary.activeOperations = 0
  retainedTasks : summary.retainedTasks = 0
  nonempty : summary.resources ≠ []
  resourceIds : (summary.resources.map (·.resourceId)).Nodup
  resource : ∀ resource ∈ summary.resources, IsOpaqueId resource.resourceId ∧
    resource.joinedWorkers ≤ resource.expectedWorkers ∧
    (resource.state = .stopped → resource.joinedWorkers = resource.expectedWorkers)
  expectedWorkers : summary.expectedWorkers.toNat = workers (·.expectedWorkers) summary.resources
  joinedWorkers : summary.joinedWorkers.toNat = workers (·.joinedWorkers) summary.resources
  failureIds : (summary.failures.map (·.failureId)).Nodup
  failure : ∀ failure ∈ summary.failures, IsOpaqueId failure.failureId ∧
    failure.error.validate = .ok () ∧ failure.error.service = failure.service
  declared : ∀ failure ∈ summary.failures, ∃ resource ∈ summary.resources,
    resource.resourceId = failure.resourceId ∧ resource.service = failure.service
  failed : ∀ resource ∈ summary.resources,
    resource.state = .failed ↔
      ∃ failure ∈ summary.failures, failure.resourceId = resource.resourceId

variable {summary : ClosedSummaryV0}

/-- Without failures every resource is stopped, so the sums are equal. -/
theorem Consistent.of_no_failures (h : summary.Consistent) (hf : summary.failures = []) :
    (∀ resource ∈ summary.resources, resource.state = .stopped ∧
      resource.joinedWorkers = resource.expectedWorkers) ∧
    summary.joinedWorkers = summary.expectedWorkers := by
  have hstopped : ∀ resource ∈ summary.resources, resource.state = .stopped ∧
      resource.joinedWorkers = resource.expectedWorkers := by
    intro resource hr
    have hs : resource.state = .stopped := by
      cases hstate : resource.state with
      | stopped => rfl
      | failed =>
        obtain ⟨failure, hmem, -⟩ := (h.failed resource hr).mp hstate
        rw [hf] at hmem
        cases hmem
    exact ⟨hs, (h.resource resource hr).2.2 hs⟩
  refine ⟨hstopped, ?_⟩
  rw [← UInt64.toNat_inj, h.joinedWorkers, h.expectedWorkers, workers, workers]
  congr 1
  apply List.map_congr_left
  intro resource hr
  rw [(hstopped resource hr).2]

theorem validateRecords_eq_ok : summary.validateRecords = .ok () ↔ summary.Consistent := by
  have hfind : ∀ {m : ExtTreeMap String ShutdownResourceV0},
      (summary.resources.map (·.resourceId)).Nodup →
      m = summary.resources.foldl (fun m r => m.insert r.resourceId r) ∅ → ∀ {id resource},
      m[id]? = some resource ↔ resource ∈ summary.resources ∧ resource.resourceId = id := by
    intro m hn hm id resource
    rw [hm, Keyed.lookup_foldl_insert_key hn]
    simp
  unfold validateRecords
  simp only [unit_bind_eq_ok, check_eq_ok]
  simp only [bind_eq_ok, exists_const, check_eq_ok, forM_eq_ok, validateResources_eq_ok,
    validateFailures_eq_ok, ShutdownResourceV0.validate_eq_ok, ShutdownFailureV0.validate_eq_ok]
  constructor
  · rintro ⟨hschema, hphase, hactive, hretained, hne, ⟨m, e, j⟩, ⟨hres, hids, hm, he, hj⟩, rfl, rfl,
      _, ⟨hfail, hfids, rfl⟩, hstate⟩
    have hnamed : ∀ id, id ∈ ∅ ∪ (summary.failures.map (·.resourceId)).toFinset ↔
        ∃ failure ∈ summary.failures, failure.resourceId = id := by simp
    refine ⟨hschema, hphase, hactive, hretained, hne, hids, fun r hr => (hres r hr).1,
      by simpa using he, by simpa using hj, hfids, fun f hf => ?_, fun f hf => ?_, fun r hr => ?_⟩
    · obtain ⟨⟨hid, -, herr⟩, -⟩ := hfail f hf
      exact ⟨hid, herr⟩
    · obtain ⟨-, -, r, hr, hservice⟩ := hfail f hf
      obtain ⟨hmem, hid⟩ := (hfind hids hm).mp hr
      exact ⟨r, hmem, hid, hservice⟩
    · rw [← hnamed]
      rcases hstate r hr with ⟨hs, hn⟩ | ⟨hs, hn⟩
      · exact ⟨fun e => absurd (hs.symm.trans e) (by decide), fun e => absurd e hn⟩
      · exact ⟨fun _ => hn, fun _ => hs⟩
  · intro h
    have hnamed : ∀ id, id ∈ ∅ ∪ (summary.failures.map (·.resourceId)).toFinset ↔
        ∃ failure ∈ summary.failures, failure.resourceId = id := by simp
    refine ⟨h.schema, h.phase, h.activeOperations, h.retainedTasks, h.nonempty,
      ⟨_, summary.expectedWorkers, summary.joinedWorkers⟩,
      ⟨fun r hr => ⟨h.resource r hr, by simp⟩, h.resourceIds, rfl, by simpa using h.expectedWorkers,
        by simpa using h.joinedWorkers⟩, rfl, rfl, _, ⟨fun f hf => ?_, h.failureIds, rfl⟩,
      fun r hr => ?_⟩
    · obtain ⟨r, hr, hid, hservice⟩ := h.declared f hf
      obtain ⟨hfid, herr⟩ := h.failure f hf
      exact ⟨⟨hfid, hid ▸ (h.resource r hr).1, herr⟩, by simp, r,
        (hfind h.resourceIds rfl).mpr ⟨hr, hid⟩, hservice⟩
    · rw [hnamed, ← h.failed r hr]
      cases r.state <;> simp

/-- The last check repeats what the records before it say: it never fails. -/
theorem validate_eq_records : summary.validate = summary.validateRecords := by
  unfold validate
  cases hrecords : summary.validateRecords with
  | error e => rfl
  | ok u =>
    have h := validateRecords_eq_ok.mp hrecords
    show check _ _ = _
    rw [check_eq_ok]
    rintro ⟨hf, hbad⟩
    obtain ⟨hstopped, hsum⟩ := h.of_no_failures hf
    rcases hbad with hj | ⟨r, hr, hs⟩
    · exact hj hsum
    · exact hs (hstopped r hr).1

theorem validate_eq_ok : summary.validate = .ok () ↔ summary.Consistent := by
  rw [validate_eq_records, validateRecords_eq_ok]

theorem Consistent.perm {resources : List ShutdownResourceV0} {failures : List ShutdownFailureV0}
    (hr : resources.Perm summary.resources) (hf : failures.Perm summary.failures)
    (h : summary.Consistent) : { summary with resources, failures }.Consistent where
  schema := h.schema
  phase := h.phase
  activeOperations := h.activeOperations
  retainedTasks := h.retainedTasks
  nonempty := fun e => h.nonempty (by subst e; exact hr.symm.eq_nil)
  resourceIds := (hr.map _).nodup_iff.mpr h.resourceIds
  resource := fun r hmem => h.resource r (hr.mem_iff.mp hmem)
  expectedWorkers := by rw [h.expectedWorkers]; exact (workers_perm hr).symm
  joinedWorkers := by rw [h.joinedWorkers]; exact (workers_perm hr).symm
  failureIds := (hf.map _).nodup_iff.mpr h.failureIds
  failure := fun f hmem => h.failure f (hf.mem_iff.mp hmem)
  declared := by
    intro f hmem
    obtain ⟨r, hres, hid⟩ := h.declared f (hf.mem_iff.mp hmem)
    exact ⟨r, hr.mem_iff.mpr hres, hid⟩
  failed := by
    intro r hmem
    rw [h.failed r (hr.mem_iff.mp hmem)]
    simp only [hf.mem_iff]

/-! ## The last rejection -/

/-- The error of the last check. -/
abbrev lastError : ContractError := .inconsistent "successful.resources"

theorem validateNonemptyBounded_ne {field value : String} {max : Nat} :
    validateNonemptyBounded field value max ≠ .error lastError :=
  bind_ne_error (check_ne_error (by simp)) fun _ _ => check_ne_error (by simp)

theorem validateOpaqueId_ne {field value : String} :
    validateOpaqueId field value ≠ .error lastError :=
  bind_ne_error validateNonemptyBounded_ne fun _ _ => check_ne_error (by simp)

theorem serviceError_validate_ne {error : ServiceErrorV0} :
    error.validate ≠ .error lastError := by
  unfold ServiceErrorV0.validate validateCode
  refine bind_ne_error (check_ne_error (by simp)) fun _ _ => bind_ne_error ?_ fun _ _ =>
    validateNonemptyBounded_ne
  exact bind_ne_error validateNonemptyBounded_ne fun _ _ => check_ne_error (by simp)

theorem validateResources_ne {tally : Tally} {resources : List ShutdownResourceV0} :
    validateResources tally resources ≠ .error lastError := by
  induction resources generalizing tally with
  | nil => simp [validateResources]
  | cons resource resources ih =>
    have hresource : resource.validate ≠ .error lastError :=
      bind_ne_error validateOpaqueId_ne fun _ _ =>
        bind_ne_error (check_ne_error (by decide)) fun _ _ => check_ne_error (by decide)
    refine bind_ne_error hresource fun _ _ => bind_ne_error (check_ne_error (by simp)) fun _ _ =>
      bind_ne_error ?_ fun _ _ => bind_ne_error ?_ fun _ _ => ih
    · cases checkedAdd tally.expectedWorkers resource.expectedWorkers <;> simp [Exec.okOr]
    · cases checkedAdd tally.joinedWorkers resource.joinedWorkers <;> simp [Exec.okOr]

theorem validateFailures_ne {resources : ExtTreeMap String ShutdownResourceV0}
    {failureIds failedResources : Finset String} {failures : List ShutdownFailureV0} :
    validateFailures resources failureIds failedResources failures ≠ .error lastError := by
  induction failures generalizing failureIds failedResources with
  | nil => simp [validateFailures]
  | cons failure failures ih =>
    have hfailure : failure.validate ≠ .error lastError :=
      bind_ne_error validateOpaqueId_ne fun _ _ => bind_ne_error validateOpaqueId_ne fun _ _ =>
        bind_ne_error serviceError_validate_ne fun _ _ => check_ne_error (by decide)
    refine bind_ne_error hfailure fun _ _ => bind_ne_error (check_ne_error (by simp)) fun _ _ =>
      bind_ne_error ?_ fun _ _ => bind_ne_error (check_ne_error (by decide)) fun _ _ => ih
    cases resources[failure.resourceId]? <;> simp [Exec.okOr]

theorem validateRecords_ne : summary.validateRecords ≠ .error lastError := by
  refine bind_ne_error (check_ne_error (by simp)) fun _ _ =>
    bind_ne_error (check_ne_error (by simp)) fun _ _ =>
    bind_ne_error (check_ne_error (by simp)) fun _ _ =>
    bind_ne_error (check_ne_error (by simp)) fun _ _ =>
    bind_ne_error (check_ne_error (by simp)) fun _ _ =>
    bind_ne_error validateResources_ne fun _ _ =>
    bind_ne_error (check_ne_error (by decide)) fun _ _ =>
    bind_ne_error (check_ne_error (by decide)) fun _ _ =>
    bind_ne_error validateFailures_ne fun _ _ => ?_
  exact forM_ne_error fun _ _ => check_ne_error (by decide)

end ClosedSummaryV0

/-- A summary is accepted exactly when its accounting is consistent. So the order of the records
does not matter, a summary without failures has every resource stopped with its workers joined,
and the last rejection is never the error. -/
theorem closed_consistent (summary : ClosedSummaryV0) :
    (summary.validate = .ok () ↔ summary.Consistent) ∧
    (∀ (resources : List ShutdownResourceV0) (failures : List ShutdownFailureV0),
      resources.Perm summary.resources → failures.Perm summary.failures →
      ({ summary with resources, failures }.validate = .ok () ↔ summary.validate = .ok ())) ∧
    (summary.validate = .ok () → summary.succeeded →
      (∀ resource ∈ summary.resources, resource.state = .stopped ∧
        resource.joinedWorkers = resource.expectedWorkers) ∧
      summary.joinedWorkers = summary.expectedWorkers) ∧
    summary.validate ≠ .error (.inconsistent "successful.resources") := by
  refine ⟨ClosedSummaryV0.validate_eq_ok, fun resources failures hr hf => ?_, fun hv hs => ?_, ?_⟩
  · rw [ClosedSummaryV0.validate_eq_ok, ClosedSummaryV0.validate_eq_ok]
    refine ⟨fun h => ?_, fun h => h.perm hr hf⟩
    have hback := h.perm hr.symm hf.symm
    exact hback
  · exact (ClosedSummaryV0.validate_eq_ok.mp hv).of_no_failures (List.isEmpty_iff.mp hs)
  · rw [ClosedSummaryV0.validate_eq_records]
    exact ClosedSummaryV0.validateRecords_ne

end Contracts
end Platform
