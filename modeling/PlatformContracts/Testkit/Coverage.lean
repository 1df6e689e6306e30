import PlatformContracts.Contracts.Basic
import PlatformContracts.Lib.Check
import PlatformContracts.Lib.Exec

/-!
# Coverage of the lifecycle suites (`platform-contract-testkit/src/coverage.rs`)

* `CoverageEvidence`, `LifecycleCoverageManifest`: both have the lifecycle implementation in their
  type, so that the evidence for one is not evidence for another.
* `accept`, and `acceptLoop`: its loop over the items. A `BTreeSet` is a `Finset`.
* `mintedSuites`: what the eleven runners of `compositional_lifecycle.rs` mint.
* `acceptLoop_ok`: what the loop accepts; `acceptance_exact`: the items of an accepted manifest are
  one for each required suite, in any order, and together have every required invariant.
-/

namespace Platform
namespace Testkit

open Contracts

inductive LifecycleInvariant where
  | exactTransitionChain
  | attemptIdentityUnderPublicOperation
  | duplicatePublicId
  | staleRelease
  | ticketDropCancellation
  | explicitConsumerDropCancellation
  | authoritativeTerminal
  | cancelCompleteRace
  | admitQuiesceRace
  | quiesceWaitsForReleaseAndJoin
  | waiterTimeoutIsObservational
  | unreadProgressCannotBlockFinalOrShutdown
  | progressTerminalRace
  | panicTerminalAndShutdown
  | repeatedShutdown
  | shutdownEmpty
  | retainedTasksBoundedByActiveConcurrency
  | sequenceExhaustion
  deriving DecidableEq, Repr

def requiredLifecycleInvariants : List LifecycleInvariant := [
  .exactTransitionChain,
  .attemptIdentityUnderPublicOperation,
  .duplicatePublicId,
  .staleRelease,
  .ticketDropCancellation,
  .explicitConsumerDropCancellation,
  .authoritativeTerminal,
  .cancelCompleteRace,
  .admitQuiesceRace,
  .quiesceWaitsForReleaseAndJoin,
  .waiterTimeoutIsObservational,
  .unreadProgressCannotBlockFinalOrShutdown,
  .progressTerminalRace,
  .panicTerminalAndShutdown,
  .repeatedShutdown,
  .shutdownEmpty,
  .retainedTasksBoundedByActiveConcurrency,
  .sequenceExhaustion]

theorem mem_requiredLifecycleInvariants (invariant : LifecycleInvariant) :
    invariant ∈ requiredLifecycleInvariants := by
  cases invariant <;> decide

def requiredLifecycleSuites : List String := [
  "transition-chain",
  "registry-identity",
  "attempt-hierarchy",
  "consumer-cancellation",
  "terminal-authority",
  "waiter-control",
  "admission-quiesce-shutdown-bridge",
  "progress-shutdown-bridge",
  "panic-shutdown-bridge",
  "stable-shutdown",
  "task-reaping"]

theorem requiredLifecycleSuites_nodup : requiredLifecycleSuites.Nodup := by decide

inductive AcceptanceError where
  | invalidIdentity (field : String)
  | noEvidence
  | duplicateSuite (suite : String)
  | unexpectedSuite (suite : String)
  | missingSuites (suites : List String)
  | missingInvariants (invariants : List LifecycleInvariant)
  deriving DecidableEq, Repr

def maxCoverageIdBytes : Nat := 128

def validateId (field value : String) : Except AcceptanceError Unit :=
  -- Neither `"` nor a backslash.
  check (bytes value ≠ [] ∧ (bytes value).length ≤ maxCoverageIdBytes ∧
    (bytes value).all fun byte => isAsciiGraphic byte && !(byte == 0x22 || byte == 0x5C))
    (.invalidIdentity field)

/-- The associated constants of the trait. -/
structure LifecycleImplementation where
  product : String
  implementation : String
  deriving DecidableEq, Repr

def LifecycleImplementation.validate (lifecycle : LifecycleImplementation) :
    Except AcceptanceError Unit := do
  validateId "product" lifecycle.product
  validateId "implementation" lifecycle.implementation

structure CoverageEvidence (lifecycle : LifecycleImplementation) where
  component : String
  suite : String
  invariants : Finset LifecycleInvariant
  deriving DecidableEq

structure LifecycleCoverageManifest (lifecycle : LifecycleImplementation) where
  components : Finset String
  covered : Finset LifecycleInvariant
  deriving DecidableEq

section Accept

variable {lifecycle : LifecycleImplementation}

/-- `CoverageEvidence::passed`; an identity that is not valid makes it panic. -/
def CoverageEvidence.passed (component suite : String) (invariants : List LifecycleInvariant) :
    Except (Stop Empty) (CoverageEvidence lifecycle) := do
  mapErr (fun _ => .panic "adapter lifecycle identity must be valid") lifecycle.validate
  mapErr (fun _ => .panic "coverage component identity must be valid")
    (validateId "component" component)
  pure { component, suite, invariants := invariants.toFinset }

/-- The three sets of `accept`. -/
structure Accumulated where
  components : Finset String
  suites : Finset String
  covered : Finset LifecycleInvariant
  deriving DecidableEq

def acceptLoop (acc : Accumulated) :
    List (CoverageEvidence lifecycle) → Except AcceptanceError Accumulated
  | [] => .ok acc
  | item :: evidence => do
    check (item.suite ∈ requiredLifecycleSuites) (.unexpectedSuite item.suite)
    check (item.suite ∉ acc.suites) (.duplicateSuite item.suite)
    acceptLoop {
      components := insert item.component acc.components
      suites := insert item.suite acc.suites
      covered := acc.covered ∪ item.invariants } evidence

/-- `LifecycleCoverageManifest::accept`. -/
def accept (evidence : List (CoverageEvidence lifecycle)) :
    Except AcceptanceError (LifecycleCoverageManifest lifecycle) := do
  lifecycle.validate
  check (evidence ≠ []) .noEvidence
  let acc ← acceptLoop ⟨∅, ∅, ∅⟩ evidence
  let missingSuites := requiredLifecycleSuites.filter (· ∉ acc.suites)
  check (missingSuites = []) (.missingSuites missingSuites)
  let missing := requiredLifecycleInvariants.filter (· ∉ acc.covered)
  check (missing = []) (.missingInvariants missing)
  pure { components := acc.components, covered := acc.covered }

/-! ## What is accepted -/

variable {evidence : List (CoverageEvidence lifecycle)}

/-- The invariants of the items together. -/
def coveredBy (evidence : List (CoverageEvidence lifecycle)) : Finset LifecycleInvariant :=
  evidence.toFinset.biUnion (·.invariants)

theorem mem_coveredBy {invariant : LifecycleInvariant} :
    invariant ∈ coveredBy evidence ↔ ∃ item ∈ evidence, invariant ∈ item.invariants := by
  simp [coveredBy]

theorem acceptLoop_ok {acc result : Accumulated} :
    acceptLoop acc evidence = .ok result ↔
      (∀ item ∈ evidence, item.suite ∈ requiredLifecycleSuites ∧ item.suite ∉ acc.suites) ∧
      (evidence.map (·.suite)).Nodup ∧
      result = {
        components := acc.components ∪ (evidence.map (·.component)).toFinset
        suites := acc.suites ∪ (evidence.map (·.suite)).toFinset
        covered := acc.covered ∪ coveredBy evidence } := by
  induction evidence generalizing acc with
  | nil => simp [acceptLoop, coveredBy, eq_comm]
  | cons item evidence ih =>
    simp only [acceptLoop, unit_bind_eq_ok, check_eq_ok, ih, List.forall_mem_cons, List.map_cons,
      List.nodup_cons, List.toFinset_cons, Finset.mem_insert, not_or, coveredBy,
      Finset.biUnion_insert, Finset.insert_union, Finset.union_insert, Finset.union_assoc]
    constructor
    · rintro ⟨hreq, hnew, hall, hnodup, rfl⟩
      refine ⟨⟨⟨hreq, hnew⟩, fun other ho => ⟨(hall other ho).1, (hall other ho).2.2⟩⟩,
        ⟨fun hmem => ?_, hnodup⟩, rfl⟩
      obtain ⟨other, ho, he⟩ := List.mem_map.mp hmem
      exact (hall other ho).2.1 he
    · rintro ⟨⟨⟨hreq, hnew⟩, hall⟩, ⟨hfresh, hnodup⟩, rfl⟩
      refine ⟨hreq, hnew, fun other ho => ⟨(hall other ho).1, fun he => ?_, (hall other ho).2⟩,
        hnodup, rfl⟩
      exact hfresh (List.mem_map.mpr ⟨other, ho, he⟩)

/-- The loop and the check of the suites accept one item for each required suite. -/
theorem suites_perm :
    ((∀ item ∈ evidence, item.suite ∈ requiredLifecycleSuites) ∧
      (evidence.map (·.suite)).Nodup ∧
      ∀ suite ∈ requiredLifecycleSuites, suite ∈ evidence.map (·.suite)) ↔
    (evidence.map (·.suite)).Perm requiredLifecycleSuites := by
  constructor
  · rintro ⟨hreq, hnodup, hall⟩
    refine (List.perm_ext_iff_of_nodup hnodup requiredLifecycleSuites_nodup).mpr fun suite => ?_
    refine ⟨fun h => ?_, hall suite⟩
    obtain ⟨item, hi, rfl⟩ := List.mem_map.mp h
    exact hreq item hi
  · intro h
    exact ⟨fun item hi => h.subset (List.mem_map.mpr ⟨item, hi, rfl⟩),
      h.nodup_iff.mpr requiredLifecycleSuites_nodup, fun suite hs => h.symm.subset hs⟩

theorem accept_ok {manifest : LifecycleCoverageManifest lifecycle} :
    accept evidence = .ok manifest ↔ lifecycle.validate = .ok () ∧
      (evidence.map (·.suite)).Perm requiredLifecycleSuites ∧
      (∀ invariant ∈ requiredLifecycleInvariants, invariant ∈ coveredBy evidence) ∧
      manifest = ⟨(evidence.map (·.component)).toFinset, coveredBy evidence⟩ := by
  unfold accept
  rw [unit_bind_eq_ok, unit_bind_eq_ok, bind_eq_ok, ← suites_perm]
  simp only [unit_bind_eq_ok, check_eq_ok, acceptLoop_ok, List.filter_eq_nil_iff,
    decide_eq_true_eq, not_not, pure, Except.pure, Except.ok.injEq]
  constructor
  · rintro ⟨hv, -, acc, ⟨hall, hnodup, rfl⟩, hsuites, hinvariants, rfl⟩
    simp only [Finset.empty_union, List.mem_toFinset] at hsuites hinvariants ⊢
    exact ⟨hv, ⟨fun item hi => (hall item hi).1, hnodup, hsuites⟩, hinvariants, trivial⟩
  · rintro ⟨hv, ⟨hreq, hnodup, hsuites⟩, hinvariants, rfl⟩
    refine ⟨hv, ?_, _, ⟨fun item hi => ⟨hreq item hi, Finset.notMem_empty _⟩, hnodup, rfl⟩, ?_⟩
    · rintro rfl
      exact absurd (hsuites "task-reaping" (by decide)) (by simp)
    · simp only [Finset.empty_union, List.mem_toFinset]
      exact ⟨hsuites, hinvariants, trivial⟩

/-! ## The runners -/

/-- The suite and the invariants that each runner gives to `CoverageEvidence::passed`. -/
def mintedSuites : List (String × List LifecycleInvariant) := [
  ("transition-chain", [.exactTransitionChain]),
  ("registry-identity", [.duplicatePublicId, .staleRelease, .sequenceExhaustion]),
  ("attempt-hierarchy", [.attemptIdentityUnderPublicOperation]),
  ("consumer-cancellation", [.ticketDropCancellation, .explicitConsumerDropCancellation]),
  ("terminal-authority", [.authoritativeTerminal, .cancelCompleteRace]),
  ("waiter-control", [.waiterTimeoutIsObservational]),
  ("admission-quiesce-shutdown-bridge", [.admitQuiesceRace, .quiesceWaitsForReleaseAndJoin]),
  ("progress-shutdown-bridge",
    [.unreadProgressCannotBlockFinalOrShutdown, .progressTerminalRace]),
  ("panic-shutdown-bridge", [.panicTerminalAndShutdown]),
  ("stable-shutdown", [.repeatedShutdown, .shutdownEmpty]),
  ("task-reaping", [.retainedTasksBoundedByActiveConcurrency])]

/-- The item has the invariants that the runner of its suite mints. -/
def CoverageEvidence.Minted (item : CoverageEvidence lifecycle) : Prop :=
  ∃ p ∈ mintedSuites, item.suite = p.1 ∧ item.invariants = p.2.toFinset

/-- What a runner returns, if it does. -/
theorem CoverageEvidence.passed_minted {component suite : String}
    {invariants : List LifecycleInvariant} (hm : (suite, invariants) ∈ mintedSuites)
    {item : CoverageEvidence lifecycle} (h : passed component suite invariants = .ok item) :
    item.Minted := by
  simp only [passed, unit_bind_eq_ok, mapErr_eq_ok, pure, Except.pure, Except.ok.injEq] at h
  obtain ⟨-, -, rfl⟩ := h
  exact ⟨_, hm, rfl, rfl⟩

/-- Each required invariant is minted under one of the required suites. -/
theorem minted_covers (invariant : LifecycleInvariant) :
    ∃ p ∈ mintedSuites, invariant ∈ p.2 ∧ p.1 ∈ requiredLifecycleSuites ∧
      ∀ q ∈ mintedSuites, q.1 = p.1 → q = p := by
  cases invariant <;> decide

/-- Items of the runners, one for each required suite, have every required invariant. -/
theorem minted_coveredBy (hsuites : (evidence.map (·.suite)).Perm requiredLifecycleSuites)
    (hminted : ∀ item ∈ evidence, item.Minted) (invariant : LifecycleInvariant) :
    invariant ∈ coveredBy evidence := by
  obtain ⟨p, -, hp, hreq, hunique⟩ := minted_covers invariant
  obtain ⟨item, hi, hsuite⟩ := List.mem_map.mp (hsuites.symm.subset hreq)
  obtain ⟨q, hq, hqs, hqi⟩ := hminted item hi
  obtain rfl := hunique q hq (hqs.symm.trans hsuite)
  exact mem_coveredBy.mpr ⟨item, hi, by rw [hqi, List.mem_toFinset]; exact hp⟩

/-- A list of items is accepted exactly when their suites are the required ones, each once, and
their invariants together are all the required ones, which are all there are; the order does not
matter, and the manifest lists what the items have. Items of the runners, one for each suite, are
always enough. -/
theorem acceptance_exact (lifecycle : LifecycleImplementation)
    (hv : lifecycle.validate = .ok ()) (evidence : List (CoverageEvidence lifecycle)) :
    ((∃ manifest, accept evidence = .ok manifest) ↔
      (evidence.map (·.suite)).Perm requiredLifecycleSuites ∧
      ∀ invariant ∈ requiredLifecycleInvariants,
        ∃ item ∈ evidence, invariant ∈ item.invariants) ∧
    (∀ evidence', evidence.Perm evidence' → ∀ manifest,
      accept evidence = .ok manifest ↔ accept evidence' = .ok manifest) ∧
    (∀ manifest, accept evidence = .ok manifest →
      (∀ invariant, invariant ∈ manifest.covered) ∧
      (∀ invariant, invariant ∈ manifest.covered ↔
        ∃ item ∈ evidence, invariant ∈ item.invariants) ∧
      ∀ component, component ∈ manifest.components ↔
        ∃ item ∈ evidence, item.component = component) ∧
    ((evidence.map (·.suite)).Perm requiredLifecycleSuites →
      (∀ item ∈ evidence, item.Minted) → ∃ manifest, accept evidence = .ok manifest) := by
  refine ⟨?_, fun evidence' hp manifest => ?_, fun manifest h => ?_, fun hsuites hminted => ?_⟩
  · simp only [accept_ok, hv, true_and, exists_and_left, exists_eq, and_true, mem_coveredBy]
  · have hcovered : coveredBy evidence = coveredBy evidence' := by
      rw [coveredBy, coveredBy, List.toFinset_eq_of_perm _ _ hp]
    rw [accept_ok, accept_ok, hcovered, List.toFinset_eq_of_perm _ _ (hp.map (·.component))]
    exact and_congr_right fun _ => and_congr_left fun _ =>
      ⟨fun h => (hp.map (·.suite)).symm.trans h, fun h => (hp.map (·.suite)).trans h⟩
  · obtain ⟨-, -, hall, rfl⟩ := accept_ok.mp h
    exact ⟨fun invariant => hall invariant (mem_requiredLifecycleInvariants invariant),
      fun invariant => mem_coveredBy, fun component => by simp⟩
  · exact ⟨_, accept_ok.mpr ⟨hv, hsuites,
      fun invariant _ => minted_coveredBy hsuites hminted invariant, rfl⟩⟩

/-- `ReferenceLifecycle`. -/
def referenceLifecycle : LifecycleImplementation where
  product := "reference-product"
  implementation := "reference-lifecycle"

/-- What the runners mint for the reference lifecycle, last suite first. -/
def referenceEvidence : List (CoverageEvidence referenceLifecycle) :=
  mintedSuites.reverse.map fun p => ⟨"state-machine", p.1, p.2.toFinset⟩

theorem acceptance_exact_reference :
    (∃ manifest, accept referenceEvidence = .ok manifest) ∧
      ¬∃ manifest, accept (referenceEvidence ++ referenceEvidence) = .ok manifest := by
  have hv : referenceLifecycle.validate = .ok () := by decide +kernel
  have hminted := (acceptance_exact referenceLifecycle hv referenceEvidence).2.2.2
  have htwice := (acceptance_exact referenceLifecycle hv
    (referenceEvidence ++ referenceEvidence)).1
  refine ⟨hminted (by decide) fun item hi => ?_, fun h => ?_⟩
  · obtain ⟨p, hp, rfl⟩ := List.mem_map.mp hi
    exact ⟨p, List.mem_reverse.mp hp, rfl, rfl⟩
  · exact absurd (htwice.mp h).1.length_eq (by decide)

end Accept

end Testkit
end Platform
