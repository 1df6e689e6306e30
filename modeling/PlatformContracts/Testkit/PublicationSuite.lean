import PlatformContracts.Testkit.PublicationProtocol
import PlatformContracts.Testkit.PublicationRuns

/-!
# The publication acceptance suite (`assert_publication_model` of `publication_suite.rs`)

* `PublicationSuiteAdapter`: the adapter with the callbacks that only the suite calls.
* `PublicationSuite.fresh`, …, `PublicationSuite.conflict`: the statements of the suite on each of
  its adapters. A panic has the text of its assertion, without the values that it compares.
* `assertPublicationModel factory adapter request`: the suite; `factory` is any code with a state
  of its own.
* `publication_suite_iff`: the valid requests for which the reference adapter passes. The artifacts
  of two scenarios are meant to differ from the request's, and do not at the last length.
-/

namespace Platform
namespace Testkit

open Contracts Exec

/-- The adapter, with the callbacks that only the suite calls. -/
structure PublicationSuiteAdapter (σ Error Stage : Type) extends
    PublicationModelAdapter σ Error Stage where
  injectFault : FaultPoint → Callback σ Unit
  seedVisible : ArtifactIdentityV0 → Callback σ Unit
  trace : Callback σ (List PublicationStep)
  visibleArtifact : Callback σ (Option ArtifactIdentityV0)
  ownedStagingCount : Callback σ Nat

/-! ## Assertions -/

namespace PublicationSuite

section Suite

variable {σ Error Stage : Type}

/-- `assert_eq!(left, right)`. -/
def assertEq {α : Type} [DecidableEq α] (left right : α) : Callback σ Unit :=
  Exec.assert (left = right) "assertion `left == right` failed"

def assertNotPublished (outcome : PublicationOutcomeV0) : Callback σ Unit := do
  Exec.assert (outcome.kind = .notPublished)
    "assertion failed: matches!(outcome, PublicationOutcomeV0::NotPublished \x7b .. \x7d)"
  expectOk outcome.validate "valid not-published outcome"

def assertPublished (outcome : PublicationOutcomeV0) (idempotentRecovery : Bool) :
    Callback σ Unit :=
  match outcome with
  | .published receipt => do
    assertEq receipt.idempotentRecovery idempotentRecovery
    expectOk outcome.validate "valid published outcome"
  | _ => throw (.panic "expected published outcome")

def assertDurabilityUnknownWithFileSync (outcome : PublicationOutcomeV0)
    (idempotentRecovery fileSynced : Bool) : Callback σ Unit :=
  match outcome with
  | .publishedDurabilityUnknown receipt _ => do
    assertEq receipt.idempotentRecovery idempotentRecovery
    assertEq receipt.fileSynced fileSynced
    expectOk outcome.validate "valid durability-unknown outcome"
  | _ => throw (.panic "expected durability-unknown outcome")

def assertDurabilityUnknown (outcome : PublicationOutcomeV0) (idempotentRecovery : Bool) :
    Callback σ Unit :=
  assertDurabilityUnknownWithFileSync outcome idempotentRecovery true

variable (adapter : PublicationSuiteAdapter σ Error Stage) (request : PublicationRequest)

/-- `run_publication_model(&mut adapter, request)`. -/
def run : Callback σ PublicationOutcomeV0 :=
  runPublicationModel adapter.toPublicationModelAdapter request

/-- `assert_eq!(adapter.trace(), steps)`. -/
def assertTrace (steps : List PublicationStep) : Callback σ Unit := do
  let trace ← adapter.trace
  assertEq trace steps

/-- `assert_eq!(adapter.owned_staging_count(), 0)`. -/
def assertNoStaging : Callback σ Unit := do
  let count ← adapter.ownedStagingCount
  assertEq count 0

/-- `assert!(adapter.visible_artifact().is_none())`. -/
def assertNoneVisible : Callback σ Unit := do
  let visible ← adapter.visibleArtifact
  Exec.assert (visible = none) "assertion failed: visible_artifact().is_none()"

/-- `assert!(same_content(adapter.visible_artifact().expect(missing), &request.artifact))`. -/
def assertVisibleContent (missing : String) : Callback σ Unit := do
  let visible ← adapter.visibleArtifact
  let artifact ← Exec.expect visible missing
  Exec.assert (sameContent artifact request.artifact)
    "assertion failed: same_content(visible_artifact(), &request.artifact)"

/-! ## Scenarios -/

def fresh : Callback σ Unit := do
  let outcome ← run adapter request
  assertPublished outcome false
  assertTrace adapter
    [.inspectDestination, .createPrivateSiblingStage, .verifyExactDigestAndLength,
      .syncStagedFile, .publishNoClobber, .inspectDestination, .syncParentDirectory,
      .cleanupOwnedStage]
  assertNoStaging adapter

def corrupt : Callback σ Unit := do
  adapter.injectFault .corruptStagedBeforeVerification
  let outcome ← run adapter request
  assertNotPublished outcome
  assertNoneVisible adapter
  assertNoStaging adapter
  assertTrace adapter
    [.inspectDestination, .createPrivateSiblingStage, .verifyExactDigestAndLength,
      .cleanupOwnedStage]

def unsynced : Callback σ Unit := do
  adapter.injectFault .beforeFileSync
  let outcome ← run adapter request
  assertNotPublished outcome
  assertNoneVisible adapter
  assertNoStaging adapter
  let trace ← adapter.trace
  Exec.assert (¬trace.contains .publishNoClobber)
    "assertion failed: !trace().contains(&PublicationStep::PublishNoClobber)"

def beforeVisibility : Callback σ Unit := do
  adapter.injectFault .beforeVisibility
  let outcome ← run adapter request
  assertNotPublished outcome
  assertNoneVisible adapter
  assertNoStaging adapter

def ambiguous : Callback σ Unit := do
  adapter.injectFault .afterNoClobberVisibility
  let outcome ← run adapter request
  assertDurabilityUnknown outcome false
  assertVisibleContent adapter request "visible artifact"
  assertNoStaging adapter

def parentSync : Callback σ Unit := do
  adapter.injectFault .beforeParentSync
  let outcome ← run adapter request
  assertDurabilityUnknown outcome false
  assertVisibleContent adapter request "visible artifact"

def recovery : Callback σ Unit := do
  adapter.seedVisible request.artifact
  adapter.injectFault .beforeParentSync
  let outcome ← run adapter request
  assertDurabilityUnknown outcome true
  let outcome ← run adapter request
  assertPublished outcome true
  assertNoStaging adapter
  let trace ← adapter.trace
  Exec.assert ((trace.filter (· = .syncVisibleFile)).length = 2)
    "each exact-match recovery must resync the visible file"

def recoveryFileSync : Callback σ Unit := do
  adapter.seedVisible request.artifact
  adapter.injectFault .beforeVisibleFileSync
  let outcome ← run adapter request
  assertDurabilityUnknownWithFileSync outcome true false
  assertVisibleContent adapter request "exact artifact remains visible"
  assertNoStaging adapter

/-- `"f".repeat(64)`. -/
def conflictHex : String := String.ofList (List.replicate 64 'f')

def conflict : Callback σ Unit := do
  let digest ← expectOk (ContentDigest.sha256 conflictHex) "static digest"
  let conflicting : ArtifactIdentityV0 := {
    id := "conflicting-artifact"
    digest := digest
    length := saturatingAdd request.artifact.length 1 }
  adapter.seedVisible conflicting
  let outcome ← run adapter request
  assertNotPublished outcome
  let visible ← adapter.visibleArtifact
  assertEq visible (some conflicting)
  assertNoStaging adapter
  assertTrace adapter [.inspectDestination]

/-- The statements on one adapter of `factory()`. -/
def scenario {φ : Type} (factory : Callback φ σ) (statements : Callback σ Unit) :
    Callback φ Unit := do
  let self ← factory
  match (statements.on self).1 with
  | .ok () => pure ()
  | .error stop => throw stop

end Suite

end PublicationSuite

open PublicationSuite in
def assertPublicationModel {φ σ Error Stage : Type} (factory : Callback φ σ)
    (adapter : PublicationSuiteAdapter σ Error Stage) (request : PublicationRequest) :
    Callback φ Unit := do
  scenario factory (fresh adapter request)
  scenario factory (corrupt adapter request)
  scenario factory (unsynced adapter request)
  scenario factory (beforeVisibility adapter request)
  scenario factory (ambiguous adapter request)
  scenario factory (parentSync adapter request)
  scenario factory (recovery adapter request)
  scenario factory (recoveryFileSync adapter request)
  scenario factory (PublicationSuite.conflict adapter request)

/-! ## The reference adapter -/

/-- `ReferencePublicationAdapter`, with all its callbacks. -/
def referenceSuite :
    PublicationSuiteAdapter ReferencePublicationAdapter ReferencePublicationError
      ReferenceStage where
  toPublicationModelAdapter := referencePublication
  injectFault := ReferencePublicationAdapter.injectFault
  seedVisible := ReferencePublicationAdapter.seedVisible
  trace := do
    let self ← get
    pure self.trace
  visibleArtifact := do
    let self ← get
    pure self.visible
  ownedStagingCount := do
    let self ← get
    pure self.stages.size

/-- `ReferencePublicationAdapter::default`, as a factory. -/
def referenceFactory : Callback Unit ReferencePublicationAdapter := pure {}

namespace PublicationSuite

open ReferencePublicationAdapter

section Assertions

variable {σ : Type} {s : σ} {outcome : PublicationOutcomeV0} {request : PublicationRequest}

theorem expectOk_on {ε : Type} {r : Except ε Unit} {message : String} (h : r = .ok ()) :
    (expectOk r message : Callback σ Unit).on s = (.ok (), s) := by
  rw [h]
  rfl

theorem assert_on {p : Prop} [Decidable p] {message : String} (h : p) :
    (Exec.assert p message : Callback σ Unit).on s = (.ok (), s) := by
  unfold Exec.assert
  rw [if_pos h]
  rfl

theorem assertNotPublished_on (hk : outcome.kind = .notPublished)
    (hv : outcome.validate = .ok ()) :
    (assertNotPublished outcome).on s = (.ok (), s) :=
  (on_bind_of_ok (assert_on hk)).trans (expectOk_on hv)

theorem assertPublished_on {i f d : Bool} (hk : outcome.kind = .published)
    (hr : outcome.receipt? = some (receipt request i f d)) (hv : outcome.validate = .ok ()) :
    (assertPublished outcome i).on s = (.ok (), s) := by
  cases outcome with
  | published receipt =>
    obtain rfl := Option.some.inj hr
    exact (on_bind_of_ok (assert_on rfl)).trans (expectOk_on hv)
  | notPublished | publishedDurabilityUnknown => cases hk

theorem assertDurabilityUnknown_on {i f d : Bool}
    (hk : outcome.kind = .publishedDurabilityUnknown)
    (hr : outcome.receipt? = some (receipt request i f d)) (hv : outcome.validate = .ok ()) :
    (assertDurabilityUnknownWithFileSync outcome i f).on s = (.ok (), s) := by
  cases outcome with
  | publishedDurabilityUnknown receipt error =>
    obtain rfl := Option.some.inj hr
    refine (on_bind_of_ok (assert_on rfl)).trans ?_
    exact (on_bind_of_ok (assert_on rfl)).trans (expectOk_on hv)
  | notPublished | published => cases hk

end Assertions

section Reference

variable {s s' : ReferencePublicationAdapter} {request : PublicationRequest} {exit : Exit}
  {outcome : PublicationOutcomeV0}

theorem assertTrace_on {steps : List PublicationStep} (h : s.trace = steps) :
    (assertTrace referenceSuite steps).on s = (.ok (), s) :=
  assert_on h

theorem assertNoStaging_on (h : s.stages = ∅) :
    (assertNoStaging referenceSuite).on s = (.ok (), s) :=
  assert_on (by rw [h]; rfl)

theorem assertNoneVisible_on (h : s.visible = none) :
    (assertNoneVisible referenceSuite).on s = (.ok (), s) :=
  assert_on h

theorem assertVisibleContent_on {missing : String} (h : s.visible = some request.artifact) :
    (assertVisibleContent referenceSuite request missing).on s = (.ok (), s) := by
  have hon : referenceSuite.visibleArtifact.on s = (.ok (some request.artifact), s) := by
    rw [← h]
    rfl
  refine (on_bind_of_ok hon).trans ?_
  rw [on_expect_bind]
  exact assert_on (sameContent_iff.mpr ⟨rfl, rfl⟩)

/-- A new adapter, with what is visible and the armed faults. -/
def start (visible : Option ArtifactIdentityV0) (points : List FaultPoint) :
    ReferencePublicationAdapter :=
  { faults := ⟨points⟩, visible := visible }

theorem injectFault_on (point : FaultPoint) {visible : Option ArtifactIdentityV0} :
    (referenceSuite.injectFault point).on (start visible []) = (.ok (), start visible [point]) :=
  rfl

theorem seedVisible_on (artifact : ArtifactIdentityV0) :
    (referenceSuite.seedVisible artifact).on (start none []) = (.ok (), start (some artifact) []) :=
  rfl

/-- A run ends with its exit, and its outcome is canonical. -/
theorem run_ends (hr : Ready s) (hv : request.Valid) (room : Room s) :
    Ends (run referenceSuite request) s fun o s' =>
      ExitPost request s (exitOf s request) o s' ∧ o.validate = .ok () := by
  obtain ⟨o, s', hon, hpost⟩ := runPublicationModel_exit hr hv room
  obtain ⟨hsame, -⟩ :=
    runPublicationModel_sim (logged_sim referencePublication) request (s, []) s rfl
  rw [hon] at hsame
  exact ⟨o, s', hon, hpost, (runPublicationModel_history (Prod.ext hsame rfl)).2⟩

theorem start_run (hv : request.Valid) {visible : Option ArtifactIdentityV0}
    {points : List FaultPoint} (hp : points.length ≤ 1)
    (hx : exitOf (start visible points) request = exit) :
    ∃ o s', (run referenceSuite request).on (start visible points) = (.ok o, s') ∧
      ExitPost request (start visible points) exit o s' ∧ o.validate = .ok () := by
  subst hx
  refine run_ends ⟨rfl, hp⟩ hv fun _ => ?_
  show (0 : UInt64).toNat + 1 < 2 ^ 64
  decide

/-! ## The scenarios of the reference adapter -/

/-- The statements on a new adapter do not panic. -/
def Passes (statements : Callback ReferencePublicationAdapter Unit) : Prop :=
  (statements.on {}).1 = .ok ()

theorem Passes.of_on {statements : Callback ReferencePublicationAdapter Unit}
    (s' : ReferencePublicationAdapter)
    (h : statements.on (start none []) = (.ok (), s')) : Passes statements :=
  congrArg Prod.fst h

theorem fresh_passes (hv : request.Valid) : Passes (fresh referenceSuite request) := by
  have hx : exitOf (start none []) request = .published := rfl
  obtain ⟨o, s', hon, hpost, hval⟩ := start_run hv (by decide) hx
  refine .of_on s' ?_
  unfold fresh
  rw [on_bind_of_ok hon, on_bind_of_ok (assertPublished_on hpost.outcome.1 hpost.outcome.2 hval)]
  exact (on_bind_of_ok (assertTrace_on hpost.trace)).trans (assertNoStaging_on hpost.stages)

theorem unsynced_passes (hv : request.Valid) : Passes (unsynced referenceSuite request) := by
  have hx : exitOf (start none [.beforeFileSync]) request = .syncFailed := rfl
  obtain ⟨o, s', hon, hpost, hval⟩ := start_run hv (by decide) hx
  have htrace : s'.trace = Exit.syncFailed.steps := hpost.trace
  refine .of_on s' ?_
  unfold unsynced
  rw [on_bind_of_ok (injectFault_on _), on_bind_of_ok hon,
    on_bind_of_ok (assertNotPublished_on hpost.outcome.1 hval),
    on_bind_of_ok (assertNoneVisible_on hpost.visible),
    on_bind_of_ok (assertNoStaging_on hpost.stages)]
  exact assert_on (by rw [htrace]; decide)

theorem beforeVisibility_passes (hv : request.Valid) :
    Passes (beforeVisibility referenceSuite request) := by
  have hx : exitOf (start none [.beforeVisibility]) request = .publishFailedNothing := rfl
  obtain ⟨o, s', hon, hpost, hval⟩ := start_run hv (by decide) hx
  refine .of_on s' ?_
  unfold beforeVisibility
  rw [on_bind_of_ok (injectFault_on _), on_bind_of_ok hon,
    on_bind_of_ok (assertNotPublished_on hpost.outcome.1 hval),
    on_bind_of_ok (assertNoneVisible_on hpost.visible), assertNoStaging_on hpost.stages]

theorem ambiguous_passes (hv : request.Valid) : Passes (ambiguous referenceSuite request) := by
  have hx : exitOf (start none [.afterNoClobberVisibility]) request = .publishFailedExact := rfl
  obtain ⟨o, s', hon, hpost, hval⟩ := start_run hv (by decide) hx
  refine .of_on s' ?_
  unfold ambiguous assertDurabilityUnknown
  rw [on_bind_of_ok (injectFault_on _), on_bind_of_ok hon,
    on_bind_of_ok (assertDurabilityUnknown_on hpost.outcome.1 hpost.outcome.2 hval),
    on_bind_of_ok (assertVisibleContent_on hpost.visible), assertNoStaging_on hpost.stages]

theorem parentSync_passes (hv : request.Valid) : Passes (parentSync referenceSuite request) := by
  have hx : exitOf (start none [.beforeParentSync]) request = .publishedDirectoryUnknown := rfl
  obtain ⟨o, s', hon, hpost, hval⟩ := start_run hv (by decide) hx
  refine .of_on s' ?_
  unfold parentSync assertDurabilityUnknown
  rw [on_bind_of_ok (injectFault_on _), on_bind_of_ok hon,
    on_bind_of_ok (assertDurabilityUnknown_on hpost.outcome.1 hpost.outcome.2 hval),
    assertVisibleContent_on hpost.visible]

theorem recoveryFileSync_passes (hv : request.Valid) :
    Passes (recoveryFileSync referenceSuite request) := by
  have hx : exitOf (start (some request.artifact) [.beforeVisibleFileSync]) request =
      .recoverFileUnknown := by
    simp [exitOf, start, sameContent, Armed]
  obtain ⟨o, s', hon, hpost, hval⟩ := start_run hv (by decide) hx
  refine .of_on s' ?_
  unfold recoveryFileSync
  rw [on_bind_of_ok (seedVisible_on _), on_bind_of_ok (injectFault_on _), on_bind_of_ok hon,
    on_bind_of_ok (assertDurabilityUnknown_on hpost.outcome.1 hpost.outcome.2 hval),
    on_bind_of_ok (assertVisibleContent_on hpost.visible), assertNoStaging_on hpost.stages]

/-- The second run of the recovery finds the artifact and no fault. -/
theorem recovery_passes (hv : request.Valid) : Passes (recovery referenceSuite request) := by
  have hx : exitOf (start (some request.artifact) [.beforeParentSync]) request =
      .recoverDirectoryUnknown := by
    simp [exitOf, start, sameContent, Armed, ParentArmed]
  obtain ⟨o, s, hon, hpost, hval⟩ := start_run hv (by decide) hx
  have hvisible : s.visible = some request.artifact := hpost.visible
  have hpoints : s.faults.points = [] := (hpost.fired rfl).2
  have hx' : exitOf s request = .recovered := by
    simp [exitOf, hvisible, sameContent, Armed, ParentArmed, hpoints]
  have hready : Ready s := ⟨hpost.stages, by rw [hpoints]; exact Nat.zero_le 1⟩
  have hroom : Room s := fun hn => by rw [hvisible] at hn; cases hn
  obtain ⟨o', s', hon', hpost', hval'⟩ := run_ends hready hv hroom
  rw [hx'] at hpost'
  have htrace : s'.trace = Exit.recoverDirectoryUnknown.steps ++ Exit.recovered.steps := by
    rw [hpost'.trace, hpost.trace]
    rfl
  refine .of_on s' ?_
  unfold recovery assertDurabilityUnknown
  rw [on_bind_of_ok (seedVisible_on _), on_bind_of_ok (injectFault_on _), on_bind_of_ok hon,
    on_bind_of_ok (assertDurabilityUnknown_on hpost.outcome.1 hpost.outcome.2 hval),
    on_bind_of_ok hon',
    on_bind_of_ok (assertPublished_on hpost'.outcome.1 hpost'.outcome.2 hval'),
    on_bind_of_ok (assertNoStaging_on hpost'.stages)]
  exact assert_on (by rw [htrace]; decide)

/-- An outcome that passes for one that did not publish. -/
theorem kind_of_assertNotPublished {f : Unit → Callback ReferencePublicationAdapter Unit}
    (h : ((assertNotPublished outcome >>= f).on s).1 = .ok ()) : outcome.kind = .notPublished := by
  unfold assertNotPublished at h
  by_contra hk
  rw [bind_assoc, on_assert_bind, if_neg hk] at h
  cases h

/-- An artifact of the suite that is meant to differ from the request's. -/
theorem sameContent_saturated {id hex : String} {a : ArtifactIdentityV0} :
    sameContent ⟨id, ⟨.sha256, hex⟩, saturatingAdd a.length 1⟩ a = true ↔
      a.digest.hex = hex ∧ a.length.toNat = 2 ^ 64 - 1 := by
  rw [sameContent_iff, saturatingAdd_one_eq_self]
  refine and_congr_left' ?_
  rcases a.digest with ⟨⟨⟩, hex'⟩
  simp [eq_comm]

/-- The corruption is found unless it leaves the content of the request. -/
theorem corrupt_passes_iff (hv : request.Valid) :
    Passes (corrupt referenceSuite request) ↔
      ¬(request.artifact.digest.hex = corruptHex ∧ request.artifact.length.toNat = 2 ^ 64 - 1) := by
  have hsame : sameContent (corrupted (stagedFor request)).artifact
      (stagedFor request).artifact = true ↔
      request.artifact.digest.hex = corruptHex ∧ request.artifact.length.toNat = 2 ^ 64 - 1 :=
    sameContent_saturated
  rw [← hsame]
  constructor
  · intro hpass hsame
    have hx : exitOf (start none [.corruptStagedBeforeVerification]) request = .published := by
      simp [exitOf, start, Spoils, Armed, ParentArmed, hsame]
    obtain ⟨o, s', hon, hpost, -⟩ := start_run hv (by decide) hx
    have hkind : o.kind = .notPublished := by
      change ((corrupt referenceSuite request).on (start none [])).1 = .ok () at hpass
      unfold corrupt at hpass
      rw [on_bind_of_ok (injectFault_on _), on_bind_of_ok hon] at hpass
      exact kind_of_assertNotPublished hpass
    rw [hpost.outcome.1] at hkind
    cases hkind
  · intro hsame
    have hx : exitOf (start none [.corruptStagedBeforeVerification]) request = .verifyFailed := by
      simp [exitOf, start, Spoils, Armed, hsame]
    obtain ⟨o, s', hon, hpost, hval⟩ := start_run hv (by decide) hx
    refine .of_on s' ?_
    unfold corrupt
    rw [on_bind_of_ok (injectFault_on _), on_bind_of_ok hon,
      on_bind_of_ok (assertNotPublished_on hpost.outcome.1 hval),
      on_bind_of_ok (assertNoneVisible_on hpost.visible),
      on_bind_of_ok (assertNoStaging_on hpost.stages)]
    exact assertTrace_on hpost.trace

/-- The artifact that occupies the destination of the last scenario. -/
def conflicting (request : PublicationRequest) : ArtifactIdentityV0 where
  id := "conflicting-artifact"
  digest := ⟨.sha256, conflictHex⟩
  length := saturatingAdd request.artifact.length 1

theorem conflict_on : (PublicationSuite.conflict referenceSuite request).on (start none []) =
    (do
      let outcome ← run referenceSuite request
      assertNotPublished outcome
      let visible ← referenceSuite.visibleArtifact
      assertEq visible (some (conflicting request))
      assertNoStaging referenceSuite
      assertTrace referenceSuite [.inspectDestination] : Callback _ Unit).on
        (start (some (conflicting request)) []) := by
  have hdigest : ContentDigest.sha256 conflictHex = .ok ⟨.sha256, conflictHex⟩ := by decide
  unfold PublicationSuite.conflict
  rw [on_expectOk_bind, hdigest]
  exact on_bind_of_ok (seedVisible_on _)

/-- The conflict is found unless its artifact has the content of the request's. -/
theorem conflict_passes_iff (hv : request.Valid) :
    Passes (PublicationSuite.conflict referenceSuite request) ↔
      ¬(request.artifact.digest.hex = conflictHex ∧
        request.artifact.length.toNat = 2 ^ 64 - 1) := by
  have hsame : sameContent (conflicting request) request.artifact = true ↔ _ :=
    sameContent_saturated
  rw [← hsame]
  constructor
  · intro hpass hsame
    have hx : exitOf (start (some (conflicting request)) []) request = .recovered := by
      simp [exitOf, start, Armed, ParentArmed, hsame]
    obtain ⟨o, s', hon, hpost, -⟩ := start_run hv (by decide) hx
    have hkind : o.kind = .notPublished := by
      change ((PublicationSuite.conflict referenceSuite request).on (start none [])).1 = _ at hpass
      rw [conflict_on, on_bind_of_ok hon] at hpass
      exact kind_of_assertNotPublished hpass
    rw [hpost.outcome.1] at hkind
    cases hkind
  · intro hsame
    have hx : exitOf (start (some (conflicting request)) []) request = .conflict := by
      simp [exitOf, start, hsame]
    obtain ⟨o, s', hon, hpost, hval⟩ := start_run hv (by decide) hx
    have hvisible : referenceSuite.visibleArtifact.on s' =
        (.ok (some (conflicting request)), s') := by
      rw [← show s'.visible = some (conflicting request) from hpost.visible]
      rfl
    refine .of_on s' ?_
    rw [conflict_on, on_bind_of_ok hon, on_bind_of_ok (assertNotPublished_on hpost.outcome.1 hval),
      on_bind_of_ok hvisible]
    refine (on_bind_of_ok (assert_on rfl)).trans ?_
    exact (on_bind_of_ok (assertNoStaging_on hpost.stages)).trans (assertTrace_on hpost.trace)

/-- A scenario on a new adapter, before the rest of the suite. -/
theorem scenario_bind_ok {statements : Callback ReferencePublicationAdapter Unit}
    {f : Unit → Callback Unit Unit} :
    (scenario referenceFactory statements >>= f).on () = (.ok (), ()) ↔
      Passes statements ∧ (f ()).on () = (.ok (), ()) := by
  have hon : (scenario referenceFactory statements).on () = ((statements.on {}).1, ()) := by
    show (match (statements.on {}).1 with
      | .ok () => pure ()
      | .error stop => throw stop : Callback Unit Unit).on () = _
    rcases (statements.on {}).1 with _ | ⟨⟩ <;> rfl
  unfold Passes
  rw [on_bind, hon]
  rcases (statements.on {}).1 with _ | ⟨⟩ <;> simp

theorem scenario_ok {statements : Callback ReferencePublicationAdapter Unit} :
    (scenario referenceFactory statements).on () = (.ok (), ()) ↔ Passes statements := by
  rw [← bind_pure (scenario referenceFactory statements), scenario_bind_ok]
  exact and_iff_left rfl

end Reference

end PublicationSuite

open PublicationSuite ReferencePublicationAdapter

/-- The reference adapter passes the suite on a valid request, unless the request has the largest
length and the digest of one of the two artifacts that the suite makes up. -/
theorem publication_suite_iff {request : PublicationRequest} (hv : request.Valid) :
    (assertPublicationModel referenceFactory referenceSuite request).on () = (.ok (), ()) ↔
      ¬(request.artifact.length.toNat = 2 ^ 64 - 1 ∧ (request.artifact.digest.hex = corruptHex ∨
        request.artifact.digest.hex = conflictHex)) := by
  unfold assertPublicationModel
  simp only [scenario_bind_ok, scenario_ok]
  rw [corrupt_passes_iff hv, conflict_passes_iff hv]
  constructor
  · rintro ⟨-, hcorrupt, -, -, -, -, -, -, hconflict⟩ ⟨hlength, hhex | hhex⟩
    · exact hcorrupt ⟨hhex, hlength⟩
    · exact hconflict ⟨hhex, hlength⟩
  · intro hblind
    exact ⟨fresh_passes hv, fun ⟨hhex, hlength⟩ => hblind ⟨hlength, .inl hhex⟩,
      unsynced_passes hv, beforeVisibility_passes hv, ambiguous_passes hv, parentSync_passes hv,
      recovery_passes hv, recoveryFileSync_passes hv,
      fun ⟨hhex, hlength⟩ => hblind ⟨hlength, .inr hhex⟩⟩

theorem publication_suite_test :
    (assertPublicationModel referenceFactory referenceSuite testRequest).on () = (.ok (), ()) :=
  (publication_suite_iff testRequest_valid).mpr (by decide)

/-- The request of the tests, with the largest length and the digest of the corruption. -/
def largestRequest : PublicationRequest :=
  { testRequest with
    artifact := ⟨"artifact-1", ⟨.sha256, corruptHex⟩, UInt64.ofNat (2 ^ 64 - 1)⟩ }

/-- The corruption changes nothing, the artifact is published, and the suite panics. -/
theorem corruption_unseen : largestRequest.Valid ∧
    (assertPublicationModel referenceFactory referenceSuite largestRequest).on () =
      (.error (.panic
        "assertion failed: matches!(outcome, PublicationOutcomeV0::NotPublished \x7b .. \x7d)"),
        ()) := by
  refine ⟨⟨by decide, by decide⟩, ?_⟩
  decide

end Testkit
end Platform
