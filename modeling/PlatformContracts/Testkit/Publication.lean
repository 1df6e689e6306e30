import PlatformContracts.Lib.Exec
import PlatformContracts.Contracts.Publication

/-!
# The publication model (`platform-contract-testkit/src/publication_suite.rs`)

* `PublicationModelAdapter σ Error Stage`: the callbacks of the trait that `run_publication_model`
  calls, on any state `σ`. A callback is arbitrary code: it may change the state, also a `&self`
  one, and it may panic. A callback that returns a `Result` answers an `Except`.
* `runPublicationModel`: the run. It is a test oracle: it returns an outcome or panics.
* `conflict_ends`, `notPublished_ends`, `durabilityUnknown_ends`, `published_ends`: the outcomes
  of an adapter whose service errors are canonical.
* `AdapterSim`, `runPublicationModel_sim`: adapters whose callbacks do the same from related
  states have the same runs.
-/

namespace Platform
namespace Testkit

open Contracts

structure PublicationRequest where
  artifact : ArtifactIdentityV0
  destination : DestinationIdentityV0
  deriving DecidableEq, Repr

structure StagingFacts where
  filesystemId : String
  isPrivate : Bool
  owned : Bool
  deriving DecidableEq, Repr

inductive PublicationErrorContext where
  | notPublished
  | visibleDurabilityUnknown
  deriving DecidableEq, Repr

/-- Code on a state that answers a value or panics. -/
abbrev Callback (σ : Type) := Exec σ Empty

structure PublicationModelAdapter (σ Error Stage : Type) where
  inspectVisible : DestinationIdentityV0 → Callback σ (Option ArtifactIdentityV0)
  createPrivateSiblingStage : PublicationRequest → Callback σ (Except Error Stage)
  stagingFacts : Stage → Callback σ StagingFacts
  verifyExact : Stage → ArtifactIdentityV0 → Callback σ (Except Error Unit)
  syncStagedFile : Stage → Callback σ (Except Error Unit)
  publishNoClobber : Stage → DestinationIdentityV0 → Callback σ (Except Error Unit)
  syncVisibleFile : DestinationIdentityV0 → Callback σ (Except Error Unit)
  syncParentDirectory : DestinationIdentityV0 → Callback σ (Except Error Unit)
  cleanupOwnedStage : Stage → Callback σ (Except Error Unit)
  serviceError : Error → PublicationErrorContext → Callback σ ServiceErrorV0
  conflictError : Callback σ ServiceErrorV0

def sameContent (left right : ArtifactIdentityV0) : Bool :=
  left.digest = right.digest && left.length = right.length

def receipt (request : PublicationRequest) (idempotentRecovery fileSynced directorySynced : Bool) :
    PublicationReceiptV0 where
  schema := publicationReceiptSchemaV0
  artifact := request.artifact
  destination := request.destination
  visible := true
  fileSynced := fileSynced
  directorySynced := directorySynced
  idempotentRecovery := idempotentRecovery

section Model

variable {σ Error Stage : Type}

/-- `PublicationRequest::validate`. -/
def PublicationRequest.validate (request : PublicationRequest) : Callback σ Unit := do
  Exec.expectOk request.artifact.validate "valid publication artifact"
  Exec.expectOk request.destination.validate "valid publication destination"

def validated (outcome : PublicationOutcomeV0) : Callback σ PublicationOutcomeV0 := do
  Exec.expectOk outcome.validate "canonical publication outcome"
  pure outcome

variable (adapter : PublicationModelAdapter σ Error Stage)

def cleanup (stage : Stage) : Callback σ Unit := do
  let result ← adapter.cleanupOwnedStage stage
  Exec.expectOk result "owned staging cleanup must succeed"

def notPublished (error : Error) : Callback σ PublicationOutcomeV0 := do
  let error ← adapter.serviceError error .notPublished
  validated (.notPublished error)

/-- `NotPublished`, with the error of a destination that holds something else. -/
def conflict : Callback σ PublicationOutcomeV0 := do
  let error ← adapter.conflictError
  validated (.notPublished error)

def durabilityUnknown (request : PublicationRequest) (error : Error)
    (idempotentRecovery fileSynced : Bool) : Callback σ PublicationOutcomeV0 := do
  let error ← adapter.serviceError error .visibleDurabilityUnknown
  validated
    (.publishedDurabilityUnknown (receipt request idempotentRecovery fileSynced false) error)

/-- The run when the first inspection shows `existing`. -/
def recoverVisible (request : PublicationRequest) (existing : ArtifactIdentityV0) :
    Callback σ PublicationOutcomeV0 := do
  if !sameContent existing request.artifact then
    conflict adapter
  else match ← adapter.syncVisibleFile request.destination with
    | .error error => durabilityUnknown adapter request error true false
    | .ok () => match ← adapter.syncParentDirectory request.destination with
      | .ok () => validated (.published (receipt request true true true))
      | .error error => durabilityUnknown adapter request error true true

/-- The run after `publish_no_clobber` failed. -/
def publishFailed (request : PublicationRequest) (stage : Stage) (error : Error) :
    Callback σ PublicationOutcomeV0 := do
  let visible ← adapter.inspectVisible request.destination
  cleanup adapter stage
  match visible with
  | some artifact =>
    if sameContent artifact request.artifact then
      durabilityUnknown adapter request error false true
    else conflict adapter
  | none => notPublished adapter error

/-- The run after `publish_no_clobber` succeeded. -/
def publishDone (request : PublicationRequest) (stage : Stage) :
    Callback σ PublicationOutcomeV0 := do
  let visible ← adapter.inspectVisible request.destination
  let visible ← Exec.expect visible "successful no-clobber publication must be visible"
  Exec.assert (sameContent visible request.artifact)
    "successful no-clobber publication must expose the exact staged content"
  let parentResult ← adapter.syncParentDirectory request.destination
  cleanup adapter stage
  match parentResult with
  | .ok () => validated (.published (receipt request false true true))
  | .error error => durabilityUnknown adapter request error false true

/-- The run when the first inspection shows nothing. -/
def publishStaged (request : PublicationRequest) : Callback σ PublicationOutcomeV0 := do
  let stage ← adapter.createPrivateSiblingStage request
  let stage ← Exec.expectOk stage "adapter must create a private sibling staging entry"
  let facts ← adapter.stagingFacts stage
  Exec.assert (facts.isPrivate = true) "staging entry must not be publicly visible"
  Exec.assert (facts.owned = true) "adapter may clean up only staging it owns"
  Exec.assert (facts.filesystemId = request.destination.filesystemId)
    "staging and destination must share a filesystem"
  match ← adapter.verifyExact stage request.artifact with
  | .error error =>
    cleanup adapter stage
    notPublished adapter error
  | .ok () => match ← adapter.syncStagedFile stage with
    | .error error =>
      cleanup adapter stage
      notPublished adapter error
    | .ok () => match ← adapter.publishNoClobber stage request.destination with
      | .error error => publishFailed adapter request stage error
      | .ok () => publishDone adapter request stage

def runPublicationModel (request : PublicationRequest) : Callback σ PublicationOutcomeV0 := do
  request.validate
  match ← adapter.inspectVisible request.destination with
  | some existing => recoverVisible adapter request existing
  | none => publishStaged adapter request

end Model

/-! ## Outcomes -/

section Outcomes

open Exec

variable {σ Error Stage : Type} {adapter : PublicationModelAdapter σ Error Stage} {s : σ}
  {Q : σ → Prop} {request : PublicationRequest}

/-- What `run_publication_model` accepts. -/
def PublicationRequest.Valid (request : PublicationRequest) : Prop :=
  request.artifact.validate = .ok () ∧ request.destination.validate = .ok ()

theorem validate_ends (hv : request.Valid) :
    Ends (request.validate : Callback σ _) s fun _ s' => s' = s := by
  have h : (expectOk request.destination.validate "valid publication destination" :
      Callback σ _).on s = (.ok (), s) := by rw [hv.2]; rfl
  exact .expectOk_bind hv.1 (.of_on h rfl)

theorem validated_ends {out : PublicationOutcomeV0} (h : out.validate = .ok ()) :
    Ends (validated out : Callback σ _) s fun o s' => o = out ∧ s' = s :=
  .expectOk_bind h (.pure ⟨rfl, rfl⟩)

theorem receipt_valid (hv : request.Valid) {i f d : Bool} (h : d = true → f = true) :
    (receipt request i f d).validate = .ok () :=
  PublicationReceiptV0.validate_eq_ok.mpr ⟨rfl, hv.1, hv.2, rfl, h⟩

/-- The outcome with this service error is canonical. -/
def Canonical (context : PublicationErrorContext) (error : ServiceErrorV0) : Prop :=
  error.validate = .ok () ∧
    (context = .visibleDurabilityUnknown → error.errorClass = .publication)

theorem notPublished_of {m : Callback σ ServiceErrorV0}
    (h : Ends m s fun err s' => Canonical .notPublished err ∧ Q s') :
    Ends (do let error ← m; validated (.notPublished error)) s fun o s' =>
      (o.kind = .notPublished ∧ o.receipt? = none) ∧ Q s' := by
  refine h.bind fun err s₁ ⟨hc, hq⟩ => ?_
  have hv : (PublicationOutcomeV0.notPublished err).validate = .ok () := hc.1
  refine (validated_ends hv).mono ?_
  rintro _ _ ⟨rfl, rfl⟩
  exact ⟨⟨rfl, rfl⟩, hq⟩

theorem conflict_ends
    (h : Ends adapter.conflictError s fun err s' => Canonical .notPublished err ∧ Q s') :
    Ends (conflict adapter) s fun o s' =>
      (o.kind = .notPublished ∧ o.receipt? = none) ∧ Q s' :=
  notPublished_of h

theorem notPublished_ends {e : Error}
    (h : Ends (adapter.serviceError e .notPublished) s fun err s' =>
      Canonical .notPublished err ∧ Q s') :
    Ends (notPublished adapter e) s fun o s' =>
      (o.kind = .notPublished ∧ o.receipt? = none) ∧ Q s' :=
  notPublished_of h

theorem durabilityUnknown_ends (hv : request.Valid) {e : Error}
    (h : Ends (adapter.serviceError e .visibleDurabilityUnknown) s fun err s' =>
      Canonical .visibleDurabilityUnknown err ∧ Q s') (i f : Bool) :
    Ends (durabilityUnknown adapter request e i f) s fun o s' =>
      (o.kind = .publishedDurabilityUnknown ∧ o.receipt? = some (receipt request i f false)) ∧
        Q s' := by
  refine h.bind fun err s₁ ⟨hc, hq⟩ => ?_
  refine (validated_ends (PublicationOutcomeV0.validate_durabilityUnknown.mpr
    ⟨receipt_valid hv (by simp), hc.1, rfl, hc.2 rfl⟩)).mono ?_
  rintro _ _ ⟨rfl, rfl⟩
  exact ⟨⟨rfl, rfl⟩, hq⟩

theorem published_ends (hv : request.Valid) (i : Bool) :
    Ends (validated (.published (receipt request i true true)) : Callback σ _) s fun o s' =>
      (o.kind = .published ∧ o.receipt? = some (receipt request i true true)) ∧ s' = s := by
  refine (validated_ends (PublicationOutcomeV0.validate_published.mpr
    ⟨receipt_valid hv (by simp), rfl, rfl⟩)).mono ?_
  rintro _ s' ⟨rfl, rfl⟩
  exact ⟨⟨rfl, rfl⟩, rfl⟩

end Outcomes

/-! ## Adapters that do the same -/

section Sim

open Exec

variable {σ τ Error Stage : Type} {R : σ → τ → Prop}
  {adapter : PublicationModelAdapter σ Error Stage}
  {adapter' : PublicationModelAdapter τ Error Stage}

/-- Each callback does the same from related states. -/
structure AdapterSim (R : σ → τ → Prop) (adapter : PublicationModelAdapter σ Error Stage)
    (adapter' : PublicationModelAdapter τ Error Stage) : Prop where
  inspectVisible : ∀ d, Sim R (adapter.inspectVisible d) (adapter'.inspectVisible d)
  createPrivateSiblingStage : ∀ r,
    Sim R (adapter.createPrivateSiblingStage r) (adapter'.createPrivateSiblingStage r)
  stagingFacts : ∀ stage, Sim R (adapter.stagingFacts stage) (adapter'.stagingFacts stage)
  verifyExact : ∀ stage a, Sim R (adapter.verifyExact stage a) (adapter'.verifyExact stage a)
  syncStagedFile : ∀ stage, Sim R (adapter.syncStagedFile stage) (adapter'.syncStagedFile stage)
  publishNoClobber : ∀ stage d,
    Sim R (adapter.publishNoClobber stage d) (adapter'.publishNoClobber stage d)
  syncVisibleFile : ∀ d, Sim R (adapter.syncVisibleFile d) (adapter'.syncVisibleFile d)
  syncParentDirectory : ∀ d,
    Sim R (adapter.syncParentDirectory d) (adapter'.syncParentDirectory d)
  cleanupOwnedStage : ∀ stage,
    Sim R (adapter.cleanupOwnedStage stage) (adapter'.cleanupOwnedStage stage)
  serviceError : ∀ e c, Sim R (adapter.serviceError e c) (adapter'.serviceError e c)
  conflictError : Sim R adapter.conflictError adapter'.conflictError

theorem validated_sim (outcome : PublicationOutcomeV0) :
    Sim R (validated outcome : Callback σ _) (validated outcome) :=
  (Sim.expectOk _ _).bind fun _ => .pure _

theorem validate_sim (request : PublicationRequest) :
    Sim R (request.validate : Callback σ _) request.validate :=
  (Sim.expectOk _ _).bind fun _ => .expectOk _ _

namespace AdapterSim

variable (h : AdapterSim R adapter adapter') (request : PublicationRequest)

include h

theorem cleanup (stage : Stage) : Sim R (cleanup adapter stage) (cleanup adapter' stage) :=
  (h.cleanupOwnedStage stage).bind fun _ => .expectOk _ _

theorem notPublished (e : Error) : Sim R (notPublished adapter e) (notPublished adapter' e) :=
  (h.serviceError e _).bind fun _ => validated_sim _

theorem conflict : Sim R (conflict adapter) (conflict adapter') :=
  h.conflictError.bind fun _ => validated_sim _

theorem durabilityUnknown (e : Error) (i f : Bool) :
    Sim R (durabilityUnknown adapter request e i f) (durabilityUnknown adapter' request e i f) :=
  (h.serviceError e _).bind fun _ => validated_sim _

theorem recoverVisible (existing : ArtifactIdentityV0) :
    Sim R (recoverVisible adapter request existing) (recoverVisible adapter' request existing) := by
  unfold Testkit.recoverVisible
  split
  · exact h.conflict
  · refine (h.syncVisibleFile _).bind fun r => ?_
    rcases r with e | ⟨⟩
    · exact h.durabilityUnknown request e true false
    · refine (h.syncParentDirectory _).bind fun r => ?_
      rcases r with e | ⟨⟩
      · exact h.durabilityUnknown request e true true
      · exact validated_sim _

theorem publishFailed (stage : Stage) (e : Error) :
    Sim R (publishFailed adapter request stage e) (publishFailed adapter' request stage e) := by
  unfold Testkit.publishFailed
  refine (h.inspectVisible _).bind fun visible => (h.cleanup stage).bind fun _ => ?_
  cases visible with
  | none => exact h.notPublished e
  | some artifact =>
    dsimp only
    split
    · exact h.durabilityUnknown request e false true
    · exact h.conflict

theorem publishDone (stage : Stage) :
    Sim R (publishDone adapter request stage) (publishDone adapter' request stage) := by
  unfold Testkit.publishDone
  refine (h.inspectVisible _).bind fun _ => (Sim.expect _ _).bind fun _ =>
    (Sim.assert _ _).bind fun _ => (h.syncParentDirectory _).bind fun r =>
      (h.cleanup stage).bind fun _ => ?_
  rcases r with e | ⟨⟩
  · exact h.durabilityUnknown request e false true
  · exact validated_sim _

theorem publishStaged : Sim R (publishStaged adapter request) (publishStaged adapter' request) := by
  unfold Testkit.publishStaged
  refine (h.createPrivateSiblingStage _).bind fun _ => (Sim.expectOk _ _).bind fun stage =>
    (h.stagingFacts stage).bind fun _ => (Sim.assert _ _).bind fun _ =>
      (Sim.assert _ _).bind fun _ => (Sim.assert _ _).bind fun _ =>
        (h.verifyExact stage _).bind fun r => ?_
  rcases r with e | ⟨⟩
  · exact (h.cleanup stage).bind fun _ => h.notPublished e
  · refine (h.syncStagedFile stage).bind fun r => ?_
    rcases r with e | ⟨⟩
    · exact (h.cleanup stage).bind fun _ => h.notPublished e
    · refine (h.publishNoClobber stage _).bind fun r => ?_
      rcases r with e | ⟨⟩
      · exact h.publishFailed request stage e
      · exact h.publishDone request stage

end AdapterSim

/-- Adapters that do the same callback by callback do the same in a run. -/
theorem runPublicationModel_sim (h : AdapterSim R adapter adapter')
    (request : PublicationRequest) :
    Sim R (runPublicationModel adapter request) (runPublicationModel adapter' request) := by
  unfold runPublicationModel
  refine (validate_sim request).bind fun _ => (h.inspectVisible _).bind fun visible => ?_
  cases visible with
  | some existing => exact h.recoverVisible request existing
  | none => exact h.publishStaged request

end Sim

end Testkit
end Platform
