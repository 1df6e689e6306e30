import PlatformContracts.Testkit.ReferencePublication

/-!
# The publication protocol, for every adapter

* `Call`: a call of a callback and its result. `logged adapter` is the adapter with a log of its
  calls; `logged_sim`: it does the same as `adapter`.
* `History request log outcome`: the exit paths of a run, with the calls of each.
  `runPublicationModel_history`: a run that returns takes one of them.
* `publication_protocol`: what every history has in common, for an adapter with any state and
  any results.
-/

namespace Platform
namespace Testkit

open Contracts Exec

variable {σ Error Stage : Type}

/-- A call of a callback, with the stage that it takes and its result. -/
inductive Call (Error Stage : Type) where
  | inspectVisible (visible : Option ArtifactIdentityV0)
  | createPrivateSiblingStage (result : Except Error Stage)
  | stagingFacts (stage : Stage) (facts : StagingFacts)
  | verifyExact (stage : Stage) (result : Except Error Unit)
  | syncStagedFile (stage : Stage) (result : Except Error Unit)
  | publishNoClobber (stage : Stage) (result : Except Error Unit)
  | syncVisibleFile (result : Except Error Unit)
  | syncParentDirectory (result : Except Error Unit)
  | cleanupOwnedStage (stage : Stage) (result : Except Error Unit)
  | serviceError (error : Error) (context : PublicationErrorContext)
  | conflictError
  deriving DecidableEq

namespace Call

/-- The stage that the call takes. -/
def stage? : Call Error Stage → Option Stage
  | stagingFacts stage _ | verifyExact stage _ | syncStagedFile stage _
  | publishNoClobber stage _ | cleanupOwnedStage stage _ => some stage
  | _ => none

/-- What an inspection showed. -/
def inspected? : Call Error Stage → Option (Option ArtifactIdentityV0)
  | inspectVisible visible => some visible
  | _ => none

def isCreate : Call Error Stage → Bool
  | createPrivateSiblingStage _ => true
  | _ => false

def isPublish : Call Error Stage → Bool
  | publishNoClobber _ _ => true
  | _ => false

def isCleanup : Call Error Stage → Bool
  | cleanupOwnedStage _ _ => true
  | _ => false

end Call

/-- The adapter, with a log of its calls. -/
def logged (adapter : PublicationModelAdapter σ Error Stage) :
    PublicationModelAdapter (σ × List (Call Error Stage)) Error Stage where
  inspectVisible d := record (adapter.inspectVisible d) .inspectVisible
  createPrivateSiblingStage r :=
    record (adapter.createPrivateSiblingStage r) .createPrivateSiblingStage
  stagingFacts stage := record (adapter.stagingFacts stage) (.stagingFacts stage)
  verifyExact stage a := record (adapter.verifyExact stage a) (.verifyExact stage)
  syncStagedFile stage := record (adapter.syncStagedFile stage) (.syncStagedFile stage)
  publishNoClobber stage d := record (adapter.publishNoClobber stage d) (.publishNoClobber stage)
  syncVisibleFile d := record (adapter.syncVisibleFile d) .syncVisibleFile
  syncParentDirectory d := record (adapter.syncParentDirectory d) .syncParentDirectory
  cleanupOwnedStage stage := record (adapter.cleanupOwnedStage stage) (.cleanupOwnedStage stage)
  serviceError e context := record (adapter.serviceError e context) fun _ => .serviceError e context
  conflictError := record adapter.conflictError fun _ => .conflictError

theorem logged_sim (adapter : PublicationModelAdapter σ Error Stage) :
    AdapterSim (fun p s => p.1 = s) (logged adapter) adapter where
  inspectVisible _ := record_sim _ _
  createPrivateSiblingStage _ := record_sim _ _
  stagingFacts _ := record_sim _ _
  verifyExact _ _ := record_sim _ _
  syncStagedFile _ := record_sim _ _
  publishNoClobber _ _ := record_sim _ _
  syncVisibleFile _ := record_sim _ _
  syncParentDirectory _ := record_sim _ _
  cleanupOwnedStage _ := record_sim _ _
  serviceError _ _ := record_sim _ _
  conflictError := record_sim _ _

/-! ## The exit paths -/

/-- The calls of a run that took a stage through its verification and its sync. -/
def stagedCalls (stage : Stage) (facts : StagingFacts) : List (Call Error Stage) :=
  [.inspectVisible none, .createPrivateSiblingStage (.ok stage), .stagingFacts stage facts,
    .verifyExact stage (.ok ()), .syncStagedFile stage (.ok ())]

/-- The exit paths of a run: its calls and its outcome. -/
inductive History (request : PublicationRequest) :
    List (Call Error Stage) → PublicationOutcomeV0 → Prop
  | conflict {existing : ArtifactIdentityV0} {err : ServiceErrorV0} :
      sameContent existing request.artifact = false →
      History request [.inspectVisible (some existing), .conflictError] (.notPublished err)
  | recoverFileUnknown {existing : ArtifactIdentityV0} {e : Error} {err : ServiceErrorV0} :
      sameContent existing request.artifact = true →
      History request
        [.inspectVisible (some existing), .syncVisibleFile (.error e),
          .serviceError e .visibleDurabilityUnknown]
        (.publishedDurabilityUnknown (receipt request true false false) err)
  | recoverDirectoryUnknown {existing : ArtifactIdentityV0} {e : Error} {err : ServiceErrorV0} :
      sameContent existing request.artifact = true →
      History request
        [.inspectVisible (some existing), .syncVisibleFile (.ok ()),
          .syncParentDirectory (.error e), .serviceError e .visibleDurabilityUnknown]
        (.publishedDurabilityUnknown (receipt request true true false) err)
  | recovered {existing : ArtifactIdentityV0} :
      sameContent existing request.artifact = true →
      History request
        [.inspectVisible (some existing), .syncVisibleFile (.ok ()), .syncParentDirectory (.ok ())]
        (.published (receipt request true true true))
  | verifyFailed {stage : Stage} {facts : StagingFacts} {e : Error} {err : ServiceErrorV0} :
      History request
        [.inspectVisible none, .createPrivateSiblingStage (.ok stage), .stagingFacts stage facts,
          .verifyExact stage (.error e), .cleanupOwnedStage stage (.ok ()),
          .serviceError e .notPublished]
        (.notPublished err)
  | syncFailed {stage : Stage} {facts : StagingFacts} {e : Error} {err : ServiceErrorV0} :
      History request
        [.inspectVisible none, .createPrivateSiblingStage (.ok stage), .stagingFacts stage facts,
          .verifyExact stage (.ok ()), .syncStagedFile stage (.error e),
          .cleanupOwnedStage stage (.ok ()), .serviceError e .notPublished]
        (.notPublished err)
  | publishFailedExact {stage : Stage} {facts : StagingFacts} {e : Error}
      {artifact : ArtifactIdentityV0} {err : ServiceErrorV0} :
      sameContent artifact request.artifact = true →
      History request
        (stagedCalls stage facts ++ [Call.publishNoClobber stage (.error e),
          .inspectVisible (some artifact), .cleanupOwnedStage stage (.ok ()),
          .serviceError e .visibleDurabilityUnknown])
        (.publishedDurabilityUnknown (receipt request false true false) err)
  | publishFailedConflict {stage : Stage} {facts : StagingFacts} {e : Error}
      {artifact : ArtifactIdentityV0} {err : ServiceErrorV0} :
      sameContent artifact request.artifact = false →
      History request
        (stagedCalls stage facts ++ [Call.publishNoClobber stage (.error e),
          .inspectVisible (some artifact), .cleanupOwnedStage stage (.ok ()), .conflictError])
        (.notPublished err)
  | publishFailedNothing {stage : Stage} {facts : StagingFacts} {e : Error}
      {err : ServiceErrorV0} :
      History request
        (stagedCalls stage facts ++ [Call.publishNoClobber stage (.error e),
          .inspectVisible none, .cleanupOwnedStage stage (.ok ()), .serviceError e .notPublished])
        (.notPublished err)
  | publishedDirectoryUnknown {stage : Stage} {facts : StagingFacts} {e : Error}
      {artifact : ArtifactIdentityV0} {err : ServiceErrorV0} :
      sameContent artifact request.artifact = true →
      History request
        (stagedCalls stage facts ++ [Call.publishNoClobber stage (.ok ()),
          .inspectVisible (some artifact), .syncParentDirectory (.error e),
          .cleanupOwnedStage stage (.ok ()), .serviceError e .visibleDurabilityUnknown])
        (.publishedDurabilityUnknown (receipt request false true false) err)
  | published {stage : Stage} {facts : StagingFacts} {artifact : ArtifactIdentityV0} :
      sameContent artifact request.artifact = true →
      History request
        (stagedCalls stage facts ++ [Call.publishNoClobber stage (.ok ()),
          .inspectVisible (some artifact), .syncParentDirectory (.ok ()),
          .cleanupOwnedStage stage (.ok ())])
        (.published (receipt request false true true))

/-! ## A run takes one of them -/

section Run

variable {adapter : PublicationModelAdapter σ Error Stage} {request : PublicationRequest}
  {p p' : σ × List (Call Error Stage)} {outcome out : PublicationOutcomeV0} {stage : Stage}
  {e : Error}

theorem validated_ok {τ : Type} {s s' : τ}
    (h : (validated out).on s = (.ok outcome, s')) :
    out.validate = .ok () ∧ outcome = out ∧ s' = s := by
  obtain ⟨⟨⟩, hv, h⟩ := expectOk_bind_ok.mp h
  simp only [on_pure, Prod.mk.injEq, Except.ok.injEq] at h
  exact ⟨hv, h.1.symm, h.2.symm⟩

theorem conflict_ok (h : (conflict (logged adapter)).on p = (.ok outcome, p')) :
    ∃ err, outcome = .notPublished err ∧ p'.2 = p.2 ++ [.conflictError] ∧
      outcome.validate = .ok () := by
  obtain ⟨err, s, h⟩ := record_bind_ok h
  obtain ⟨hv, rfl, rfl⟩ := validated_ok h
  exact ⟨err, rfl, rfl, hv⟩

theorem notPublished_ok (h : (notPublished (logged adapter) e).on p = (.ok outcome, p')) :
    ∃ err, outcome = .notPublished err ∧ p'.2 = p.2 ++ [.serviceError e .notPublished] ∧
      outcome.validate = .ok () := by
  obtain ⟨err, s, h⟩ := record_bind_ok h
  obtain ⟨hv, rfl, rfl⟩ := validated_ok h
  exact ⟨err, rfl, rfl, hv⟩

theorem durabilityUnknown_ok {i f : Bool}
    (h : (durabilityUnknown (logged adapter) request e i f).on p = (.ok outcome, p')) :
    ∃ err, outcome = .publishedDurabilityUnknown (receipt request i f false) err ∧
      p'.2 = p.2 ++ [.serviceError e .visibleDurabilityUnknown] ∧
      outcome.validate = .ok () := by
  obtain ⟨err, s, h⟩ := record_bind_ok h
  obtain ⟨hv, rfl, rfl⟩ := validated_ok h
  exact ⟨err, rfl, rfl, hv⟩

theorem cleanup_bind_ok {α : Type} {a : α} {f : Unit → Callback (σ × List (Call Error Stage)) α}
    (h : (cleanup (logged adapter) stage >>= f).on p = (.ok a, p')) :
    ∃ s, (f ()).on (s, p.2 ++ [.cleanupOwnedStage stage (.ok ())]) = (.ok a, p') := by
  obtain ⟨⟨⟩, p₁, hc, h⟩ := bind_on_ok.mp h
  obtain ⟨result, s, hc⟩ := record_bind_ok hc
  rcases result with _ | ⟨⟩
  · simp [expectOk] at hc
  · simp only [expectOk, on_pure, Prod.mk.injEq, true_and] at hc
    exact ⟨s, by rw [hc]; exact h⟩

theorem recoverVisible_history {existing : ArtifactIdentityV0}
    (hp : p.2 = [.inspectVisible (some existing)])
    (h : (recoverVisible (logged adapter) request existing).on p = (.ok outcome, p')) :
    History request p'.2 outcome ∧ outcome.validate = .ok () := by
  unfold recoverVisible at h
  split at h
  · rename_i hc
    rw [Bool.not_eq_true'] at hc
    obtain ⟨err, rfl, hl, hv⟩ := conflict_ok h
    rw [hl, hp]
    exact ⟨.conflict hc, hv⟩
  rename_i hc
  rw [Bool.not_eq_true', Bool.not_eq_false] at hc
  obtain ⟨r, s, h⟩ := record_bind_ok h
  rcases r with e | ⟨⟩
  · obtain ⟨err, rfl, hl, hv⟩ := durabilityUnknown_ok h
    rw [hl, hp]
    exact ⟨.recoverFileUnknown hc, hv⟩
  obtain ⟨r, s', h⟩ := record_bind_ok h
  rcases r with e | ⟨⟩
  · obtain ⟨err, rfl, hl, hv⟩ := durabilityUnknown_ok h
    rw [hl, hp]
    exact ⟨.recoverDirectoryUnknown hc, hv⟩
  · obtain ⟨hv, rfl, rfl⟩ := validated_ok h
    rw [hp]
    exact ⟨.recovered hc, hv⟩

theorem publishFailed_history {facts : StagingFacts}
    (hp : p.2 = stagedCalls stage facts ++ [.publishNoClobber stage (.error e)])
    (h : (publishFailed (logged adapter) request stage e).on p = (.ok outcome, p')) :
    History request p'.2 outcome ∧ outcome.validate = .ok () := by
  obtain ⟨visible, s, h⟩ := record_bind_ok h
  obtain ⟨s', h⟩ := cleanup_bind_ok h
  cases visible with
  | none =>
    obtain ⟨err, rfl, hl, hv⟩ := notPublished_ok h
    rw [hl, hp]
    exact ⟨.publishFailedNothing, hv⟩
  | some artifact =>
    dsimp only at h
    split at h
    · rename_i hc
      obtain ⟨err, rfl, hl, hv⟩ := durabilityUnknown_ok h
      rw [hl, hp]
      exact ⟨.publishFailedExact hc, hv⟩
    · rename_i hc
      rw [Bool.not_eq_true] at hc
      obtain ⟨err, rfl, hl, hv⟩ := conflict_ok h
      rw [hl, hp]
      exact ⟨.publishFailedConflict hc, hv⟩

theorem publishDone_history {facts : StagingFacts}
    (hp : p.2 = stagedCalls stage facts ++ [.publishNoClobber stage (.ok ())])
    (h : (publishDone (logged adapter) request stage).on p = (.ok outcome, p')) :
    History request p'.2 outcome ∧ outcome.validate = .ok () := by
  obtain ⟨visible, s, h⟩ := record_bind_ok h
  obtain ⟨artifact, rfl, h⟩ := expect_bind_ok.mp h
  obtain ⟨hc, h⟩ := assert_bind_ok.mp h
  obtain ⟨r, s', h⟩ := record_bind_ok h
  obtain ⟨s'', h⟩ := cleanup_bind_ok h
  rcases r with e | ⟨⟩
  · obtain ⟨err, rfl, hl, hv⟩ := durabilityUnknown_ok h
    rw [hl, hp]
    exact ⟨.publishedDirectoryUnknown hc, hv⟩
  · obtain ⟨hv, rfl, rfl⟩ := validated_ok h
    rw [hp]
    exact ⟨.published hc, hv⟩

theorem publishStaged_history (hp : p.2 = [.inspectVisible none])
    (h : (publishStaged (logged adapter) request).on p = (.ok outcome, p')) :
    History request p'.2 outcome ∧ outcome.validate = .ok () := by
  obtain ⟨r, s₁, h⟩ := record_bind_ok h
  obtain ⟨stage, rfl, h⟩ := expectOk_bind_ok.mp h
  obtain ⟨facts, s₂, h⟩ := record_bind_ok h
  obtain ⟨-, h⟩ := assert_bind_ok.mp h
  obtain ⟨-, h⟩ := assert_bind_ok.mp h
  obtain ⟨-, h⟩ := assert_bind_ok.mp h
  obtain ⟨r, s₃, h⟩ := record_bind_ok h
  rcases r with e | ⟨⟩
  · obtain ⟨s₄, h⟩ := cleanup_bind_ok h
    obtain ⟨err, rfl, hl, hv⟩ := notPublished_ok h
    rw [hl, hp]
    exact ⟨.verifyFailed, hv⟩
  obtain ⟨r, s₄, h⟩ := record_bind_ok h
  rcases r with e | ⟨⟩
  · obtain ⟨s₅, h⟩ := cleanup_bind_ok h
    obtain ⟨err, rfl, hl, hv⟩ := notPublished_ok h
    rw [hl, hp]
    exact ⟨.syncFailed, hv⟩
  obtain ⟨r, s₅, h⟩ := record_bind_ok h
  rcases r with e | ⟨⟩
  · exact publishFailed_history (by rw [hp]; rfl) h
  · exact publishDone_history (by rw [hp]; rfl) h

/-- A run that returns takes one of the exit paths, with a valid outcome. -/
theorem runPublicationModel_history {s : σ}
    (h : (runPublicationModel (logged adapter) request).on (s, []) = (.ok outcome, p')) :
    History request p'.2 outcome ∧ outcome.validate = .ok () := by
  obtain ⟨⟨⟩, p₁, hr, h⟩ := bind_on_ok.mp h
  have hp : p₁ = (s, []) := by
    obtain ⟨⟨⟩, -, hr⟩ := expectOk_bind_ok.mp hr
    unfold expectOk at hr
    split at hr
    · exact (congrArg Prod.snd hr).symm
    · cases congrArg Prod.fst hr
  subst hp
  obtain ⟨visible, s', h⟩ := record_bind_ok h
  cases visible with
  | some existing => exact recoverVisible_history rfl h
  | none => exact publishStaged_history rfl h

end Run

/-! ## The protocol -/

/-- The stage was passed to one cleanup, and no call after it takes a stage. -/
def CleanedOnce (log : List (Call Error Stage)) (stage : Stage) : Prop :=
  ∃ pre post result, log = pre ++ .cleanupOwnedStage stage result :: post ∧
    (∀ c ∈ pre, c.isCleanup = false) ∧ ∀ c ∈ post, c.stage? = none

/-- The last inspection of the log showed the content of the request, before the calls `post`. -/
def ShowsExact (request : PublicationRequest) (log post : List (Call Error Stage)) : Prop :=
  ∃ pre artifact, log = pre ++ .inspectVisible (some artifact) :: post ∧
    sameContent artifact request.artifact = true ∧ ∀ c ∈ post, c.inspected? = none

/-- The last inspection of the log showed nothing, or other content than that of the request. -/
def ShowsOther (request : PublicationRequest) (log : List (Call Error Stage)) : Prop :=
  ∃ pre visible post, log = pre ++ .inspectVisible visible :: post ∧
    (∀ artifact, visible = some artifact → sameContent artifact request.artifact = false) ∧
    ∀ c ∈ post, c.inspected? = none

/-- What the outcome of a run says about its calls. -/
def Justified (request : PublicationRequest) (log : List (Call Error Stage)) :
    PublicationOutcomeV0 → Prop
  | .published _ => (∃ post, ShowsExact request log post ∧ .syncParentDirectory (.ok ()) ∈ post) ∧
    ((∃ stage, .publishNoClobber stage (.ok ()) ∈ log) ∨ .syncVisibleFile (.ok ()) ∈ log)
  | .publishedDurabilityUnknown _ _ => (∃ post, ShowsExact request log post) ∧
    .syncParentDirectory (.ok ()) ∉ log
  | .notPublished _ => ShowsOther request log ∧
    (∀ stage, .publishNoClobber stage (.ok ()) ∉ log) ∧ ∀ r, .syncParentDirectory r ∉ log

/-- The bits of a receipt are those of the run. -/
structure ReceiptJustified (request : PublicationRequest) (log : List (Call Error Stage))
    (r : PublicationReceiptV0) : Prop where
  artifact : r.artifact = request.artifact
  destination : r.destination = request.destination
  fileSynced : r.fileSynced = true →
    .syncVisibleFile (.ok ()) ∈ log ∨ ∃ stage, .syncStagedFile stage (.ok ()) ∈ log
  directorySynced : r.directorySynced = true ↔ .syncParentDirectory (.ok ()) ∈ log
  idempotentRecovery : r.idempotentRecovery = true ↔
    ∃ existing, (log.filterMap Call.inspected?).head? = some (some existing)

/-- What every run has in common. -/
structure Protocol (request : PublicationRequest) (log : List (Call Error Stage))
    (outcome : PublicationOutcomeV0) : Prop where
  createOnce : log.countP Call.isCreate ≤ 1
  createFresh : ∀ pre post r, log = pre ++ .createPrivateSiblingStage r :: post →
    (pre.filterMap Call.inspected?).head? = some none
  publishOnce : log.countP Call.isPublish ≤ 1
  publishStaged : ∀ pre post stage r, log = pre ++ .publishNoClobber stage r :: post →
    [.verifyExact stage (.ok ()), .syncStagedFile stage (.ok ())].Sublist pre
  cleanup : ∀ stage, .createPrivateSiblingStage (.ok stage) ∈ log → CleanedOnce log stage
  justified : Justified request log outcome
  receipt : ∀ r, outcome.receipt? = some r → ReceiptJustified request log r

section History

variable {request : PublicationRequest} {log : List (Call Error Stage)}
  {outcome : PublicationOutcomeV0}

theorem History.createOnce (h : History request log outcome) :
    log.countP Call.isCreate ≤ 1 := by
  cases h <;> simp [stagedCalls, List.countP_cons, Call.isCreate]

/-- What the calls before a creation are. -/
theorem History.createFresh (h : History request log outcome) {pre post : List (Call Error Stage)}
    {r : Except Error Stage} (hl : log = pre ++ .createPrivateSiblingStage r :: post) :
    (pre.filterMap Call.inspected?).head? = some none := by
  have key : ∀ {stage' : Stage} {rest : List (Call Error Stage)},
      (∀ c ∈ rest, c.isCreate = false) →
      [.inspectVisible none] ++ .createPrivateSiblingStage (.ok stage') :: rest =
        pre ++ .createPrivateSiblingStage r :: post →
      (pre.filterMap Call.inspected?).head? = some none := by
    intro stage' rest hrest he
    obtain ⟨rfl, -, -⟩ := split_unique (p := Call.isCreate) rfl (by simp [Call.isCreate]) hrest he
    rfl
  have hcreated : .createPrivateSiblingStage r ∈ log := by rw [hl]; simp
  cases h with
  | verifyFailed | syncFailed | publishFailedExact | publishFailedConflict
  | publishFailedNothing | publishedDirectoryUnknown | published =>
    exact key (by simp [Call.isCreate]) hl
  | _ => simp at hcreated

theorem History.publishOnce (h : History request log outcome) :
    log.countP Call.isPublish ≤ 1 := by
  cases h <;> simp [stagedCalls, List.countP_cons, Call.isPublish]

/-- What the calls before and after a publication are. -/
theorem History.publishStaged (h : History request log outcome)
    {pre post : List (Call Error Stage)} {stage : Stage} {r : Except Error Unit}
    (hl : log = pre ++ .publishNoClobber stage r :: post) :
    [.verifyExact stage (.ok ()), .syncStagedFile stage (.ok ())].Sublist pre := by
  have key : ∀ {facts : StagingFacts} {stage' : Stage} {r' : Except Error Unit}
      {rest : List (Call Error Stage)}, (∀ c ∈ rest, c.isPublish = false) →
      stagedCalls stage' facts ++ .publishNoClobber stage' r' :: rest =
        pre ++ .publishNoClobber stage r :: post →
      [.verifyExact stage (.ok ()), .syncStagedFile stage (.ok ())].Sublist pre := by
    intro facts stage' r' rest hrest he
    obtain ⟨rfl, hp, -⟩ := split_unique (p := Call.isPublish) rfl
      (by simp [stagedCalls, Call.isPublish]) hrest he
    obtain ⟨rfl, rfl⟩ := Call.publishNoClobber.inj hp
    exact .cons _ (.cons _ (.cons _ (.refl _)))
  have hpublished : .publishNoClobber stage r ∈ log := by rw [hl]; simp
  cases h with
  | publishFailedExact | publishFailedConflict | publishFailedNothing
  | publishedDirectoryUnknown | published => exact key (by simp [Call.isPublish]) hl
  | _ => simp at hpublished

theorem History.cleanup (h : History request log outcome) {stage : Stage}
    (hc : .createPrivateSiblingStage (.ok stage) ∈ log) : CleanedOnce log stage := by
  cases h <;> simp only [stagedCalls, List.mem_cons, List.mem_append, reduceCtorEq,
    List.not_mem_nil, or_false, false_or, or_self, Call.createPrivateSiblingStage.injEq,
    Except.ok.injEq] at hc
  case verifyFailed =>
    subst hc
    exact ⟨[_, _, _, _], [_], _, rfl, by simp [Call.isCleanup], by simp [Call.stage?]⟩
  case syncFailed =>
    subst hc
    exact ⟨[_, _, _, _, _], [_], _, rfl, by simp [Call.isCleanup], by simp [Call.stage?]⟩
  case published =>
    subst hc
    exact ⟨_ ++ [_, _, _], [], _, by rw [List.append_assoc]; rfl,
      by simp [stagedCalls, Call.isCleanup], by simp⟩
  case publishedDirectoryUnknown =>
    subst hc
    exact ⟨_ ++ [_, _, _], [_], _, by rw [List.append_assoc]; rfl,
      by simp [stagedCalls, Call.isCleanup], by simp [Call.stage?]⟩
  all_goals
    subst hc
    exact ⟨_ ++ [_, _], [_], _, by rw [List.append_assoc]; rfl,
      by simp [stagedCalls, Call.isCleanup], by simp [Call.stage?]⟩

theorem History.justified (h : History request log outcome) : Justified request log outcome := by
  cases h with
  | conflict hc =>
    exact ⟨⟨[], _, _, rfl, by simp [hc], by simp [Call.inspected?]⟩, by simp, by simp⟩
  | verifyFailed | syncFailed =>
    exact ⟨⟨[], _, _, rfl, by simp, by simp [Call.inspected?]⟩, by simp, by simp⟩
  | publishFailedConflict hc =>
    exact ⟨⟨_ ++ [_], _, _, by rw [List.append_assoc]; rfl, by simp [hc],
      by simp [Call.inspected?]⟩, by simp [stagedCalls], by simp [stagedCalls]⟩
  | publishFailedNothing =>
    exact ⟨⟨_ ++ [_], _, _, by rw [List.append_assoc]; rfl, by simp,
      by simp [Call.inspected?]⟩, by simp [stagedCalls], by simp [stagedCalls]⟩
  | recoverFileUnknown hc =>
    exact ⟨⟨_, [], _, rfl, hc, by simp [Call.inspected?]⟩, by simp⟩
  | recoverDirectoryUnknown hc =>
    exact ⟨⟨_, [], _, rfl, hc, by simp [Call.inspected?]⟩, by simp⟩
  | recovered hc =>
    exact ⟨⟨_, ⟨[], _, rfl, hc, by simp [Call.inspected?]⟩, by simp⟩, .inr (by simp)⟩
  | publishFailedExact hc =>
    exact ⟨⟨_, _ ++ [_], _, by rw [List.append_assoc]; rfl, hc, by simp [Call.inspected?]⟩,
      by simp [stagedCalls]⟩
  | publishedDirectoryUnknown hc =>
    exact ⟨⟨_, _ ++ [_], _, by rw [List.append_assoc]; rfl, hc, by simp [Call.inspected?]⟩,
      by simp [stagedCalls]⟩
  | published hc =>
    exact ⟨⟨_, ⟨_ ++ [_], _, by rw [List.append_assoc]; rfl, hc, by simp [Call.inspected?]⟩,
      by simp⟩, .inl ⟨_, List.mem_append_right _ List.mem_cons_self⟩⟩

theorem History.receipt (h : History request log outcome) {r : PublicationReceiptV0}
    (hr : outcome.receipt? = some r) : ReceiptJustified request log r := by
  cases h <;> simp only [PublicationOutcomeV0.receipt?, reduceCtorEq, Option.some.injEq] at hr <;>
    subst hr <;> refine ⟨rfl, rfl, ?_, ?_, ?_⟩ <;>
    simp [Testkit.receipt, stagedCalls, Call.inspected?]

theorem History.protocol (h : History request log outcome) : Protocol request log outcome where
  createOnce := h.createOnce
  createFresh _ _ _ hl := h.createFresh hl
  publishOnce := h.publishOnce
  publishStaged _ _ _ _ hl := h.publishStaged hl
  cleanup _ hc := h.cleanup hc
  justified := h.justified
  receipt _ hr := h.receipt hr

end History

/-- **The publication protocol.** For every adapter and every run of it that returns an outcome,
there is the log of its calls: the run with the log returns the same outcome in the same state,
the outcome is valid, and the log follows the protocol and justifies the outcome. -/
theorem publication_protocol (adapter : PublicationModelAdapter σ Error Stage)
    {request : PublicationRequest} {s s' : σ} {outcome : PublicationOutcomeV0}
    (h : (runPublicationModel adapter request).on s = (.ok outcome, s')) :
    ∃ log, (runPublicationModel (logged adapter) request).on (s, []) =
        (.ok outcome, (s', log)) ∧
      outcome.validate = .ok () ∧ Protocol request log outcome := by
  obtain ⟨hr, hs⟩ := runPublicationModel_sim (logged_sim adapter) request (s, []) s rfl
  rw [h] at hr hs
  rcases hrun : (runPublicationModel (logged adapter) request).on (s, []) with ⟨r, s₁, log⟩
  rw [hrun] at hr hs
  dsimp only at hr hs
  subst hr hs
  obtain ⟨hh, hv⟩ := runPublicationModel_history hrun
  exact ⟨log, rfl, hv, hh.protocol⟩

/-- The error of the reference adapter about an artifact that may not be durable. -/
def durabilityUnknownError : ServiceErrorV0 where
  schema := serviceErrorSchemaV0
  code := "publication.durability_unknown"
  errorClass := .publication
  retry := .afterRestart
  operationId := none
  service := testkitService
  safeDetail := "the exact artifact is visible but file or parent durability is unknown"

/-- The calls of a publication whose `publish_no_clobber` fails after the artifact became
visible. -/
def afterVisibilityLog : List (Call ReferencePublicationError ReferenceStage) :=
  stagedCalls 1 { filesystemId := "filesystem-1", isPrivate := true, owned := true } ++
    [.publishNoClobber 1 (.error (.injected .afterNoClobberVisibility)),
      .inspectVisible (some testRequest.artifact), .cleanupOwnedStage 1 (.ok ()),
      .serviceError (.injected .afterNoClobberVisibility) .visibleDurabilityUnknown]

/-- Its outcome, and what the protocol says of these calls. -/
theorem publication_protocol_afterVisibility :
    ∃ outcome s', (runPublicationModel referencePublication testRequest).on
        { faults := ⟨[.afterNoClobberVisibility]⟩ } = (.ok outcome, s') ∧
      outcome = .publishedDurabilityUnknown (receipt testRequest false true false)
        durabilityUnknownError ∧
      (runPublicationModel (logged referencePublication) testRequest).on
        ({ faults := ⟨[.afterNoClobberVisibility]⟩ }, []) =
          (.ok outcome, (s', afterVisibilityLog)) ∧
      outcome.validate = .ok () ∧ Protocol testRequest afterVisibilityLog outcome := by
  obtain ⟨outcome, s', h⟩ := on_eq_ok_of_toBool
    (m := runPublicationModel referencePublication testRequest)
    (s := { faults := ⟨[.afterNoClobberVisibility]⟩ }) (by decide)
  have hout : .ok outcome = Except.ok (.publishedDurabilityUnknown
      (receipt testRequest false true false) durabilityUnknownError) :=
    (congrArg Prod.fst h).symm.trans (by decide)
  obtain ⟨log, hrun, hvalid, hprotocol⟩ := publication_protocol referencePublication h
  have hlog : log = afterVisibilityLog :=
    (congrArg (fun result => result.2.2) hrun).symm.trans (by decide)
  subst hlog
  exact ⟨outcome, s', h, Except.ok.inj hout, hrun, hvalid, hprotocol⟩

end Testkit
end Platform
