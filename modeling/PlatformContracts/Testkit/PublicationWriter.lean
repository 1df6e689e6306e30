import PlatformContracts.Testkit.ReferenceCallbacks

/-!
# Publication with a second writer

* `SharedDestination`: the reference publication adapter at a destination that another writer
  also uses, and whether the visible file has been synced. Between two adapter calls the other
  writer may install its own file, never synced, if the destination is empty, and a fault may be
  armed for the next call (`Turn`).
* `sharedDestination schedule`: its callbacks. Each is the reference adapter's, after the turn.
* `TruthfulSync`: a receipt with `file_synced` means that the visible file has been synced.
* `LostRace`: the runs of `run_publication_model` that break it; `truthfulSync_iff`: no others do.
-/

namespace Platform
namespace Testkit

open Std Contracts Exec

/-- What happens just before an adapter call. -/
structure Turn where
  /-- A file that the other writer installs if the destination is empty. -/
  install : Option ArtifactIdentityV0
  /-- A fault that is armed for the call. -/
  fault : Option FaultPoint
  deriving DecidableEq

structure SharedDestination where
  /-- The stages, and the identity of the visible file. -/
  reference : ReferencePublicationAdapter
  /-- Whether the visible file has been synced. -/
  fileSynced : Bool
  /-- The number of adapter calls so far. -/
  calls : Nat
  deriving DecidableEq

namespace SharedDestination

variable (schedule : Nat → Turn)

/-- The destination when the next call begins. A file of the other writer is not synced. -/
def arrive (self : SharedDestination) : SharedDestination where
  reference := { self.reference with
    faults := ⟨(schedule self.calls).fault.toList⟩
    visible := self.reference.visible.or (schedule self.calls).install }
  fileSynced := self.reference.visible.isSome && self.fileSynced
  calls := self.calls + 1

/-- A callback of the reference adapter. -/
def onReference {α : Type} (m : Callback ReferencePublicationAdapter α) :
    Callback SharedDestination α :=
  onPart reference (fun reference self => { self with reference }) m

/-- A callback of the reference adapter, at its turn. -/
def atTurn {α : Type} (m : Callback ReferencePublicationAdapter α) :
    Callback SharedDestination α := do
  modify (arrive schedule)
  onReference m

/-- The file that becomes visible is the staged one, synced or not. -/
def publishNoClobber (stage : ReferenceStage) (destination : DestinationIdentityV0) :
    Callback SharedDestination (Except ReferencePublicationError Unit) := do
  modify (arrive schedule)
  let before ← get
  let answer ← onReference (referencePublication.publishNoClobber stage destination)
  modify fun self =>
    if before.reference.visible = none ∧ self.reference.visible ≠ none then
      { self with fileSynced := before.reference.stages[stage]?.any (·.fileSynced) }
    else self
  pure answer

/-- A sync that succeeds syncs the visible file. -/
def syncVisibleFile (destination : DestinationIdentityV0) :
    Callback SharedDestination (Except ReferencePublicationError Unit) := do
  let answer ← atTurn schedule (referencePublication.syncVisibleFile destination)
  modify fun self => { self with fileSynced := answer.isOk || self.fileSynced }
  pure answer

end SharedDestination

open SharedDestination in
/-- The adapter of a destination with a second writer. -/
def sharedDestination (schedule : Nat → Turn) :
    PublicationModelAdapter SharedDestination ReferencePublicationError ReferenceStage where
  inspectVisible d := atTurn schedule (referencePublication.inspectVisible d)
  createPrivateSiblingStage r := atTurn schedule (referencePublication.createPrivateSiblingStage r)
  stagingFacts stage := atTurn schedule (referencePublication.stagingFacts stage)
  verifyExact stage expected := atTurn schedule (referencePublication.verifyExact stage expected)
  syncStagedFile stage := atTurn schedule (referencePublication.syncStagedFile stage)
  publishNoClobber := publishNoClobber schedule
  syncVisibleFile := syncVisibleFile schedule
  syncParentDirectory d := atTurn schedule (referencePublication.syncParentDirectory d)
  cleanupOwnedStage stage := atTurn schedule (referencePublication.cleanupOwnedStage stage)
  serviceError e context := atTurn schedule (referencePublication.serviceError e context)
  conflictError := atTurn schedule referencePublication.conflictError

/-- A receipt that claims a file sync is about a visible file that has been synced. -/
def TruthfulSync (outcome : PublicationOutcomeV0) (s : SharedDestination) : Prop :=
  ∀ receipt, outcome.receipt? = some receipt → receipt.fileSynced = true →
    s.reference.visible ≠ none ∧ s.fileSynced = true

/-! ## The lost race -/

/-- The file that the other writer installs in an empty destination over the calls `c + 1` to
`c + n`. -/
def installedBy (schedule : Nat → Turn) (c : Nat) : Nat → Option ArtifactIdentityV0
  | 0 => none
  | n + 1 => (installedBy schedule c n).or (schedule (c + n + 1)).install

/-- The file of the other writer that a run from the call `c` on finds when its publication
failed: it was there first, or the publication had failed before it came. -/
def rival (schedule : Nat → Turn) (c : Nat) : Option ArtifactIdentityV0 :=
  if (schedule (c + 5)).fault = some .beforeVisibility then installedBy schedule c 6
  else installedBy schedule c 5

/-- The next stage has an ID, and the ID is new. -/
def StageRoom (r : ReferencePublicationAdapter) : Prop :=
  r.nextStage.toNat + 1 < 2 ^ 64 ∧ r.stages[r.nextStage + 1]? = none

/-- The run staged, verified and synced the artifact, and the other writer published the same
content. -/
structure LostRace (schedule : Nat → Turn) (request : PublicationRequest)
    (s : SharedDestination) : Prop where
  valid : request.Valid
  empty : s.reference.visible = none ∧ (schedule s.calls).install = none
  room : StageRoom s.reference
  verified : (schedule (s.calls + 3)).fault ≠ some .corruptStagedBeforeVerification ∨
    sameContent (corrupted (stagedFor request)).artifact request.artifact = true
  synced : (schedule (s.calls + 4)).fault ≠ some .beforeFileSync
  raced : ∃ artifact, rival schedule s.calls = some artifact ∧
    sameContent artifact request.artifact = true

/-! ## The callbacks at their turns -/

section Turns

open SharedDestination

variable {schedule : Nat → Turn} {s : SharedDestination} {stage : ReferenceStage}
  {staged : StagedArtifact} {request : PublicationRequest}

theorem arrive_faults_length : (s.arrive schedule).reference.faults.points.length ≤ 1 := by
  show (schedule s.calls).fault.toList.length ≤ 1
  cases (schedule s.calls).fault <;> simp

theorem armed_arrive {point : FaultPoint} :
    Armed (s.arrive schedule).reference point ↔ (schedule s.calls).fault = some point := by
  show (schedule s.calls).fault.toList.head? = some point ↔ _
  cases (schedule s.calls).fault <;> simp

theorem onReference_on {α : Type} {m : Callback ReferencePublicationAdapter α} {a : α}
    {r : ReferencePublicationAdapter} (h : m.on s.reference = (.ok a, r)) :
    (onReference m).on s = (.ok a, { s with reference := r }) := by
  unfold onReference
  rw [onPart_on, h]

/-- A callback at its turn does what it does at the destination as the turn leaves it. -/
theorem atTurn_ends {α : Type} {m : Callback ReferencePublicationAdapter α}
    {Q : α → ReferencePublicationAdapter → Prop}
    (h : Ends m (s.arrive schedule).reference Q) :
    Ends (atTurn schedule m) s fun a s' => Q a s'.reference ∧
      s'.fileSynced = (s.arrive schedule).fileSynced ∧ s'.calls = s.calls + 1 := by
  obtain ⟨a, r, hm, hq⟩ := h
  have hon : (atTurn schedule m).on s = (.ok a, { s.arrive schedule with reference := r }) := by
    unfold atTurn
    rw [on_modify_bind, onReference_on hm]
  exact .of_on hon ⟨hq, rfl, rfl⟩

/-- The visible file, and whether it has been synced. -/
structure Settled (artifact : ArtifactIdentityV0) (synced : Bool) (s : SharedDestination) :
    Prop where
  visible : s.reference.visible = some artifact
  fileSynced : s.fileSynced = synced

/-- Nothing is installed over a visible file. -/
theorem Settled.arrive {artifact : ArtifactIdentityV0} {synced : Bool}
    (h : Settled artifact synced s) : Settled artifact synced (s.arrive schedule) where
  visible := by
    show s.reference.visible.or _ = _
    rw [h.visible]
    rfl
  fileSynced := by
    show (s.reference.visible.isSome && s.fileSynced) = _
    rw [h.visible, h.fileSynced]
    rfl

/-- A callback that keeps the visible file. -/
theorem Settled.atTurn_ends {α : Type} {m : Callback ReferencePublicationAdapter α}
    {Q : α → ReferencePublicationAdapter → Prop} {artifact : ArtifactIdentityV0} {synced : Bool}
    (hs : Settled artifact synced s)
    (h : Ends m (s.arrive schedule).reference fun a r =>
      r.visible = (s.arrive schedule).reference.visible ∧ Q a r) :
    Ends (atTurn schedule m) s fun a s' => Settled artifact synced s' ∧ Q a s'.reference := by
  refine (Testkit.atTurn_ends h).mono ?_
  rintro a s' ⟨⟨hv, hq⟩, hf, -⟩
  exact ⟨⟨hv.trans hs.arrive.visible, hf.trans hs.arrive.fileSynced⟩, hq⟩

/-- A receipt about a settled file. -/
theorem Settled.truthful {artifact : ArtifactIdentityV0} {synced : Bool}
    (hs : Settled artifact synced s) {outcome : PublicationOutcomeV0} {i f d : Bool}
    (ho : outcome.receipt? = some (receipt request i f d)) :
    TruthfulSync outcome s ↔ (f = true → synced = true) := by
  unfold TruthfulSync
  rw [ho, hs.visible, hs.fileSynced]
  constructor
  · intro h hf
    exact (h _ rfl hf).2
  · rintro h _ ⟨⟩ hf
    exact ⟨nofun, h hf⟩

theorem truthful_of_none {outcome : PublicationOutcomeV0} (ho : outcome.receipt? = none) :
    TruthfulSync outcome s := by
  intro r hr
  rw [ho] at hr
  cases hr

theorem shared_serviceError_ends {artifact : ArtifactIdentityV0} {synced : Bool}
    (hs : Settled artifact synced s) (e : ReferencePublicationError)
    (context : PublicationErrorContext) :
    Ends ((sharedDestination schedule).serviceError e context) s fun err s' =>
      Canonical context err ∧ Settled artifact synced s' := by
  refine (hs.atTurn_ends (Q := fun err _ => Canonical context err) ?_).mono fun _ _ => And.symm
  refine (serviceError_ends e context).mono ?_
  rintro _ _ ⟨hc, rfl⟩
  exact ⟨rfl, hc⟩

/-- `NotPublished` has no receipt. -/
theorem shared_notPublished_of {m : Callback ReferencePublicationAdapter ServiceErrorV0}
    {Q : ReferencePublicationAdapter → Prop} (h : Ends m (s.arrive schedule).reference
      fun err r => Canonical .notPublished err ∧ Q r) :
    Ends (do let error ← atTurn schedule m; validated (.notPublished error)) s TruthfulSync := by
  refine (notPublished_of (Q := fun _ => True) ((atTurn_ends h).mono ?_)).mono ?_
  · exact fun _ _ h => ⟨h.1.1, trivial⟩
  · exact fun _ _ h => truthful_of_none h.1.2

theorem shared_notPublished_ends (e : ReferencePublicationError) :
    Ends (notPublished (sharedDestination schedule) e) s TruthfulSync :=
  shared_notPublished_of (serviceError_ends e _)

theorem shared_conflict_ends : Ends (conflict (sharedDestination schedule)) s TruthfulSync :=
  shared_notPublished_of conflictError_ends

theorem shared_durabilityUnknown_ends (hv : request.Valid) {artifact : ArtifactIdentityV0}
    {synced : Bool} (hs : Settled artifact synced s) (e : ReferencePublicationError) (i f : Bool) :
    Ends (durabilityUnknown (sharedDestination schedule) request e i f) s fun o s' =>
      TruthfulSync o s' ↔ (f = true → synced = true) := by
  refine (durabilityUnknown_ends hv (shared_serviceError_ends hs e _) i f).mono ?_
  exact fun _ _ h => h.2.truthful h.1.2

theorem shared_published_ends (hv : request.Valid) {artifact : ArtifactIdentityV0}
    (hs : Settled artifact true s) (i : Bool) :
    Ends (validated (.published (receipt request i true true))) s TruthfulSync := by
  refine (published_ends hv i).mono ?_
  rintro _ _ ⟨ho, rfl⟩
  exact (hs.truthful ho.2).mpr fun _ => rfl

theorem shared_syncParentDirectory_ends {artifact : ArtifactIdentityV0} {synced : Bool}
    (hs : Settled artifact synced s) (d : DestinationIdentityV0) :
    Ends ((sharedDestination schedule).syncParentDirectory d) s fun _ s' =>
      Settled artifact synced s' ∧ s'.reference.stages = s.reference.stages :=
  hs.atTurn_ends (Q := fun _ r => r.stages = s.reference.stages)
    ((syncParentDirectory_ends arrive_faults_length d).mono fun _ _ h => ⟨h.1, h.2.1⟩)

theorem shared_cleanup_ends (he : s.reference.stages[stage]? = some staged)
    {P : SharedDestination → Prop} (hP : ∀ s', s'.fileSynced = (s.arrive schedule).fileSynced →
      s'.reference.visible = (s.arrive schedule).reference.visible → P s') :
    Ends (cleanup (sharedDestination schedule) stage) s fun _ s' => P s' := by
  have h : Ends (atTurn schedule (referencePublication.cleanupOwnedStage stage)) s _ :=
    atTurn_ends (cleanupOwnedStage_ends he)
  refine h.bind ?_
  rintro _ s' ⟨⟨rfl, hv, -⟩, hf, -⟩
  exact .pure (hP s' hf hv)

theorem Settled.cleanup_ends {artifact : ArtifactIdentityV0} {synced : Bool}
    (hs : Settled artifact synced s) (he : s.reference.stages[stage]? = some staged) :
    Ends (cleanup (sharedDestination schedule) stage) s fun _ s' => Settled artifact synced s' :=
  shared_cleanup_ends he fun _ hf hv =>
    ⟨hv.trans hs.arrive.visible, hf.trans hs.arrive.fileSynced⟩

theorem shared_inspectVisible_ends (d : DestinationIdentityV0) :
    Ends ((sharedDestination schedule).inspectVisible d) s fun r s' =>
      r = (s.arrive schedule).reference.visible ∧ Kept (s.arrive schedule).reference s'.reference ∧
        s'.fileSynced = (s.arrive schedule).fileSynced ∧ s'.calls = s.calls + 1 := by
  refine (atTurn_ends (inspectVisible_ends d)).mono ?_
  rintro _ s' ⟨⟨rfl, hs'⟩, hf, hc⟩
  exact ⟨rfl, by rw [hs']; exact kept_traced _, hf, hc⟩

/-! ## The run -/

/-- A sync of the visible file that succeeds syncs it. -/
theorem shared_syncVisibleFile_ends {artifact : ArtifactIdentityV0} {synced : Bool}
    (hs : Settled artifact synced s) (d : DestinationIdentityV0) :
    Ends ((sharedDestination schedule).syncVisibleFile d) s fun r s' =>
      (r = .ok () ∧ Settled artifact true s') ∨
        ((∃ e, r = .error e) ∧ Settled artifact synced s') := by
  have hne : (s.arrive schedule).reference.visible ≠ none := by
    rw [hs.arrive.visible]
    exact nofun
  have h : Ends (atTurn schedule (referencePublication.syncVisibleFile d)) s _ :=
    hs.atTurn_ends (Q := fun _ _ => True)
      ((syncVisibleFile_ends arrive_faults_length hne d).mono fun _ _ h => ⟨h.1, trivial⟩)
  refine h.bind ?_
  rintro (e | ⟨⟩) s₁ ⟨hs₁, -⟩
  · exact .of_on rfl (.inr ⟨⟨e, rfl⟩, hs₁.visible, hs₁.fileSynced⟩)
  · exact .of_on rfl (.inl ⟨rfl, hs₁.visible, rfl⟩)

/-- The recovery syncs the visible file before its receipt claims that it is synced. -/
theorem shared_recoverVisible_ends (hv : request.Valid) {existing : ArtifactIdentityV0}
    {synced : Bool} (hs : Settled existing synced s) :
    Ends (recoverVisible (sharedDestination schedule) request existing) s TruthfulSync := by
  unfold recoverVisible
  by_cases hc : sameContent existing request.artifact = true
  · rw [hc]
    refine (shared_syncVisibleFile_ends hs _).bind ?_
    rintro r s₁ (⟨rfl, hs₁⟩ | ⟨⟨e, rfl⟩, hs₁⟩)
    · refine (shared_syncParentDirectory_ends hs₁ _).bind ?_
      rintro (e | ⟨⟩) s₂ ⟨hs₂, -⟩
      · refine (shared_durabilityUnknown_ends hv hs₂ e true true).mono ?_
        exact fun _ _ h => h.mpr fun _ => rfl
      · exact shared_published_ends hv hs₂ true
    · refine (shared_durabilityUnknown_ends hv hs₁ e true false).mono ?_
      exact fun _ _ h => h.mpr nofun
  · rw [Bool.not_eq_true] at hc
    rw [hc]
    exact shared_conflict_ends

/-- After a failed publication the receipt claims a file sync of the visible file, if that has
the content of the request. -/
theorem shared_publishFailed_ends (hv : request.Valid)
    (he : s.reference.stages[stage]? = some staged) (e : ReferencePublicationError) :
    Ends (publishFailed (sharedDestination schedule) request stage e) s fun o s' =>
      TruthfulSync o s' ↔ ∀ a, (s.arrive schedule).reference.visible = some a →
        sameContent a request.artifact = true → (s.arrive schedule).fileSynced = true := by
  refine (shared_inspectVisible_ends _).bind ?_
  rintro _ s₁ ⟨rfl, hk, hf, -⟩
  have he₁ : s₁.reference.stages[stage]? = some staged := by rw [hk.stages]; exact he
  cases hvis : (s.arrive schedule).reference.visible with
  | none =>
    refine (shared_cleanup_ends (P := fun _ => True) he₁ fun _ _ _ => trivial).bind fun _ _ _ => ?_
    exact (shared_notPublished_ends e).mono fun _ _ h => by simp [h]
  | some a =>
    have hs₁ : Settled a (s.arrive schedule).fileSynced s₁ := ⟨hk.visible.trans hvis, hf⟩
    refine (hs₁.cleanup_ends he₁).bind fun _ s₂ hs₂ => ?_
    dsimp only
    split
    · rename_i hc
      refine (shared_durabilityUnknown_ends hv hs₂ e false true).mono ?_
      exact fun _ _ h => by simp [h, hc]
    · rename_i hc
      exact shared_conflict_ends.mono fun _ _ h => by simp [h, hc]

/-- The published file is the staged one, which has been synced. -/
theorem shared_publishDone_ends (hv : request.Valid)
    (he : s.reference.stages[stage]? = some staged) (hs : Settled request.artifact true s) :
    Ends (publishDone (sharedDestination schedule) request stage) s TruthfulSync := by
  refine (shared_inspectVisible_ends _).bind ?_
  rintro _ s₁ ⟨rfl, hk, hf, -⟩
  have hs₁ : Settled request.artifact true s₁ :=
    ⟨hk.visible.trans hs.arrive.visible, hf.trans hs.arrive.fileSynced⟩
  refine Ends.expect_bind hs.arrive.visible
    (Ends.assert_bind (sameContent_iff.mpr ⟨rfl, rfl⟩) ?_)
  refine (shared_syncParentDirectory_ends hs₁ _).bind ?_
  rintro r s₂ ⟨hs₂, hst₂⟩
  have he₂ : s₂.reference.stages[stage]? = some staged := by
    rw [hst₂, hk.stages]
    exact he
  refine (hs₂.cleanup_ends he₂).bind fun _ s₃ hs₃ => ?_
  rcases r with e | ⟨⟩
  · refine (shared_durabilityUnknown_ends hv hs₃ e false true).mono ?_
    exact fun _ _ h => h.mpr fun _ => rfl
  · exact shared_published_ends hv hs₃ false

/-! ## The race -/

/-- A run that began at the call `c` has made `n` calls since its first inspection, which found
an empty destination, and has not published: what is visible is the other writer's. -/
structure Racing (schedule : Nat → Turn) (c n : Nat) (stage : ReferenceStage)
    (staged : StagedArtifact) (s : SharedDestination) : Prop where
  calls : s.calls = c + n + 1
  visible : s.reference.visible = installedBy schedule c n
  unsynced : s.reference.visible ≠ none → s.fileSynced = false
  entry : s.reference.stages[stage]? = some staged

variable {c n : Nat}

theorem Racing.arrive_visible (h : Racing schedule c n stage staged s) :
    (s.arrive schedule).reference.visible = installedBy schedule c (n + 1) := by
  show s.reference.visible.or (schedule s.calls).install = _
  rw [h.visible, h.calls, installedBy]

theorem Racing.arrive_unsynced (h : Racing schedule c n stage staged s) :
    (s.arrive schedule).fileSynced = false := by
  show (s.reference.visible.isSome && s.fileSynced) = false
  cases hv : s.reference.visible with
  | none => rfl
  | some a => simp [h.unsynced (by rw [hv]; exact nofun)]

theorem Racing.armed (h : Racing schedule c n stage staged s) {point : FaultPoint} :
    Armed (s.arrive schedule).reference point ↔
      (schedule (c + n + 1)).fault = some point := by
  rw [armed_arrive, h.calls]

/-- A callback that keeps the visible file is one more call of the race. -/
theorem Racing.atTurn_ends {α : Type} {m : Callback ReferencePublicationAdapter α}
    {Q : α → ReferencePublicationAdapter → Prop} (hr : Racing schedule c n stage staged s)
    (h : Ends m (s.arrive schedule).reference fun a r =>
      r.visible = (s.arrive schedule).reference.visible ∧ Q a r) :
    Ends (atTurn schedule m) s fun a s' => Q a s'.reference ∧
      ∀ staged', s'.reference.stages[stage]? = some staged' →
        Racing schedule c (n + 1) stage staged' s' := by
  refine (Testkit.atTurn_ends h).mono ?_
  rintro a s' ⟨⟨hv, hq⟩, hf, hc⟩
  refine ⟨hq, fun staged' he => ⟨?_, hv.trans hr.arrive_visible, fun _ => ?_, he⟩⟩
  · rw [hc, hr.calls, Nat.add_assoc c n 1]
  · rw [hf, hr.arrive_unsynced]

theorem race_create_ends (hc : s.calls = c + 1) (hvis : s.reference.visible = none)
    (hroom : StageRoom s.reference) :
    Ends ((sharedDestination schedule).createPrivateSiblingStage request) s fun r s' =>
      ∃ stage, r = .ok stage ∧ Racing schedule c 1 stage (stagedFor request) s' := by
  have h : Ends (referencePublication.createPrivateSiblingStage request)
      (s.arrive schedule).reference _ := createPrivateSiblingStage_ends hroom.2 hroom.1
  refine (atTurn_ends h).mono ?_
  rintro _ s' ⟨⟨stage, rfl, he, -, hv, -⟩, hf, hc'⟩
  refine ⟨stage, rfl, ⟨by rw [hc', hc], hv.trans ?_, fun _ => ?_, he⟩⟩
  · show s.reference.visible.or (schedule s.calls).install = _
    rw [hvis, hc]
    rfl
  · rw [hf]
    show (s.reference.visible.isSome && s.fileSynced) = false
    rw [hvis]
    rfl

theorem race_facts_ends (hr : Racing schedule c n stage staged s) :
    Ends ((sharedDestination schedule).stagingFacts stage) s fun r s' =>
      r = staged.facts ∧ Racing schedule c (n + 1) stage staged s' := by
  refine (hr.atTurn_ends (Q := fun r r' => r = staged.facts ∧ r'.stages[stage]? = some staged)
    ((stagingFacts_ends (s := (s.arrive schedule).reference) hr.entry).mono ?_)).mono ?_
  · rintro _ _ ⟨rfl, rfl⟩
    exact ⟨rfl, rfl, hr.entry⟩
  · rintro _ _ ⟨⟨rfl, he⟩, h⟩
    exact ⟨rfl, h _ he⟩

theorem race_verify_ends (hr : Racing schedule c n stage staged s)
    {expected : ArtifactIdentityV0} (he : staged.artifact = expected) :
    Ends ((sharedDestination schedule).verifyExact stage expected) s fun r s' =>
      (r = .ok () ∧ ¬Spoils (s.arrive schedule).reference staged ∧
          Racing schedule c (n + 1) stage staged s') ∨
        ((∃ e, r = .error e) ∧ Spoils (s.arrive schedule).reference staged ∧
          ∃ staged', Racing schedule c (n + 1) stage staged' s') := by
  refine (hr.atTurn_ends ((verifyExact_ends arrive_faults_length hr.entry he).mono
    fun _ _ h => ⟨h.1.visible, h.2.2⟩)).mono ?_
  rintro r s' ⟨⟨rfl, he, -, hs, -⟩ | ⟨⟨e, rfl⟩, ⟨staged', he⟩, -, hs⟩, h⟩
  · exact .inl ⟨rfl, hs, h _ he⟩
  · exact .inr ⟨⟨e, rfl⟩, hs, staged', h _ he⟩

theorem race_sync_ends (hr : Racing schedule c n stage staged s) :
    Ends ((sharedDestination schedule).syncStagedFile stage) s fun r s' =>
      (r = .ok () ∧ (schedule (c + n + 1)).fault ≠ some .beforeFileSync ∧
          Racing schedule c (n + 1) stage { staged with fileSynced := true } s') ∨
        ((∃ e, r = .error e) ∧ (schedule (c + n + 1)).fault = some .beforeFileSync ∧
          ∃ staged', Racing schedule c (n + 1) stage staged' s') := by
  refine (hr.atTurn_ends ((syncStagedFile_ends arrive_faults_length hr.entry).mono
    fun _ _ h => ⟨h.1.visible, h.2.2⟩)).mono ?_
  rintro r s' ⟨⟨rfl, he, -, hn⟩ | ⟨⟨e, rfl⟩, ⟨staged', he⟩, -, ha⟩, h⟩
  · exact .inl ⟨rfl, mt hr.armed.mpr hn, h _ he⟩
  · exact .inr ⟨⟨e, rfl⟩, hr.armed.mp ha, staged', h _ he⟩

/-- A publication at its turn: a file that it makes visible is as synced as the stage. -/
theorem publish_turn_ends {Q : Except ReferencePublicationError Unit →
    ReferencePublicationAdapter → Prop} {d : DestinationIdentityV0}
    (h : Ends (referencePublication.publishNoClobber stage d) (s.arrive schedule).reference Q) :
    Ends ((sharedDestination schedule).publishNoClobber stage d) s fun r s' =>
      Q r s'.reference ∧ s'.calls = s.calls + 1 ∧ s'.fileSynced =
        if (s.arrive schedule).reference.visible = none ∧ s'.reference.visible ≠ none then
          (s.arrive schedule).reference.stages[stage]?.any (·.fileSynced)
        else (s.arrive schedule).fileSynced := by
  obtain ⟨r, s₁, hm, hq⟩ := h
  have hon : (publishNoClobber schedule stage d).on s = (.ok r,
      if (s.arrive schedule).reference.visible = none ∧ s₁.visible ≠ none then
        { s.arrive schedule with
          reference := s₁
          fileSynced := (s.arrive schedule).reference.stages[stage]?.any (·.fileSynced) }
      else { s.arrive schedule with reference := s₁ }) := by
    unfold publishNoClobber
    rw [on_modify_bind, on_get_bind, on_bind_of_ok (onReference_on hm), on_modify_bind, on_pure]
  refine .of_on hon ?_
  split
  · exact ⟨hq, rfl, rfl⟩
  · exact ⟨hq, rfl, rfl⟩

/-- The publication fails because of the other writer's file, or before the file is visible, and
the race goes on; or the staged file is visible, and has been synced. -/
theorem race_publish_ends (hr : Racing schedule c 4 stage staged s)
    (hsync : staged.fileSynced = true) (d : DestinationIdentityV0) :
    Ends ((sharedDestination schedule).publishNoClobber stage d) s fun r s' =>
      s'.reference.stages[stage]? = some staged ∧
        ((Settled staged.artifact true s' ∧ rival schedule c = none) ∨
          ((∃ e, r = .error e) ∧ Racing schedule c 5 stage staged s' ∧
            rival schedule c = installedBy schedule c 6)) := by
  have hentry : (s.arrive schedule).reference.stages[stage]? = some staged := hr.entry
  have hcalls : s.calls + 1 = c + 5 + 1 := by rw [hr.calls]
  have hv := hr.arrive_visible
  cases hvis : (s.arrive schedule).reference.visible with
  | some a =>
    have hne : (s.arrive schedule).reference.visible ≠ none := by rw [hvis]; exact nofun
    refine (publish_turn_ends (publishNoClobber_occupied_ends hentry hsync hne d)).mono ?_
    rintro r s' ⟨⟨he, hs'⟩, hc, hf⟩
    rw [if_neg fun h => hne h.1, hr.arrive_unsynced] at hf
    have hentry' : s'.reference.stages[stage]? = some staged := by rw [hs']; exact hentry
    refine ⟨hentry', .inr ⟨he, ⟨hc.trans hcalls, ?_, fun _ => hf, hentry'⟩, ?_⟩⟩
    · rw [hs']
      exact hv
    · -- Its file was there before the publication.
      have h5 : installedBy schedule c 5 = some a := hv.symm.trans hvis
      rw [rival, installedBy, h5]
      split <;> rfl
  | none =>
    have h5 : installedBy schedule c 5 = none := hv.symm.trans hvis
    refine (publish_turn_ends
      (publishNoClobber_ends arrive_faults_length hentry hsync hvis d)).mono ?_
    rintro r s' ⟨⟨hst, -, hr'⟩, hc, hf⟩
    have hentry' : s'.reference.stages[stage]? = some staged := by rw [hst]; exact hentry
    refine ⟨hentry', ?_⟩
    -- The staged file is visible.
    have settled : s'.reference.visible = some staged.artifact →
        ¬Armed (s.arrive schedule).reference .beforeVisibility →
        Settled staged.artifact true s' ∧ rival schedule c = none := by
      intro hv' hn
      rw [if_pos ⟨hvis, by rw [hv']; exact nofun⟩, hentry] at hf
      refine ⟨⟨hv', by rw [hf]; exact hsync⟩, ?_⟩
      rw [rival, if_neg fun h => hn (hr.armed.mpr h), h5]
    obtain ⟨rfl, hv', -, hn, -⟩ | ⟨he, ⟨hv', ha⟩ | ⟨hv', hn, -⟩, -⟩ := hr'
    · exact .inl (settled hv' hn)
    · refine .inr ⟨he, ⟨hc.trans hcalls, hv'.trans h5.symm, fun h => absurd hv' h, hentry'⟩, ?_⟩
      rw [rival, if_pos (hr.armed.mp ha)]
    · exact .inl (settled hv' hn)

/-- A run that was the first to look: it breaks `TruthfulSync` in a lost race only. -/
theorem shared_publishStaged_ends {s₀ : SharedDestination} (hv : request.Valid)
    (hempty : s₀.reference.visible = none ∧ (schedule s₀.calls).install = none)
    (hroom : StageRoom s₀.reference)
    (hc : s.calls = s₀.calls + 1) (hk : Kept (s₀.arrive schedule).reference s.reference) :
    Ends (publishStaged (sharedDestination schedule) request) s fun o s' =>
      TruthfulSync o s' ↔ ¬LostRace schedule request s₀ := by
  have hroom' : StageRoom s.reference := by
    unfold StageRoom
    rw [hk.nextStage, hk.stages]
    exact hroom
  have hvis : s.reference.visible = none := hk.visible.trans (Option.or_eq_none_iff.mpr hempty)
  refine (race_create_ends hc hvis hroom').bind ?_
  rintro _ s₁ ⟨stage, rfl, hr₁⟩
  refine Ends.expectOk_bind rfl ((race_facts_ends hr₁).bind ?_)
  rintro _ s₂ ⟨rfl, hr₂⟩
  refine Ends.assert_bind rfl (Ends.assert_bind rfl (Ends.assert_bind rfl ?_))
  -- A run that stops before the publication.
  have stopped : ∀ {s₃ : SharedDestination} {staged' : StagedArtifact}
      (e : ReferencePublicationError), s₃.reference.stages[stage]? = some staged' →
      ¬LostRace schedule request s₀ →
      Ends (do cleanup (sharedDestination schedule) stage
               notPublished (sharedDestination schedule) e) s₃ fun o s' =>
        TruthfulSync o s' ↔ ¬LostRace schedule request s₀ := fun e he hn =>
    (shared_cleanup_ends (P := fun _ => True) he fun _ _ _ => trivial).bind fun _ _ _ =>
      (shared_notPublished_ends e).mono fun _ _ h => iff_of_true h hn
  refine (race_verify_ends hr₂ rfl).bind ?_
  rintro r s₃ (⟨rfl, hexact, hr₃⟩ | ⟨⟨e, rfl⟩, hs, staged', hr₃⟩)
  swap
  · refine stopped e hr₃.entry fun hl => ?_
    rcases hl.verified with h | h
    · exact h (hr₂.armed.mp hs.1)
    · cases h.symm.trans hs.2
  refine (race_sync_ends hr₃).bind ?_
  rintro r s₄ (⟨rfl, hsynced, hr₄⟩ | ⟨⟨e, rfl⟩, hf, staged', hr₄⟩)
  swap
  · exact stopped e hr₄.entry fun hl => hl.synced hf
  refine (race_publish_ends hr₄ rfl _).bind ?_
  rintro r s₅ ⟨he, ⟨hs₅, hrival⟩ | ⟨⟨e, rfl⟩, hr₅, hrival⟩⟩
  · -- The staged file is visible.
    have hn : ¬LostRace schedule request s₀ := by
      intro hl
      obtain ⟨a, ha, -⟩ := hl.raced
      rw [hrival] at ha
      cases ha
    rcases r with e | ⟨⟩
    · refine (shared_publishFailed_ends hv he e).mono fun _ _ h => iff_of_true (h.mpr ?_) hn
      exact fun _ _ _ => hs₅.arrive.fileSynced
    · exact (shared_publishDone_ends hv he hs₅).mono fun _ _ h => iff_of_true h hn
  · -- The other writer's file, if there is one, is visible.
    refine (shared_publishFailed_ends hv he e).mono fun _ _ h => h.trans ?_
    rw [hr₅.arrive_visible, hr₅.arrive_unsynced, ← hrival]
    constructor
    · intro h hl
      obtain ⟨a, ha, hsame⟩ := hl.raced
      cases h a ha hsame
    · intro hn a ha hsame
      refine absurd ⟨hv, hempty, hroom, ?_, hsynced, a, ha, hsame⟩ hn
      rcases not_and_or.mp hexact with h | h
      · exact .inl (mt hr₂.armed.mpr h)
      · exact .inr (Bool.not_eq_false _ ▸ h)

/-- A run that returns: it breaks `TruthfulSync` in a lost race only. -/
theorem shared_run_ends (hv : request.Valid)
    (hroom : s.reference.visible = none ∧ (schedule s.calls).install = none →
      StageRoom s.reference) :
    Ends (runPublicationModel (sharedDestination schedule) request) s fun o s' =>
      TruthfulSync o s' ↔ ¬LostRace schedule request s := by
  refine (validate_ends hv).bind ?_
  rintro _ s₀ rfl
  refine (shared_inspectVisible_ends _).bind ?_
  rintro _ s₁ ⟨rfl, hk, hf, hc⟩
  have hvis : (s₀.arrive schedule).reference.visible =
      s₀.reference.visible.or (schedule s₀.calls).install := rfl
  cases h : (s₀.arrive schedule).reference.visible with
  | none =>
    have hempty := Option.or_eq_none_iff.mp (hvis.symm.trans h)
    exact shared_publishStaged_ends hv hempty (hroom hempty) hc hk
  | some existing =>
    have hn : ¬LostRace schedule request s₀ := by
      intro hl
      rw [hvis, hl.empty.1, hl.empty.2] at h
      cases h
    exact (shared_recoverVisible_ends hv ⟨hk.visible.trans h, hf⟩).mono
      fun _ _ ht => iff_of_true ht hn

theorem validate_on_ok {s' : SharedDestination} {u : Unit}
    (h : (request.validate : Callback SharedDestination _).on s = (.ok u, s')) :
    request.Valid ∧ s' = s := by
  obtain ⟨_, ha, h⟩ := expectOk_bind_ok.mp h
  cases hd : request.destination.validate with
  | error e => rw [hd] at h; cases h
  | ok _ => rw [hd] at h; cases h; exact ⟨⟨ha, hd⟩, rfl⟩

/-- A stage without a new ID panics. -/
theorem createPrivateSiblingStage_panics (request : PublicationRequest)
    {r : ReferencePublicationAdapter} (h : ¬StageRoom r) :
    ∃ message r', (referencePublication.createPrivateSiblingStage request).on r =
      (.error (.panic message), r') := by
  have key : ∃ message r', (ReferencePublicationAdapter.createPrivateSiblingStage request).on r =
      (.error (.panic message), r') := by
    unfold ReferencePublicationAdapter.createPrivateSiblingStage
      ReferencePublicationAdapter.pushTrace
    simp only [on_modify_bind, on_get_bind, on_expect_bind]
    by_cases hn : r.nextStage.toNat + 1 < 2 ^ 64
    · have hs : ¬r.stages[r.nextStage + 1]? = none := fun hs => h ⟨hn, hs⟩
      rw [checkedAdd_of_lt hn]
      simp only [on_assert_bind, if_neg hs]
      exact ⟨_, _, rfl⟩
    · rw [checkedAdd_eq_none.mpr (Nat.le_of_not_lt hn)]
      exact ⟨_, _, rfl⟩
  obtain ⟨message, r', hon⟩ := key
  refine ⟨message, r', ?_⟩
  rw [referencePublication, result_on, hon]

theorem room_of_publishStaged {o : PublicationOutcomeV0} {s' : SharedDestination}
    (h : (publishStaged (sharedDestination schedule) request).on s = (.ok o, s')) :
    StageRoom s.reference := by
  by_contra hn
  obtain ⟨message, r', hon⟩ := createPrivateSiblingStage_panics request
    (r := (s.arrive schedule).reference) hn
  obtain ⟨_, _, hcreate, -⟩ := bind_on_ok.mp h
  have hpanic : ((sharedDestination schedule).createPrivateSiblingStage request).on s =
      (.error (.panic message), { s.arrive schedule with reference := r' }) := by
    unfold sharedDestination atTurn onReference
    rw [on_modify_bind, onPart_on, hon]
  rw [hpanic] at hcreate
  cases hcreate

/-- What a run that returns needs. -/
theorem shared_run_on_ok {o : PublicationOutcomeV0} {s' : SharedDestination}
    (h : (runPublicationModel (sharedDestination schedule) request).on s = (.ok o, s')) :
    request.Valid ∧ (s.reference.visible = none ∧ (schedule s.calls).install = none →
      StageRoom s.reference) := by
  obtain ⟨_, s₀, hval, hrun⟩ := bind_on_ok.mp h
  obtain ⟨hv, rfl⟩ := validate_on_ok hval
  refine ⟨hv, fun hempty => ?_⟩
  obtain ⟨visible, s₁, hinspect, hrest⟩ := bind_on_ok.mp hrun
  obtain ⟨rfl, hk, -⟩ := (shared_inspectVisible_ends _).post hinspect
  have hvis : (s₀.arrive schedule).reference.visible = none := Option.or_eq_none_iff.mpr hempty
  rw [hvis] at hrest
  have hroom := room_of_publishStaged hrest
  unfold StageRoom at hroom
  rwa [hk.nextStage, hk.stages] at hroom

/-- A receipt with `file_synced` is about a visible file that has been synced, at every schedule
but a lost race. -/
theorem truthfulSync_iff (schedule : Nat → Turn) (request : PublicationRequest)
    (s : SharedDestination) :
    (∀ outcome s', (runPublicationModel (sharedDestination schedule) request).on s =
        (.ok outcome, s') → TruthfulSync outcome s') ↔ ¬LostRace schedule request s := by
  constructor
  · intro h hl
    obtain ⟨outcome, s', hon, hiff⟩ := shared_run_ends hl.valid fun _ => hl.room
    exact hiff.mp (h outcome s' hon) hl
  · intro hn outcome s' hon
    obtain ⟨hv, hroom⟩ := shared_run_on_ok hon
    exact ((shared_run_ends hv hroom).post hon).mpr hn

/-- The other writer installs the content of the request just before the publication. -/
def lostAtPublication (n : Nat) : Turn where
  install := if n = 5 then some testRequest.artifact else none
  fault := none

/-- The file that the receipt of a lost race is about was never synced. -/
theorem untruthful_lostAtPublication :
    ¬∀ outcome s', (runPublicationModel (sharedDestination lostAtPublication) testRequest).on
        ⟨{}, false, 0⟩ = (.ok outcome, s') → TruthfulSync outcome s' := by
  intro h
  have hclaim : ((runPublicationModel (sharedDestination lostAtPublication) testRequest).on
      ⟨{}, false, 0⟩).1.map (fun o => o.receipt?.map (·.fileSynced)) = .ok (some true) := by
    decide
  have hfile : ((runPublicationModel (sharedDestination lostAtPublication) testRequest).on
      ⟨{}, false, 0⟩).2.fileSynced = false := by decide
  obtain ⟨outcome, s', hon⟩ := on_eq_ok_of_toBool
    (m := runPublicationModel (sharedDestination lostAtPublication) testRequest)
    (s := ⟨{}, false, 0⟩) (by decide)
  rw [hon] at hclaim hfile
  obtain ⟨r, hr, hsynced⟩ := Option.map_eq_some_iff.mp (Except.ok.inj hclaim)
  have hsynced' := (h outcome s' hon r hr hsynced).2
  rw [hfile] at hsynced'
  cases hsynced'

end Turns

end Testkit
end Platform
