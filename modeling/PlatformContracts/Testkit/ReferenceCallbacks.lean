import PlatformContracts.Testkit.ReferencePublication

/-!
# What the callbacks of the reference publication adapter do

* `*_ends`: what each callback answers and does, when at most one fault is armed: it returns,
  it fails exactly when the fault is armed at one of its points, and it traces its step.
* `Fired`, `Spent`: a fault that fires leaves none armed.
* `serviceError_ends`, `conflictError_ends`: the service errors are canonical.
-/

namespace Platform
namespace Testkit

open Std Contracts Exec ReferencePublicationAdapter

variable {s s' : ReferencePublicationAdapter} {request : PublicationRequest}
  {stage : ReferenceStage} {staged : StagedArtifact}

/-- The fault at this point is armed. -/
def Armed (s : ReferencePublicationAdapter) (point : FaultPoint) : Prop :=
  s.faults.points.head? = some point

instance (point : FaultPoint) : Decidable (Armed s point) := inferInstanceAs (Decidable (_ = _))

/-- The armed fault fired. -/
def Fired (s s' : ReferencePublicationAdapter) : Prop :=
  s.faults.points ≠ [] ∧ s'.faults.points = []

/-- The script is the same, or the armed fault fired. -/
def Spent (s s' : ReferencePublicationAdapter) : Prop :=
  s'.faults = s.faults ∨ Fired s s'

theorem Spent.refl : Spent s s := .inl rfl

theorem Spent.fired {s₁ : ReferencePublicationAdapter} (h : Spent s s₁) (h' : Fired s₁ s') :
    Fired s s' := by
  rcases h with h | ⟨-, h⟩
  · exact ⟨by rw [← h]; exact h'.1, h'.2⟩
  · exact absurd h h'.1

theorem Spent.trans {s₁ : ReferencePublicationAdapter} (h : Spent s s₁) (h' : Spent s₁ s') :
    Spent s s' := by
  rcases h' with h' | h'
  · rcases h with h | ⟨hne, h⟩
    · exact .inl (h'.trans h)
    · exact .inr ⟨hne, by rw [h']; exact h⟩
  · exact .inr (h.fired h')

theorem Spent.length (h : Spent s s') (hf : s.faults.points.length ≤ 1) :
    s'.faults.points.length ≤ 1 := by
  rcases h with h | ⟨-, h⟩
  · rw [h]; exact hf
  · rw [h]; simp

/-! ## The callbacks -/

theorem sameContent_iff {left right : ArtifactIdentityV0} :
    sameContent left right = true ↔ left.digest = right.digest ∧ left.length = right.length := by
  simp [sameContent]

theorem result_hit_on {ε : Type} (point : FaultPoint) :
    (result (hit point) : Exec _ ε _).on s = if s.faults.points.head? = some point then
      (.ok (.error (.injected point)), { s with faults := ⟨s.faults.points.tail⟩ })
      else (.ok (.ok ()), s) := by
  rw [result_on, hit, on_get_bind]
  unfold FaultScript.hit
  by_cases h : s.faults.points.head? = some point
  · rw [if_pos h, if_pos h]
    rfl
  · rw [if_neg h, if_neg h]
    rfl

/-- The script has one point at most, so nothing is armed after a hit. -/
theorem tail_eq_nil (hf : s.faults.points.length ≤ 1) : s.faults.points.tail = [] := by
  rw [← List.length_eq_zero_iff, List.length_tail]
  omega

theorem Armed.ne_nil {point : FaultPoint} (h : Armed s point) : s.faults.points ≠ [] := by
  unfold Armed at h
  intro he
  rw [he] at h
  cases h

/-- The result of a `hit`, for a caller that looks at it. -/
theorem hit_ends (hf : s.faults.points.length ≤ 1) (point : FaultPoint) :
    Ends (result (hit point) : Callback _ _) s fun r s' =>
      (r = .ok () ∧ s' = s ∧ ¬Armed s point) ∨
      ((∃ e, r = .error e) ∧ s' = { s with faults := ⟨[]⟩ } ∧ Armed s point) := by
  unfold Ends
  rw [result_hit_on]
  by_cases h : s.faults.points.head? = some point
  · rw [if_pos h]
    exact ⟨_, _, rfl, .inr ⟨⟨_, rfl⟩, by rw [tail_eq_nil hf], h⟩⟩
  · rw [if_neg h]
    exact ⟨_, _, rfl, .inl ⟨rfl, rfl, h⟩⟩

/-- All but the trace is the same. -/
structure Kept (s s' : ReferencePublicationAdapter) : Prop where
  visible : s'.visible = s.visible
  stages : s'.stages = s.stages
  nextStage : s'.nextStage = s.nextStage
  faults : s'.faults = s.faults

/-- A stage of the adapter, as `create_private_sibling_stage` makes it. -/
def stagedFor (request : PublicationRequest) : StagedArtifact where
  artifact := request.artifact
  facts := { filesystemId := request.destination.filesystemId, isPrivate := true, owned := true }
  fileSynced := false

/-- The state after `trace.push(step)`. -/
def ReferencePublicationAdapter.traced (s : ReferencePublicationAdapter) (step : PublicationStep) :
    ReferencePublicationAdapter :=
  { s with trace := s.trace ++ [step] }

theorem kept_traced (step : PublicationStep) : Kept s (s.traced step) := ⟨rfl, rfl, rfl, rfl⟩

theorem inspectVisible_ends (d : DestinationIdentityV0) :
    Ends (referencePublication.inspectVisible d) s fun r s' =>
      r = s.visible ∧ s' = s.traced .inspectDestination :=
  ⟨_, _, rfl, rfl, rfl⟩

/-- A method after its `trace.push`. -/
theorem pushTrace_ends {α : Type} {step : PublicationStep} {m : Unit → Method α}
    {Q : Except ReferencePublicationError α → ReferencePublicationAdapter → Prop}
    (h : Ends (result (m ()) : Callback _ _) (s.traced step) Q) :
    Ends (result (pushTrace step >>= m) : Callback _ _) s Q := h

/-- A method after a fault point: it goes on, or returns the armed fault. -/
theorem hit_bind_ends {α : Type} {point : FaultPoint} {m : Unit → Method α}
    {Q : Except ReferencePublicationError α → ReferencePublicationAdapter → Prop}
    (hf : s.faults.points.length ≤ 1)
    (hok : ¬Armed s point → Ends (result (m ()) : Callback _ _) s Q)
    (herr : Armed s point → ∀ e, Q (.error e) { s with faults := ⟨[]⟩ }) :
    Ends (result (hit point >>= m) : Callback _ _) s Q := by
  refine Ends.result_bind (hit_ends hf point) (fun _ s₁ h => ?_) fun e s₁ h => ?_
  · obtain ⟨-, rfl, hn⟩ | ⟨⟨_, h⟩, -⟩ := h
    · exact hok hn
    · cases h
  · obtain ⟨h, -⟩ | ⟨-, rfl, ha⟩ := h
    · cases h
    · exact herr ha e

theorem createPrivateSiblingStage_ends (he : s.stages[s.nextStage + 1]? = none)
    (hn : s.nextStage.toNat + 1 < 2 ^ 64) :
    Ends (referencePublication.createPrivateSiblingStage request) s fun r s' =>
      ∃ stage, r = .ok stage ∧ s'.stages[stage]? = some (stagedFor request) ∧
        s'.stages.erase stage = s.stages ∧ s'.visible = s.visible ∧ s'.faults = s.faults ∧
        s'.trace = s.trace ++ [.createPrivateSiblingStage] := by
  have hc : checkedAdd s.nextStage 1 = some (s.nextStage + 1) := checkedAdd_of_lt hn
  have hon : (createPrivateSiblingStage request).on s = (.ok (s.nextStage + 1), { s with
      trace := s.trace ++ [.createPrivateSiblingStage]
      nextStage := s.nextStage + 1
      stages := s.stages.insert (s.nextStage + 1) (stagedFor request) }) := by
    unfold createPrivateSiblingStage pushTrace
    simp only [on_modify_bind, on_get_bind, hc, on_expect_bind, he, on_assert_bind, if_true,
      on_pure]
    rfl
  refine Ends.of_on (by rw [referencePublication, result_on, hon]) ?_
  refine ⟨_, rfl, ?_, ?_, rfl, rfl, rfl⟩
  · exact lookup_insert.trans (if_pos rfl)
  · exact erase_insert.trans (erase_of_none he)

theorem stagingFacts_ends (hs : s.stages[stage]? = some staged) :
    Ends (referencePublication.stagingFacts stage) s fun r s' => r = staged.facts ∧ s' = s := by
  have hon : (referencePublication.stagingFacts stage).on s = (.ok staged.facts, s) := by
    show (stagingFacts stage).on s = _
    rw [ReferencePublicationAdapter.stagingFacts, on_get_bind, hs]
    rfl
  exact .of_on hon ⟨rfl, rfl⟩

/-- The other stages, and the destination, are the same. -/
structure StageOnly (stage : ReferenceStage) (s s' : ReferencePublicationAdapter) : Prop where
  visible : s'.visible = s.visible
  others : s'.stages.erase stage = s.stages.erase stage

/-- What corruption makes of a staged artifact. -/
def corrupted (staged : StagedArtifact) : StagedArtifact :=
  { staged with artifact := { staged.artifact with
      digest := ⟨.sha256, corruptHex⟩
      length := saturatingAdd staged.artifact.length 1 } }

theorem corruptIfHit_on (hs : s.stages[stage]? = some staged) :
    (corruptIfHit stage).on s =
      if s.faults.points.head? = some .corruptStagedBeforeVerification then
        (.ok (), { s with
          faults := ⟨s.faults.points.tail⟩
          stages := s.stages.insert stage (corrupted staged) })
      else (.ok (), s) := by
  have hd : ContentDigest.sha256 corruptHex = .ok ⟨.sha256, corruptHex⟩ := by decide
  by_cases h : s.faults.points.head? = some .corruptStagedBeforeVerification
  · rw [if_pos h, corruptIfHit, on_bind_of_ok ((result_hit_on _).trans (if_pos h))]
    unfold corruptStaged
    simp only [on_get_bind, on_ofResult_bind, hs, okOr, on_expectOk_bind, hd]
    rfl
  · rw [if_neg h, corruptIfHit, on_bind_of_ok ((result_hit_on _).trans (if_neg h))]
    rfl

/-- Corruption that changes neither the digest nor the length changes nothing. -/
theorem corrupted_eq (h : sameContent (corrupted staged).artifact staged.artifact = true) :
    corrupted staged = staged := by
  obtain ⟨hd, hl⟩ := sameContent_iff.mp h
  have : (corrupted staged).artifact = staged.artifact := by
    rcases hs : staged.artifact with ⟨id, digest, length⟩
    simp only [corrupted, hs] at hd hl ⊢
    rw [hd, hl]
  rcases staged with ⟨artifact, facts, fileSynced⟩
  simp only [corrupted] at this ⊢
  rw [this]

/-- The only armed fault is at that point. -/
theorem Armed.unique {point point' : FaultPoint} (h : Armed s point) (h' : Armed s point') :
    point = point' :=
  Option.some.inj (h.symm.trans h')

theorem not_armed_of_nil {point : FaultPoint} (h : s.faults.points = []) : ¬Armed s point :=
  fun ha => ha.ne_nil h

theorem armed_congr (h : s'.faults = s.faults) (point : FaultPoint) :
    Armed s' point ↔ Armed s point := by
  unfold Armed
  rw [h]

/-- Verification finds the stage corrupted. -/
def Spoils (s : ReferencePublicationAdapter) (staged : StagedArtifact) : Prop :=
  Armed s .corruptStagedBeforeVerification ∧
    sameContent (corrupted staged).artifact staged.artifact = false

instance : Decidable (Spoils s staged) := inferInstanceAs (Decidable (_ ∧ _))

theorem verifyExact_ends (hf : s.faults.points.length ≤ 1) (hs : s.stages[stage]? = some staged)
    {expected : ArtifactIdentityV0} (he : staged.artifact = expected) :
    Ends (referencePublication.verifyExact stage expected) s fun r s' =>
      StageOnly stage s s' ∧ s'.trace = s.trace ++ [.verifyExactDigestAndLength] ∧
        ((r = .ok () ∧ s'.stages[stage]? = some staged ∧ Spent s s' ∧ ¬Spoils s staged ∧
            ∀ point ≠ .corruptStagedBeforeVerification, Armed s' point ↔ Armed s point) ∨
          ((∃ e, r = .error e) ∧ (∃ staged', s'.stages[stage]? = some staged') ∧ Fired s s' ∧
            Spoils s staged)) := by
  subst he
  -- The check after the corruption, from a state with the stage as it is now.
  have check : ∀ (s₁ : ReferencePublicationAdapter) {staged₁ : StagedArtifact},
      s₁.stages[stage]? = some staged₁ →
      (do let self ← get
          let staged₂ ← ofResult (okOr self.stages[stage]? .unknownStage)
          ensure (sameContent staged₂.artifact staged.artifact) .verificationMismatch :
        Method Unit).on s₁ =
      if sameContent staged₁.artifact staged.artifact then (.ok (), s₁)
      else (.error (.err .verificationMismatch), s₁) := by
    intro s₁ staged₁ h₁
    simp only [on_get_bind, on_ofResult_bind, h₁, okOr]
    unfold ensure
    split <;> rfl
  refine pushTrace_ends ?_
  have hc := corruptIfHit_on (s := s.traced .verifyExactDigestAndLength) hs
  by_cases h : s.faults.points.head? = some .corruptStagedBeforeVerification
  · replace hc := hc.trans (if_pos h)
    have hfired : s.faults.points ≠ [] ∧ s.faults.points.tail = [] :=
      ⟨Armed.ne_nil h, tail_eq_nil hf⟩
    have hlook := lookup_insert (m := s.stages) (k := stage) (a := stage) (v := corrupted staged)
    rw [if_pos rfl] at hlook
    have hrest := check { s.traced .verifyExactDigestAndLength with
      faults := ⟨s.faults.points.tail⟩
      stages := s.stages.insert stage (corrupted staged) } hlook
    by_cases he : sameContent (corrupted staged).artifact staged.artifact = true
    · rw [if_pos he] at hrest
      refine .of_result_ok ((on_bind_of_ok hc).trans hrest) ⟨⟨rfl, erase_insert⟩, rfl, .inl ?_⟩
      rw [corrupted_eq he] at hlook ⊢
      refine ⟨rfl, hlook, .inr hfired, fun hsp => (by rw [hsp.2] at he; cases he), ?_⟩
      exact fun point hne => iff_of_false (not_armed_of_nil hfired.2)
        fun ha => hne (Armed.unique ha h)
    · rw [if_neg he] at hrest
      exact .of_result_err ((on_bind_of_ok hc).trans hrest)
        ⟨⟨rfl, erase_insert⟩, rfl, .inr ⟨⟨_, rfl⟩, ⟨_, hlook⟩, hfired, h, by simpa using he⟩⟩
  · replace hc := hc.trans (if_neg h)
    have hrest := check (s.traced .verifyExactDigestAndLength) hs
    rw [if_pos (sameContent_iff.mpr ⟨rfl, rfl⟩)] at hrest
    exact .of_result_ok ((on_bind_of_ok hc).trans hrest)
      ⟨⟨rfl, rfl⟩, rfl, .inl ⟨rfl, hs, .inl rfl, fun hsp => h hsp.1, fun _ _ => Iff.rfl⟩⟩

theorem syncStagedFile_ends (hf : s.faults.points.length ≤ 1)
    (hs : s.stages[stage]? = some staged) :
    Ends (referencePublication.syncStagedFile stage) s fun r s' =>
      StageOnly stage s s' ∧ s'.trace = s.trace ++ [.syncStagedFile] ∧
        ((r = .ok () ∧ s'.stages[stage]? = some { staged with fileSynced := true } ∧
            s'.faults = s.faults ∧ ¬Armed s .beforeFileSync) ∨
          ((∃ e, r = .error e) ∧ (∃ staged', s'.stages[stage]? = some staged') ∧ Fired s s' ∧
            Armed s .beforeFileSync)) := by
  refine pushTrace_ends (hit_bind_ends hf (fun hn => ?_) fun ha e => ?_)
  · have hon : (do let self ← get
                   let staged ← ofResult (okOr self.stages[stage]? .unknownStage)
                   set { self with
                     stages := self.stages.insert stage { staged with fileSynced := true } } :
        Method Unit).on (s.traced .syncStagedFile) = (.ok (), { s.traced .syncStagedFile with
          stages := s.stages.insert stage { staged with fileSynced := true } }) := by
      have hs' : (s.traced .syncStagedFile).stages[stage]? = some staged := hs
      simp only [on_get_bind, on_ofResult_bind, hs', okOr]
      rfl
    exact .of_result_ok hon
      ⟨⟨rfl, erase_insert⟩, rfl, .inl ⟨rfl, lookup_insert.trans (if_pos rfl), rfl, hn⟩⟩
  · exact ⟨⟨rfl, rfl⟩, rfl, .inr ⟨⟨e, rfl⟩, ⟨_, hs⟩, ⟨Armed.ne_nil ha, rfl⟩, ha⟩⟩

theorem publishNoClobber_ends (hf : s.faults.points.length ≤ 1)
    (hs : s.stages[stage]? = some staged) (hsync : staged.fileSynced = true)
    (hv : s.visible = none) (d : DestinationIdentityV0) :
    Ends (referencePublication.publishNoClobber stage d) s fun r s' => s'.stages = s.stages ∧
      s'.trace = s.trace ++ [.publishNoClobber] ∧
      ((r = .ok () ∧ s'.visible = some staged.artifact ∧ s'.faults = s.faults ∧
          ¬Armed s .beforeVisibility ∧ ¬Armed s .afterNoClobberVisibility) ∨
        ((∃ e, r = .error e) ∧ (s'.visible = none ∧ Armed s .beforeVisibility ∨
          s'.visible = some staged.artifact ∧ ¬Armed s .beforeVisibility ∧
            Armed s .afterNoClobberVisibility) ∧ Fired s s')) := by
  have hs' : (s.traced .publishNoClobber).stages[stage]? = some staged := hs
  have hv' : (s.traced .publishNoClobber).visible = none := hv
  refine pushTrace_ends (Ends.result_congr (do
    hit .beforeVisibility
    modify fun self => { self with visible := some staged.artifact }
    hit .afterNoClobberVisibility) ?_ (hit_bind_ends hf (fun hn => ?_) fun ha e => ?_))
  · simp only [on_get_bind, on_ofResult_bind, hs', okOr, on_ensure_bind, hsync, hv', if_true]
  · have h := hit_ends (s := { s.traced .publishNoClobber with visible := some staged.artifact })
      hf .afterNoClobberVisibility
    refine h.mono ?_
    rintro r s' (⟨rfl, rfl, hn'⟩ | ⟨he, rfl, ha⟩)
    · exact ⟨rfl, rfl, .inl ⟨rfl, rfl, rfl, hn, hn'⟩⟩
    · exact ⟨rfl, rfl, .inr ⟨he, .inr ⟨rfl, hn, ha⟩, Armed.ne_nil ha, rfl⟩⟩
  · exact ⟨rfl, rfl, .inr ⟨⟨e, rfl⟩, .inl ⟨hv, ha⟩, Armed.ne_nil ha, rfl⟩⟩

/-- The destination is occupied: nothing but the trace changes. -/
theorem publishNoClobber_occupied_ends (hs : s.stages[stage]? = some staged)
    (hsync : staged.fileSynced = true) (hv : s.visible ≠ none) (d : DestinationIdentityV0) :
    Ends (referencePublication.publishNoClobber stage d) s fun r s' =>
      (∃ e, r = .error e) ∧ s' = s.traced .publishNoClobber := by
  have hs' : (s.traced .publishNoClobber).stages[stage]? = some staged := hs
  have hv' : ¬(s.traced .publishNoClobber).visible = none := hv
  refine pushTrace_ends (.of_result_err (e := .destinationConflict) ?_ ⟨⟨_, rfl⟩, rfl⟩)
  simp only [on_get_bind, on_ofResult_bind, hs', okOr, on_ensure_bind, hsync, if_true,
    if_neg hv']

theorem syncVisibleFile_ends (hf : s.faults.points.length ≤ 1) (hv : s.visible ≠ none)
    (d : DestinationIdentityV0) :
    Ends (referencePublication.syncVisibleFile d) s fun r s' =>
      s'.visible = s.visible ∧ s'.stages = s.stages ∧ s'.trace = s.trace ++ [.syncVisibleFile] ∧
        ((r = .ok () ∧ s'.faults = s.faults ∧ ¬Armed s .beforeVisibleFileSync) ∨
          ((∃ e, r = .error e) ∧ Fired s s' ∧ Armed s .beforeVisibleFileSync)) := by
  refine pushTrace_ends (Ends.result_congr (hit .beforeVisibleFileSync) ?_ ?_)
  · have hv' : (s.traced .syncVisibleFile).visible ≠ none := hv
    simp only [on_get_bind, on_assert_bind, if_pos hv']
  · refine (hit_ends (s := s.traced _) hf _).mono ?_
    rintro r s' (⟨rfl, rfl, hn⟩ | ⟨he, rfl, ha⟩)
    · exact ⟨rfl, rfl, rfl, .inl ⟨rfl, rfl, hn⟩⟩
    · exact ⟨rfl, rfl, rfl, .inr ⟨he, ⟨Armed.ne_nil ha, rfl⟩, ha⟩⟩

/-- A fault is armed at one of the points of `sync_parent_directory`. -/
def ParentArmed (s : ReferencePublicationAdapter) : Prop :=
  Armed s .beforeParentSync ∨ Armed s .afterVisibilityBeforeParentSync

instance : Decidable (ParentArmed s) := inferInstanceAs (Decidable (_ ∨ _))

theorem parentArmed_congr (h : ∀ point ≠ .corruptStagedBeforeVerification,
    Armed s' point ↔ Armed s point) : ParentArmed s' ↔ ParentArmed s :=
  or_congr (h _ (by decide)) (h _ (by decide))

theorem syncParentDirectory_ends (hf : s.faults.points.length ≤ 1) (d : DestinationIdentityV0) :
    Ends (referencePublication.syncParentDirectory d) s fun r s' =>
      s'.visible = s.visible ∧ s'.stages = s.stages ∧
        s'.trace = s.trace ++ [.syncParentDirectory] ∧
        ((r = .ok () ∧ s'.faults = s.faults ∧ ¬ParentArmed s) ∨
          ((∃ e, r = .error e) ∧ Fired s s' ∧ ParentArmed s)) := by
  refine pushTrace_ends (hit_bind_ends hf (fun hn => ?_) fun ha e => ?_)
  · refine (hit_ends (s := s.traced _) hf _).mono ?_
    rintro r s' (⟨rfl, rfl, hn'⟩ | ⟨he, rfl, ha⟩)
    · exact ⟨rfl, rfl, rfl, .inl ⟨rfl, rfl, not_or.mpr ⟨hn, hn'⟩⟩⟩
    · exact ⟨rfl, rfl, rfl, .inr ⟨he, ⟨Armed.ne_nil ha, rfl⟩, .inr ha⟩⟩
  · exact ⟨rfl, rfl, rfl, .inr ⟨⟨e, rfl⟩, ⟨Armed.ne_nil ha, rfl⟩, .inl ha⟩⟩

theorem cleanupOwnedStage_ends (hs : s.stages[stage]? = some staged) :
    Ends (referencePublication.cleanupOwnedStage stage) s fun r s' => r = .ok () ∧
      s'.visible = s.visible ∧ s'.faults = s.faults ∧ s'.stages = s.stages.erase stage ∧
      s'.trace = s.trace ++ [.cleanupOwnedStage] := by
  have hon : (cleanupOwnedStage stage).on s = (.ok (), { s.traced .cleanupOwnedStage with
      stages := s.stages.erase stage }) := by
    unfold cleanupOwnedStage pushTrace
    simp only [on_modify_bind, on_get_bind, on_set_bind, on_ofResult_bind, hs, okOr]
    rfl
  exact .of_result_ok hon ⟨rfl, rfl, rfl, rfl, rfl⟩

theorem cleanup_ends (hs : s.stages[stage]? = some staged) :
    Ends (cleanup referencePublication stage) s fun _ s' =>
      s'.visible = s.visible ∧ s'.faults = s.faults ∧ s'.stages = s.stages.erase stage ∧
        s'.trace = s.trace ++ [.cleanupOwnedStage] := by
  refine (cleanupOwnedStage_ends hs).bind ?_
  rintro _ s' ⟨rfl, h⟩
  exact .pure h

/-! ## The service errors -/

theorem testkitError_ends (code : String) (errorClass : ErrorClass) (retry : RetryAdvice)
    (detail : String) :
    Ends (testkitError code errorClass retry detail) s fun e s' =>
      e = ⟨serviceErrorSchemaV0, code, errorClass, retry, none, testkitService, detail⟩ ∧
        s' = s :=
  .expectOk_bind (a := testkitService) rfl (.pure ⟨rfl, rfl⟩)

theorem serviceError_ends (e : ReferencePublicationError) (context : PublicationErrorContext) :
    Ends (referencePublication.serviceError e context) s fun err s' =>
      Canonical context err ∧ s' = s := by
  cases context with
  | visibleDurabilityUnknown =>
    refine (testkitError_ends _ _ _ _).mono ?_
    rintro _ s' ⟨rfl, rfl⟩
    exact ⟨⟨by decide, fun _ => rfl⟩, rfl⟩
  | notPublished =>
    cases e with
    | verificationMismatch =>
      refine (testkitError_ends _ _ _ _).mono ?_
      rintro _ s' ⟨rfl, rfl⟩
      exact ⟨⟨by decide, nofun⟩, rfl⟩
    | _ =>
      refine (testkitError_ends _ _ _ _).mono ?_
      rintro _ s' ⟨rfl, rfl⟩
      exact ⟨⟨by decide, nofun⟩, rfl⟩

theorem conflictError_ends :
    Ends referencePublication.conflictError s fun err s' =>
      Canonical .notPublished err ∧ s' = s := by
  refine (testkitError_ends _ _ _ _).mono ?_
  rintro _ s' ⟨rfl, rfl⟩
  exact ⟨⟨by decide, nofun⟩, rfl⟩

end Testkit
end Platform
