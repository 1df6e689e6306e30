import PlatformContracts.Testkit.ReferenceCallbacks

/-!
# The exits of a run of the reference publication adapter

* `Exit`: the ways out of a run, each with its outcome, its steps and what it makes visible;
  `exitOf s request`: the one that the destination and the armed fault choose.
* `runPublicationModel_exit`: a run takes it.
-/

namespace Platform
namespace Testkit

open Std Contracts Exec ReferencePublicationAdapter

/-! ## Exits -/

/-- A way out of a run. The reference adapter loses no race. -/
inductive Exit where
  | conflict
  | recoverFileUnknown
  | recoverDirectoryUnknown
  | recovered
  | verifyFailed
  | syncFailed
  | publishFailedNothing
  | publishFailedExact
  | publishedDirectoryUnknown
  | published
  deriving DecidableEq, Repr

namespace Exit

def kind : Exit → PublicationOutcomeV0.Kind
  | conflict | verifyFailed | syncFailed | publishFailedNothing => .notPublished
  | recovered | published => .published
  | recoverFileUnknown | recoverDirectoryUnknown | publishFailedExact
  | publishedDirectoryUnknown => .publishedDurabilityUnknown

def receipt? (request : PublicationRequest) : Exit → Option PublicationReceiptV0
  | conflict | verifyFailed | syncFailed | publishFailedNothing => none
  | recoverFileUnknown => some (receipt request true false false)
  | recoverDirectoryUnknown => some (receipt request true true false)
  | recovered => some (receipt request true true true)
  | publishFailedExact | publishedDirectoryUnknown => some (receipt request false true false)
  | published => some (receipt request false true true)

/-- The run made the artifact visible. -/
def shows : Exit → Bool
  | publishFailedExact | publishedDirectoryUnknown | published => true
  | _ => false

/-- A fault made the run take this exit. -/
def faulted : Exit → Bool
  | conflict | recovered | published => false
  | _ => true

/-- The steps before the publication. -/
def stagedSteps : List PublicationStep :=
  [.inspectDestination, .createPrivateSiblingStage, .verifyExactDigestAndLength, .syncStagedFile]

def steps : Exit → List PublicationStep
  | conflict => [.inspectDestination]
  | recoverFileUnknown => [.inspectDestination, .syncVisibleFile]
  | recoverDirectoryUnknown | recovered =>
    [.inspectDestination, .syncVisibleFile, .syncParentDirectory]
  | verifyFailed =>
    [.inspectDestination, .createPrivateSiblingStage, .verifyExactDigestAndLength,
      .cleanupOwnedStage]
  | syncFailed => stagedSteps ++ [.cleanupOwnedStage]
  | publishFailedNothing | publishFailedExact =>
    stagedSteps ++ [.publishNoClobber, .inspectDestination, .cleanupOwnedStage]
  | publishedDirectoryUnknown | published =>
    stagedSteps ++
      [.publishNoClobber, .inspectDestination, .syncParentDirectory, .cleanupOwnedStage]

end Exit

/-- The exit that the destination and the armed fault choose. -/
def exitOf (s : ReferencePublicationAdapter) (request : PublicationRequest) : Exit :=
  match s.visible with
  | some existing =>
    if sameContent existing request.artifact = false then .conflict
    else if Armed s .beforeVisibleFileSync then .recoverFileUnknown
    else if ParentArmed s then .recoverDirectoryUnknown
    else .recovered
  | none =>
    if Spoils s (stagedFor request) then .verifyFailed
    else if Armed s .beforeFileSync then .syncFailed
    else if Armed s .beforeVisibility then .publishFailedNothing
    else if Armed s .afterNoClobberVisibility then .publishFailedExact
    else if ParentArmed s then .publishedDirectoryUnknown
    else .published

variable {s s' : ReferencePublicationAdapter} {request : PublicationRequest}
  {stage : ReferenceStage} {staged : StagedArtifact} {exit : Exit}

/-- What a run with this exit leaves behind. -/
structure ExitPost (request : PublicationRequest) (s : ReferencePublicationAdapter) (exit : Exit)
    (outcome : PublicationOutcomeV0) (s' : ReferencePublicationAdapter) : Prop where
  outcome : outcome.kind = exit.kind ∧ outcome.receipt? = exit.receipt? request
  visible : s'.visible = if exit.shows then some request.artifact else s.visible
  stages : s'.stages = ∅
  trace : s'.trace = s.trace ++ exit.steps
  faults : Spent s s'
  fired : exit.faulted = true → Fired s s'

/-- No stage is owned, and one fault at most is armed. -/
structure Ready (s : ReferencePublicationAdapter) : Prop where
  stages : s.stages = ∅
  faults : s.faults.points.length ≤ 1

/-- The next stage of the adapter has an ID, if the run makes one. -/
def Room (s : ReferencePublicationAdapter) : Prop :=
  s.visible = none → s.nextStage.toNat + 1 < 2 ^ 64

/-! ## Something is visible -/

theorem recoverVisible_exit (hr : Ready s) (hv : request.Valid) {existing : ArtifactIdentityV0}
    (hvis : s.visible = some existing) :
    Ends (recoverVisible referencePublication request existing) (s.traced .inspectDestination)
      (ExitPost request s (exitOf s request)) := by
  unfold recoverVisible
  by_cases hc : sameContent existing request.artifact = true
  · rw [hc]
    have hne : s.visible ≠ none := by
      rw [hvis]
      exact nofun
    refine (syncVisibleFile_ends (s := s.traced .inspectDestination) hr.faults hne _).bind ?_
    rintro r s₁ ⟨hv₁, hst₁, ht₁, ⟨rfl, hf₁, hn₁⟩ | ⟨⟨e, rfl⟩, hf₁, ha₁⟩⟩
    · replace hn₁ : ¬Armed s .beforeVisibleFileSync := hn₁
      replace hf₁ : s₁.faults = s.faults := hf₁
      have hp : ParentArmed s₁ ↔ ParentArmed s := parentArmed_congr fun _ _ => armed_congr hf₁ _
      refine (syncParentDirectory_ends (by rw [hf₁]; exact hr.faults) _).bind ?_
      rintro r s₂ ⟨hv₂, hst₂, ht₂, ⟨rfl, hf₂, hn₂⟩ | ⟨⟨e, rfl⟩, hf₂, ha₂⟩⟩
      · have hx : exitOf s request = .recovered := by
          simp [exitOf, hvis, hc, hn₁, mt hp.mpr hn₂]
        rw [hx]
        refine (published_ends hv true).mono ?_
        rintro o s₃ ⟨ho, rfl⟩
        exact ⟨ho, hv₂.trans hv₁, (hst₂.trans hst₁).trans hr.stages,
          by rw [ht₂, ht₁]; simp [traced, Exit.steps], .inl (hf₂.trans hf₁), nofun⟩
      · have hx : exitOf s request = .recoverDirectoryUnknown := by
          simp [exitOf, hvis, hc, hn₁, hp.mp ha₂]
        rw [hx]
        have hfired : Fired s s₂ := Spent.fired (.inl hf₁) hf₂
        refine (durabilityUnknown_ends hv (serviceError_ends e _) true true).mono ?_
        rintro o s₃ ⟨ho, rfl⟩
        exact ⟨ho, hv₂.trans hv₁, (hst₂.trans hst₁).trans hr.stages,
          by rw [ht₂, ht₁]; simp [traced, Exit.steps], .inr hfired, fun _ => hfired⟩
    · have hx : exitOf s request = .recoverFileUnknown := by
        simp [exitOf, hvis, hc, show Armed s .beforeVisibleFileSync from ha₁]
      rw [hx]
      refine (durabilityUnknown_ends hv (serviceError_ends e _) true false).mono ?_
      rintro o s₂ ⟨ho, rfl⟩
      exact ⟨ho, hv₁, hst₁.trans hr.stages, by rw [ht₁]; simp [traced, Exit.steps], .inr hf₁,
        fun _ => hf₁⟩
  · rw [Bool.not_eq_true] at hc
    rw [hc]
    have hx : exitOf s request = .conflict := by simp [exitOf, hvis, hc]
    rw [hx]
    refine (conflict_ends conflictError_ends).mono ?_
    rintro o s' ⟨ho, rfl⟩
    exact ⟨ho, rfl, hr.stages, rfl, .inl rfl, nofun⟩

/-! ## Nothing is visible -/

/-- The stage is the only one, as `staged`. -/
structure Holds (stage : ReferenceStage) (staged : StagedArtifact)
    (s : ReferencePublicationAdapter) : Prop where
  entry : s.stages[stage]? = some staged
  others : s.stages.erase stage = ∅

/-- A fault fired after these steps of the run from `s`, which owns its stage. -/
structure Halted (s : ReferencePublicationAdapter) (stage : ReferenceStage)
    (steps : List PublicationStep) (s₁ : ReferencePublicationAdapter) : Prop where
  holds : ∃ staged, Holds stage staged s₁
  faults : Fired s s₁
  trace : s₁.trace = s.trace ++ steps

variable {steps : List PublicationStep} {s₁ : ReferencePublicationAdapter}

/-- The end of a run that published nothing. -/
theorem publishNothing_exit (hx : exit.kind = .notPublished ∧ exit.receipt? request = none ∧
      exit.shows = false ∧ exit.steps = steps ++ [.cleanupOwnedStage])
    (hh : Halted s stage steps s₁) (hvis₁ : s₁.visible = s.visible)
    (e : ReferencePublicationError) :
    Ends (do cleanup referencePublication stage; notPublished referencePublication e) s₁
      (ExitPost request s exit) := by
  obtain ⟨hkind, hreceipt, hshows, hsteps⟩ := hx
  obtain ⟨⟨staged, hs₁⟩, hf₁, ht₁⟩ := hh
  refine (cleanup_ends hs₁.entry).bind ?_
  rintro _ s₂ ⟨hv₂, hf₂, hst₂, ht₂⟩
  refine (notPublished_ends (serviceError_ends e _)).mono ?_
  rintro o s₃ ⟨⟨hk, hr⟩, rfl⟩
  have hfired : Fired s s₃ := ⟨hf₁.1, by rw [hf₂]; exact hf₁.2⟩
  exact ⟨⟨hk.trans hkind.symm, hr.trans hreceipt.symm⟩, by rw [hshows]; exact hv₂.trans hvis₁,
    hst₂.trans hs₁.others, by rw [ht₂, ht₁, hsteps, List.append_assoc], .inr hfired,
    fun _ => hfired⟩

/-- A publication that failed before the artifact was visible, or just after. -/
theorem publishFailed_exit (hv : request.Valid) (hvis : s.visible = none)
    (hh : Halted s stage (Exit.stagedSteps ++ [.publishNoClobber]) s₁)
    (hx : s₁.visible = none ∧ exit = .publishFailedNothing ∨
      s₁.visible = some request.artifact ∧ exit = .publishFailedExact)
    (e : ReferencePublicationError) :
    Ends (publishFailed referencePublication request stage e) s₁ (ExitPost request s exit) := by
  obtain ⟨⟨staged, hs₁⟩, hf₁, ht₁⟩ := hh
  have hs₂ : Holds stage staged (s₁.traced .inspectDestination) := ⟨hs₁.entry, hs₁.others⟩
  have ht₂ : (s₁.traced .inspectDestination).trace = s.trace ++
      (Exit.stagedSteps ++ [.publishNoClobber, .inspectDestination]) := by
    simp [traced, ht₁]
  refine (inspectVisible_ends _).bind ?_
  rintro _ _ ⟨rfl, rfl⟩
  obtain ⟨hn, rfl⟩ | ⟨hs, rfl⟩ := hx
  · rw [hn]
    exact publishNothing_exit ⟨rfl, rfl, rfl, rfl⟩ ⟨⟨staged, hs₂⟩, hf₁, ht₂⟩
      (hn.trans hvis.symm) e
  · rw [hs]
    refine (cleanup_ends hs₂.entry).bind ?_
    rintro _ s₃ ⟨hv₃, hf₃, hst₃, ht₃⟩
    dsimp only
    rw [if_pos (sameContent_iff.mpr ⟨rfl, rfl⟩)]
    refine (durabilityUnknown_ends hv (serviceError_ends e _) false true).mono ?_
    rintro o s₄ ⟨ho, rfl⟩
    have hfired : Fired s s₄ := ⟨hf₁.1, by rw [hf₃]; exact hf₁.2⟩
    exact ⟨ho, hv₃.trans hs, hst₃.trans hs₂.others,
      by rw [ht₃, ht₂, List.append_assoc]; rfl, .inr hfired, fun _ => hfired⟩

theorem publishDone_exit (hv : request.Valid)
    (hf₁ : s₁.faults.points.length ≤ 1) (hh : Holds stage staged s₁)
    (hvis₁ : s₁.visible = some request.artifact) (hsp : Spent s s₁)
    (ht : s₁.trace = s.trace ++ (Exit.stagedSteps ++ [.publishNoClobber]))
    (hx : exit = if ParentArmed s₁ then .publishedDirectoryUnknown else .published) :
    Ends (publishDone referencePublication request stage) s₁ (ExitPost request s exit) := by
  refine (inspectVisible_ends _).bind ?_
  rintro _ _ ⟨rfl, rfl⟩
  refine Ends.expect_bind hvis₁ (Ends.assert_bind (sameContent_iff.mpr ⟨rfl, rfl⟩) ?_)
  refine (syncParentDirectory_ends (s := s₁.traced .inspectDestination) hf₁ _).bind ?_
  rintro r s₃ ⟨hv₃, hst₃, ht₃, hr⟩
  replace hst₃ : s₃.stages = s₁.stages := hst₃
  refine (cleanup_ends (by rw [hst₃]; exact hh.entry)).bind ?_
  rintro _ s₄ ⟨hv₄, hf₄, hst₄, ht₄⟩
  have hvis₄ : s₄.visible = some request.artifact := hv₄.trans (hv₃.trans hvis₁)
  have hst : s₄.stages = ∅ := by rw [hst₄, hst₃]; exact hh.others
  have htr : s₄.trace = s.trace ++ Exit.published.steps := by
    rw [ht₄, ht₃]
    simp [traced, ht, Exit.steps]
  rcases hr with ⟨rfl, hf₃, hn₃⟩ | ⟨⟨e, rfl⟩, hf₃, ha₃⟩
  · obtain rfl : exit = .published := hx.trans (if_neg hn₃)
    refine (published_ends hv false).mono ?_
    rintro o s₅ ⟨ho, rfl⟩
    exact ⟨ho, hvis₄, hst, htr, hsp.trans (.inl (hf₄.trans hf₃)), nofun⟩
  · obtain rfl : exit = .publishedDirectoryUnknown := hx.trans (if_pos ha₃)
    have hfired : Fired s s₄ := hsp.fired ⟨hf₃.1, by rw [hf₄]; exact hf₃.2⟩
    refine (durabilityUnknown_ends hv (serviceError_ends e _) false true).mono ?_
    rintro o s₅ ⟨ho, rfl⟩
    exact ⟨ho, hvis₄, hst, htr, .inr hfired, fun _ => hfired⟩

/-- The run from `s` took these steps, has its stage and published nothing yet; no fault fired but
a corruption that left the content. -/
structure Underway (s : ReferencePublicationAdapter) (stage : ReferenceStage)
    (staged : StagedArtifact) (steps : List PublicationStep)
    (s₁ : ReferencePublicationAdapter) : Prop where
  holds : Holds stage staged s₁
  visible : s₁.visible = none
  faults : Spent s s₁
  armed : ∀ point ≠ .corruptStagedBeforeVerification, Armed s₁ point ↔ Armed s point
  trace : s₁.trace = s.trace ++ steps

theorem createPrivateSiblingStage_underway (hr : Ready s) (hvis : s.visible = none)
    (hn : s.nextStage.toNat + 1 < 2 ^ 64) :
    Ends (referencePublication.createPrivateSiblingStage request) (s.traced .inspectDestination)
      fun r s₁ => ∃ stage, r = .ok stage ∧ s₁.faults = s.faults ∧
        Underway s stage (stagedFor request) [.inspectDestination, .createPrivateSiblingStage]
          s₁ := by
  have hnew : s.stages[s.nextStage + 1]? = none := by
    rw [hr.stages]
    simp
  refine (createPrivateSiblingStage_ends (s := s.traced .inspectDestination) hnew hn).mono ?_
  rintro r s₁ ⟨stage, hrs, hs₁, ho₁, hv₁, hf₁, ht₁⟩
  exact ⟨stage, hrs, hf₁, ⟨hs₁, ho₁.trans hr.stages⟩, hv₁.trans hvis, .inl hf₁,
    fun point _ => armed_congr hf₁ point, by rw [ht₁]; simp [traced]⟩

theorem verifyExact_underway (hr : Ready s)
    (hu : Underway s stage (stagedFor request) steps s₁) (hf : s₁.faults = s.faults) :
    Ends (referencePublication.verifyExact stage request.artifact) s₁ fun r s₂ =>
      (r = .ok () ∧ ¬Spoils s (stagedFor request) ∧
        Underway s stage (stagedFor request) (steps ++ [.verifyExactDigestAndLength]) s₂) ∨
      ((∃ e, r = .error e) ∧ Spoils s (stagedFor request) ∧ s₂.visible = none ∧
        Halted s stage (steps ++ [.verifyExactDigestAndLength]) s₂) := by
  have hspoils : Spoils s₁ (stagedFor request) ↔ Spoils s (stagedFor request) :=
    and_congr_left' (armed_congr hf _)
  refine (verifyExact_ends (hu.faults.length hr.faults) hu.holds.entry rfl).mono ?_
  rintro r s₂ ⟨⟨hv₂, ho₂⟩, ht₂, h₂⟩
  replace hv₂ : s₂.visible = none := hv₂.trans hu.visible
  replace ho₂ : s₂.stages.erase stage = ∅ := ho₂.trans hu.holds.others
  replace ht₂ : s₂.trace = s.trace ++ (steps ++ [.verifyExactDigestAndLength]) := by
    rw [ht₂, hu.trace, List.append_assoc]
  obtain ⟨hrs, hs₂, hsp₂, hn₂, ha₂⟩ | ⟨hrs, ⟨staged, hs₂⟩, hf₂, hx₂⟩ := h₂
  · exact .inl ⟨hrs, mt hspoils.mpr hn₂, ⟨hs₂, ho₂⟩, hv₂, hu.faults.trans hsp₂,
      fun point hp => (ha₂ point hp).trans (hu.armed point hp), ht₂⟩
  · exact .inr ⟨hrs, hspoils.mp hx₂, hv₂, ⟨staged, hs₂, ho₂⟩, hu.faults.fired hf₂, ht₂⟩

theorem syncStagedFile_underway (hr : Ready s) (hu : Underway s stage staged steps s₁) :
    Ends (referencePublication.syncStagedFile stage) s₁ fun r s₂ =>
      (r = .ok () ∧ ¬Armed s .beforeFileSync ∧
        Underway s stage { staged with fileSynced := true } (steps ++ [.syncStagedFile]) s₂) ∨
      ((∃ e, r = .error e) ∧ Armed s .beforeFileSync ∧ s₂.visible = none ∧
        Halted s stage (steps ++ [.syncStagedFile]) s₂) := by
  refine (syncStagedFile_ends (hu.faults.length hr.faults) hu.holds.entry).mono ?_
  rintro r s₂ ⟨⟨hv₂, ho₂⟩, ht₂, h₂⟩
  rw [hu.armed _ (by decide)] at h₂
  replace hv₂ : s₂.visible = none := hv₂.trans hu.visible
  replace ho₂ : s₂.stages.erase stage = ∅ := ho₂.trans hu.holds.others
  replace ht₂ : s₂.trace = s.trace ++ (steps ++ [.syncStagedFile]) := by
    rw [ht₂, hu.trace, List.append_assoc]
  obtain ⟨hrs, hs₂, hf₂, hn₂⟩ | ⟨hrs, ⟨staged', hs₂⟩, hf₂, hx₂⟩ := h₂
  · exact .inl ⟨hrs, hn₂, ⟨hs₂, ho₂⟩, hv₂, hu.faults.trans (.inl hf₂),
      fun point hp => (armed_congr hf₂ point).trans (hu.armed point hp), ht₂⟩
  · exact .inr ⟨hrs, hx₂, hv₂, ⟨staged', hs₂, ho₂⟩, hu.faults.fired hf₂, ht₂⟩

theorem publishNoClobber_underway (hr : Ready s) (hu : Underway s stage staged steps s₁)
    (hsync : staged.fileSynced = true) (d : DestinationIdentityV0) :
    Ends (referencePublication.publishNoClobber stage d) s₁ fun r s₂ =>
      (r = .ok () ∧ ¬Armed s .beforeVisibility ∧ ¬Armed s .afterNoClobberVisibility ∧
        Holds stage staged s₂ ∧ s₂.visible = some staged.artifact ∧ Spent s s₂ ∧
        (ParentArmed s₂ ↔ ParentArmed s) ∧ s₂.trace = s.trace ++ (steps ++ [.publishNoClobber])) ∨
      ((∃ e, r = .error e) ∧ Halted s stage (steps ++ [.publishNoClobber]) s₂ ∧
        (Armed s .beforeVisibility ∧ s₂.visible = none ∨
          ¬Armed s .beforeVisibility ∧ Armed s .afterNoClobberVisibility ∧
            s₂.visible = some staged.artifact)) := by
  refine (publishNoClobber_ends (hu.faults.length hr.faults) hu.holds.entry hsync hu.visible
    d).mono ?_
  rintro r s₂ ⟨hst₂, ht₂, h₂⟩
  rw [hu.armed _ (by decide), hu.armed _ (by decide)] at h₂
  have hh₂ : Holds stage staged s₂ :=
    ⟨by rw [hst₂]; exact hu.holds.entry, by rw [hst₂]; exact hu.holds.others⟩
  replace ht₂ : s₂.trace = s.trace ++ (steps ++ [.publishNoClobber]) := by
    rw [ht₂, hu.trace, List.append_assoc]
  obtain ⟨hrs, hv₂, hf₂, hn₂, hn₂'⟩ | ⟨hrs, hv₂, hf₂⟩ := h₂
  · have hp : ParentArmed s₂ ↔ ParentArmed s := parentArmed_congr fun point hp =>
      (armed_congr hf₂ point).trans (hu.armed point hp)
    exact .inl ⟨hrs, hn₂, hn₂', hh₂, hv₂, hu.faults.trans (.inl hf₂), hp, ht₂⟩
  · refine .inr ⟨hrs, ⟨⟨staged, hh₂⟩, hu.faults.fired hf₂, ht₂⟩, ?_⟩
    rcases hv₂ with ⟨hv₂, ha₂⟩ | ⟨hv₂, hn₂, ha₂⟩
    · exact .inl ⟨ha₂, hv₂⟩
    · exact .inr ⟨hn₂, ha₂, hv₂⟩

theorem publishStaged_exit (hr : Ready s) (hv : request.Valid) (hvis : s.visible = none)
    (hn : s.nextStage.toNat + 1 < 2 ^ 64) :
    Ends (publishStaged referencePublication request) (s.traced .inspectDestination)
      (ExitPost request s (exitOf s request)) := by
  refine (createPrivateSiblingStage_underway hr hvis hn).bind ?_
  rintro _ s₁ ⟨stage, rfl, hf₁, hu₁⟩
  refine Ends.expectOk_bind rfl ((stagingFacts_ends hu₁.holds.entry).bind ?_)
  rintro _ _ ⟨rfl, rfl⟩
  refine Ends.assert_bind rfl (Ends.assert_bind rfl (Ends.assert_bind rfl ?_))
  refine (verifyExact_underway hr hu₁ hf₁).bind ?_
  rintro r s₂ (⟨rfl, hn₂, hu₂⟩ | ⟨⟨e, rfl⟩, hx₂, hv₂, hh₂⟩)
  swap
  · have hx : exitOf s request = .verifyFailed := by simp [exitOf, hvis, hx₂]
    rw [hx]
    exact publishNothing_exit ⟨rfl, rfl, rfl, rfl⟩ hh₂ (hv₂.trans hvis.symm) e
  refine (syncStagedFile_underway hr hu₂).bind ?_
  rintro r s₃ (⟨rfl, hn₃, hu₃⟩ | ⟨⟨e, rfl⟩, hx₃, hv₃, hh₃⟩)
  swap
  · have hx : exitOf s request = .syncFailed := by simp [exitOf, hvis, hn₂, hx₃]
    rw [hx]
    exact publishNothing_exit ⟨rfl, rfl, rfl, rfl⟩ hh₃ (hv₃.trans hvis.symm) e
  refine (publishNoClobber_underway hr hu₃ rfl _).bind ?_
  rintro r s₄ (⟨rfl, hn₄, hn₄', hh₄, hv₄, hsp₄, hp₄, ht₄⟩ | ⟨⟨e, rfl⟩, hh₄, hx₄⟩)
  · refine publishDone_exit hv (hsp₄.length hr.faults) hh₄ hv₄ hsp₄ ht₄ ?_
    simp [exitOf, hvis, hn₂, hn₃, hn₄, hn₄', hp₄]
  · refine publishFailed_exit hv hvis hh₄ ?_ e
    rcases hx₄ with ⟨ha₄, hv₄⟩ | ⟨hn₄, ha₄, hv₄⟩
    · exact .inl ⟨hv₄, by simp [exitOf, hvis, hn₂, hn₃, ha₄]⟩
    · exact .inr ⟨hv₄, by simp [exitOf, hvis, hn₂, hn₃, hn₄, ha₄]⟩

/-- A run takes the exit that the destination and the armed fault choose. -/
theorem runPublicationModel_exit (hr : Ready s) (hv : request.Valid) (room : Room s) :
    Ends (runPublicationModel referencePublication request) s
      (ExitPost request s (exitOf s request)) := by
  refine (validate_ends hv).bind ?_
  rintro _ s rfl
  refine (inspectVisible_ends _).bind ?_
  rintro _ _ ⟨rfl, rfl⟩
  cases hvis : s.visible with
  | some existing => exact recoverVisible_exit hr hv hvis
  | none => exact publishStaged_exit hr hv hvis (room hvis)

end Testkit
end Platform
