import PlatformContracts.Lib.Sys
import PlatformContracts.Testkit.PublicationExits

/-!
# Runs of the reference publication adapter

* `RunPost`: what a run leaves behind; `runPublicationModel_ends`: every run does, whatever its
  exit. At most one fault is armed, and none after it fired.
* `referenceSys`: the faults, seeds and runs of one adapter; `Ready` holds between them.
* `truthful_outcomes`: the outcomes say what is visible, and a run without a new fault repairs.
-/

namespace Platform
namespace Testkit

open Std Contracts Exec ReferencePublicationAdapter

variable {s s' : ReferencePublicationAdapter} {request : PublicationRequest}

/-! ## A run -/

/-- The visible content is the request's. -/
def Shows (s : ReferencePublicationAdapter) (request : PublicationRequest) : Prop :=
  ∃ a, s.visible = some a ∧ sameContent a request.artifact = true

/-- Other content is visible. -/
def Conflicts (s : ReferencePublicationAdapter) (request : PublicationRequest) : Prop :=
  ∃ a, s.visible = some a ∧ sameContent a request.artifact = false

theorem Conflicts.not_shows (h : Conflicts s request) : ¬Shows s request := by
  rintro ⟨a, ha, hs⟩
  obtain ⟨b, hb, hc⟩ := h
  rw [hb] at ha
  obtain rfl := Option.some.inj ha
  rw [hc] at hs
  cases hs

theorem not_shows_of_none (h : s.visible = none) : ¬Shows s request := by
  rintro ⟨a, ha, -⟩
  rw [h] at ha
  cases ha

/-- What a run leaves behind. -/
structure RunPost (request : PublicationRequest) (s : ReferencePublicationAdapter)
    (outcome : PublicationOutcomeV0) (s' : ReferencePublicationAdapter) : Prop where
  stages : s'.stages = ∅
  faults : Spent s s'
  kept : ∀ a, s.visible = some a → s'.visible = some a
  shown : outcome.kind ≠ .notPublished → Shows s' request
  notShown : outcome.kind = .notPublished → s'.visible = s.visible ∧ ¬Shows s' request
  /-- Only a conflict or a fault that fires keeps a run from `Published`. -/
  faulted : outcome.kind ≠ .published → Conflicts s request ∨ Fired s s'

/-- A run does not make a conflict. -/
theorem RunPost.not_conflicts {outcome : PublicationOutcomeV0} (h : RunPost request s outcome s')
    (hc : ¬Conflicts s request) : ¬Conflicts s' request := by
  intro hc'
  by_cases hk : outcome.kind = .notPublished
  · refine hc ?_
    unfold Conflicts at hc' ⊢
    rwa [(h.notShown hk).1] at hc'
  · exact hc'.not_shows (h.shown hk)

/-- At an occupied destination. -/
theorem exitOf_some (request : PublicationRequest) {existing : ArtifactIdentityV0}
    (hvis : s.visible = some existing) :
    (exitOf s request).shows = false ∧ ((exitOf s request).kind = .notPublished ↔
      sameContent existing request.artifact = false) := by
  unfold exitOf
  rw [hvis]
  dsimp only
  by_cases hc : sameContent existing request.artifact = false
  · rw [if_pos hc]
    exact ⟨rfl, iff_of_true rfl hc⟩
  · rw [if_neg hc]
    split
    · exact ⟨rfl, iff_of_false nofun hc⟩
    · split <;> exact ⟨rfl, iff_of_false nofun hc⟩

/-- At an empty destination a run publishes exactly when it makes the artifact visible. -/
theorem exitOf_none (request : PublicationRequest) (hvis : s.visible = none) :
    ((exitOf s request).kind = .notPublished ↔ (exitOf s request).shows = false) ∧
      exitOf s request ≠ .conflict := by
  unfold exitOf
  rw [hvis]
  dsimp only
  repeat' split
  all_goals exact ⟨by decide, nofun⟩

theorem Exit.faulted_of_kind {exit : Exit} (h : exit.kind ≠ .published)
    (hc : exit ≠ .conflict) : exit.faulted = true := by
  cases exit with
  | conflict => exact absurd rfl hc
  | recovered | published => exact absurd rfl h
  | _ => rfl

theorem ExitPost.runPost {outcome : PublicationOutcomeV0}
    (h : ExitPost request s (exitOf s request) outcome s') : RunPost request s outcome s' := by
  have hkind := h.outcome.1
  have hvis' := h.visible
  cases hvis : s.visible with
  | some existing =>
    obtain ⟨hshows, hnot⟩ := exitOf_some request hvis
    rw [hshows, hvis] at hvis'
    replace hvis' : s'.visible = some existing := hvis'
    have hnotShown : sameContent existing request.artifact = false → ¬Shows s' request :=
      fun hc => Conflicts.not_shows ⟨existing, hvis', hc⟩
    refine ⟨h.stages, h.faults, fun a ha => hvis'.trans (hvis.symm.trans ha), fun hk => ?_,
      fun hk => ⟨hvis'.trans hvis.symm, hnotShown (hnot.mp (hkind.symm.trans hk))⟩, fun hk => ?_⟩
    · refine ⟨existing, hvis', ?_⟩
      rw [hkind, Ne, hnot, Bool.not_eq_false] at hk
      exact hk
    · by_cases hc : sameContent existing request.artifact = false
      · exact .inl ⟨existing, hvis, hc⟩
      · refine .inr (h.fired (Exit.faulted_of_kind (hkind ▸ hk) fun hx => hc (hnot.mp ?_)))
        rw [hx]
        rfl
  | none =>
    obtain ⟨hnot, hconf⟩ := exitOf_none request hvis
    refine ⟨h.stages, h.faults, fun a ha => ?_, fun hk => ?_, fun hk => ?_, fun hk => ?_⟩
    · rw [hvis] at ha
      cases ha
    · rw [hkind, Ne, hnot, Bool.not_eq_false] at hk
      rw [hk] at hvis'
      exact ⟨_, hvis', sameContent_iff.mpr ⟨rfl, rfl⟩⟩
    · rw [hkind, hnot] at hk
      rw [hk] at hvis'
      exact ⟨hvis', not_shows_of_none (hvis'.trans hvis)⟩
    · exact .inr (h.fired (Exit.faulted_of_kind (hkind ▸ hk) hconf))

theorem runPublicationModel_ends (hr : Ready s) (hv : request.Valid) (room : Room s) :
    Ends (runPublicationModel referencePublication request) s (RunPost request s) :=
  (runPublicationModel_exit hr hv room).mono fun _ _ h => h.runPost

/-! ## Sequences of calls -/

/-- A call from the outside. -/
inductive ReferenceCall where
  | injectFault (point : FaultPoint)
  | seedVisible (artifact : ArtifactIdentityV0)
  | runPublicationModel (request : PublicationRequest)

namespace ReferenceCall

/-- The call; a run answers its outcome. -/
def exec : ReferenceCall → Callback ReferencePublicationAdapter (Option PublicationOutcomeV0)
  | injectFault point => do ReferencePublicationAdapter.injectFault point; pure none
  | seedVisible artifact => do ReferencePublicationAdapter.seedVisible artifact; pure none
  | runPublicationModel request => do
    let outcome ← Testkit.runPublicationModel referencePublication request
    pure (some outcome)

/-- Seeds of an empty destination, and runs of valid requests while there are stage IDs. -/
def Allowed (s : ReferencePublicationAdapter) : ReferenceCall → Prop
  | injectFault _ => True
  | seedVisible _ => s.visible = none
  | runPublicationModel request => request.Valid ∧ Room s

end ReferenceCall

/-- The sequences of allowed calls on a new adapter, each with its answer. -/
def referenceSys :
    Sys ReferencePublicationAdapter (ReferenceCall × Option PublicationOutcomeV0) where
  init s := s = {}
  step s e s' := e.1.Allowed s ∧ e.1.exec.on s = (.ok e.2, s')

/-- What a call leaves behind. -/
structure CallPost (call : ReferenceCall) (s : ReferencePublicationAdapter)
    (answer : Option PublicationOutcomeV0) (s' : ReferencePublicationAdapter) : Prop where
  ready : Ready s'
  kept : ∀ a, s.visible = some a → s'.visible = some a
  run : ∀ request, call = .runPublicationModel request →
    ∃ outcome, answer = some outcome ∧ RunPost request s outcome s'

theorem RunPost.ready {outcome : PublicationOutcomeV0} (hr : Ready s)
    (h : RunPost request s outcome s') : Ready s' := ⟨h.stages, h.faults.length hr.faults⟩

/-- Every allowed call returns. -/
theorem exec_ends {call : ReferenceCall} (hr : Ready s) (h : call.Allowed s) :
    Ends call.exec s (CallPost call s) := by
  cases call with
  | injectFault point =>
    have hon : (ReferenceCall.injectFault point).exec.on s =
        (.ok none, { s with faults := ⟨[point]⟩ }) := rfl
    refine .of_on hon ⟨?_, ?_, ?_⟩
    · exact ⟨hr.stages, Nat.le_refl 1⟩
    · exact fun _ ha => ha
    · rintro _ ⟨⟩
  | seedVisible artifact =>
    have hv : s.visible = none := h
    have hon : (ReferenceCall.seedVisible artifact).exec.on s =
        (.ok none, { s with visible := some artifact }) := by
      show (do ReferencePublicationAdapter.seedVisible artifact; pure none : Callback _ _).on s = _
      unfold ReferencePublicationAdapter.seedVisible
      rw [bind_assoc, on_get_bind, bind_assoc, on_assert_bind, if_pos hv]
      rfl
    refine .of_on hon ⟨⟨hr.stages, hr.faults⟩, fun a ha => ?_, ?_⟩
    · rw [hv] at ha; cases ha
    · rintro _ ⟨⟩
  | runPublicationModel request =>
    refine (runPublicationModel_ends hr h.1 h.2).bind fun outcome s' hp => ?_
    refine .pure ⟨hp.ready hr, hp.kept, ?_⟩
    rintro _ ⟨⟩
    exact ⟨outcome, rfl, hp⟩

theorem step_post {e : ReferenceCall × Option PublicationOutcomeV0} (hr : Ready s)
    (h : referenceSys.step s e s') : CallPost e.1 s e.2 s' := (exec_ends hr h.1).post h.2

theorem ready_inductive : referenceSys.Inductive Ready where
  init := by rintro s rfl; exact ⟨rfl, Nat.zero_le 1⟩
  step hr h := (step_post hr h).ready

/-- In every sequence of allowed calls: each returns, a visible artifact stays, and a run says
what is visible, owns no stage afterwards, and is repaired by the next run of its request. -/
theorem truthful_outcomes (h : referenceSys.Reach s) :
    (∀ call : ReferenceCall, call.Allowed s →
      ∃ answer s', call.exec.on s = (.ok answer, s')) ∧
    (∀ es s' a, referenceSys.Run s es s' → s.visible = some a → s'.visible = some a) ∧
    ∀ request outcome s',
      referenceSys.step s (.runPublicationModel request, some outcome) s' →
      s'.stages.size = 0 ∧
      (outcome.kind = .published ∨ outcome.kind = .publishedDurabilityUnknown ↔
        Shows s' request) ∧
      (outcome.kind = .notPublished ↔ ¬Shows s' request) ∧
      (outcome.kind = .notPublished → s'.visible = s.visible) ∧
      (¬Conflicts s request → outcome.kind ≠ .published → Room s' →
        ∃ outcome' s'', (runPublicationModel referencePublication request).on s' =
          (.ok outcome', s'') ∧ outcome'.kind = .published) := by
  have hr : Ready s := ready_inductive.reach h
  refine ⟨fun call hc => ?_, fun es s' a hrun ha => ?_, fun request outcome s' hstep => ?_⟩
  · obtain ⟨answer, s', hon, -⟩ := exec_ends hr hc
    exact ⟨answer, s', hon⟩
  · exact (hrun.keeps (J := fun s => s.visible = some a) ready_inductive
      (fun hr ha hs => (step_post hr hs).kept a ha) hr ha).2
  · obtain ⟨_, ⟨⟩, hp⟩ := (step_post hr hstep).run request rfl
    have hshown : outcome.kind ≠ .notPublished ↔ Shows s' request :=
      ⟨hp.shown, fun hs hk => (hp.notShown hk).2 hs⟩
    refine ⟨by rw [hp.stages]; rfl, ?_, ?_, fun hk => (hp.notShown hk).1, ?_⟩
    · rw [← hshown]
      cases outcome.kind <;> simp
    · rw [← hshown, not_not]
    · intro hconf hk room
      have hfired : Fired s s' := (hp.faulted hk).resolve_left hconf
      obtain ⟨outcome', s'', hon, hp'⟩ := runPublicationModel_ends (hp.ready hr) hstep.1.1 room
      refine ⟨outcome', s'', hon, ?_⟩
      by_contra hk'
      rcases hp'.faulted hk' with hconf' | hfired'
      · exact hp.not_conflicts hconf hconf'
      · exact hfired'.1 hfired.2

theorem testRequest_valid : testRequest.Valid := ⟨by decide, by decide⟩

/-- A fault that the first run passed by, so that the next one meets it. -/
def passedBy : ReferencePublicationAdapter :=
  ((ReferenceCall.runPublicationModel testRequest).exec.on
    { faults := ⟨[.beforeVisibleFileSync]⟩ }).2

theorem passedBy_reach : referenceSys.Reach passedBy := by
  have hi : referenceSys.step {} (.injectFault .beforeVisibleFileSync, none)
      { faults := ⟨[.beforeVisibleFileSync]⟩ } := ⟨trivial, rfl⟩
  obtain ⟨answer, s', hon⟩ := on_eq_ok_of_toBool
    (m := (ReferenceCall.runPublicationModel testRequest).exec)
    (s := { faults := ⟨[.beforeVisibleFileSync]⟩ }) (by decide)
  have hr : referenceSys.step { faults := ⟨[.beforeVisibleFileSync]⟩ }
      (.runPublicationModel testRequest, answer) passedBy := by
    refine ⟨⟨testRequest_valid, fun _ => by decide⟩, ?_⟩
    unfold passedBy
    rw [hon]
  exact ((Sys.Reach.init rfl).next hi).next hr

theorem truthful_outcomes_passedBy :
    ∃ outcome s', referenceSys.step passedBy (.runPublicationModel testRequest, some outcome) s' ∧
      outcome.kind = .publishedDurabilityUnknown ∧
      ∃ outcome' s'', (runPublicationModel referencePublication testRequest).on s' =
        (.ok outcome', s'') ∧ outcome'.kind = .published := by
  obtain ⟨hcall, hkeep, hrun⟩ := truthful_outcomes passedBy_reach
  have hvis : passedBy.visible = some testRequest.artifact := by decide
  have hallowed : (ReferenceCall.runPublicationModel testRequest).Allowed passedBy :=
    ⟨testRequest_valid, fun h => by rw [hvis] at h; cases h⟩
  obtain ⟨answer, s', hon⟩ := hcall _ hallowed
  have hkind : ((ReferenceCall.runPublicationModel testRequest).exec.on passedBy).1.map
      (Option.map (·.kind)) = .ok (some .publishedDurabilityUnknown) := by decide
  rw [hon] at hkind
  obtain ⟨outcome, rfl, ho⟩ := Option.map_eq_some_iff.mp (Except.ok.inj hkind)
  have hstep : referenceSys.step passedBy (.runPublicationModel testRequest, some outcome) s' :=
    ⟨hallowed, hon⟩
  have hvis' := hkeep _ s' _ (.one hstep) hvis
  refine ⟨outcome, s', hstep, ho, (hrun _ _ _ hstep).2.2.2.2 ?_ (by rw [ho]; decide) ?_⟩
  · rintro ⟨a, ha, hc⟩
    rw [hvis] at ha
    obtain rfl := Option.some.inj ha
    revert hc
    decide
  · intro hn
    rw [hvis'] at hn
    cases hn

end Testkit
end Platform
