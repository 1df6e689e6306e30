import PlatformContracts.Testkit.Barrier

/-!
# Nobody passes the barrier early

* `Opened`: the flag is set only by a release after all the arrivals, and before that nobody has
  returned. `opened_run`: so it is in every run.
* `none_early`: a call of `arrive_and_wait` returns after such a release only, no more calls
  return than were declared, and a release that is too early panics and changes nothing.
-/

namespace Platform
namespace Testkit
namespace Barrier

/-- A release that succeeded. -/
def Event.releases : Event → Bool
  | .release _ (.ok ()) => true
  | _ => false

/-- A release succeeded when as many arrivals were registered as are expected. -/
def ReleasedAfterAll (expected : Usize) (es : List (Event × World)) : Prop :=
  ∃ before p after, es = before ++ p :: after ∧ p.1.releases = true ∧
    registered before = expected.toNat

/-- How the flag and the history go together. -/
structure Opened (expected : Usize) (es : List (Event × World)) (w : World) : Prop where
  opened : w.state.released = true → ReleasedAfterAll expected es
  closed : w.state.released = false → returned es = 0

variable {expected : Usize} {w₀ w w' : World} {e : Event} {es : List (Event × World)}

theorem ReleasedAfterAll.snoc (h : ReleasedAfterAll expected es) (p : Event × World) :
    ReleasedAfterAll expected (es ++ [p]) := by
  obtain ⟨before, q, after, rfl, hq, hn⟩ := h
  exact ⟨before, q, after ++ [p], by simp, hq, hn⟩

/-- The arrivals before the release are arrivals of the run. -/
theorem ReleasedAfterAll.registered_le (h : ReleasedAfterAll expected es) :
    expected.toNat ≤ registered es := by
  obtain ⟨before, q, after, rfl, -, hn⟩ := h
  rw [← hn, registered, registered, List.countP_append]
  exact Nat.le_add_right _ _

/-- A call returns when it finds the flag set. -/
theorem released_of_returns (hs : (barrierSys expected).step w e w') (h : e.returns = true) :
    w.state.released = true := by
  cases effect hs with
  | arrived | wakeArrival => exact h
  | _ => cases h

theorem Opened.kept (h : Opened expected es w) (hs : (barrierSys expected).step w e w')
    (hsame : w'.state.released = w.state.released) : Opened expected (es ++ [(e, w')]) w' where
  opened hr := (h.opened (hsame.symm.trans hr)).snoc _
  closed hr := by
    have hshut : w.state.released = false := hsame.symm.trans hr
    have hret : e.returns = false := Bool.eq_false_iff.mpr fun ht => by
      rw [released_of_returns hs ht] at hshut
      cases hshut
    rw [returned_snoc, h.closed hshut, hret]
    rfl

theorem Opened.step (h : Opened expected es w) (hc : Counts expected es w)
    (hs : (barrierSys expected).step w e w') : Opened expected (es ++ [(e, w')]) w' := by
  cases effect hs with
  | released hfull =>
    refine ⟨fun _ => ⟨es, _, [], rfl, rfl, ?_⟩, nofun⟩
    rw [hc.counter, hfull, Nat.min_self]
  | _ => exact h.kept hs rfl

theorem opened_run (h₀ : (barrierSys expected).init w₀) (h : (barrierSys expected).Run w₀ es w) :
    Opened expected es w := by
  induction h with
  | nil =>
    refine ⟨fun hr => ?_, fun _ => rfl⟩
    rw [init_state h₀] at hr
    cases hr
  | snoc h hs ih => exact ih.step (counts_run h₀ h) hs

/-- Before all the arrivals a release panics, and the flag is not set. -/
theorem release_early (h₀ : (barrierSys expected).init w₀)
    (h : (barrierSys expected).Run w₀ es w) (hearly : registered es < expected.toNat)
    {thread : Nat} {reply : Except (Stop Empty) Unit}
    (hs : (barrierSys expected).step w (.release thread reply) w') :
    reply = .error (.panic "release before all arrivals") ∧ w' = w ∧
      w.state.released = false ∧ returned es = 0 := by
  have hopened := opened_run h₀ h
  have hshut : w.state.released = false := Bool.eq_false_iff.mpr fun hr =>
    absurd (hopened.opened hr).registered_le (Nat.not_le.mpr hearly)
  have hfull : w.state.arrived ≠ expected := fun he => by
    rw [(counts_run h₀ h).counter, he, Nat.min_self] at hearly
    exact Nat.lt_irrefl _ hearly
  cases hs with
  | release _ hon =>
    rw [release_on, if_neg hfull] at hon
    obtain ⟨rfl, rfl⟩ := Prod.mk.inj hon
    exact ⟨rfl, rfl, hshut, hopened.closed hshut⟩

/-- In every run: a call of `arrive_and_wait` that returns does so after a release that came after
all the arrivals; at most as many calls return as were declared; and a release before the last
arrival panics, with the world as it was and nobody through. -/
theorem none_early (h₀ : (barrierSys expected).init w₀)
    (h : (barrierSys expected).Run w₀ es w) :
    (∀ before p after, es = before ++ p :: after → p.1.returns = true →
      ReleasedAfterAll expected before) ∧
    returned es ≤ expected.toNat ∧
    ∀ before thread reply w₂ after, es = before ++ (.release thread reply, w₂) :: after →
      registered before < expected.toNat →
        reply = .error (.panic "release before all arrivals") ∧
          (barrierSys expected).Run w₀ before w₂ ∧ w₂.state.released = false ∧
          returned before = 0 := by
  refine ⟨?_, ?_, ?_⟩
  · rintro before p after rfl hp
    obtain ⟨w₁, hbefore, hs, -⟩ := h.split_cons
    exact (opened_run h₀ hbefore).opened (released_of_returns hs hp)
  · have hcounts := counts_run h₀ h
    have hle : returned es ≤ registered es := by
      rw [← hcounts.balance]
      exact Nat.le_add_left _ _
    rw [hcounts.counter] at hle
    exact hle.trans (Nat.min_le_right _ _)
  · rintro before thread reply w₂ after rfl hearly
    obtain ⟨w₁, hbefore, hs, -⟩ := h.split_cons
    obtain ⟨hreply, rfl, hshut, hreturned⟩ := release_early h₀ hbefore hearly hs
    exact ⟨hreply, hbefore, hshut, hreturned⟩

/-- A coordinator that releases too early, two participants, and the release that lets both
through; one of them wakes up before it. -/
def passEvents : List Event :=
  [.arrive 0 (.ok false), .release 2 (.error (.panic "release before all arrivals")),
    .arrive 1 (.ok false), .wakeArrival 0 false, .await 2 true, .release 2 (.ok ()),
    .wakeArrival 1 true, .wakeArrival 0 true]

theorem none_early_pass : ∃ es w, (barrierSys 2).Run (World.start 3) es w ∧
    es.map (·.1) = passEvents ∧
    (∀ before p after, es = before ++ p :: after → p.1.returns = true →
      ReleasedAfterAll 2 before) ∧
    returned es ≤ 2 ∧
    ∀ before thread reply w₂ after, es = before ++ (.release thread reply, w₂) :: after →
      registered before < 2 →
        reply = .error (.panic "release before all arrivals") ∧
          (barrierSys 2).Run (World.start 3) before w₂ ∧ w₂.state.released = false ∧
          returned before = 0 := by
  have hexec : (passEvents.foldlM (World.exec 2) (World.start 3)).isSome = true := by
    decide +kernel
  obtain ⟨es, w, hr, he⟩ := Sys.Run.exec_isSome (S := barrierSys 2) World.exec_step hexec
  exact ⟨es, w, hr, he, none_early (init_start (by decide) 3) hr⟩

end Barrier
end Testkit
end Platform
