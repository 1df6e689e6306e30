import PlatformContracts.Testkit.BridgeStable

/-!
# The reference supervisor passes the bridge suites

Each part of a suite from what is known at its start, with the rules of the requests.

* `Quiescing`, `Admitting`: the two threads of the admission race, at each point of theirs;
  `Finishing`, `Publishing`: those of the progress race. A thread goes on whatever the other did.
* `progress_parts_end`: the parts of the progress suite, with any capacity and any values.
* `bridge_suites_pass`: all four suites, under every order of the steps.
-/

namespace Platform
namespace Testkit
namespace Supervisor
namespace BridgeSuite

open Std Client Client.View

variable {v : Known} {capacity : Usize} {id : String}

/-! ## Admission, quiescence and shutdown -/

theorem gives_assertCancelledRelease {r : OperationSnapshot} {k : UInt64}
    (h : Releases r k .cancelled) : bridgeView.Gives v (assertCancelledRelease r) () v := by
  unfold assertCancelledRelease
  refine Meets.assert h.phase (.assert (h.terminal.trans h.final.symm) ?_)
  rw [h.terminal, expect_some, ret_bind]
  exact Gives.assert rfl

theorem meets_releaseAndJoin (texts : ReleaseTexts) :
    bridgeView.Meets (.solo capacity id .ready (some ⟨.started, .gone⟩) .closed)
      (releaseAndJoin 1 0 texts) (Returns fun _ v' => ∃ task, v' =
        .solo capacity id (.exited (.finish .cancelled)) task .closed) := by
  unfold releaseAndJoin
  refine solo_release fun r hr => ?_
  refine Gives.then (gives_assertCancelledRelease hr) ?_
  refine Gives.then (gives_activeCount fun w hw => Sees.active_none hw ?_) (.assert rfl ?_)
  · intro k known hv
    rw [(solo_sole.eq hv).2]
    exact ⟨_, .inl rfl⟩
  refine Gives.then (gives_retainedTaskCount solo_sole rfl (solo_busy (by nofun))) (.assert rfl ?_)
  refine Gives.then (gives_assertPending solo_task (solo_busy (by nofun)) _) ?_
  refine solo_exit (solo_wait fun outcome hc hn => ?_)
  refine Gives.then (gives_assertShutdownOutcome hc hn) ?_
  refine Gives.then (gives_shutdown solo_task) ?_
  exact (Gives.assert rfl).meets ⟨_, rfl⟩

/-! ### The race -/

/-- The quiesce racer, and what is known of admission. -/
inductive Quiescing : Bridge Unit → Admission → Prop
  | before : Quiescing quiesce .running
  | after : Quiescing (.ret ()) .closed

/-- The admission racer, and what is known. -/
inductive Admitting (admission : Admission) : Bridge (Option UInt64) → Known → Prop
  | start : Admitting admission admitRacer { Known.new 4 with admission := admission }
  | spawning : Admitting admission
      (do ask (.spawn 1); ask (.insertTask 1); pure (some 1))
      (.solo 4 "racing-admission" .spawning none admission)
  | inserting : Admitting admission (do ask (.insertTask 1); pure (some 1))
      (.solo 4 "racing-admission" .inserting none admission)
  | admitted : Admitting admission (.ret (some 1))
      (.solo 4 "racing-admission" .ready none admission)
  | refused : admission = .closed →
      Admitting admission (.ret none) { Known.new 4 with admission := admission }

theorem Admitting.goes {admission : Admission} {left : Bridge (Option UInt64)} {right : Bridge Unit}
    (hq : Quiescing right admission) (ha : Admitting admission left v) :
    bridgeView.Goes v left (Admitting admission) := by
  cases ha with
  | start =>
    cases hq with
    | before =>
      refine .inr ⟨_, _, _, rfl, answers_reserve rfl nofun (by decide), ?_⟩
      rintro reply v' ⟨rfl, hv⟩
      obtain rfl := hv.trans (admitted_solo rfl)
      exact .spawning
    | after =>
      refine .inr ⟨_, _, _, rfl, answers_refused rfl, ?_⟩
      rintro reply v' ⟨rfl, rfl⟩
      exact .refused rfl
  | spawning =>
    refine .inr ⟨_, _, _, rfl, answers_spawn solo_op, ?_⟩
    rintro reply v' ⟨-, hv⟩
    obtain rfl := hv.trans solo_setOp
    exact .inserting
  | inserting =>
    refine .inr ⟨_, _, _, rfl, answers_insertTask solo_op, ?_⟩
    rintro reply v' ⟨-, hv⟩
    obtain rfl := hv.trans solo_setOp
    exact .admitted
  | admitted => exact .inl ⟨_, rfl⟩
  | refused => exact .inl ⟨_, rfl⟩

theorem Admitting.close {left : Bridge (Option UInt64)} (h : Admitting .running left v) :
    Admitting .closed left v.close := by
  cases h with
  | start => exact .start
  | spawning => exact .spawning
  | inserting => exact .inserting
  | admitted => exact .admitted
  | refused hc => cases hc

theorem meets_admitRace :
    bridgeView.Meets (.new 4) (spawnJoin admitRacer quiesce "admission racer" "quiesce racer")
      (Returns fun result v' =>
        result.1 = some 1 ∧ v' = .solo 4 "racing-admission" .ready none .closed ∨
        result.1 = none ∧ v' = (Known.new 4).close) := by
  refine Meets.both (J := fun left right v => ∃ admission, Quiescing right admission ∧
    Admitting admission left v) ⟨.running, .before, .start⟩ ?_ ?_ ?_
  · rintro left right v ⟨admission, hq, ha⟩
    rcases ha.goes hq with hended | ⟨request, next, Q, he, hanswers, hnext⟩
    · exact .inl hended
    · exact .inr ⟨request, next, Q, he, hanswers, fun reply v' hv =>
        ⟨admission, hq, hnext reply v' hv⟩⟩
  · rintro left right v ⟨admission, hq, ha⟩
    cases hq with
    | before =>
      refine .inr ⟨_, _, _, rfl, answers_quiesce, ?_⟩
      rintro reply v' ⟨rfl, rfl⟩
      exact ⟨.closed, .after, ha.close⟩
    | after => exact .inl ⟨_, rfl⟩
  · rintro left right v x y ⟨admission, hq, ha⟩ hx hy
    cases hq with
    | before => cases hy
    | after =>
      obtain rfl := Option.some.inj hy
      cases ha with
      | admitted =>
        obtain rfl := Option.some.inj hx
        exact .ret (.inl ⟨rfl, rfl⟩)
      | refused =>
        obtain rfl := Option.some.inj hx
        exact .ret (.inr ⟨rfl, rfl⟩)
      | _ => cases hx

theorem meets_racingShutdown :
    bridgeView.Meets (.solo 4 "racing-admission" .ready none .closed) (racingShutdown 1)
      (Returns fun _ v' => v'.admission = .closed) := by
  unfold racingShutdown
  refine Gives.then (gives_cancellationRequested solo_op rfl) (.assert rfl ?_)
  refine solo_begin (Gives.then (gives_assertPending solo_task (solo_busy (by nofun)) _) ?_)
  refine Meets.then (meets_releaseAndJoin _) fun u v' h => ?_
  obtain ⟨task, rfl⟩ := h
  exact (Gives.request (answers_dropHandle solo_op rfl rfl)).meets rfl

theorem meets_admitQuiesceRace :
    bridgeView.Meets v admitQuiesceRace fun x _ => x = .ok () := by
  unfold admitQuiesceRace
  refine Gives.then (.request (answers_deterministic 4)) ?_
  refine Meets.then meets_admitRace fun result v' h => ?_
  obtain ⟨admitted, u⟩ := result
  rcases h with ⟨rfl, rfl⟩ | ⟨rfl, rfl⟩
  · refine Gives.then (gives_phase rfl fun w hw => hw.unclosed fun t => ?_) (.assert rfl ?_)
    · simp [Known.solo]
    refine Gives.then (gives_activeCount fun w hw => hw.active_one solo_sole rfl) (.assert rfl ?_)
    refine Meets.then meets_racingShutdown fun u v' hc => ?_
    exact Meets.done (gives_refused hc)
  · have hnone : ∀ k known, (Known.new 4).close.ops k = some known → known.stage.Ended := by
      intro k known hk
      cases hk
    refine Gives.then (gives_phase rfl fun w hw => hw.unclosed fun t => rfl) (.assert rfl ?_)
    refine Gives.then (gives_activeCount fun w hw => hw.active_none hnone) (.assert rfl ?_)
    exact Meets.done (gives_refused rfl)

theorem meets_activeShutdown : bridgeView.Meets v activeShutdown fun x _ => x = .ok () := by
  unfold activeShutdown
  refine Gives.then (.request (answers_deterministic 4)) (Gives.expectOk solo_reserve ?_)
  have hbusy : ∀ task admission, (Known.solo 4 "active-shutdown" .ready task admission).Busy :=
    fun _ _ => solo_busy nofun
  refine solo_begin ?_
  refine Gives.then (gives_phase rfl fun w hw => hw.not_closed (hbusy _ _)) (.assert rfl ?_)
  refine Gives.then (gives_activeCount fun w hw => hw.active_one solo_sole rfl) (.assert rfl ?_)
  refine Gives.then (gives_assertPending solo_task (hbusy _ _) _) ?_
  refine Gives.then (gives_cancellationRequested solo_op rfl) (.assert rfl ?_)
  refine Gives.then (gives_refused rfl) ?_
  exact (meets_releaseAndJoin _).done

/-! ## Progress and shutdown -/

theorem gives_publishAll {k : UInt64} (hv : v.ops k = some (.at id .ready))
    {sequences : List UInt64} (hc : sequences ≠ [] → 0 < v.capacity.toNat) :
    bridgeView.Gives v (publishAll k sequences) () v := by
  induction sequences with
  | nil => exact .ret
  | cons sequence sequences ih =>
    have hroom := hc (List.cons_ne_nil _ _)
    have hpublish : bridgeView.Gives v (publishProgress k sequence) (.ok ()) v := by
      refine Meets.then (.request (answers_publishProgress hv rfl rfl sequence)) ?_
      rintro reply v' ⟨rfl, ⟨-, rfl⟩ | ⟨hn, -⟩ | ⟨hzero, -⟩⟩
      · exact .ret ⟨rfl, rfl⟩
      · exact absurd rfl hn
      · omega
    exact Gives.expectOk hpublish (ih fun _ => hroom)

/-- The text of a publication's panic. -/
def fullPanic : String := "removal index (is 0) should be < len (is 0)"

theorem publishAll_panics {k : UInt64} (hv : v.ops k = some (.at id .ready))
    (hc : v.capacity.toNat = 0) {sequences : List UInt64} (hn : sequences ≠ []) :
    bridgeView.Meets v (publishAll k sequences) fun x _ => x = .error fullPanic := by
  cases sequences with
  | nil => exact absurd rfl hn
  | cons sequence sequences =>
    have hpublish : bridgeView.Meets v (publishProgress k sequence)
        fun x _ => x = .error fullPanic := by
      refine Meets.then (.request (answers_publishProgress hv rfl rfl sequence)) ?_
      rintro reply v' ⟨rfl, ⟨hroom, -⟩ | ⟨hn, -⟩ | ⟨-, rfl⟩⟩
      · omega
      · exact absurd rfl hn
      · exact .panic rfl
    exact hpublish.fails

theorem meets_exitAndJoin {command : ReferenceWorkerCommand} {admission : Admission}
    (exit joined : String) :
    bridgeView.Meets (.solo capacity id (.released command) (some ⟨.started, .gone⟩) admission)
      (exitAndJoin 1 0 exit joined) fun x _ => x = .ok () := by
  refine solo_exit (solo_wait fun outcome hc hn => ?_)
  exact Meets.done (gives_assertShutdownOutcome hc hn)

/-- How the first part ends. -/
def saturatedResult (capacity : Usize) (sequences : List UInt64) : Except String Unit :=
  if capacity.toNat = 0 ∧ sequences ≠ [] then .error fullPanic else .ok ()

theorem meets_saturatedProgress (capacity : Usize) (sequences : List UInt64) :
    bridgeView.Meets v (saturatedProgress capacity sequences) fun x _ =>
      x = saturatedResult capacity sequences := by
  unfold saturatedProgress saturatedResult
  refine Gives.then (.request (answers_deterministic capacity)) (Gives.expectOk solo_reserve ?_)
  by_cases hpanic : capacity.toNat = 0 ∧ sequences ≠ []
  · rw [if_pos hpanic]
    exact (publishAll_panics solo_op hpanic.1 hpanic.2).fails
  rw [if_neg hpanic]
  refine Gives.then (gives_publishAll solo_op fun hn => ?_) ?_
  · exact Nat.pos_of_ne_zero fun hzero => hpanic ⟨hzero, hn⟩
  refine Meets.then (.request (answers_snapshot solo_op rfl)) fun reply v' h => ?_
  obtain ⟨rfl, r, rfl, hlength⟩ := h
  rw [expect_some, ret_bind]
  refine Gives.then gives_progressCapacity (.assert hlength (solo_begin ?_))
  refine Gives.then (gives_assertPending solo_task (solo_busy (by nofun)) _) ?_
  refine solo_release fun r hr => ?_
  refine .assert hr.phase (.assert (hr.terminal.trans hr.final.symm) ?_)
  rw [hr.terminal, expect_some, ret_bind]
  refine .assert rfl ?_
  refine Gives.then (gives_assertPending solo_task (solo_busy (by nofun)) _) ?_
  exact meets_exitAndJoin _ _

/-! ### The race -/

/-- The terminal racer, and the stage of the operation. -/
inductive Finishing : Bridge Bool → Stage → Prop
  | before : Finishing (terminalRacer 1) .ready
  | after : Finishing (.ret true) (.told (.finish .completed))

theorem Finishing.returned {right : Bridge Bool} {stage : Stage} (h : Finishing right stage) :
    stage.call = .returned ∧ stage.handle.held = true := by
  cases h with
  | before => exact ⟨rfl, rfl⟩
  | after => exact ⟨rfl, rfl⟩

/-- The progress racer, which panics at most when the capacity is 0. -/
inductive Publishing (capacity : Usize) (sequences : List UInt64) : Bridge Unit → Prop
  | going (rest : List UInt64) : rest.length ≤ sequences.length →
      Publishing capacity sequences (publishUntilRefused 1 rest)
  | panicked (message : String) : capacity.toNat = 0 → sequences ≠ [] →
      Publishing capacity sequences (.panic message)

theorem Publishing.goes {sequences : List UInt64} {left : Bridge Unit} {stage : Stage}
    {task : Option KnownTask} {admission : Admission} (h : Publishing capacity sequences left)
    (hs : stage.call = .returned) (hh : stage.handle.held = true) :
    bridgeView.Goes (.solo capacity id stage task admission) left fun left' v' =>
      Publishing capacity sequences left' ∧ v' = .solo capacity id stage task admission := by
  cases h with
  | panicked => exact .inl ⟨_, rfl⟩
  | going rest hrest =>
    cases rest with
    | nil => exact .inl ⟨_, rfl⟩
    | cons sequence rest =>
      rw [List.length_cons] at hrest
      refine .inr ⟨_, _, _, rfl, answers_publishProgress solo_op hs hh sequence, ?_⟩
      rintro reply v' ⟨rfl, ⟨-, rfl⟩ | ⟨-, e, rfl⟩ | ⟨hzero, rfl⟩⟩
      · exact ⟨.going rest (by omega), rfl⟩
      · exact ⟨.going [] (Nat.zero_le _), rfl⟩
      · refine ⟨.panicked _ hzero fun hnil => ?_, rfl⟩
        rw [hnil] at hrest
        exact Nat.not_succ_le_zero _ hrest

theorem meets_terminalRace {task : Option KnownTask} {admission : Admission}
    (sequences : List UInt64) :
    bridgeView.Meets (.solo capacity id .ready task admission)
      (spawnJoin (publishUntilRefused 1 sequences) (terminalRacer 1) "progress producer"
        "terminal producer")
      fun x v' => x = .ok ((), true) ∧
          v' = .solo capacity id (.told (.finish .completed)) task admission ∨
        capacity.toNat = 0 ∧ sequences ≠ [] ∧ x = .error "progress producer" := by
  refine Meets.both (J := fun left right v => Publishing capacity sequences left ∧
    ∃ stage, Finishing right stage ∧ v = .solo capacity id stage task admission)
    ⟨.going sequences le_rfl, .ready, .before, rfl⟩ ?_ ?_ ?_
  · rintro left right v ⟨hpublish, stage, hf, rfl⟩
    obtain ⟨hs, hh⟩ := hf.returned
    rcases hpublish.goes hs hh with hended | ⟨request, next, Q, he, ha, hk⟩
    · exact .inl hended
    · refine .inr ⟨request, next, Q, he, ha, fun reply v' hq => ?_⟩
      obtain ⟨hpublish, rfl⟩ := hk reply v' hq
      exact ⟨hpublish, stage, hf, rfl⟩
  · rintro left right v ⟨hpublish, stage, hf, rfl⟩
    cases hf with
    | before =>
      refine .inr ⟨_, _, _, rfl, answers_send solo_op rfl rfl _, ?_⟩
      rintro reply v' ⟨rfl, hv⟩
      exact ⟨hpublish, _, .after, hv.trans solo_setOp⟩
    | after => exact .inl ⟨_, rfl⟩
  · rintro left right v x y ⟨hpublish, stage, hf, rfl⟩ hx hy
    cases hf with
    | before => cases hy
    | after =>
      obtain rfl := Option.some.inj hy
      cases hpublish with
      | panicked message hzero hn =>
        obtain rfl := Option.some.inj hx
        exact .panic (.inr ⟨hzero, hn, rfl⟩)
      | going rest =>
        cases rest with
        | nil =>
          obtain rfl := Option.some.inj hx
          exact .ret (.inl ⟨rfl, rfl⟩)
        | cons => cases hx

theorem meets_progressTerminalRace (capacity : Usize) (sequences : List UInt64) :
    bridgeView.Meets v (progressTerminalRace capacity sequences) fun x _ =>
      x = .ok () ∨ capacity.toNat = 0 ∧ sequences ≠ [] ∧ x = .error "progress producer" := by
  unfold progressTerminalRace
  refine Gives.then (.request (answers_deterministic capacity)) (Gives.expectOk solo_reserve ?_)
  refine solo_begin (Meets.bind (meets_terminalRace sequences) ?_ ?_)
  · rintro ⟨u, terminal⟩ v' (⟨he, rfl⟩ | ⟨-, -, he⟩)
    · obtain ⟨-, rfl⟩ := Prod.mk.inj (Except.ok.inj he)
      refine .assert rfl ?_
      refine Meets.expectOk (meets_waitReleased solo_op) fun r v' h => ?_
      obtain ⟨hr, rfl⟩ := h
      rw [solo_setOp]
      refine .assert hr.phase (.assert (hr.terminal.trans hr.final.symm) ?_)
      exact (meets_exitAndJoin _ _).mono fun x v' h => .inl h
    · cases he
  · rintro message v' (⟨he, -⟩ | ⟨hzero, hn, he⟩)
    · cases he
    · obtain rfl := Except.error.inj he
      exact .inr ⟨hzero, hn, rfl⟩

/-- Both parts of the suite come to an end with any capacity and any values, whatever the order of
the steps: unread progress blocks neither the terminal nor the shutdown. A capacity of 0 is the one
that fails: the first part panics on its first value, and the second may. -/
theorem progress_parts_end (capacity : Usize) (sequences : List UInt64) (before : Usize) :
    Completes bridgeHost (fun x _ => x = saturatedResult capacity sequences)
      (saturatedProgress capacity sequences) (startWorld before) ∧
    Completes bridgeHost (fun x _ => x = .ok () ∨
        capacity.toNat = 0 ∧ sequences ≠ [] ∧ x = .error "progress producer")
      (progressTerminalRace capacity sequences) (startWorld before) :=
  ⟨(meets_saturatedProgress capacity sequences).completes (Sees.start before),
    (meets_progressTerminalRace capacity sequences).completes (Sees.start before)⟩

/-! ## Panic and shutdown -/

theorem meets_panicShutdown : bridgeView.Meets v panicShutdown fun x _ => x = .ok () := by
  have hrun : bridgeView.Gives (.new 4) (runControlledPanickingOperation "panic") (.ok 1)
      (.solo 4 "panic" (.told .panic) none .running) := by
    refine Gives.andThen solo_reserve (Gives.andThen (gives_send solo_op .panic) ?_)
    rw [solo_setOp]
    exact .ret ⟨rfl, rfl⟩
  have hfailed : bridgeView.Meets (.solo 4 "panic" (.told .panic) none .running)
      (waitFailedRelease 1) (Returns fun x v' => ∃ r, x = .ok r ∧ Releases r 1 .failed ∧
        v' = .solo 4 "panic" (.exited .panic) none .running) := by
    refine Meets.andThen (meets_waitReleased solo_op) fun r v' h => ?_
    obtain ⟨hr, rfl⟩ := h
    rw [solo_setOp]
    refine Gives.andThen (gives_allowWorkerExit solo_op) ?_
    rw [solo_setOp]
    exact .ret ⟨r, rfl, hr, rfl⟩
  unfold panicShutdown
  refine Gives.then (.request (answers_deterministic 4)) (Gives.expectOk hrun ?_)
  refine Meets.expectOk hfailed fun r v' h => ?_
  obtain ⟨hr, rfl⟩ := h
  refine .assert hr.phase (.assert (hr.terminal.trans hr.final.symm) ?_)
  rw [hr.terminal, expect_some, ret_bind]
  refine .assert rfl (solo_begin (solo_wait fun outcome hc hn => ?_))
  exact Meets.done (gives_assertShutdownOutcome hc hn)

/-! ## The suites -/

/-- The suite ends as `CoverageEvidence::passed` does, whatever the order of the steps. -/
def Passes (suite : String → Bridge (CoverageEvidence referenceLifecycle)) (name : String)
    (invariants : List LifecycleInvariant) : Prop :=
  ∀ component capacity, Completes bridgeHost
    (fun x _ => (passed component name invariants).result? = some x) (suite component)
    (startWorld capacity)

theorem meets_passed {component name : String} {invariants : List LifecycleInvariant} :
    bridgeView.Meets v (passed component name invariants) fun x _ =>
      (passed component name invariants).result? = some x := by
  unfold passed
  cases CoverageEvidence.passed component name invariants with
  | ok evidence => exact .ret rfl
  | error stop =>
    cases stop with
    | panic message => exact .panic rfl
    | err e => cases e

theorem Passes.of_meets {suite : String → Bridge (CoverageEvidence referenceLifecycle)}
    {name : String} {invariants : List LifecycleInvariant}
    (h : ∀ component v, bridgeView.Meets v (suite component) fun x _ =>
      (passed component name invariants).result? = some x) : Passes suite name invariants :=
  fun component capacity => (h component (.new capacity)).completes (Sees.start capacity)

/-- **The reference supervisor passes the bridge suites.** Whatever the order of the steps of a
suite's threads, of the workers and of the shutdown tasks, the suite is never stuck, comes to an
end, and no assertion of it fails. -/
theorem bridge_suites_pass :
    Passes runAdmissionQuiesceShutdownBridgeSuite "admission-quiesce-shutdown-bridge"
      [.admitQuiesceRace, .quiesceWaitsForReleaseAndJoin] ∧
    Passes runProgressShutdownBridgeSuite "progress-shutdown-bridge"
      [.unreadProgressCannotBlockFinalOrShutdown, .progressTerminalRace] ∧
    Passes runPanicShutdownBridgeSuite "panic-shutdown-bridge" [.panicTerminalAndShutdown] ∧
    Passes runStableShutdownSuite "stable-shutdown" [.repeatedShutdown, .shutdownEmpty] := by
  refine ⟨.of_meets fun component v => ?_, .of_meets fun component v => ?_,
    .of_meets fun component v => ?_, .of_meets fun component v => ?_⟩
  · exact Meets.next meets_admitQuiesceRace fun _ => Meets.next meets_activeShutdown fun _ =>
      meets_passed
  · refine Meets.next (meets_saturatedProgress 3 (sequences 32)) fun _ => ?_
    refine Meets.next (a := ()) ((meets_progressTerminalRace 2 _).mono fun x v' h => ?_)
      fun _ => meets_passed
    rcases h with h | ⟨hzero, -⟩
    · exact h
    · cases hzero
  · exact Meets.next meets_panicShutdown fun _ => meets_passed
  · exact Meets.next (meets_stableShutdown 10 (by decide)) fun _ => meets_passed

end BridgeSuite
end Supervisor
end Testkit
end Platform
