import PlatformContracts.Testkit.BridgeCalls

/-!
# What the methods of the bridge give

* `KnownOp.at`: an operation between two calls of a suite.
* `gives_…`, `meets_…`: what each method gives, from what is known.
* `Reports`: what a suite learns from the outcome of a shutdown.
* `Known.solo`: one operation and one shutdown, as most suites have them.
-/

namespace Platform
namespace Testkit
namespace Supervisor
namespace BridgeSuite

open Std Client Client.View

variable {w : World} {v : Known}

/-! ## Operations -/

/-- The handle between two calls. -/
def Stage.handle : Stage → OperationHandle
  | spawning | inserting | ready => .new
  | told _ => { OperationHandle.new with command := false }
  | released _ => { OperationHandle.new with command := false, released := .gone }
  | exited _ => { OperationHandle.new with command := false, released := .gone, allowExit := false }

def KnownOp.at (operationId : String) (stage : Stage) : KnownOp :=
  ⟨operationId, stage, stage.handle⟩

section Methods

variable {k : UInt64} {id : String} {command : ReferenceWorkerCommand}

@[simp] theorem setOp_setOp {known known' : KnownOp} :
    (v.setOp k known).setOp k known' = v.setOp k known' := by
  simp [Known.setOp]

theorem gives_send (hv : v.ops k = some (.at id .ready)) (command : ReferenceWorkerCommand) :
    bridgeView.Gives v (ask (.send k command)) (.ok ()) (v.setOp k (.at id (.told command))) :=
  .request (answers_send hv rfl rfl command)

theorem meets_waitReleased (hv : v.ops k = some (.at id (.told command))) :
    bridgeView.Meets v (waitReleased k) (Returns fun x v' => ∃ r, x = .ok r ∧
      Releases r k command.termClass ∧ v' = v.setOp k (.at id (.released command))) := by
  unfold waitReleased
  refine (Gives.request (answers_takeReleased hv rfl rfl)).andThen ?_
  refine (Gives.request (answers_receiveReleased (Function.update_self ..) rfl)).andThen ?_
  rw [setOp_setOp]
  refine (Meets.request (answers_readReleased (Function.update_self ..) rfl)).mono ?_
  intro x v' h
  refine h.mono fun a h => ?_
  obtain ⟨r, rfl, hr, rfl⟩ := h
  exact ⟨r, rfl, hr, setOp_setOp⟩

theorem gives_allowWorkerExit (hv : v.ops k = some (.at id (.released command))) :
    bridgeView.Gives v (allowWorkerExit k) (.ok ()) (v.setOp k (.at id (.exited command))) :=
  .request (answers_allowExit hv rfl rfl)

end Methods

/-! ## Looks at the state -/

section Queries

variable {k : UInt64} {id : String} {known : KnownOp} {t : Nat} {started : ReceiverEnd}

theorem gives_lock {α : Type} (f : ReferenceSupervisorState → α) {a : α}
    (h : ∀ w, Sees w v → f w.state = a) :
    bridgeView.Gives v (ask .lock >>= fun state => pure (f state)) a v := by
  refine Meets.then (Meets.request answers_lock) fun s v' h' => ?_
  obtain ⟨rfl, w, hw, rfl⟩ := h'
  exact .ret ⟨h w hw, rfl⟩

theorem gives_phase (hc : v.admission = .closed)
    (hn : ∀ w, Sees w v → w.state.lifecycle ≠ .closed) :
    bridgeView.Gives v phase .quiescing v := by
  refine gives_lock (·.lifecycle) fun w hw => ?_
  have hrunning := hw.closed hc
  have hclosed := hn w hw
  cases hl : w.state.lifecycle with
  | quiescing => rfl
  | running => exact absurd hl hrunning
  | closed => exact absurd hl hclosed

/-- The only operation. -/
structure Known.Sole (v : Known) (k : UInt64) (known : KnownOp) : Prop where
  op : v.ops k = some known
  noOther : ∀ {k'}, k' ≠ k → v.ops k' = none

theorem Known.Sole.eq (h : v.Sole k known) {k' : UInt64} {known' : KnownOp}
    (hv : v.ops k' = some known') : k' = k ∧ known' = known := by
  by_cases hk : k' = k
  · subst hk
    exact ⟨rfl, Option.some.inj (hv.symm.trans h.op)⟩
  · rw [h.noOther hk] at hv
    cases hv

/-- An operation in the registry is one of the suite's, and its worker has not released. -/
theorem Sees.active_iff (h : Sees w v) : (w.state.active[id]?).isSome ↔
    ∃ k known op, v.ops k = some known ∧ w.ops k = some op ∧ known.Shows w.state k op ∧
      op.worker.active = true ∧ known.operationId = id := by
  rw [Option.isSome_iff_exists]
  constructor
  · rintro ⟨k, hk⟩
    obtain ⟨t, ht, hactive, hid⟩ := h.sound.inv.index.active.mp hk
    obtain ⟨op, hop, rfl⟩ := Option.map_eq_some_iff.mp ht
    obtain ⟨known, hv, hshows⟩ := h.known_op hop
    exact ⟨k, known, op, hv, hop, hshows, hactive, hshows.operationId.symm.trans hid⟩
  · rintro ⟨k, known, op, hv, hop, hshows, hactive, rfl⟩
    exact ⟨k, h.sound.inv.index.active.mpr
      ⟨_, World.attempts_eq hop, hactive, hshows.operationId⟩⟩

/-- The worker has not got its command. -/
theorem KnownOp.Shows.active {s : ReferenceSupervisorState} {op : Operation}
    (h : known.Shows s k op) (hc : known.stage.command? = none) : op.worker.active = true := by
  have hworker := h.worker
  obtain ⟨id, stage, handle⟩ := known
  cases stage with
  | told | released | exited => cases hc
  | _ => rw [show op.worker = _ from hworker]; rfl

theorem Sees.active_one (h : Sees w v) (hs : v.Sole k known) (hc : known.stage.command? = none) :
    w.state.active.size = 1 := by
  refine size_eq_one (k := known.operationId) fun id => ?_
  rw [h.active_iff]
  constructor
  · rintro ⟨k', known', op, hv, -, -, -, rfl⟩
    rw [(hs.eq hv).2]
  · rintro rfl
    obtain ⟨op, hop, hshows⟩ := h.op hs.op
    exact ⟨k, known, op, hs.op, hop, hshows, hshows.active hc, rfl⟩

/-- The worker has released. -/
def Stage.Ended (stage : Stage) : Prop :=
  ∃ command, stage = .released command ∨ stage = .exited command

theorem Sees.active_none (h : Sees w v)
    (hall : ∀ k known, v.ops k = some known → known.stage.Ended) : w.state.active.size = 0 := by
  refine size_eq_zero_iff.mpr fun id => ?_
  rw [← Option.not_isSome_iff_eq_none, h.active_iff]
  rintro ⟨k, known, op, hv, -, hshows, hactive, -⟩
  have hworker := hshows.worker
  obtain ⟨command, hstage | hstage⟩ := hall k known hv
  all_goals
    rw [hstage] at hworker
    rw [show op.worker = _ from hworker] at hactive
    cases hactive

theorem gives_activeCount {n : Nat} (h : ∀ w, Sees w v → w.state.active.size = n) :
    bridgeView.Gives v activeCount n v := gives_lock (·.active.size) h

/-- The task of the only operation is retained until a shutdown has joined it. -/
theorem gives_retainedTaskCount (hs : v.Sole k known) (hc : known.stage.call = .returned)
    (hb : v.Busy) : bridgeView.Gives v retainedTaskCount 1 v := by
  refine gives_lock (·.tasks.size) fun w hw => ?_
  have hjoined := hw.sound.ordered.unjoined (hw.not_closed hb)
  refine size_eq_one (k := workerId k) fun id => ?_
  rw [hw.sound.inv.tasks.task, hjoined]
  constructor
  · rintro ⟨⟨k', t, hk, -, rfl⟩, -⟩
    obtain ⟨op, hop, -⟩ := Option.map_eq_some_iff.mp hk
    obtain ⟨known', hv, -⟩ := hw.known_op hop
    rw [(hs.eq hv).1]
  · rintro rfl
    obtain ⟨op, hop, hshows⟩ := hw.op hs.op
    refine ⟨⟨k, _, World.attempts_eq hop, ?_, rfl⟩, List.not_mem_nil⟩
    simp [Operation.attempt, hshows.call, hc]

/-- Once admission is closed, an operation that did not get its command was asked to cancel. -/
theorem gives_cancellationRequested (hv : v.ops k = some (.at id .ready))
    (hc : v.admission = .closed) :
    bridgeView.Gives v (cancellationRequested id) true v := by
  refine gives_lock (fun state => state.records[id]?.any (·.cancellationRequested)) fun w hw => ?_
  obtain ⟨r, hr, -⟩ := hw.record hv
  obtain ⟨op, hop, hshows⟩ := hw.op hv
  have hactive : (w.state.active[id]?).isSome :=
    hw.active_iff.mpr ⟨k, _, op, hv, hop, hshows, hshows.active rfl, rfl⟩
  rw [hr, Option.any_some]
  exact hw.sound.cancelled (hw.closed hc) id r hactive hr

theorem gives_progressCapacity : bridgeView.Gives v progressCapacity v.capacity v :=
  gives_lock (·.progressCapacity) fun _ hw => hw.capacity

end Queries

/-! ## Outcomes -/

section Outcomes

variable {t : Nat} {started : ReceiverEnd} {outcome : ShutdownOutcome}

/-- A shutdown is begun, and quiesces the supervisor. -/
theorem meets_begin {α : Type} {Q : Except String α → Known → Prop} {message : String}
    {f : Unit → Bridge α} (hv : v.tasks t = none) (ht : t < taskBound)
    (hover : ∀ t' known, v.tasks t' = some known → known.Over)
    (h : bridgeView.Meets (v.setTask t ⟨.started, .gone⟩).close (f ()) Q) :
    bridgeView.Meets v (beginShutdown t >>= fun _ => waitStarted t >>= fun started =>
      expectOk started message >>= f) Q := by
  have hbegin : bridgeView.Gives v (beginShutdown t) () (v.begin t) :=
    .request (answers_beginShutdown hv ht hover)
  have hstarted := gives_waitStarted (v := v.begin t) (t := t) (Function.update_self ..)
  have he : ((v.begin t).setTask t ⟨.started, .gone⟩).close =
      (v.setTask t ⟨.started, .gone⟩).close := by
    simp [Known.begin, Known.setTask, Known.close]
  rw [he] at hstarted
  exact hbegin.then (hstarted.expectOk h)

/-- The outcome of a shutdown, which every shutdown of the bridge has. -/
structure Reports (v : Known) (outcome : ShutdownOutcome) : Prop where
  canonical : outcome.Canonical
  expected : outcome.expectedWorkerIds = workerIds (v.nextSequence.toNat - 1)
  sorted : outcome.joinedWorkerIds.Pairwise (· < ·)
  same : ∀ {t outcome' started}, v.tasks t = some ⟨.returned outcome', started⟩ → outcome' = outcome

theorem Sees.reports (h : Sees w v) (hv : v.tasks t = some ⟨.returned outcome, started⟩) :
    Reports v outcome := by
  obtain ⟨hc, rfl⟩ := h.returned hv
  have hlength : w.state.expectedWorkerIds.length = v.nextSequence.toNat - 1 := by
    have := h.sound.inv.minted.length
    rw [h.next] at this
    omega
  refine ⟨h.sound.inv.canonical hc, ?_, h.sound.ordered.joined, fun hv' => (h.returned hv').2⟩
  rw [← hlength]
  exact h.sound.ordered.expected

/-- The shutdown joins the workers, which have exited. -/
theorem meets_wait {α : Type} {Q : Except String α → Known → Prop} {message : String}
    {f : ShutdownOutcome → Bridge α} (hv : v.tasks t = some ⟨.started, started⟩) (hq : v.Quiet)
    (h : ∀ outcome, Reports (v.setTask t ⟨.returned outcome, started⟩) outcome →
      bridgeView.Meets (v.setTask t ⟨.returned outcome, started⟩) (f outcome) Q) :
    bridgeView.Meets v (wait t >>= fun result => expectOk result message >>= f) Q := by
  refine Meets.expectOk (.request (answers_receiveResult hv hq)) fun outcome v' h' => ?_
  obtain rfl := h'
  exact .seen fun w hw => h outcome (Sees.reports hw (t := t) (Function.update_self ..))

theorem gives_shutdown (hv : v.tasks t = some ⟨.returned outcome, started⟩) :
    bridgeView.Gives v shutdown outcome.facts v :=
  gives_lock facts fun _ hw => by rw [(hw.returned hv).2]; rfl

theorem gives_assertShutdownOutcome (hc : outcome.Canonical)
    (hn : outcome.expectedWorkerIds ≠ []) :
    bridgeView.Gives v (assertShutdownOutcome outcome) () v := by
  have hcount : outcome.facts.joinedWorkers = outcome.facts.expectedWorkers := by
    rw [← UInt64.toNat_inj, hc.joined_count, hc.expected_count, hc.perm.length_eq]
  have hpos : 0 < outcome.facts.expectedWorkers := by
    rw [UInt64.lt_iff_toNat_lt, hc.expected_count]
    exact List.length_pos_iff.mpr hn
  have hfacts : bridgeView.Gives v (assertClosedAndEmpty outcome.facts) () v := by
    unfold assertClosedAndEmpty
    refine Meets.assert hc.closed (.assert hc.active (.assert hc.retained (.assert hpos ?_)))
    exact Gives.assert hcount
  refine hfacts.then (.assert hn ?_)
  rw [hc.validate]
  exact .ret ⟨rfl, rfl⟩

/-- An outcome without workers fails its check. -/
theorem assertShutdownOutcome_empty (hc : outcome.Canonical)
    (hn : outcome.expectedWorkerIds = []) :
    assertShutdownOutcome outcome = .panic "executed work must identify a worker" := by
  have hpos : ¬0 < outcome.facts.expectedWorkers := by
    rw [UInt64.lt_iff_toNat_lt, hc.expected_count, hn]
    exact Nat.lt_irrefl 0
  unfold assertShutdownOutcome assertClosedAndEmpty assertEq
  rw [assert_pos hc.closed, assert_pos hc.active, assert_pos hc.retained, assert_neg hpos]
  rfl

end Outcomes

/-! ## One operation -/

/-- One operation, which was admitted first, and the shutdown that was begun, if any. -/
def Known.solo (capacity : Usize) (operationId : String) (stage : Stage) (task : Option KnownTask)
    (admission : Admission) : Known where
  ops := Function.update (fun _ => none) 1 (some (.at operationId stage))
  tasks := Function.update (fun _ => none) 0 task
  nextSequence := 2
  admission := admission
  capacity := capacity

section Solo

variable {capacity : Usize} {id : String} {stage : Stage} {task : Option KnownTask}
  {admission : Admission} {command : ReferenceWorkerCommand} {α : Type}
  {Q : Except String α → Known → Prop}

theorem solo_op : (Known.solo capacity id stage task admission).ops 1 = some (.at id stage) := by
  simp [Known.solo]

theorem solo_task : (Known.solo capacity id stage task admission).tasks 0 = task := by
  simp [Known.solo]

theorem solo_sole : (Known.solo capacity id stage task admission).Sole 1 (.at id stage) :=
  ⟨solo_op, fun hk => by simp [Known.solo, hk]⟩

theorem solo_busy (h : ∀ command, stage ≠ .exited command) :
    (Known.solo capacity id stage task admission).Busy :=
  ⟨1, _, solo_op, h⟩

theorem solo_quiet : (Known.solo capacity id (.exited command) task admission).Quiet := by
  intro k known hv
  rw [(solo_sole.eq hv).2]
  exact ⟨command, rfl⟩

theorem solo_setOp {stage' : Stage} : (Known.solo capacity id stage task admission).setOp 1
    (.at id stage') = .solo capacity id stage' task admission := by
  simp [Known.solo, Known.setOp]

theorem solo_setTask {known : KnownTask} :
    (Known.solo capacity id stage task admission).setTask 0 known =
      .solo capacity id stage (some known) admission := by
  simp [Known.solo, Known.setTask]

theorem admitted_solo (hs : stage.handle = .new) : (Known.new capacity).admitted id stage =
    .solo capacity id stage none .running := by
  simp only [Known.new, Known.admitted, Known.solo, Function.update_eq_self, KnownOp.at, hs]
  rfl

theorem solo_reserve : bridgeView.Gives (.new capacity) (reserve id) (.ok 1)
    (.solo capacity id .ready none .running) := by
  have hnext : (1 : UInt64).toNat + 1 < 2 ^ 64 := by decide
  rw [← admitted_solo rfl]
  exact gives_reserve rfl nofun hnext

theorem solo_begin {message : String} {f : Unit → Bridge α}
    (h : bridgeView.Meets (.solo capacity id stage (some ⟨.started, .gone⟩) .closed) (f ()) Q) :
    bridgeView.Meets (.solo capacity id stage none admission)
      (beginShutdown 0 >>= fun _ => waitStarted 0 >>= fun started =>
        expectOk started message >>= f) Q := by
  refine meets_begin solo_task (by decide) (fun t known hv => ?_) ?_
  · simp [Known.solo] at hv
  · rw [solo_setTask]
    exact h

/-- The worker is told its command, and releases. -/
theorem solo_release {sent released : String} {f : OperationSnapshot → Bridge α}
    (h : ∀ r, Releases r 1 command.termClass →
      bridgeView.Meets (.solo capacity id (.released command) task admission) (f r) Q) :
    bridgeView.Meets (.solo capacity id .ready task admission)
      (ask (.send 1 command) >>= fun result => expectOk result sent >>= fun _ =>
        waitReleased 1 >>= fun result => expectOk result released >>= f) Q := by
  refine (gives_send solo_op command).expectOk ?_
  rw [solo_setOp]
  refine (meets_waitReleased solo_op).expectOk fun r v' h' => ?_
  obtain ⟨hr, rfl⟩ := h'
  rw [solo_setOp]
  exact h r hr

/-- The shutdown joins a worker that exits. -/
theorem solo_wait {joined : String} {f : ShutdownOutcome → Bridge α}
    (h : ∀ outcome, outcome.Canonical → outcome.expectedWorkerIds ≠ [] →
      bridgeView.Meets (.solo capacity id (.exited command) (some ⟨.returned outcome, .gone⟩)
        admission) (f outcome) Q) :
    bridgeView.Meets (.solo capacity id (.exited command) (some ⟨.started, .gone⟩) admission)
      (wait 0 >>= fun result => expectOk result joined >>= f) Q := by
  refine meets_wait solo_task solo_quiet fun outcome hreports => ?_
  rw [solo_setTask] at hreports ⊢
  refine h outcome hreports.canonical fun hn => ?_
  rw [hreports.expected] at hn
  cases hn

theorem solo_exit {exit : String} {f : Unit → Bridge α}
    (h : bridgeView.Meets (.solo capacity id (.exited command) task admission) (f ()) Q) :
    bridgeView.Meets (.solo capacity id (.released command) task admission)
      (allowWorkerExit 1 >>= fun result => expectOk result exit >>= f) Q := by
  refine (gives_allowWorkerExit solo_op).expectOk ?_
  rw [solo_setOp]
  exact h

end Solo

end BridgeSuite
end Supervisor
end Testkit
end Platform
