import PlatformContracts.Testkit.ShutdownOutcome
import PlatformContracts.Testkit.SupervisorInv

/-!
# Shutdowns of the supervisor

* `ShutdownOutcome.Canonical`: closed, nothing active or retained, the joined workers are the
  expected ones. `outcomes_canonical`: every outcome of every run is, and all are equal.
* `Kept`, `Unhurried`: callers that keep their handles and witnesses, and whose waits do not run
  out of time; `Alone`: no take of handles while another shutdown joins.
* `Healthy`: no worker panicked, no task failed, and no shutdown finds a handle gone.
  `shutdowns_safe`: in a run of such callers whose takes are alone, every shutdown comes to the
  canonical outcome; `shutdowns_unsafe`: two shutdowns that overlap.
-/

namespace Platform
namespace Testkit

/-! ## Canonical outcomes -/

/-- The shutdown left nothing behind. -/
structure ShutdownOutcome.Canonical (outcome : ShutdownOutcome) : Prop where
  closed : outcome.facts.lifecycle = .closed
  active : outcome.facts.activeOperations = 0
  retained : outcome.facts.retainedTasks = 0
  expected_nodup : outcome.expectedWorkerIds.Nodup
  joined_nodup : outcome.joinedWorkerIds.Nodup
  perm : outcome.expectedWorkerIds.Perm outcome.joinedWorkerIds
  expected_count : outcome.facts.expectedWorkers.toNat = outcome.expectedWorkerIds.length
  joined_count : outcome.facts.joinedWorkers.toNat = outcome.joinedWorkerIds.length

theorem ofNat_length {l : List String} {n : UInt64} (h : n.toNat = l.length) :
    UInt64.ofNat l.length = n := by
  rw [← h, UInt64.ofNat_toNat]

theorem ShutdownOutcome.Canonical.validate {outcome : ShutdownOutcome} (h : outcome.Canonical) :
    outcome.validate = .ok () :=
  ShutdownOutcome.validate_eq_ok.mpr ⟨h.expected_nodup, h.joined_nodup, h.perm,
    ofNat_length h.expected_count, ofNat_length h.joined_count⟩

namespace Supervisor

open Std

variable {w w' : World}

/-- A closed supervisor's outcome is canonical. -/
theorem Inv.canonical (h : Inv w) (hc : w.state.lifecycle = .closed) :
    (outcomeOf w.state).Canonical := by
  obtain ⟨hidle, hreaped⟩ := h.closing.closed hc
  have hperm : w.state.expectedWorkerIds.Perm w.state.joinedWorkerIds := by
    rw [List.perm_ext_iff_of_nodup h.minted.nodup h.tasks.nodup]
    intro id
    constructor
    · intro hid
      obtain ⟨k, hk, rfl⟩ := h.minted.mem.mp hid
      obtain ⟨t, hk⟩ := Option.isSome_iff_exists.mp hk
      have hinactive : ¬t.active := by
        intro ht
        have := h.index.active.mpr ⟨t, hk, ht, rfl⟩
        rw [hidle] at this
        cases this
      have hinserted : t.inserted := by
        by_contra hi
        exact hinactive (h.tasks.pending hk (by simpa using hi))
      by_contra hj
      have := h.tasks.task.mpr ⟨⟨k, t, hk, hinserted, rfl⟩, hj⟩
      rw [hreaped] at this
      cases this
    · intro hid
      obtain ⟨k, t, hk, -, rfl⟩ := h.tasks.joined hid
      exact h.minted.mem.mpr ⟨k, by rw [hk]; rfl, rfl⟩
  have hbound : w.state.expectedWorkerIds.length < 2 ^ 64 := by
    have := h.minted.length
    have := w.state.nextSequence.toNat_lt
    omega
  refine ⟨hc, size_eq_zero_iff.mpr hidle, ?_, h.minted.nodup, h.tasks.nodup, hperm, ?_, ?_⟩
  · show UInt64.ofNat w.state.tasks.size = 0
    rw [size_eq_zero_iff.mpr hreaped]
    rfl
  · exact UInt64.toNat_ofNat_of_lt hbound
  · exact UInt64.toNat_ofNat_of_lt (by rw [← hperm.length_eq]; exact hbound)

/-- The outcome that an event gives: what `finish_shutdown` returns, and what the witness gets. -/
def Event.outcome? : Event → Option ShutdownOutcome
  | .closeShutdown _ outcome => some outcome
  | .witness _ (.result outcome) => some outcome
  | _ => none

theorem Inv.outcome (h : Inv w) {e : Event} (hs : Step w e w') {outcome : ShutdownOutcome}
    (ho : e.outcome? = some outcome) :
    w'.state.lifecycle = .closed ∧ outcome = outcomeOf w'.state := by
  cases hs with
  | closeShutdown hd hpc hon =>
    obtain rfl := Option.some.inj ho
    rw [closeShutdown_on] at hon
    obtain ⟨ho, rfl⟩ := Prod.mk.inj hon
    exact ⟨rfl, (Except.ok.inj ho).symm⟩
  | @witness t d d' e hd hstep =>
    cases hstep with
    | result outcome hpc =>
      obtain rfl := Option.some.inj ho
      exact (h.closing.task hd).sent (by rw [hpc]; rfl)
    | _ => cases ho
  | _ => cases ho

/-- A closed supervisor stays closed, with the same outcome. -/
def Settled (w w' : World) : Prop :=
  w.state.lifecycle = .closed →
    w'.state.lifecycle = .closed ∧ outcomeOf w'.state = outcomeOf w.state

theorem Settled.refl (w : World) : Settled w w := fun hc => ⟨hc, rfl⟩

theorem Settled.trans {w'' : World} (h : Settled w w') (h' : Settled w' w'') :
    Settled w w'' := by
  intro hc
  obtain ⟨hc', he⟩ := h hc
  obtain ⟨hc'', he'⟩ := h' hc'
  exact ⟨hc'', he'.trans he⟩

theorem Inv.settled (h : Inv w) {e : Event} (hs : Step w e w') : Settled w w' := by
  intro hc
  obtain ⟨hidle, hreaped⟩ := h.closing.closed hc
  cases hs with
  | reserve hon =>
    obtain ⟨_, hl, -⟩ := reserveAdmission_ok hon
    rw [hc] at hl
    cases hl
  | refuse hon =>
    rw [reserveAdmission_error hon]
    exact ⟨hc, rfl⟩
  | insertTask hk hcall hon =>
    refine absurd hidle (h.not_idle hk ?_)
    have := h.formed hk
    rw [Operation.Formed, hcall] at this
    rw [this.1]
    rfl
  | workerRelease hk hw hon => exact absurd hidle (h.not_idle hk (by rw [hw]; rfl))
  | workerPanic hk hw hon => exact absurd hidle (h.not_idle hk (by rw [hw]; rfl))
  | publishProgress hk hh hon =>
    rcases publishProgress_cases hon with ⟨r, hr, -, -, rfl⟩ | ⟨-, rfl, -⟩
    · exact ⟨hc, rfl⟩
    · exact ⟨hc, rfl⟩
  | quiesce hon | quiesceShutdown _ _ hon =>
    have hq : Supervisor.quiesced w.state = w.state := by simp [Supervisor.quiesced, hc]
    rw [quiesceInner_on, hq] at hon
    obtain rfl := (Prod.mk.inj hon).2
    exact ⟨hc, rfl⟩
  | takeTasks hd hpc hi hon =>
    obtain ⟨-, rfl⟩ := takeTasks_ok hon
    rw [taken_of_closed h.closing (fun id => mem_keys.mp) hc]
    exact ⟨hc, rfl⟩
  | takeTasksFailed hd hpc hi hon =>
    obtain ⟨-, ids, hids, rfl⟩ := takeTasks_error hon
    rw [taken_of_closed h.closing hids hc]
    exact ⟨hc, rfl⟩
  | @closeShutdown t d joined outcome s hd hpc hon =>
    have hb : d.pc.batch = some joined := by rw [hpc]; simp [ShutdownPc.batch]
    have hnil : joined = [] := by
      refine List.eq_nil_iff_forall_not_mem.mpr fun id hid => ?_
      have := ((h.closing.task hd).keys hb).mp hid
      rw [hreaped id] at this
      cases this
    rw [closeShutdown_on, hnil, closed_nil hc] at hon
    obtain rfl := (Prod.mk.inj hon).2
    exact ⟨hc, rfl⟩
  | _ => exact ⟨hc, rfl⟩

variable {capacity : Usize} {w₀ : World} {es : List (Event × World)}

/-- The last state of a run tells every outcome of the run. -/
theorem outcome_of_run (hi : (supervisorSys capacity).init w₀)
    (hr : (supervisorSys capacity).Run w₀ es w) {p : Event × World} (hp : p ∈ es)
    {outcome : ShutdownOutcome} (ho : p.1.outcome? = some outcome) :
    w.state.lifecycle = .closed ∧ outcome = outcomeOf w.state := by
  obtain ⟨es₁, es₂, w₁, -, hr₁, hs, hr₂⟩ := hr.of_mem hp
  have hind := inv_inductive capacity
  have h₁ : Inv w₁ := hind.run hr₁ (hind.init hi)
  obtain ⟨hc, rfl⟩ := h₁.outcome hs ho
  have hsettled := hr₂.rel hind Settled.refl Settled.trans (fun h hs => h.settled hs)
    (hind.step h₁ hs)
  exact ⟨(hsettled hc).1, (hsettled hc).2.symm⟩

/-- Every outcome of a run is canonical, and there is one. -/
theorem outcomes_canonical (hi : (supervisorSys capacity).init w₀)
    (hr : (supervisorSys capacity).Run w₀ es w) :
    (∀ p ∈ es, ∀ outcome, p.1.outcome? = some outcome →
      outcome.Canonical ∧ outcome.validate = .ok ()) ∧
    ∀ p ∈ es, ∀ q ∈ es, ∀ outcome outcome', p.1.outcome? = some outcome →
      q.1.outcome? = some outcome' → outcome = outcome' := by
  constructor
  · intro p hp outcome ho
    obtain ⟨hc, rfl⟩ := outcome_of_run hi hr hp ho
    have hind := inv_inductive capacity
    have hcanonical := (hind.run hr (hind.init hi)).canonical hc
    exact ⟨hcanonical, hcanonical.validate⟩
  · intro p hp q hq outcome outcome' ho ho'
    rw [(outcome_of_run hi hr hp ho).2, (outcome_of_run hi hr hq ho').2]

/-- One operation, and two shutdowns one after the other. -/
def shutdownTwice : List Event :=
  let outcome : ShutdownOutcome := ⟨⟨.closed, 0, 0, 1, 1⟩, ["worker-1"], ["worker-1"]⟩
  reserveEvents "a" 1 ++ startEvents 0 ++ completeEvents 1 ++ waitEvents 1 ++
    [Event.takeTasks 0 (.ok [("worker-1", ⟨1⟩)]), .handle 1 .allowExit, .join 0 true,
      .closeShutdown 0 outcome, .witness 0 (.result outcome)] ++
    startEvents 1 ++
    [Event.takeTasks 1 (.ok []), .closeShutdown 1 outcome, .witness 1 (.result outcome)]

theorem outcomes_canonical_twice : ∃ es w, (supervisorSys 4).Run (startWorld 4) es w ∧
    es.map (·.1) = shutdownTwice ∧
    ∀ p ∈ es, ∀ outcome, p.1.outcome? = some outcome →
      outcome.Canonical ∧ outcome.validate = .ok () := by
  have hexec : (shutdownTwice.foldlM World.exec (startWorld 4)).isSome = true := by
    decide +kernel
  obtain ⟨es, w, hr, he⟩ := Sys.Run.exec_isSome (S := supervisorSys 4) World.exec_step hexec
  exact ⟨es, w, hr, he, (outcomes_canonical rfl hr).1⟩

/-! ## Overlapping shutdowns -/

/-- The thread of the worker ended. -/
def Worker.Ended (worker : Worker) : Prop :=
  worker = .exited ∨ worker = .abandoned ∨ worker = .panicked

/-- The task ended. -/
def ShutdownPc.Ended (pc : ShutdownPc) : Prop :=
  (∃ outcome, pc = .returned outcome) ∨ ∃ message, pc = .failed message

/-- Callers keep a handle until its worker has exited, and a witness until its task has ended. -/
def Kept (w : World) : Event → Prop
  | .handle k .drop => ∀ op, w.ops k = some op → op.worker.Ended
  | .witness t .drop => ∀ d, w.shutdowns t = some d → d.pc.Ended
  | _ => True

/-- No wait runs out of time: it fails at most because what it waits for has ended. -/
def Unhurried (w : World) : Event → Prop
  | .handle k .waitFailed => ∀ op, w.ops k = some op → op.worker.Ended
  | .witness t .waitFailed => ∀ d, w.shutdowns t = some d → d.pc.Ended
  | _ => True

/-- A task takes handles only while no other task has some. -/
def Alone (w : World) : Event → Prop
  | .takeTasks t _ => ∀ t' d ids, t' ≠ t → w.shutdowns t' = some d → d.pc.batch = some ids →
      ids = []
  | _ => True

/-! ### What holds under these conditions -/

/-- The ends of the channels that the worker still needs are there, and it did not panic. -/
def Operation.Healthy (op : Operation) : Prop :=
  match op.worker with
  | .unspawned | .receiving =>
    op.handle.command = true ∧ (op.handle.released = .held ∨ op.handle.released = .waiting) ∧
      op.handle.allowExit = true
  | .commanded _ | .notifying =>
    (op.handle.released = .held ∨ op.handle.released = .waiting) ∧ op.handle.allowExit = true
  | .exiting => op.handle.allowExit = true
  | .exited => True
  | .abandoned | .panicked => False

/-- The ends of the channels that the task still needs are there, and it did not fail. -/
def ShutdownTask.Healthy (d : ShutdownTask) : Prop :=
  match d.pc with
  | .quiescing | .starting => (d.started = .held ∨ d.started = .waiting) ∧ d.result = true
  | .waiting | .joining .. | .sending _ => d.result = true
  | .returned _ => True
  | .failed _ => False

structure Healthy (w : World) : Prop where
  op : ∀ {k op}, w.ops k = some op → op.Healthy
  task : ∀ {t d}, w.shutdowns t = some d → d.Healthy
  /-- When no task has taken handles, they are all in the table. -/
  handles : (∀ t d ids, w.shutdowns t = some d → d.pc.batch = some ids → ids = []) →
    ∀ {id : String} {h : Option JoinHandle}, w.state.tasks[id]? = some h → h.isSome

theorem Operation.Healthy.exited {op : Operation} (h : op.Healthy) (he : op.worker.Ended) :
    op.worker = .exited := by
  rcases he with he | he | he
  · exact he
  · simp [Operation.Healthy, he] at h
  · simp [Operation.Healthy, he] at h

theorem Operation.Step.healthy {k : UInt64} {op op' : Operation} {e : HandleEvent}
    (hk : w.ops k = some op) (hs : op.Step e op') (h : op.Healthy) (hkept : Kept w (.handle k e))
    (hun : Unhurried w (.handle k e)) : op'.Healthy := by
  cases hs with
  | waitFailed hw =>
    have := h.exited (hun op hk)
    simp [Operation.Healthy, this]
  | drop =>
    have := h.exited (hkept op hk)
    simp [Operation.Healthy, this]
  | command command hh hc hw => simp_all [Operation.Healthy]
  | waitReleased hh hr =>
    unfold Operation.Healthy at h ⊢
    cases hw : op.worker <;> simp_all
  | released hr hw => simp_all [Operation.Healthy]
  | allowExit hh ha hw => simp_all [Operation.Healthy]
  | commandLost hw hc => simp_all [Operation.Healthy]
  | releasedLost hw hr => simp_all [Operation.Healthy]
  | exitLost hw ha => simp_all [Operation.Healthy]

theorem ShutdownTask.Step.healthy {t : Nat} {d d' : ShutdownTask} {e : WitnessEvent}
    (hd : w.shutdowns t = some d) (hs : d.Step e d') (h : d.Healthy)
    (hkept : Kept w (.witness t e)) (hun : Unhurried w (.witness t e)) : d'.Healthy := by
  have hended : d.pc.Ended → ∃ outcome, d.pc = .returned outcome := by
    rintro (hr | ⟨message, hm⟩)
    · exact hr
    · simp [ShutdownTask.Healthy, hm] at h
  cases hs with
  | waitFailed hw =>
    obtain ⟨outcome, hpc⟩ := hended (hun d hd)
    simp [ShutdownTask.Healthy, hpc]
  | drop =>
    obtain ⟨outcome, hpc⟩ := hended (hkept d hd)
    simp [ShutdownTask.Healthy, hpc]
  | waitStarted hw =>
    unfold ShutdownTask.Healthy at h ⊢
    cases hpc : d.pc <;> simp_all
  | started hw hpc => simp_all [ShutdownTask.Healthy]
  | result outcome hpc hr => simp_all [ShutdownTask.Healthy]
  | startedLost hpc hw => simp_all [ShutdownTask.Healthy]
  | resultLost outcome hpc hr => simp_all [ShutdownTask.Healthy]

theorem Healthy.setOp (h : Healthy w) {k : UInt64} {op : Operation} (hop : op.Healthy) :
    Healthy (w.setOp k op) := by
  refine ⟨?_, h.task, h.handles⟩
  intro k' op' hk
  rcases update_eq_some.mp hk with ⟨-, rfl⟩ | ⟨-, hk⟩
  · exact hop
  · exact h.op hk

/-- One task goes on, with the handles that it had. -/
theorem Healthy.setShutdown (h : Healthy w) {t : Nat} {d d' : ShutdownTask}
    (hd : w.shutdowns t = some d) (hb : d'.pc.batch = d.pc.batch) (hok : d'.Healthy) :
    Healthy (w.setShutdown t d') := by
  refine ⟨h.op, ?_, ?_⟩
  · intro t₁ d₁ h₁
    rcases update_eq_some.mp h₁ with ⟨-, rfl⟩ | ⟨-, h₁⟩
    · exact hok
    · exact h.task h₁
  · intro hall
    refine h.handles fun t₁ d₁ ids h₁ hb₁ => ?_
    by_cases ht : t₁ = t
    · subst ht
      obtain rfl := Option.some.inj (hd.symm.trans h₁)
      exact hall t₁ d' ids (Function.update_self ..) (hb.trans hb₁)
    · exact hall t₁ d₁ ids (update_eq_some.mpr (.inr ⟨ht, h₁⟩)) hb₁

theorem Healthy.begin (h : Healthy w) {t : Nat} (hn : w.shutdowns t = none) :
    Healthy (w.setShutdown t ⟨.quiescing, .held, true⟩) := by
  refine ⟨h.op, ?_, ?_⟩
  · intro t₁ d₁ h₁
    rcases update_eq_some.mp h₁ with ⟨-, rfl⟩ | ⟨-, h₁⟩
    · exact ⟨.inl rfl, rfl⟩
    · exact h.task h₁
  · intro hall
    refine h.handles fun t₁ d₁ ids h₁ => hall t₁ d₁ ids (update_eq_some.mpr (.inr ⟨?_, h₁⟩))
    rintro rfl
    simp [hn] at h₁

theorem Healthy.setState (h : Healthy w) {s : ReferenceSupervisorState}
    (ht : s.tasks = w.state.tasks) : Healthy { w with state := s } := by
  refine ⟨h.op, h.task, ?_⟩
  show _ → ∀ {id : String} {h : Option JoinHandle}, s.tasks[id]? = some h → h.isSome
  rw [ht]
  exact h.handles

theorem Healthy.setStateOp (h : Healthy w) {s : ReferenceSupervisorState} {k : UInt64}
    {op : Operation} (ht : s.tasks = w.state.tasks) (hop : op.Healthy) :
    Healthy (World.setOp { w with state := s } k op) := (h.setState ht).setOp hop

theorem Healthy.insert (h : Healthy w) {k : UInt64} {op : Operation}
    (hk : w.ops k = some op) {s : ReferenceSupervisorState}
    (hon : (insertTask k).on w.state = (.ok (), s)) :
    Healthy (World.setOp { w with state := s } k { op with call := .returned }) := by
  obtain rfl := (Prod.mk.inj hon).2
  have hop := h.op hk
  refine Healthy.setOp ?_ hop
  refine ⟨h.op, h.task, ?_⟩
  intro hall id handle hh
  simp only [lookup_insert] at hh
  split at hh
  · obtain rfl := Option.some.inj hh
    rfl
  · exact h.handles hall hh

/-- A task that takes every handle took none, if no task has taken any. -/
theorem Healthy.take (h : Healthy w) {t : Nat} {d : ShutdownTask}
    (hd : w.shutdowns t = some d) (hpc : d.pc = .waiting) {todo : List (String × JoinHandle)}
    {s : ReferenceSupervisorState} (hon : takeTasks.on w.state = (.ok todo, s)) :
    Healthy (World.setShutdown { w with state := s } t { d with pc := .joining todo [] }) := by
  obtain ⟨htodo, rfl⟩ := takeTasks_ok hon
  refine ⟨h.op, ?_, ?_⟩
  · intro t₁ d₁ h₁
    rcases update_eq_some.mp h₁ with ⟨-, rfl⟩ | ⟨-, h₁⟩
    · have := h.task hd
      simpa [ShutdownTask.Healthy, hpc] using this
    · exact h.task h₁
  · intro hall id handle hh
    have hnil : todo.map (·.1) = [] := hall t _ _ (Function.update_self ..) rfl
    rw [List.map_eq_nil_iff] at hnil
    subst hnil
    have hempty : w.state.tasks.toList.map (·.1) = [] := by rw [htodo]; rfl
    have hsome : (w.state.tasks[id]?).isSome := by
      rw [← taken_isSome (fun id => mem_keys.mp) id]
      exact Option.isSome_of_eq_some hh
    rw [← mem_keys, hempty] at hsome
    cases hsome

/-- A task that takes handles alone finds them all. -/
theorem Healthy.not_takeFailed (h : Healthy w) {t : Nat} {d : ShutdownTask}
    (hd : w.shutdowns t = some d) (hpc : d.pc = .waiting) {e : Stop AdapterError}
    {s : ReferenceSupervisorState} (hon : takeTasks.on w.state = (.error e, s))
    (halone : Alone w (.takeTasks t (.error e))) : False := by
  obtain ⟨⟨id, hid⟩, -⟩ := takeTasks_error hon
  have hnone : ∀ t' d' ids, w.shutdowns t' = some d' → d'.pc.batch = some ids → ids = [] := by
    intro t' d' ids hd' hb
    by_cases ht : t' = t
    · subst ht
      obtain rfl := Option.some.inj (hd.symm.trans hd')
      rw [hpc] at hb
      cases hb
    · exact halone t' d' ids ht hd' hb
  have := h.handles hnone hid
  cases this

theorem Healthy.close (h : Healthy w) (hi : Inv w) {t : Nat} {d : ShutdownTask}
    (hd : w.shutdowns t = some d) {joined : List String} (hpc : d.pc = .joining [] joined)
    {outcome : ShutdownOutcome} {s : ReferenceSupervisorState}
    (hon : (closeShutdown joined).on w.state = (.ok outcome, s)) :
    Healthy (World.setShutdown { w with state := s } t { d with pc := .sending outcome }) := by
  rw [closeShutdown_on] at hon
  obtain ⟨-, rfl⟩ := Prod.mk.inj hon
  have hb : d.pc.batch = some joined := by rw [hpc]; simp [ShutdownPc.batch]
  have hreaped := closed_reaped fun {id} => (hi.closing.task hd).keys hb
  refine ⟨h.op, ?_, ?_⟩
  · intro t₁ d₁ h₁
    rcases update_eq_some.mp h₁ with ⟨-, rfl⟩ | ⟨-, h₁⟩
    · have := h.task hd
      simpa [ShutdownTask.Healthy, hpc] using this
    · exact h.task h₁
  · intro _ id handle hh
    exact absurd (hh.symm.trans (hreaped id)) (by simp)

theorem Healthy.step (h : Healthy w) (hi : Inv w) {e : Event} (hs : Step w e w')
    (hkept : Kept w e) (hun : Unhurried w e) (halone : Alone w e) : Healthy w' := by
  cases hs with
  | reserve hon =>
    obtain ⟨next, -, -, -, -, rfl⟩ := reserveAdmission_ok hon
    refine h.setStateOp rfl ?_
    simp [Operation.Healthy, OperationHandle.new]
  | refuse hon => rwa [reserveAdmission_error hon]
  | spawn hk hc =>
    have hf := hi.formed hk
    rw [Operation.Formed, hc] at hf
    have := h.op hk
    refine h.setOp ?_
    simpa [Operation.Healthy, hf.1] using this
  | insertTask hk hc hon => exact h.insert hk hon
  | handle hk hop => exact h.setOp (hop.healthy hk (h.op hk) hkept hun)
  | workerRelease hk hw hon =>
    obtain ⟨r, hr, -, -⟩ := hi.record hk (by rw [hw]; rfl)
    rw [workerRelease_of_record hr] at hon
    obtain rfl := (Prod.mk.inj hon).2
    have := h.op hk
    refine h.setStateOp rfl ?_
    simpa [Operation.Healthy, hw] using this
  | workerPanic hk hw hon =>
    obtain ⟨r, hr, -, -⟩ := hi.record hk (by rw [hw]; rfl)
    rw [workerRelease_of_record hr] at hon
    exact absurd (Prod.mk.inj hon).1 (by simp)
  | @readReleased k op hk hr =>
    refine h.setOp ?_
    have := h.op hk
    unfold Operation.Healthy at this ⊢
    cases hw : op.worker <;> simp_all
  | snapshot => exact h
  | publishProgress hk hh hon =>
    rcases publishProgress_cases hon with ⟨r, hr, -, -, rfl⟩ | ⟨-, rfl, -⟩
    · exact h.setState rfl
    · exact h
  | quiesce hon =>
    obtain rfl := (Prod.mk.inj hon).2
    exact h.setState quiesced_tasks
  | beginShutdown hn => exact h.begin hn
  | quiesceShutdown hd hpc hon =>
    obtain rfl := (Prod.mk.inj hon).2
    have := h.task hd
    refine (h.setState quiesced_tasks).setShutdown hd (by rw [hpc]; rfl) ?_
    simpa [ShutdownTask.Healthy, hpc] using this
  | witness hd hstep =>
    exact h.setShutdown hd (hstep.ok (hi.closing.task hd)).2
      (hstep.healthy hd (h.task hd) hkept hun)
  | takeTasks hd hpc _ hon => exact h.take hd hpc hon
  | takeTasksFailed hd hpc _ hon => exact (h.not_takeFailed hd hpc hon halone).elim
  | join hd hpc =>
    have := h.task hd
    refine h.setShutdown hd (by rw [hpc]; simp [ShutdownPc.batch]) ?_
    simpa [ShutdownTask.Healthy, hpc] using this
  | joinFailed hd hpc hk hw =>
    have := h.op hk
    rcases hw with hw | hw <;> simp [Operation.Healthy, hw] at this
  | closeShutdown hd hpc hon => exact h.close hi hd hpc hon

/-! ### Whole runs -/

/-- The task took its handles, or failed to. -/
def ShutdownPc.Passed : ShutdownPc → Prop
  | .quiescing | .starting | .waiting => False
  | .joining .. | .sending _ | .returned _ | .failed _ => True

/-- The task of `t` passed its wait. -/
def World.Passed (t : Nat) (w : World) : Prop := ∃ d, w.shutdowns t = some d ∧ d.pc.Passed

theorem passed_set {t t' : Nat} {d' : ShutdownTask} {s : ReferenceSupervisorState}
    (h : w.Passed t) (hd : t' = t → d'.pc.Passed) :
    (World.setShutdown { w with state := s } t' d').Passed t := by
  obtain ⟨d, ht, hp⟩ := h
  by_cases he : t' = t
  · exact ⟨d', by simp [World.setShutdown, he], hd he⟩
  · exact ⟨d, update_eq_some.mpr (.inr ⟨Ne.symm he, ht⟩), hp⟩

theorem Step.passed {t : Nat} {e : Event} (hs : Step w e w') (h : w.Passed t) : w'.Passed t := by
  have hpc : ∀ {d}, w.shutdowns t = some d → d.pc.Passed := by
    intro d hd
    obtain ⟨d', hd', hp⟩ := h
    rwa [Option.some.inj (hd.symm.trans hd')]
  cases hs with
  | beginShutdown hn =>
    refine passed_set h ?_
    rintro rfl
    obtain ⟨d, hd, -⟩ := h
    simp [hn] at hd
  | quiesceShutdown hd hq =>
    refine passed_set h ?_
    rintro rfl
    have := hpc hd
    rw [hq] at this
    exact this
  | witness hd hstep =>
    refine passed_set h ?_
    rintro rfl
    have := hpc hd
    cases hstep <;> simp_all [ShutdownPc.Passed]
  | takeTasks | takeTasksFailed | join | joinFailed | closeShutdown =>
    exact passed_set h fun _ => trivial
  | _ => exact h

/-- What the theorem asks of each step of a run. -/
def Careful (w : World) (e : Event) (_ : World) : Prop := Kept w e ∧ Unhurried w e ∧ Alone w e

theorem healthy_start (capacity : Usize) : Healthy (startWorld capacity) := by
  constructor <;> simp [startWorld, deterministic]

/-- Shutdowns of careful callers, of which one takes handles at a time, come to the canonical
outcome. -/
theorem shutdowns_safe (hi : (supervisorSys capacity).init w₀)
    (hr : (supervisorSys capacity).Run w₀ es w) (hcareful : Sys.Along Careful w₀ es) :
    (∀ t d message, w.shutdowns t = some d → d.pc ≠ .failed message) ∧
    ∀ t reply w₁, (Event.takeTasks t reply, w₁) ∈ es → ∃ d, w.shutdowns t = some d ∧
      ((∃ todo joined, d.pc = .joining todo joined) ∨
        ∃ outcome, (d.pc = .sending outcome ∨ d.pc = .returned outcome) ∧
          outcome.Canonical ∧ outcome.validate = .ok ()) := by
  have hind := inv_inductive capacity
  obtain ⟨hinv, hh⟩ : Inv w ∧ Healthy w := by
    refine hr.keeps_along hind (fun hi h hs hc => h.step hi hs hc.1 hc.2.1 hc.2.2) hcareful
      (hind.init hi) ?_
    rw [show w₀ = _ from hi]
    exact healthy_start capacity
  have hfailed : ∀ t d message, w.shutdowns t = some d → d.pc ≠ .failed message := by
    intro t d message hd hpc
    have := hh.task hd
    simp [ShutdownTask.Healthy, hpc] at this
  refine ⟨hfailed, ?_⟩
  intro t reply w₁ hmem
  obtain ⟨es₁, es₂, w₂, -, hr₁, hs, hr₂⟩ := hr.of_mem hmem
  have hpassed : w₁.Passed t := by
    cases hs with
    | takeTasks => exact ⟨_, Function.update_self .., trivial⟩
    | takeTasksFailed => exact ⟨_, Function.update_self .., trivial⟩
  have hinv₁ : Inv w₁ := hind.step (hind.run hr₁ (hind.init hi)) hs
  obtain ⟨d, hd, hp⟩ := (hr₂.keeps hind (fun _ h hs => hs.passed h) hinv₁ hpassed).2
  refine ⟨d, hd, ?_⟩
  have hcanonical : ∀ {outcome}, d.pc.outcome? = some outcome →
      outcome.Canonical ∧ outcome.validate = .ok () := by
    intro outcome ho
    obtain ⟨hc, rfl⟩ := (hinv.closing.task hd).sent ho
    exact ⟨hinv.canonical hc, (hinv.canonical hc).validate⟩
  cases hpc : d.pc with
  | joining todo joined => exact .inl ⟨todo, joined, rfl⟩
  | sending outcome => exact .inr ⟨outcome, .inl rfl, hcanonical (by rw [hpc]; rfl)⟩
  | returned outcome => exact .inr ⟨outcome, .inr rfl, hcanonical (by rw [hpc]; rfl)⟩
  | failed message => exact absurd hpc (hfailed t d message hd)
  | quiescing | starting | waiting => rw [hpc] at hp; exact hp.elim

/-! ### Concrete runs -/

/-- Nothing is dropped and no wait fails. -/
def Event.keeps : Event → Bool
  | .handle _ .drop | .handle _ .waitFailed | .witness _ .drop | .witness _ .waitFailed => false
  | _ => true

def World.execKept (w : World) (e : Event) : Option World := if e.keeps then w.exec e else none

theorem execKept_kept {e : Event} (he : w.execKept e = some w') :
    Step w e w' ∧ Kept w e ∧ Unhurried w e := by
  unfold World.execKept at he
  rw [Option.ite_none_right_eq_some] at he
  obtain ⟨hk, he⟩ := he
  refine ⟨World.exec_step he, ?_⟩
  cases e with
  | handle k e => cases e <;> simp_all [Event.keeps, Kept, Unhurried]
  | witness t e => cases e <;> simp_all [Event.keeps, Kept, Unhurried]
  | _ => exact ⟨trivial, trivial⟩

/-- When all handles are in the table, no task has some. -/
theorem Inv.alone (h : Inv w) (hall : w.state.tasks.toList.all (·.2.isSome)) (e : Event) :
    Alone w e := by
  cases e with
  | takeTasks t reply =>
    intro t' d ids _ hd hb
    refine List.eq_nil_iff_forall_not_mem.mpr fun id hid => ?_
    have hok := h.closing.task hd
    obtain ⟨handle, hh⟩ := Option.isSome_iff_exists.mp ((hok.keys hb).mp hid)
    have hsome := List.all_eq_true.mp hall _ (ExtTreeMap.mem_toList_iff_getElem?_eq_some.mpr hh)
    rw [hok.handles hb hh] at hsome
    cases hsome
  | _ => trivial

/-- Handles are taken only when all are in the table. -/
def World.execCareful (w : World) (e : Event) : Option World :=
  match e with
  | .takeTasks .. => if w.state.tasks.toList.all (·.2.isSome) then w.execKept e else none
  | _ => w.execKept e

theorem execCareful_careful (h : Inv w) {e : Event} (he : w.execCareful e = some w') :
    Step w e w' ∧ Careful w e w' := by
  unfold World.execCareful at he
  split at he
  · rw [Option.ite_none_right_eq_some] at he
    obtain ⟨hs, hk, hu⟩ := execKept_kept he.2
    exact ⟨hs, hk, hu, h.alone he.1 _⟩
  · rename_i hne
    obtain ⟨hs, hk, hu⟩ := execKept_kept he
    refine ⟨hs, hk, hu, ?_⟩
    cases e with
    | takeTasks t reply => exact absurd rfl (hne t reply)
    | _ => trivial

theorem shutdowns_safe_twice : ∃ es w, (supervisorSys 4).Run (startWorld 4) es w ∧
    es.map (·.1) = shutdownTwice ∧ ∀ t reply w₁, (Event.takeTasks t reply, w₁) ∈ es →
      ∃ d, w.shutdowns t = some d ∧
      ((∃ todo joined, d.pc = .joining todo joined) ∨
        ∃ outcome, (d.pc = .sending outcome ∨ d.pc = .returned outcome) ∧
          outcome.Canonical ∧ outcome.validate = .ok ()) := by
  have hexec : (shutdownTwice.foldlM World.execCareful (startWorld 4)).isSome = true := by
    decide +kernel
  obtain ⟨w, hw⟩ := Option.isSome_iff_exists.mp hexec
  obtain ⟨es, hr, hcareful, he⟩ := Sys.Run.of_exec (inv_inductive 4)
    (fun h he => execCareful_careful h he) hw (inv_init 4)
  exact ⟨es, w, hr, he, (shutdowns_safe rfl hr hcareful).2⟩

/-- Two shutdowns of which the second comes to the handles while the first one joins. -/
def shutdownOverlap : List Event :=
  reserveEvents "a" 1 ++ completeEvents 1 ++ startEvents 0 ++ startEvents 1 ++
    [.takeTasks 0 (.ok [("worker-1", ⟨1⟩)]),
      .takeTasks 1 (.error (.panic "retained task must own its JoinHandle"))]

/-- The callers keep every handle and every witness, and the second shutdown fails. -/
theorem shutdowns_unsafe : ∃ es w d, (supervisorSys 4).Run (startWorld 4) es w ∧
    Sys.Along (fun w e _ => Kept w e ∧ Unhurried w e) (startWorld 4) es ∧
    es.map (·.1) = shutdownOverlap ∧ w.shutdowns 1 = some d ∧
    d.pc = .failed "retained task must own its JoinHandle" := by
  have hexec : (shutdownOverlap.foldlM World.execKept (startWorld 4)).bind (·.shutdowns 1) =
      some ⟨.failed "retained task must own its JoinHandle", .gone, true⟩ := by
    decide +kernel
  obtain ⟨w, hw, hd⟩ := Option.bind_eq_some_iff.mp hexec
  obtain ⟨es, hr, hkept, he⟩ := Sys.Run.of_exec (inv_inductive 4)
    (fun _ he => execKept_kept he) hw (inv_init 4)
  exact ⟨es, w, _, hr, hkept, he, hd, rfl⟩

/-- One shutdown, of a worker whose release nobody can receive after a wait ran out of time. -/
def shutdownHurried : List Event :=
  reserveEvents "a" 1 ++ [Event.handle 1 .waitReleased, .handle 1 .waitFailed] ++
    completeEvents 1 ++ [Event.handle 1 .releasedLost] ++ startEvents 0 ++
    [Event.takeTasks 0 (.ok [("worker-1", ⟨1⟩)]), .join 0 false]

example : (shutdownHurried.foldlM World.exec (startWorld 4)).bind (·.shutdowns 0) =
    some ⟨.failed "controlled worker must not panic", .gone, true⟩ := by decide +kernel

end Supervisor
end Testkit
end Platform
