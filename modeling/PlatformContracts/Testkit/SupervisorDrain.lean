import PlatformContracts.Testkit.SupervisorQuiesce

/-!
# The supervisor drains

Callers who admit nothing more, and go on with what they began, bring every operation and every
shutdown to its end. The order of their steps is free, but that one shutdown at a time has handles.

* `Event.drains`: the steps of workers and shutdown tasks, and the calls on handles and witnesses
  that these wait for; `Drains`: such a step of careful callers.
* `Operation.rank`, `ShutdownTask.rank`, `World.rank`: how much is left to do; `Steady.drain`:
  each such step lowers it.
* `Steady.next`: until everything has ended, such a step is possible.
* `drains_out`: so their runs are bounded, never stuck, and end with the canonical outcome.
-/

namespace Platform
namespace Testkit
namespace Supervisor

open Std

/-! ## What is left to do -/

def ReserveCall.rank : ReserveCall → Nat
  | .spawning => 2
  | .inserting => 1
  | .returned => 0

def Worker.rank : Worker → Nat
  | .unspawned | .receiving => 4
  | .commanded _ => 3
  | .notifying => 2
  | .exiting => 1
  | .exited | .abandoned | .panicked => 0

def ReceiverEnd.rank : ReceiverEnd → Nat
  | .held => 3
  | .waiting => 2
  | .received => 1
  | .gone => 0

def Operation.rank (op : Operation) : Nat :=
  op.call.rank + op.worker.rank + op.handle.released.rank

/-- A task takes fewer handles than there are sequences. -/
def ShutdownPc.rank : ShutdownPc → Nat
  | .quiescing => 2 ^ 64 + 5
  | .starting => 2 ^ 64 + 4
  | .waiting => 2 ^ 64 + 3
  | .joining todo _ => todo.length + 2
  | .sending _ => 1
  | .returned _ | .failed _ => 0

def ShutdownTask.rank (task : ShutdownTask) : Nat := task.pc.rank + task.started.rank

/-- The rank of what may be there. -/
def rankOr {α : Type} (rank : α → Nat) : Option α → Nat
  | some a => rank a
  | none => 0

/-- The operations, and the shutdowns below `tasks`. -/
def World.rank (tasks : Nat) (w : World) : Nat :=
  (∑ k ∈ Finset.range UInt64.size, rankOr Operation.rank (w.ops (UInt64.ofNat k))) +
    ∑ t ∈ Finset.range tasks, rankOr ShutdownTask.rank (w.shutdowns t)

/-- The event goes on with an operation or a shutdown. -/
def Event.drains : Event → Bool
  | .spawn _ | .insertTask _ | .workerRelease .. | .readReleased .. | .quiesceShutdown _
  | .takeTasks .. | .join .. | .closeShutdown .. => true
  | .handle _ e => e ≠ .drop && e ≠ .waitFailed
  | .witness _ e => e ≠ .drop && e ≠ .waitFailed
  | .reserve .. | .snapshot .. | .publishProgress .. | .quiesce | .beginShutdown _ => false

/-- The step of a worker or a shutdown task, in which no caller takes part. -/
def Event.internal : Event → Bool
  | .workerRelease .. | .quiesceShutdown _ | .takeTasks .. | .join .. | .closeShutdown .. => true
  | .handle _ e => e = .commandLost || e = .releasedLost || e = .exitLost
  | .witness _ e => e = .startedLost || e = .resultLost
  | .reserve .. | .spawn _ | .insertTask _ | .readReleased .. | .snapshot .. | .publishProgress ..
  | .quiesce | .beginShutdown _ => false

/-- A step of callers who admit nothing more, keep what they hold and do not give up a wait. -/
def Drains (w : World) (e : Event) (w' : World) : Prop := e.drains = true ∧ Careful w e w'

section Rank

variable {w : World} {tasks : Nat}

theorem rank_setOp {k : UInt64} {op op' : Operation} {s : ReferenceSupervisorState}
    (hk : w.ops k = some op) (h : op'.rank < op.rank) :
    (World.setOp { w with state := s } k op').rank tasks < w.rank tasks := by
  refine Nat.add_lt_add_right (Finset.sum_lt_sum (fun i _ => ?_) ⟨k.toNat, ?_, ?_⟩) _
  · by_cases hi : UInt64.ofNat i = k
    · simp only [World.setOp, hi, Function.update_self, hk, rankOr]
      exact h.le
    · simp only [World.setOp, Function.update_of_ne hi, Nat.le_refl]
  · exact Finset.mem_range.mpr k.toNat_lt_size
  · simp only [World.setOp, UInt64.ofNat_toNat, Function.update_self, hk, rankOr]
    exact h

theorem rank_setShutdown {t : Nat} {d d' : ShutdownTask} {s : ReferenceSupervisorState}
    (ht : t < tasks) (hd : w.shutdowns t = some d) (h : d'.rank < d.rank) :
    (World.setShutdown { w with state := s } t d').rank tasks < w.rank tasks := by
  refine Nat.add_lt_add_left (Finset.sum_lt_sum (fun i _ => ?_) ⟨t, ?_, ?_⟩) _
  · by_cases hi : i = t
    · simp only [World.setShutdown, hi, Function.update_self, hd, rankOr]
      exact h.le
    · simp only [World.setShutdown, Function.update_of_ne hi, Nat.le_refl]
  · exact Finset.mem_range.mpr ht
  · simp only [World.setShutdown, Function.update_self, hd, rankOr]
    exact h

end Rank

/-! ## What drains from a state -/

/-- A handle that is not held was dropped with all its ends. -/
def OperationHandle.Whole (handle : OperationHandle) : Prop :=
  handle.held = true ∨ handle = .dropped

/-- What the callers and their conditions leave true of a state; `tasks` bounds the shutdowns. -/
structure Steady (tasks : Nat) (w : World) : Prop where
  inv : Inv w
  healthy : Healthy w
  joins : Joins w
  whole : ∀ {k op}, w.ops k = some op → op.handle.Whole
  finite : ∀ {t d}, w.shutdowns t = some d → t < tasks

section Steady

variable {w w' : World} {e : Event} {tasks : Nat}

theorem Operation.Step.whole {op op' : Operation} {e : HandleEvent} (hs : op.Step e op')
    (h : op.handle.Whole) : op'.handle.Whole := by
  cases hs with
  | drop => exact .inr rfl
  | command _ hh | waitReleased hh | allowExit hh => exact .inl hh.2
  | released hr | waitFailed hr =>
    rcases h with hh | hh
    · exact .inl hh
    · rw [hh] at hr
      cases hr
  | commandLost | releasedLost | exitLost => exact h

theorem whole_setOp {k k' : UInt64} {op op' : Operation} {s : ReferenceSupervisorState}
    (hw : ∀ {k op}, w.ops k = some op → op.handle.Whole)
    (hk : (World.setOp { w with state := s } k op).ops k' = some op') (h : op.handle.Whole) :
    op'.handle.Whole := by
  rcases update_eq_some.mp hk with ⟨-, rfl⟩ | ⟨-, hk⟩
  · exact h
  · exact hw hk

theorem whole_step (hw : ∀ {k op}, w.ops k = some op → op.handle.Whole) (hs : Step w e w')
    {k : UInt64} {op : Operation} (hk : w'.ops k = some op) : op.handle.Whole := by
  cases hs with
  | reserve => exact whole_setOp hw hk (.inl rfl)
  | spawn hk' | insertTask hk' | workerRelease hk' | workerPanic hk' =>
    have h := hw hk'
    exact whole_setOp hw hk h
  | handle hk' hop => exact whole_setOp hw hk (hop.whole (hw hk'))
  | readReleased hk' hr =>
    refine whole_setOp hw hk ((hw hk').imp id fun hh => ?_)
    rw [hh] at hr
    cases hr
  | _ => exact hw hk

/-- A step that begins no shutdown. -/
theorem finite_step (hf : ∀ {t d}, w.shutdowns t = some d → t < tasks) (hs : Step w e w')
    (he : ∀ t, e ≠ .beginShutdown t) {t : Nat} {d : ShutdownTask}
    (hd : w'.shutdowns t = some d) : t < tasks := by
  have hset : ∀ {t' : Nat} {d' d₁ : ShutdownTask}, w.shutdowns t' = some d' →
      Function.update w.shutdowns t' (some d₁) t = some d → t < tasks := by
    intro t' d' d₁ ht hd
    rcases update_eq_some.mp hd with ⟨rfl, -⟩ | ⟨-, hd⟩
    · exact hf ht
    · exact hf hd
  cases hs with
  | beginShutdown => exact absurd rfl (he _)
  | quiesceShutdown hd' | witness hd' | takeTasks hd' | takeTasksFailed hd' | join hd'
  | joinFailed hd' | closeShutdown hd' => exact hset hd' hd
  | _ => exact hf hd

theorem Steady.step (h : Steady tasks w) (hs : Step w e w') (hc : Careful w e w')
    (he : ∀ t, e ≠ .beginShutdown t) : Steady tasks w' where
  inv := h.inv.step hs
  healthy := h.healthy.step h.inv hs hc.1 hc.2.1 hc.2.2
  joins := h.joins.step h.inv hs
  whole := whole_step h.whole hs
  finite := finite_step h.finite hs he

/-- Each retained task is that of an expected worker. -/
theorem Inv.take_length (hi : Inv w) {todo : List (String × JoinHandle)}
    {s : ReferenceSupervisorState} (hon : takeTasks.on w.state = (.ok todo, s)) :
    todo.length < 2 ^ 64 := by
  obtain ⟨htodo, -⟩ := takeTasks_ok hon
  have hkeys : w.state.tasks.toList.map (·.1) = todo.map (·.1) := by
    rw [htodo, List.map_map]
    rfl
  have hsub : w.state.tasks.toList.map (·.1) ⊆ w.state.expectedWorkerIds := by
    intro id hid
    obtain ⟨⟨k, t, hk, -, rfl⟩, -⟩ := hi.tasks.task.mp (mem_keys.mp hid)
    exact hi.minted.mem.mpr ⟨k, by rw [hk]; rfl, rfl⟩
  have hle := (List.subperm_of_subset nodup_keys hsub).length_le
  rw [hkeys, List.length_map] at hle
  have := hi.minted.length
  have := w.state.nextSequence.toNat_lt
  omega

/-- What goes on lowers the rank of the operation. -/
theorem Operation.Step.rank_lt {op op' : Operation} {e : HandleEvent} (hs : op.Step e op')
    (he : (e ≠ .drop && e ≠ .waitFailed) = true) (h : op.Healthy) : op'.rank < op.rank := by
  unfold Operation.Healthy at h
  cases hs <;> simp_all [Operation.rank, Worker.rank, ReceiverEnd.rank]

theorem ShutdownTask.Step.rank_lt {d d' : ShutdownTask} {e : WitnessEvent} (hs : d.Step e d')
    (he : (e ≠ .drop && e ≠ .waitFailed) = true) (h : d.Healthy) : d'.rank < d.rank := by
  unfold ShutdownTask.Healthy at h
  cases hs <;> simp_all [ShutdownTask.rank, ShutdownPc.rank, ReceiverEnd.rank]

theorem Steady.rank_lt (h : Steady tasks w) (hs : Step w e w') (hd : Drains w e w') :
    w'.rank tasks < w.rank tasks := by
  obtain ⟨he, hkept, hun, halone⟩ := hd
  cases hs with
  | spawn hk hc =>
    have hf := h.inv.formed hk
    rw [Operation.Formed, hc] at hf
    exact rank_setOp hk (by simp [Operation.rank, hc, hf.1, ReserveCall.rank, Worker.rank])
  | insertTask hk hc =>
    exact rank_setOp hk (by simp [Operation.rank, hc, ReserveCall.rank])
  | handle hk hop => exact rank_setOp hk (hop.rank_lt he (h.healthy.op hk))
  | workerRelease hk hw | workerPanic hk hw =>
    exact rank_setOp hk (by simp [Operation.rank, hw, Worker.rank])
  | readReleased hk hr =>
    exact rank_setOp hk (by simp [Operation.rank, hr, ReceiverEnd.rank])
  | quiesceShutdown hd hpc =>
    exact rank_setShutdown (h.finite hd) hd (by simp [ShutdownTask.rank, hpc, ShutdownPc.rank])
  | witness hd hstep =>
    exact rank_setShutdown (h.finite hd) hd (hstep.rank_lt he (h.healthy.task hd))
  | takeTasks hd hpc _ hon =>
    have := h.inv.take_length hon
    refine rank_setShutdown (h.finite hd) hd ?_
    simp only [ShutdownTask.rank, hpc, ShutdownPc.rank]
    omega
  | takeTasksFailed hd hpc =>
    exact rank_setShutdown (h.finite hd) hd (by simp [ShutdownTask.rank, hpc, ShutdownPc.rank])
  | join hd hpc | joinFailed hd hpc | closeShutdown hd hpc =>
    exact rank_setShutdown (h.finite hd) hd (by simp [ShutdownTask.rank, hpc, ShutdownPc.rank])
  | _ => cases he

end Steady

/-- Everything that was begun has ended. -/
structure Drained (w : World) : Prop where
  op : ∀ k op, w.ops k = some op → op.worker = .exited
  task : ∀ t d, w.shutdowns t = some d → ∃ outcome, d.pc = .returned outcome ∧
    outcome.Canonical ∧ outcome.validate = .ok ()

/-! ## A step is left -/

section Next

variable {w : World} {tasks : Nat}

/-- An operation whose worker has not ended can go on. -/
theorem Steady.next_op (h : Steady tasks w) {k : UInt64} {op : Operation}
    (hk : w.ops k = some op) (hw : op.worker ≠ .exited) :
    ∃ e w', Step w e w' ∧ Drains w e w' := by
  have hf := h.inv.formed hk
  have hhealthy := h.healthy.op hk
  have hwhole := h.whole hk
  unfold Operation.Formed at hf
  unfold Operation.Healthy at hhealthy
  cases hc : op.call with
  | spawning => exact ⟨_, _, .spawn hk hc, rfl, trivial, trivial, trivial⟩
  | inserting => exact ⟨_, _, .insertTask hk hc rfl, rfl, trivial, trivial, trivial⟩
  | returned =>
    rw [hc] at hf
    -- A handle whose receiver or sender is left is held.
    have hheld : op.handle ≠ .dropped → op.Held := fun hn => ⟨hc, hwhole.resolve_right hn⟩
    cases hworker : op.worker with
    | unspawned => exact absurd hworker hf.1
    | receiving =>
      rw [hworker] at hhealthy
      have hh : op.Held := hheld fun hd => by rw [hd] at hhealthy; cases hhealthy.1
      exact ⟨_, _, .handle hk (.command (.finish .completed) hh hhealthy.1 hworker), rfl,
        trivial, trivial, trivial⟩
    | commanded command =>
      obtain ⟨r, hr, -, -⟩ := h.inv.record hk (by rw [hworker]; rfl)
      exact ⟨_, _, .workerRelease hk hworker (workerRelease_of_record hr), rfl, trivial, trivial,
        trivial⟩
    | notifying =>
      rw [hworker] at hhealthy
      have hh : op.Held := hheld fun hd => by rw [hd] at hhealthy; cases hhealthy.2
      rcases hhealthy.1 with hr | hr
      · exact ⟨_, _, .handle hk (.waitReleased hh hr), rfl, trivial, trivial, trivial⟩
      · exact ⟨_, _, .handle hk (.released hr hworker), rfl, trivial, trivial, trivial⟩
    | exiting =>
      rw [hworker] at hhealthy
      have hh : op.Held := hheld fun hd => by rw [hd] at hhealthy; cases hhealthy
      exact ⟨_, _, .handle hk (.allowExit hh hhealthy hworker), rfl, trivial, trivial, trivial⟩
    | exited => exact absurd hworker hw
    | abandoned | panicked => rw [hworker] at hhealthy; exact hhealthy.elim

/-- When every worker has ended, no operation is active. -/
theorem Inv.idle_of_exited (hi : Inv w)
    (hall : ∀ k op, w.ops k = some op → op.worker = .exited) : Idle w.state := by
  intro id
  cases ha : w.state.active[id]? with
  | none => rfl
  | some k =>
    obtain ⟨t, hk, hactive, -⟩ := hi.index.active.mp ha
    obtain ⟨op, hop, rfl⟩ := Option.map_eq_some_iff.mp hk
    have hactive : op.worker.active = true := hactive
    rw [hall k op hop] at hactive
    cases hactive

/-- When every worker has ended, a task that joins goes on by itself. -/
theorem Steady.next_join (h : Steady tasks w)
    (hall : ∀ k op, w.ops k = some op → op.worker = .exited) {t : Nat} {d : ShutdownTask}
    (hd : w.shutdowns t = some d) {todo : List (String × JoinHandle)} {joined : List String}
    (hpc : d.pc = .joining todo joined) :
    ∃ e w', e.internal = true ∧ Step w e w' ∧ Drains w e w' := by
  cases todo with
  | nil =>
    exact ⟨_, _, rfl, .closeShutdown hd hpc (closeShutdown_on joined), rfl, trivial, trivial,
      trivial⟩
  | cons p todo =>
    obtain ⟨id, handle⟩ := p
    have hid : id = workerId handle.worker :=
      (h.joins.task hd).todo _ _ hpc _ List.mem_cons_self
    have hb : d.pc.batch = some (joined ++ id :: todo.map (·.1)) := by
      rw [hpc]
      rfl
    have hmem : id ∈ joined ++ id :: todo.map (·.1) := by simp
    have htask := ((h.inv.closing.task hd).keys hb).mp hmem
    obtain ⟨⟨k, t, hk, -, he⟩, -⟩ := h.inv.tasks.task.mp htask
    obtain rfl := workerId_inj.mp (hid.symm.trans he)
    obtain ⟨op, hop, rfl⟩ := Option.map_eq_some_iff.mp hk
    exact ⟨_, _, rfl, .join hd hpc hop (hall _ op hop), rfl, trivial, trivial, trivial⟩

/-- When every worker has ended, no task waits for the operations. -/
theorem Steady.next_waiting (h : Steady tasks w)
    (hall : ∀ k op, w.ops k = some op → op.worker = .exited) {t : Nat} {d : ShutdownTask}
    (hd : w.shutdowns t = some d) (hpc : d.pc = .waiting) :
    ∃ e w', e.internal = true ∧ Step w e w' ∧ Drains w e w' := by
  by_cases hjoin : ∃ t' d' todo joined, w.shutdowns t' = some d' ∧ d'.pc = .joining todo joined
  · obtain ⟨t', d', todo, joined, hd', hpc'⟩ := hjoin
    exact h.next_join hall hd' hpc'
  · -- No other task has handles, so this one finds them all.
    have halone : ∀ reply, Alone w (.takeTasks t reply) := by
      intro reply t' d' ids _ hd' hb
      cases hpc' : d'.pc with
      | joining todo joined => exact absurd ⟨t', d', todo, joined, hd', hpc'⟩ hjoin
      | _ => rw [hpc'] at hb; cases hb
    rcases hon : takeTasks.on w.state with ⟨stop | todo, s⟩
    · exact (h.healthy.not_takeFailed hd hpc hon (halone _)).elim
    · exact ⟨_, _, rfl, .takeTasks hd hpc (idle_iff.mpr (h.inv.idle_of_exited hall)) hon, rfl,
        trivial, trivial, halone _⟩

/-- When every worker has ended, a shutdown that has not can go on. -/
theorem Steady.next_task (h : Steady tasks w)
    (hall : ∀ k op, w.ops k = some op → op.worker = .exited) {t : Nat} {d : ShutdownTask}
    (hd : w.shutdowns t = some d) (hn : ∀ outcome, d.pc ≠ .returned outcome) :
    ∃ e w', Step w e w' ∧ Drains w e w' := by
  have hhealthy := h.healthy.task hd
  unfold ShutdownTask.Healthy at hhealthy
  cases hpc : d.pc with
  | quiescing =>
    exact ⟨_, _, .quiesceShutdown hd hpc quiesceInner_on, rfl, trivial, trivial, trivial⟩
  | starting =>
    rw [hpc] at hhealthy
    rcases hhealthy.1 with hs | hs
    · exact ⟨_, _, .witness hd (.waitStarted hs), rfl, trivial, trivial, trivial⟩
    · exact ⟨_, _, .witness hd (.started hs hpc), rfl, trivial, trivial, trivial⟩
  | waiting =>
    obtain ⟨e, w', -, hs⟩ := h.next_waiting hall hd hpc
    exact ⟨e, w', hs⟩
  | joining todo joined =>
    obtain ⟨e, w', -, hs⟩ := h.next_join hall hd hpc
    exact ⟨e, w', hs⟩
  | sending outcome =>
    rw [hpc] at hhealthy
    exact ⟨_, _, .witness hd (.result outcome hpc hhealthy), rfl, trivial, trivial, trivial⟩
  | returned outcome => exact absurd hpc (hn outcome)
  | failed message => rw [hpc] at hhealthy; exact hhealthy.elim

/-- Until everything has ended, something can go on. -/
theorem Steady.next (h : Steady tasks w) (hd : ¬Drained w) :
    ∃ e w', Step w e w' ∧ Drains w e w' := by
  by_cases hall : ∀ k op, w.ops k = some op → op.worker = .exited
  · by_cases htask : ∀ t d, w.shutdowns t = some d → ∃ outcome, d.pc = .returned outcome
    · refine absurd ⟨hall, fun t d ht => ?_⟩ hd
      obtain ⟨outcome, hpc⟩ := htask t d ht
      obtain ⟨hc, rfl⟩ := (h.inv.closing.task ht).sent (by rw [hpc]; rfl)
      exact ⟨_, hpc, h.inv.canonical hc, (h.inv.canonical hc).validate⟩
    · push Not at htask
      obtain ⟨t, d, ht, hn⟩ := htask
      exact h.next_task hall ht hn
  · push Not at hall
    obtain ⟨k, op, hk, hw⟩ := hall
    exact h.next_op hk hw

end Next

/-! ## Whole runs -/

section Runs

variable {capacity : Usize} {w₀ w : World} {es : List (Event × World)}

/-- A run of careful callers ends steadily. -/
theorem steady_run (hi : (supervisorSys capacity).init w₀)
    (hr : (supervisorSys capacity).Run w₀ es w) (hc : Sys.Along Careful w₀ es) :
    ∃ tasks, Steady tasks w := by
  induction hr with
  | nil =>
    rw [show w₀ = _ from hi]
    refine ⟨0, inv_init capacity, healthy_start capacity, ?_, ?_, ?_⟩
    · exact ((joins_inductive capacity).init rfl).2
    · intro k op hk
      cases hk
    · intro t d hd
      cases hd
  | @snoc es w w' e hr hs ih =>
    obtain ⟨hc, he⟩ := hr.along_snoc.mp hc
    obtain ⟨tasks, h⟩ := ih hc
    by_cases hb : ∃ t, e = .beginShutdown t
    · obtain ⟨t, rfl⟩ := hb
      refine ⟨max tasks (t + 1), h.inv.step hs, h.healthy.step h.inv hs he.1 he.2.1 he.2.2,
        h.joins.step h.inv hs, whole_step h.whole hs, fun {t' d} hd => ?_⟩
      cases hs with
      | beginShutdown hn =>
        rcases update_eq_some.mp hd with ⟨rfl, -⟩ | ⟨-, hd⟩
        · omega
        · have := h.finite hd
          omega
    · exact ⟨tasks, h.step hs he fun t ht => hb ⟨t, ht⟩⟩

/-- **The supervisor drains.** After any run of careful callers, when they stay careful and admit
nothing more: the runs that go on with what was begun are bounded; in each state that they reach,
everything has ended, or something can go on; and so they lead to a state in which every worker has
ended and every shutdown has returned the canonical outcome. -/
theorem drains_out (hi : (supervisorSys capacity).init w₀)
    (hr : (supervisorSys capacity).Run w₀ es w) (hc : Sys.Along Careful w₀ es) :
    (∃ bound, ∀ es' w', (supervisorSys capacity).Run w es' w' → Sys.Along Drains w es' →
      es'.length ≤ bound) ∧
    ∀ es' w', (supervisorSys capacity).Run w es' w' → Sys.Along Drains w es' →
      (Drained w' ∨ ∃ e w'', (supervisorSys capacity).step w' e w'' ∧ Drains w' e w'') ∧
      ∃ es'' w'', (supervisorSys capacity).Run w' es'' w'' ∧ Sys.Along Drains w' es'' ∧
        Drained w'' := by
  obtain ⟨tasks, h⟩ := steady_run hi hr hc
  have hstep : ∀ {s e s'}, Steady tasks s → (supervisorSys capacity).step s e s' →
      Drains s e s' → Steady tasks s' ∧ s'.rank tasks < s.rank tasks := by
    intro s e s' h hs hd
    refine ⟨h.step hs hd.2 fun t ht => ?_, h.rank_lt hs hd⟩
    rw [ht] at hd
    cases hd.1
  refine ⟨⟨w.rank tasks, fun es' w' hr' hd => ?_⟩, fun es' w' hr' hd => ?_⟩
  · have := (hr'.length_le_measure hstep hd h).2
    omega
  · obtain ⟨h', -⟩ := hr'.length_le_measure hstep hd h
    refine ⟨?_, Sys.exists_run_of_measure hstep (fun h hn => h.next hn) h'⟩
    by_cases hdrained : Drained w'
    · exact .inl hdrained
    · exact .inr (h'.next hdrained)

/-- An operation that was admitted, and a shutdown that has begun to wait for it. -/
def waitingEvents : List Event := reserveEvents "a" 1 ++ startEvents 0

theorem drains_out_waiting : ∃ es w, (supervisorSys 4).Run (startWorld 4) es w ∧
    es.map (·.1) = waitingEvents ∧ (w.shutdowns 0).isSome ∧
    ∃ es' w', (supervisorSys 4).Run w es' w' ∧ Sys.Along Drains w es' ∧ Drained w' := by
  have hexec : ((waitingEvents.foldlM World.execCareful (startWorld 4)).bind
      (·.shutdowns 0)).isSome = true := by
    decide +kernel
  obtain ⟨d, hd⟩ := Option.isSome_iff_exists.mp hexec
  obtain ⟨w, hw, hd⟩ := Option.bind_eq_some_iff.mp hd
  obtain ⟨es, hr, hc, he⟩ := Sys.Run.of_exec (inv_inductive 4)
    (fun h he => execCareful_careful h he) hw (inv_init 4)
  exact ⟨es, w, hr, he, by rw [hd]; rfl, ((drains_out rfl hr hc).2 [] w .nil trivial).2⟩

end Runs

end Supervisor
end Testkit
end Platform
