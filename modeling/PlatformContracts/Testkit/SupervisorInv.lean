import PlatformContracts.Testkit.SupervisorBooks

/-!
# What holds in every state of the supervisor

* `Operation.Formed`: a half-finished `reserve` holds its worker back.
* `TaskOk`, `Closing`: what each shutdown task relies on, and all of them together.
* `Inv`: the books, the operations and the shutdowns; `inv_inductive`: every step keeps it.
-/

namespace Platform
namespace Testkit
namespace Supervisor

open Std

/-! ## The invariant -/

/-- The worker did not end its attempt. -/
def Worker.active : Worker → Bool
  | .unspawned | .receiving | .commanded _ | .abandoned => true
  | .notifying | .exiting | .exited | .panicked => false

/-- What the books know of the operation. -/
def Operation.attempt (op : Operation) : Attempt :=
  ⟨op.identity, op.worker.active, op.call = .returned⟩

def World.attempts (w : World) : Attempts := fun k => (w.ops k).map Operation.attempt

/-- Before `reserve` returns, nobody holds the handle, and the worker waits for its command. A
call received the release only from a worker that ended its attempt. -/
def Operation.Formed (op : Operation) : Prop :=
  match op.call with
  | .spawning => op.worker = .unspawned ∧ op.handle = .new
  | .inserting => op.worker = .receiving ∧ op.handle = .new
  | .returned => op.worker ≠ .unspawned ∧
    (op.handle.released = .received → op.worker.active = false)

/-- The workers whose handles the task took. -/
def ShutdownPc.batch : ShutdownPc → Option (List String)
  | .joining todo joined => some (joined ++ todo.map (·.1))
  | _ => none

def ShutdownPc.outcome? : ShutdownPc → Option ShutdownOutcome
  | .sending outcome | .returned outcome => some outcome
  | _ => none

/-- No operation is active. -/
def Idle (s : ReferenceSupervisorState) : Prop := ∀ id : String, s.active[id]? = none

/-- No task is retained. -/
def Reaped (s : ReferenceSupervisorState) : Prop := ∀ id : String, s.tasks[id]? = none

/-- What a shutdown task relies on, where it is. -/
structure TaskOk (s : ReferenceSupervisorState) (pc : ShutdownPc) : Prop where
  quiesced : pc ≠ .quiescing → s.lifecycle ≠ .running
  idle : ∀ {ids}, pc.batch = some ids → Idle s
  nodup : ∀ {ids}, pc.batch = some ids → ids.Nodup
  keys : ∀ {ids}, pc.batch = some ids → ∀ {id : String}, id ∈ ids ↔ (s.tasks[id]?).isSome
  handles : ∀ {ids}, pc.batch = some ids → ∀ {id : String} {h : Option JoinHandle},
    s.tasks[id]? = some h → h = none
  sent : ∀ {outcome}, pc.outcome? = some outcome →
    s.lifecycle = .closed ∧ outcome = outcomeOf s

structure Closing (s : ReferenceSupervisorState) (shutdowns : Nat → Option ShutdownTask) :
    Prop where
  task : ∀ {t d}, shutdowns t = some d → TaskOk s d.pc
  /-- Two tasks that took handles both took none. -/
  alone : ∀ {t d ids t' d' ids'}, shutdowns t = some d → d.pc.batch = some ids →
    shutdowns t' = some d' → d'.pc.batch = some ids' → t ≠ t' → Reaped s
  closed : s.lifecycle = .closed → Idle s ∧ Reaped s

structure Inv (w : World) : Prop where
  minted : Minted w.state.nextSequence w.state.expectedWorkerIds w.attempts
  index : Indexed w.state.active w.state.records w.attempts
  tasks : Retained w.state.tasks w.state.joinedWorkerIds w.attempts
  formed : ∀ {k op}, w.ops k = some op → op.Formed
  closing : Closing w.state w.shutdowns

/-! ## Operations -/

section Operations

variable {w : World} {k : UInt64} {op op' : Operation} {s : ReferenceSupervisorState}

theorem attempts_setOp : (w.setOp k op).attempts = Function.update w.attempts k op.attempt := by
  funext k'
  unfold World.attempts World.setOp
  by_cases h : k' = k
  · subst h; simp
  · simp [h]

theorem World.attempts_eq (h : w.ops k = some op) : w.attempts k = some op.attempt := by
  unfold World.attempts
  rw [h]
  rfl

/-- The books do not see the change. -/
theorem attempts_setOp_same (h : w.ops k = some op) (ha : op'.attempt = op.attempt) :
    (w.setOp k op').attempts = w.attempts := by
  rw [attempts_setOp, ha]
  exact Function.update_eq_self_iff.mpr (World.attempts_eq h).symm

theorem Operation.Step.identity {e : HandleEvent} (h : op.Step e op') :
    op'.identity = op.identity := by
  cases h <;> rfl

/-- Before `reserve` returns, nothing goes over the channels. -/
theorem Operation.Step.returned {e : HandleEvent} (h : op.Step e op') (hf : op.Formed) :
    op.call = .returned ∧ op'.call = .returned := by
  have hc : op'.call = op.call := by cases h <;> rfl
  suffices op.call = .returned from ⟨this, hc.trans this⟩
  unfold Operation.Formed at hf
  cases hcall : op.call with
  | returned => rfl
  | spawning =>
    obtain ⟨hw, hh⟩ : op.worker = .unspawned ∧ op.handle = .new := by simpa [hcall] using hf
    cases h <;> simp_all [Operation.Held, OperationHandle.new]
  | inserting =>
    obtain ⟨hw, hh⟩ : op.worker = .receiving ∧ op.handle = .new := by simpa [hcall] using hf
    cases h <;> simp_all [Operation.Held, OperationHandle.new]

theorem Operation.Step.attempt {e : HandleEvent} (h : op.Step e op') :
    op'.attempt = op.attempt := by
  cases h <;> simp_all [Operation.attempt, Worker.active]

theorem Operation.Step.formed {e : HandleEvent} (h : op.Step e op') (hf : op.Formed) :
    op'.Formed := by
  obtain ⟨hr, hr'⟩ := h.returned hf
  unfold Operation.Formed at hf ⊢
  rw [hr] at hf
  rw [hr']
  cases h <;> simp_all [Worker.active, OperationHandle.dropped]

/-- The call that waits on a handle runs after `reserve` returned it. -/
theorem Operation.Formed.received (hf : op.Formed) (hr : op.handle.released = .received) :
    ({ op with handle.released := .gone } : Operation).Formed := by
  unfold Operation.Formed at hf ⊢
  cases hc : op.call <;> simp_all [OperationHandle.new]

theorem Operation.Formed.inactive (hf : op.Formed) (hr : op.handle.released = .received) :
    op.worker.active = false := by
  unfold Operation.Formed at hf
  cases hc : op.call <;> simp_all [OperationHandle.new]

theorem formed_setOp {k' : UInt64} (hw : ∀ {k op}, w.ops k = some op → op.Formed)
    (hf : op'.Formed) (h : (World.setOp { w with state := s } k op').ops k' = some op) :
    op.Formed := by
  rcases update_eq_some.mp h with ⟨-, rfl⟩ | ⟨-, h⟩
  · exact hf
  · exact hw h

end Operations

/-! ## Shutdowns -/

section Shutdowns

variable {s s' : ReferenceSupervisorState} {shutdowns : Nat → Option ShutdownTask} {t : Nat}
  {d d' : ShutdownTask} {pc : ShutdownPc} {ids : List String}

theorem idle_iff : s.active.isEmpty ↔ Idle s := isEmpty_iff_size.trans size_eq_zero_iff

theorem idle_not_running (h : Closing s shutdowns) (hd : shutdowns t = some d)
    (hr : s.lifecycle = .running) : d.pc = .quiescing :=
  not_not.mp fun hq => (h.task hd).quiesced hq hr

theorem TaskOk.quiescing : TaskOk s .quiescing := by
  constructor <;> simp [ShutdownPc.batch, ShutdownPc.outcome?]

/-- While admission is open, no task is past its quiesce. -/
theorem Closing.of_running (h : Closing s shutdowns) (hr : s.lifecycle = .running)
    (hc : s'.lifecycle ≠ .closed) : Closing s' shutdowns := by
  have hq : ∀ {t d}, shutdowns t = some d → d.pc = .quiescing := fun hd => idle_not_running h hd hr
  refine ⟨?_, ?_, fun h => absurd h hc⟩
  · intro t d hd
    rw [hq hd]
    exact .quiescing
  · intro t d ids t' d' ids' hd hb
    rw [hq hd] at hb
    cases hb

/-- While an operation is active, no task took handles and no task returned. -/
theorem Closing.of_active (h : Closing s shutdowns) (hi : ¬Idle s)
    (hl : s'.lifecycle = s.lifecycle) : Closing s' shutdowns := by
  have hb : ∀ {t d ids}, shutdowns t = some d → d.pc.batch ≠ some ids :=
    fun hd hb => hi ((h.task hd).idle hb)
  have hn : s.lifecycle ≠ .closed := fun hc => hi (h.closed hc).1
  refine ⟨?_, fun hd hb' => absurd hb' (hb hd), fun hc => absurd (hl.symm.trans hc) hn⟩
  intro t d hd
  refine ⟨fun hq => by rw [hl]; exact (h.task hd).quiesced hq, fun h => absurd h (hb hd),
    fun h => absurd h (hb hd), fun h => absurd h (hb hd), fun h => absurd h (hb hd), ?_⟩
  intro outcome ho
  exact absurd ((h.task hd).sent ho).1 hn

theorem Closing.quiesced (h : Closing s shutdowns) : Closing (quiesced s) shutdowns := by
  by_cases hl : s.lifecycle = .running
  · refine h.of_running hl fun hc => ?_
    rw [quiesced_closed, hl] at hc
    cases hc
  · unfold Supervisor.quiesced
    rwa [if_neg hl]

/-- One task goes on, and the state is as before. -/
theorem Closing.set (h : Closing s shutdowns) (hd : shutdowns t = some d)
    (hb : ∀ {ids}, d'.pc.batch = some ids → d.pc.batch = some ids) (hok : TaskOk s d'.pc) :
    Closing s (Function.update shutdowns t (some d')) := by
  refine ⟨?_, ?_, h.closed⟩
  · intro t₁ d₁ h₁
    rcases update_eq_some.mp h₁ with ⟨-, rfl⟩ | ⟨-, h₁⟩
    · exact hok
    · exact h.task h₁
  · have back : ∀ {t₁ d₁ ids}, Function.update shutdowns t (some d') t₁ = some d₁ →
        d₁.pc.batch = some ids → ∃ d₂, shutdowns t₁ = some d₂ ∧ d₂.pc.batch = some ids := by
      intro t₁ d₁ ids h₁ hi
      rcases update_eq_some.mp h₁ with ⟨rfl, rfl⟩ | ⟨-, h₁⟩
      · exact ⟨d, hd, hb hi⟩
      · exact ⟨d₁, h₁, hi⟩
    intro t₁ d₁ ids₁ t₂ d₂ ids₂ h₁ hb₁ h₂ hb₂ hne
    obtain ⟨d₁', h₁', hb₁'⟩ := back h₁ hb₁
    obtain ⟨d₂', h₂', hb₂'⟩ := back h₂ hb₂
    exact h.alone h₁' hb₁' h₂' hb₂' hne

theorem Closing.begin (h : Closing s shutdowns) :
    Closing s (Function.update shutdowns t (some ⟨.quiescing, .held, true⟩)) := by
  refine ⟨?_, ?_, h.closed⟩
  · intro t₁ d₁ h₁
    rcases update_eq_some.mp h₁ with ⟨-, rfl⟩ | ⟨-, h₁⟩
    · exact .quiescing
    · exact h.task h₁
  · intro t₁ d₁ ids₁ t₂ d₂ ids₂ h₁ hb₁ h₂ hb₂ hne
    rcases update_eq_some.mp h₁ with ⟨-, rfl⟩ | ⟨-, h₁⟩
    · cases hb₁
    rcases update_eq_some.mp h₂ with ⟨-, rfl⟩ | ⟨-, h₂⟩
    · cases hb₂
    exact h.alone h₁ hb₁ h₂ hb₂ hne

/-- A task that took no handles, and has no outcome. -/
theorem TaskOk.plain (hq : s.lifecycle ≠ .running) (hb : pc.batch = none)
    (ho : pc.outcome? = none) : TaskOk s pc := by
  constructor <;> simp_all

theorem ShutdownTask.Step.ok {e : WitnessEvent} (h : d.Step e d') (hok : TaskOk s d.pc) :
    TaskOk s d'.pc ∧ d'.pc.batch = d.pc.batch := by
  have hq := hok.quiesced
  cases h with
  | waitStarted | waitFailed | drop => exact ⟨hok, rfl⟩
  | started _ hpc =>
    rw [hpc] at hq ⊢
    exact ⟨.plain (hq (by simp)) rfl rfl, rfl⟩
  | result outcome hpc =>
    rw [hpc] at hq hok ⊢
    refine ⟨⟨fun _ => hq (by simp), ?_, ?_, ?_, ?_, hok.sent⟩, rfl⟩ <;> (intro ids hb; cases hb)
  | startedLost hpc =>
    rw [hpc] at hq ⊢
    exact ⟨.plain (hq (by simp)) rfl rfl, rfl⟩
  | resultLost outcome hpc =>
    rw [hpc] at hq ⊢
    exact ⟨.plain (hq (by simp)) rfl rfl, rfl⟩

/-! ### The first section of `finish_shutdown` -/

theorem taken_isSome (hids : ∀ id ∈ ids, (s.tasks[id]?).isSome) (id : String) :
    ((taken s ids).tasks[id]?).isSome = (s.tasks[id]?).isSome := by
  rw [taken_task]
  by_cases h : id ∈ ids
  · rw [if_pos h, hids id h]
    rfl
  · rw [if_neg h]

theorem taken_none (hids : ∀ id ∈ ids, (s.tasks[id]?).isSome) {id : String}
    (h : s.tasks[id]? = none) : (taken s ids).tasks[id]? = none := by
  rw [taken_task]
  split
  · rename_i hid
    have := hids id hid
    rw [h] at this
    cases this
  · exact h

/-- Taking handles from a closed supervisor changes nothing. -/
theorem taken_of_closed (h : Closing s shutdowns) (hids : ∀ id ∈ ids, (s.tasks[id]?).isSome)
    (hc : s.lifecycle = .closed) : taken s ids = s := by
  cases ids with
  | nil => rfl
  | cons id ids =>
    have := hids id List.mem_cons_self
    rw [(h.closed hc).2 id] at this
    cases this

theorem Closing.taken (h : Closing s shutdowns) (hids : ∀ id ∈ ids, (s.tasks[id]?).isSome) :
    Closing (taken s ids) shutdowns := by
  have hreap : Reaped s → Reaped (Supervisor.taken s ids) := fun hr id => taken_none hids (hr id)
  refine ⟨?_, ?_, ?_⟩
  · intro t d hd
    have hok := h.task hd
    refine ⟨hok.quiesced, hok.idle, hok.nodup, ?_, ?_, ?_⟩
    · intro ids' hb id
      rw [hok.keys hb, taken_isSome hids]
    · intro ids' hb id handle hh
      rw [taken_task] at hh
      split at hh
      · exact (Option.some.inj hh).symm
      · exact hok.handles hb hh
    · intro outcome ho
      obtain ⟨hc, he⟩ := hok.sent ho
      rw [taken_of_closed h hids hc]
      exact ⟨hc, he⟩
  · intro t d ids₁ t' d' ids₂ hd hb hd' hb' hne
    exact hreap (h.alone hd hb hd' hb' hne)
  · intro hc
    exact ⟨(h.closed hc).1, hreap (h.closed hc).2⟩

/-- A task that takes every handle. -/
theorem Closing.take (h : Closing s shutdowns) (hd : shutdowns t = some d)
    (hpc : d.pc = .waiting) (hi : Idle s) {todo : List (String × JoinHandle)}
    (hon : takeTasks.on s = (.ok todo, s')) :
    Closing s' (Function.update shutdowns t (some { d with pc := .joining todo [] })) := by
  obtain ⟨htodo, rfl⟩ := takeTasks_ok hon
  have hids : ∀ id ∈ s.tasks.toList.map (·.1), (s.tasks[id]?).isSome := fun id => mem_keys.mp
  have hkeys : s.tasks.toList.map (·.1) = todo.map (·.1) := by
    rw [htodo, List.map_map]
    rfl
  have hsome : ∀ {id : String} {o : Option JoinHandle}, s.tasks[id]? = some o → o.isSome := by
    intro id o ho
    have := ExtTreeMap.mem_toList_iff_getElem?_eq_some.mpr ho
    rw [htodo] at this
    obtain ⟨p, -, hp⟩ := List.mem_map.mp this
    rw [← (Prod.mk.inj hp).2]
    rfl
  have h' := h.taken hids
  have hq := (h'.task hd).quiesced (by rw [hpc]; simp)
  -- Another task that took handles left none in the table, so there was nothing to take.
  have hother : ∀ {t' d' ids}, shutdowns t' = some d' → d'.pc.batch = some ids →
      Reaped (Supervisor.taken s (s.tasks.toList.map (·.1))) := by
    intro t' d' ids hd' hb id
    refine taken_none hids ?_
    cases ho : s.tasks[id]? with
    | none => rfl
    | some o =>
      have := hsome ho
      rw [(h.task hd').handles hb ho] at this
      cases this
  refine ⟨?_, ?_, h'.closed⟩
  · intro t₁ d₁ h₁
    rcases update_eq_some.mp h₁ with ⟨-, rfl⟩ | ⟨-, h₁⟩
    · refine ⟨fun _ => hq, fun _ => hi, ?_, ?_, ?_, fun ho => by cases ho⟩
      · intro ids hb
        obtain rfl := Option.some.inj hb
        rw [List.nil_append, ← hkeys]
        exact nodup_keys
      · intro ids hb id
        obtain rfl := Option.some.inj hb
        rw [List.nil_append, ← hkeys, mem_keys, taken_isSome hids]
      · intro ids hb id o ho
        rw [taken_task] at ho
        split at ho
        · exact (Option.some.inj ho).symm
        · rename_i hid
          rw [mem_keys, ho] at hid
          simp at hid
    · exact h'.task h₁
  · intro t₁ d₁ ids₁ t₂ d₂ ids₂ h₁ hb₁ h₂ hb₂ hne
    rcases update_eq_some.mp h₁ with ⟨rfl, rfl⟩ | ⟨-, h₁⟩
    · rcases update_eq_some.mp h₂ with ⟨rfl, -⟩ | ⟨-, h₂⟩
      · exact absurd rfl hne
      · exact hother h₂ hb₂
    · exact hother h₁ hb₁

/-! ### The second section -/

theorem closed_nil (hc : s.lifecycle = .closed) : closed s [] = s := by
  unfold closed
  rw [List.append_nil, List.foldl_nil, ← hc]

theorem closed_reaped {joined : List String}
    (hj : ∀ {id : String}, id ∈ joined ↔ (s.tasks[id]?).isSome) : Reaped (closed s joined) := by
  intro id
  rw [closed_task]
  split
  · rfl
  · rename_i h
    rw [hj] at h
    exact Option.not_isSome_iff_eq_none.mp h

/-- A task that joined every worker. -/
theorem Closing.close (h : Closing s shutdowns) (hd : shutdowns t = some d)
    {joined : List String} (hpc : d.pc = .joining [] joined) :
    Closing (Supervisor.closed s joined)
      (Function.update shutdowns t
        (some { d with pc := .sending (outcomeOf (Supervisor.closed s joined)) })) := by
  have hb : d.pc.batch = some joined := by rw [hpc]; simp [ShutdownPc.batch]
  have hok := h.task hd
  have hreap : Reaped (Supervisor.closed s joined) := closed_reaped fun {id} => hok.keys hb
  refine ⟨?_, fun _ _ _ _ _ => hreap, fun _ => ⟨hok.idle hb, hreap⟩⟩
  intro t₁ d₁ h₁
  rcases update_eq_some.mp h₁ with ⟨-, rfl⟩ | ⟨hne, h₁⟩
  · refine ⟨fun _ => by simp [Supervisor.closed], ?_, ?_, ?_, ?_, ?_⟩
    iterate 4 (intro ids hb'; cases hb')
    intro outcome ho
    exact ⟨rfl, (Option.some.inj ho).symm⟩
  · have hok₁ := h.task h₁
    refine ⟨fun _ => by simp [Supervisor.closed], hok₁.idle, hok₁.nodup, ?_, ?_, ?_⟩
    · intro ids hb₁ id
      rw [hok₁.keys hb₁, hreap id, h.alone h₁ hb₁ hd hb hne id]
    · intro ids hb₁ id o ho
      rw [hreap id] at ho
      cases ho
    · intro outcome ho
      obtain ⟨hc, he⟩ := hok₁.sent ho
      have hnil : joined = [] := by
        refine List.eq_nil_iff_forall_not_mem.mpr fun id hid => ?_
        have := (hok.keys hb).mp hid
        rw [(h.closed hc).2 id] at this
        cases this
      rw [hnil, closed_nil hc]
      exact ⟨hc, he⟩

end Shutdowns

/-! ## Every step keeps the invariant -/

section Steps

variable {w w' : World} {k : UInt64} {op op' : Operation} {s : ReferenceSupervisorState}

theorem Inv.not_idle (h : Inv w) (hk : w.ops k = some op) (ha : op.worker.active) :
    ¬Idle w.state := by
  intro hi
  have := h.index.active.mpr ⟨_, World.attempts_eq hk, ha, rfl⟩
  rw [hi] at this
  cases this

/-- The record of an active operation is its own. -/
theorem Inv.record (h : Inv w) (hk : w.ops k = some op) (ha : op.worker.active) :
    ∃ r, w.state.records[op.identity.operationId]? = some r ∧ r.identity = op.identity ∧
      r.phase = .running := by
  have hk' := World.attempts_eq hk
  obtain ⟨r, hr, hi, hp⟩ := h.index.record hk' (h.index.latest hk' ha)
  refine ⟨r, hr, hi, hp.trans ?_⟩
  have : op.attempt.active = true := ha
  rw [Attempt.phase, if_pos this]

/-- A change that the books do not see. -/
theorem Inv.setOp (h : Inv w) (hk : w.ops k = some op) (ha : op'.attempt = op.attempt)
    (hf : op'.Formed) : Inv (w.setOp k op') := by
  have he := attempts_setOp_same hk ha
  exact ⟨by rw [he]; exact h.minted, by rw [he]; exact h.index, by rw [he]; exact h.tasks,
    formed_setOp h.formed hf, h.closing⟩

theorem Inv.setShutdown (h : Inv w) {t : Nat} {d : ShutdownTask}
    (hc : Closing w.state (Function.update w.shutdowns t (some d))) : Inv (w.setShutdown t d) :=
  ⟨h.minted, h.index, h.tasks, h.formed, hc⟩

theorem Inv.reserve (h : Inv w) {operationId : String} {identity : AttemptIdentity}
    (hon : (reserveAdmission operationId).on w.state = (.ok identity, s)) :
    Inv (World.setOp { w with state := s } identity.sequence
      ⟨identity, .spawning, .unspawned, .new⟩) := by
  obtain ⟨next, hl, ha, hn, rfl, rfl⟩ := reserveAdmission_ok hon
  constructor
  case minted =>
    rw [attempts_setOp]
    exact h.minted.enroll hn operationId
  case index =>
    rw [attempts_setOp]
    exact h.index.enroll h.minted ha
  case tasks =>
    rw [attempts_setOp]
    exact h.tasks.enroll h.minted.fresh _
  case formed => exact formed_setOp h.formed ⟨rfl, rfl⟩
  case closing =>
    refine h.closing.of_running hl fun hc => ?_
    have : w.state.lifecycle = .closed := hc
    rw [hl] at this
    cases this

theorem Inv.insertTask (h : Inv w) (hk : w.ops k = some op) (hc : op.call = .inserting)
    (hon : (insertTask k).on w.state = (.ok (), s)) :
    Inv (World.setOp { w with state := s } k { op with call := .returned }) := by
  obtain rfl := (Prod.mk.inj hon).2
  obtain ⟨hw, hh⟩ : op.worker = .receiving ∧ op.handle = .new := by
    have := h.formed hk
    rwa [Operation.Formed, hc] at this
  have hk' := World.attempts_eq hk
  constructor
  case minted =>
    rw [attempts_setOp]
    exact h.minted.update hk' rfl
  case index =>
    rw [attempts_setOp]
    exact h.index.update hk' rfl rfl
  case tasks =>
    rw [attempts_setOp]
    refine h.tasks.insert hk' ?_ _
    simp [Operation.attempt, hc]
  case formed =>
    refine formed_setOp h.formed ?_
    simp [Operation.Formed, hw, hh, OperationHandle.new]
  case closing => exact h.closing.of_active (h.not_idle hk (by rw [hw]; rfl)) rfl

theorem Inv.workerRelease (h : Inv w) (hk : w.ops k = some op)
    {command : ReferenceWorkerCommand} (hw : op.worker = .commanded command)
    (hon : (workerRelease op.identity.operationId command.termClass).on w.state = (.ok (), s)) :
    Inv (World.setOp { w with state := s } k { op with worker := .notifying }) := by
  have hactive : op.worker.active := by rw [hw]; rfl
  obtain ⟨r, hr, -, -⟩ := h.record hk hactive
  rw [workerRelease_of_record hr] at hon
  obtain rfl := (Prod.mk.inj hon).2
  have hk' := World.attempts_eq hk
  have hcall : op.call = .returned := by
    have hf := h.formed hk
    unfold Operation.Formed at hf
    cases hc : op.call <;> simp_all
  constructor
  case minted =>
    rw [attempts_setOp]
    exact h.minted.update hk' rfl
  case index =>
    rw [attempts_setOp]
    exact h.index.release hk' hactive hr command.termClass
  case tasks =>
    rw [attempts_setOp]
    refine h.tasks.update hk' rfl ?_
    simp [Operation.attempt, hcall]
  case formed =>
    refine formed_setOp h.formed ?_
    simp [Operation.Formed, hcall, Worker.active]
  case closing => exact h.closing.of_active (h.not_idle hk hactive) rfl

theorem Inv.publishProgress (h : Inv w) {operationId : String} {progress : UInt64}
    {reply : Except (Stop AdapterError) Unit}
    (hon : (publishProgress operationId progress).on w.state = (reply, s)) :
    Inv { w with state := s } := by
  rcases publishProgress_cases hon with ⟨r, hr, -, -, rfl⟩ | ⟨-, rfl, -⟩
  · refine ⟨h.minted, ?_, h.tasks, h.formed, ?_⟩
    · refine h.index.records_congr fun id => ?_
      simp only [published, lookup_insert]
      by_cases he : id = operationId
      · subst he
        rw [if_pos rfl, hr]
        rfl
      · rw [if_neg he]
    · exact ⟨fun hd => ⟨(h.closing.task hd).quiesced, (h.closing.task hd).idle,
        (h.closing.task hd).nodup, (h.closing.task hd).keys, (h.closing.task hd).handles,
        (h.closing.task hd).sent⟩, h.closing.alone, h.closing.closed⟩
  · exact h

theorem Inv.quiesced (h : Inv w) : Inv { w with state := quiesced w.state } := by
  refine ⟨by rw [quiesced_frame]; exact h.minted, ?_, by rw [quiesced_frame]; exact h.tasks,
    h.formed, h.closing.quiesced⟩
  rw [quiesced_active]
  refine h.index.records_congr fun id => ?_
  rw [quiesced_record]
  split
  · cases w.state.records[id]? <;> rfl
  · rfl

theorem inv_init (capacity : Usize) : Inv (startWorld capacity) := by
  constructor
  case minted => constructor <;> simp [World.attempts, startWorld, deterministic]
  case index => constructor <;> simp [World.attempts, startWorld, deterministic]
  case tasks => constructor <;> simp [World.attempts, startWorld, deterministic]
  case formed =>
    intro k op hk
    cases hk
  case closing => constructor <;> simp [startWorld, deterministic]

theorem Inv.step {e : Event} (h : Inv w) (hs : Step w e w') : Inv w' := by
  cases hs with
  | reserve hon => exact h.reserve hon
  | refuse hon => rwa [reserveAdmission_error hon]
  | spawn hk hc =>
    have hf := h.formed hk
    rw [Operation.Formed, hc] at hf
    refine h.setOp hk ?_ ⟨rfl, hf.2⟩
    simp [Operation.attempt, hc, hf.1, Worker.active]
  | insertTask hk hc hon => exact h.insertTask hk hc hon
  | handle hk hop => exact h.setOp hk hop.attempt (hop.formed (h.formed hk))
  | workerRelease hk hw hon => exact h.workerRelease hk hw hon
  | workerPanic hk hw hon =>
    obtain ⟨r, hr, -, -⟩ := h.record hk (by rw [hw]; rfl)
    rw [workerRelease_of_record hr] at hon
    exact absurd (Prod.mk.inj hon).1 (by simp)
  | readReleased hk hr => exact h.setOp hk rfl ((h.formed hk).received hr)
  | snapshot => exact h
  | publishProgress _ _ hon => exact h.publishProgress hon
  | quiesce hon =>
    rw [← (Prod.mk.inj hon).2]
    exact h.quiesced
  | beginShutdown => exact h.setShutdown h.closing.begin
  | quiesceShutdown hd hpc hon =>
    rw [← (Prod.mk.inj hon).2]
    exact h.quiesced.setShutdown (h.closing.quiesced.set hd nofun
      (.plain quiesced_lifecycle rfl rfl))
  | witness hd hstep =>
    obtain ⟨hok, hb⟩ := hstep.ok (h.closing.task hd)
    exact h.setShutdown (h.closing.set hd hb.symm.trans hok)
  | takeTasks hd hpc hi hon =>
    have hc := h.closing.take hd hpc (idle_iff.mp hi) hon
    obtain ⟨-, rfl⟩ := takeTasks_ok hon
    refine ⟨h.minted, h.index, h.tasks.tasks_congr ?_, h.formed, hc⟩
    exact taken_isSome fun id => mem_keys.mp
  | takeTasksFailed hd hpc hi hon =>
    obtain ⟨-, ids, hids, rfl⟩ := takeTasks_error hon
    have hc := h.closing.taken hids
    have hq := (hc.task hd).quiesced (by rw [hpc]; simp)
    exact ⟨h.minted, h.index, h.tasks.tasks_congr (taken_isSome hids), h.formed,
      hc.set hd nofun (.plain hq rfl rfl)⟩
  | @join t d id handle todo joined op hd hpc =>
    have hok := h.closing.task hd
    have hb : ∀ {ids}, (ShutdownPc.joining todo (joined ++ [id])).batch = some ids →
        d.pc.batch = some ids := by
      rw [hpc]
      simp [ShutdownPc.batch]
    exact h.setShutdown (h.closing.set hd hb ⟨fun _ => hok.quiesced (by rw [hpc]; simp),
      fun hi => hok.idle (hb hi), fun hi => hok.nodup (hb hi), fun hi => hok.keys (hb hi),
      fun hi => hok.handles (hb hi), nofun⟩)
  | joinFailed hd hpc =>
    have hq := (h.closing.task hd).quiesced (by rw [hpc]; simp)
    exact h.setShutdown (h.closing.set hd nofun (.plain hq rfl rfl))
  | @closeShutdown t d joined outcome s hd hpc hon =>
    rw [closeShutdown_on] at hon
    obtain ⟨ho, rfl⟩ := Prod.mk.inj hon
    obtain rfl := Except.ok.inj ho
    have hok := h.closing.task hd
    have hb : d.pc.batch = some joined := by rw [hpc]; simp [ShutdownPc.batch]
    refine ⟨h.minted, h.index, h.tasks.close (hok.nodup hb) ?_ (closed_task joined), h.formed,
      h.closing.close hd hpc⟩
    exact fun id => (hok.keys hb).mp

theorem inv_inductive (capacity : Usize) : (supervisorSys capacity).Inductive Inv where
  init h := by
    rw [show _ = _ from h]
    exact inv_init capacity
  step h hs := h.step hs

/-- A list of events that can be executed is a run of the bridge. -/
theorem run_of_exec {capacity : Usize} {es : List Event} {w : World}
    (h : es.foldlM World.exec (startWorld capacity) = some w) :
    ∃ es', (supervisorSys capacity).Run (startWorld capacity) es' w ∧ es'.map (·.1) = es :=
  Sys.Run.exec World.exec_step h

end Steps

end Supervisor
end Testkit
end Platform
