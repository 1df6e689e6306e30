import PlatformContracts.Testkit.AdapterShutdown
import PlatformContracts.Testkit.SupervisorShutdown

/-!
# Quiescence of the supervisor, and the workers that a shutdown waits for

* `Cancelled`: once admission is closed, the record of every active operation carries the
  cancellation request. `admission_closes`: the lifecycle moves forward only, nothing is admitted
  once it has moved, and what was admitted before is cancelled or released.
* `Joins`: a worker ID that a shutdown joined is that of a worker thread that has ended.
  `shutdown_joins`: when a shutdown answers, the thread of every operation that was ever admitted
  has ended, and nothing is admitted afterwards.
-/

namespace Platform
namespace Testkit

theorem LifecyclePhase.next_ne_running {a b : LifecyclePhase} (h : a.next? = some b) :
    b ≠ .running := by
  cases a <;> simp only [next?, Option.some.injEq, reduceCtorEq] at h <;> subst h <;> decide

namespace Supervisor

open Std

variable {w w' : World} {e : Event}

/-! ## The lifecycle -/

theorem quiesced_next (s : ReferenceSupervisorState) :
    (quiesced s).lifecycle = s.lifecycle ∨
      s.lifecycle.next? = some (quiesced s).lifecycle := by
  unfold quiesced
  split
  · rename_i hl
    exact .inr (by rw [hl]; rfl)
  · exact .inl rfl

theorem closed_next {s : ReferenceSupervisorState} (hl : s.lifecycle ≠ .running)
    (joined : List String) : (closed s joined).lifecycle = s.lifecycle ∨
      s.lifecycle.next? = some (closed s joined).lifecycle := by
  cases h : s.lifecycle with
  | running => exact absurd h hl
  | quiescing => exact .inr rfl
  | closed => exact .inl rfl

theorem Inv.lifecycle_step (hi : Inv w) (hs : Step w e w') :
    w'.state.lifecycle = w.state.lifecycle ∨
      w.state.lifecycle.next? = some w'.state.lifecycle := by
  cases hs with
  | reserve hon =>
    obtain ⟨next, -, -, -, -, rfl⟩ := reserveAdmission_ok hon
    exact .inl rfl
  | refuse hon =>
    rw [reserveAdmission_error hon]
    exact .inl rfl
  | insertTask _ _ hon =>
    obtain rfl := (Prod.mk.inj hon).2
    exact .inl rfl
  | workerRelease hk hw hon | workerPanic hk hw hon =>
    obtain ⟨r, hr, -, -⟩ := hi.record hk (by rw [hw]; rfl)
    rw [workerRelease_of_record hr] at hon
    obtain rfl := (Prod.mk.inj hon).2
    exact .inl rfl
  | publishProgress _ _ hon =>
    rcases publishProgress_cases hon with ⟨r, -, -, -, rfl⟩ | ⟨-, rfl, -⟩ <;> exact .inl rfl
  | quiesce hon | quiesceShutdown _ _ hon =>
    obtain rfl := (Prod.mk.inj hon).2
    exact quiesced_next w.state
  | takeTasks _ _ _ hon =>
    obtain ⟨-, rfl⟩ := takeTasks_ok hon
    exact .inl rfl
  | takeTasksFailed _ _ _ hon =>
    obtain ⟨-, ids, -, rfl⟩ := takeTasks_error hon
    exact .inl rfl
  | closeShutdown hd hpc hon =>
    rw [closeShutdown_on] at hon
    obtain ⟨-, rfl⟩ := Prod.mk.inj hon
    exact closed_next ((hi.closing.task hd).quiesced (by rw [hpc]; simp)) _
  | _ => exact .inl rfl

theorem Inv.not_running_step (hi : Inv w) (hs : Step w e w')
    (hl : w.state.lifecycle ≠ .running) : w'.state.lifecycle ≠ .running := by
  rcases hi.lifecycle_step hs with h | h
  · rwa [h]
  · exact LifecyclePhase.next_ne_running h

/-! ## Cancellation -/

/-- Once admission is closed, the record of an active operation carries the request. -/
def Cancelled (s : ReferenceSupervisorState) : Prop :=
  s.lifecycle ≠ .running → ∀ (id : String) (r : OperationSnapshot),
    (s.active[id]?).isSome → s.records[id]? = some r → r.cancellationRequested = true

theorem Cancelled.quiesced {s : ReferenceSupervisorState} (h : Cancelled s) :
    Cancelled (quiesced s) := by
  intro _ id r ha hr
  rw [quiesced_active] at ha
  rw [quiesced_record] at hr
  by_cases hl : s.lifecycle = .running
  · rw [if_pos ⟨hl, ha⟩] at hr
    obtain ⟨r', -, rfl⟩ := Option.map_eq_some_iff.mp hr
    rfl
  · rw [if_neg fun hq => hl hq.1] at hr
    exact h hl id r ha hr

theorem Cancelled.step (h : Cancelled w.state) (hi : Inv w) (hs : Step w e w') :
    Cancelled w'.state := by
  cases hs with
  | reserve hon =>
    obtain ⟨next, hl, -, -, -, rfl⟩ := reserveAdmission_ok hon
    exact fun hn => absurd hl hn
  | refuse hon => rwa [reserveAdmission_error hon]
  | insertTask _ _ hon =>
    obtain rfl := (Prod.mk.inj hon).2
    exact h
  | workerRelease hk hw hon | workerPanic hk hw hon =>
    obtain ⟨r, hr, -, -⟩ := hi.record hk (by rw [hw]; rfl)
    rw [workerRelease_of_record hr] at hon
    obtain rfl := (Prod.mk.inj hon).2
    intro hl id r' ha hr'
    simp only [World.setOp, released, lookup_erase, lookup_insert] at ha hr'
    split at ha
    · cases ha
    · rename_i hid
      rw [if_neg hid] at hr'
      exact h hl id r' ha hr'
  | publishProgress _ _ hon =>
    rcases publishProgress_cases hon with ⟨r, hr, -, -, rfl⟩ | ⟨-, rfl, -⟩
    · intro hl id r' ha hr'
      simp only [published, lookup_insert] at hr'
      split at hr'
      · rename_i hid
        subst hid
        obtain rfl := Option.some.inj hr'
        exact h hl _ r ha hr
      · exact h hl id r' ha hr'
    · exact h
  | quiesce hon | quiesceShutdown _ _ hon =>
    obtain rfl := (Prod.mk.inj hon).2
    exact h.quiesced
  | takeTasks _ _ _ hon =>
    obtain ⟨-, rfl⟩ := takeTasks_ok hon
    exact h
  | takeTasksFailed _ _ _ hon =>
    obtain ⟨-, ids, -, rfl⟩ := takeTasks_error hon
    exact h
  | closeShutdown hd hpc hon =>
    rw [closeShutdown_on] at hon
    obtain ⟨-, rfl⟩ := Prod.mk.inj hon
    have hq := (hi.closing.task hd).quiesced (by rw [hpc]; simp)
    exact fun _ => h hq
  | _ => exact h

theorem cancelled_inductive (capacity : Usize) :
    (supervisorSys capacity).Inductive fun w => Inv w ∧ Cancelled w.state where
  init h := by
    refine ⟨(inv_inductive capacity).init h, ?_⟩
    rw [show _ = _ from h]
    intro hl
    exact absurd rfl hl
  step h hs := ⟨h.1.step hs, h.2.step h.1 hs⟩

/-! ## Admission -/

/-- A call of `reserve` that is admitted finds admission open. -/
theorem admitted_running (hs : Step w e w') {operationId : String} {identity : AttemptIdentity}
    (he : e = .reserve operationId (.ok identity)) : w.state.lifecycle = .running := by
  subst he
  cases hs with
  | reserve hon =>
    obtain ⟨next, hl, -⟩ := reserveAdmission_ok hon
    exact hl

variable {capacity : Usize} {w₀ : World} {es : List (Event × World)}

/-- What was quiesced stays so. -/
theorem not_running_run {es : List (Event × World)} (hr : (supervisorSys capacity).Run w es w')
    (hi : Inv w) (hl : w.state.lifecycle ≠ .running) : w'.state.lifecycle ≠ .running :=
  (hr.keeps (inv_inductive capacity) (J := fun w => w.state.lifecycle ≠ .running)
    (fun hi hl hs => hi.not_running_step hs hl) hi hl).2

/-- **Admission and quiescence.** Over a run from the start: the lifecycle only moves forward; no
`reserve` is admitted after a state that is not `Running`; and from then on every operation whose
worker has not ended its attempt carries the cancellation request in its own record. -/
theorem admission_closes (h₀ : (supervisorSys capacity).init w₀)
    (h : (supervisorSys capacity).Run w₀ es w) :
    ((Sys.states w₀ es).map (·.state.lifecycle)).destutter (· ≠ ·) <+:
      [.running, .quiescing, .closed] ∧
    (∀ (es₁ es₂ : List (Event × World)) (w₁ : World), es = es₁ ++ es₂ →
      (supervisorSys capacity).Run w₀ es₁ w₁ → (supervisorSys capacity).Run w₁ es₂ w →
      w₁.state.lifecycle ≠ .running →
      ∀ p ∈ es₂, ∀ operationId reply, p.1 = .reserve operationId reply →
        ∃ stop, reply = .error stop) ∧
    (w.state.lifecycle ≠ .running → ∀ k op, w.ops k = some op → op.worker.active = true →
      ∃ r, w.state.records[op.identity.operationId]? = some r ∧ r.identity = op.identity ∧
        r.phase = .running ∧ r.cancellationRequested = true) := by
  have hI := inv_inductive capacity
  have hi₀ := hI.init h₀
  have hrun : w₀.state.lifecycle.order = [.running, .quiescing, .closed] := by
    rw [show w₀ = _ from h₀]
    rfl
  refine ⟨?_, fun es₁ es₂ w₁ _ hr₁ hr₂ hl p hp operationId reply he => ?_,
    fun hl k op hk ha => ?_⟩
  · have hc : ((Sys.states w₀ es).map (·.state.lifecycle)).IsChain
        fun a b => b = a ∨ a.next? = some b :=
      (List.isChain_map _).mpr (h.chain hI (fun hi hs => hi.lifecycle_step hs) hi₀).1
    refine hrun ▸ destutter_prefix (fun a => ?_) LifecyclePhase.order_next hc
    cases a <;> exact ⟨_, rfl⟩
  · obtain ⟨l₁, l₂, w₂, -, hr, hs, -⟩ := hr₂.of_mem hp
    cases reply with
    | error stop => exact ⟨stop, rfl⟩
    | ok identity =>
      exact absurd (admitted_running hs he) (not_running_run hr (hI.run hr₁ hi₀) hl)
  · obtain ⟨hi, hc⟩ := (cancelled_inductive capacity).run h ((cancelled_inductive capacity).init h₀)
    obtain ⟨r, hr, hid, hp⟩ := hi.record hk ha
    refine ⟨r, hr, hid, hp, hc hl _ r ?_ hr⟩
    exact Option.isSome_of_eq_some
      (hi.index.active.mpr ⟨_, World.attempts_eq hk, ha, rfl⟩)

/-- One operation, then a quiesce, then a `reserve` that is refused. -/
def quiescedEvents : List Event :=
  reserveEvents "a" 1 ++ [.quiesce, .reserve "b" (.error (.err .admissionClosed))]

theorem admission_closes_quiesced : ∃ es w, (supervisorSys 4).Run (startWorld 4) es w ∧
    es.map (·.1) = quiescedEvents ∧
    (w.state.lifecycle ≠ .running → ∀ k op, w.ops k = some op → op.worker.active = true →
      ∃ r, w.state.records[op.identity.operationId]? = some r ∧ r.identity = op.identity ∧
        r.phase = .running ∧ r.cancellationRequested = true) := by
  have hexec : (quiescedEvents.foldlM World.exec (startWorld 4)).isSome = true := by
    decide +kernel
  obtain ⟨es, w, hr, he⟩ := Sys.Run.exec_isSome (S := supervisorSys 4) World.exec_step hexec
  exact ⟨es, w, hr, he, (admission_closes rfl hr).2.2⟩

/-! ## Worker threads -/

/-- The same operation, later. -/
structure Operation.Continues (op op' : Operation) : Prop where
  identity : op'.identity = op.identity
  exited : op.worker = .exited → op'.worker = .exited

theorem Operation.Step.continues {op op' : Operation} {e : HandleEvent} (h : op.Step e op') :
    op.Continues op' := by
  cases h <;> constructor <;> simp_all

/-- Every operation is still there. -/
def World.Continues (w w' : World) : Prop :=
  ∀ k op, w.ops k = some op → ∃ op', w'.ops k = some op' ∧ op.Continues op'

theorem World.Continues.refl (w : World) : w.Continues w := fun _ op hk => ⟨op, hk, rfl, id⟩

theorem World.Continues.trans {w'' : World} (h : w.Continues w') (h' : w'.Continues w'') :
    w.Continues w'' := by
  intro k op hk
  obtain ⟨op', hk', hc⟩ := h k op hk
  obtain ⟨op'', hk'', hc'⟩ := h' k op' hk'
  exact ⟨op'', hk'', hc'.identity.trans hc.identity, fun he => hc'.exited (hc.exited he)⟩

theorem continues_setOp {k : UInt64} {op op' : Operation} {s : ReferenceSupervisorState}
    (hk : w.ops k = some op) (h : op.Continues op') :
    w.Continues (World.setOp { w with state := s } k op') := by
  intro k₁ op₁ hk₁
  by_cases he : k₁ = k
  · subst he
    obtain rfl := Option.some.inj (hk.symm.trans hk₁)
    exact ⟨op', Function.update_self .., h⟩
  · exact ⟨op₁, update_eq_some.mpr (.inr ⟨he, hk₁⟩), rfl, id⟩

/-- A new operation has a sequence of its own. -/
theorem Inv.fresh (hi : Inv w) : w.ops w.state.nextSequence = none := by
  have := hi.minted.fresh
  rwa [World.attempts, Option.map_eq_none_iff] at this

theorem Inv.continues (hi : Inv w) (hs : Step w e w') : w.Continues w' := by
  cases hs with
  | reserve hon =>
    obtain ⟨next, -, -, -, rfl, rfl⟩ := reserveAdmission_ok hon
    intro k op hk
    refine ⟨op, update_eq_some.mpr (.inr ⟨?_, hk⟩), rfl, id⟩
    rintro rfl
    rw [show (mintIdentity _ w.state.nextSequence).sequence = w.state.nextSequence from rfl,
      hi.fresh] at hk
    cases hk
  | spawn hk hc =>
    have hf := hi.formed hk
    rw [Operation.Formed, hc] at hf
    exact continues_setOp hk ⟨rfl, fun he => by rw [hf.1] at he; cases he⟩
  | insertTask hk | readReleased hk => exact continues_setOp hk ⟨rfl, id⟩
  | handle hk hop => exact continues_setOp hk hop.continues
  | workerRelease hk hw | workerPanic hk hw =>
    exact continues_setOp hk ⟨rfl, fun he => by rw [hw] at he; cases he⟩
  | _ => exact fun k op hk => ⟨op, hk, rfl, id⟩

theorem continues_run {es : List (Event × World)} (hr : (supervisorSys capacity).Run w es w')
    (hi : Inv w) : w.Continues w' :=
  hr.rel (inv_inductive capacity) World.Continues.refl World.Continues.trans
    (fun hi hs => hi.continues hs) hi

/-- The ID is that of a worker whose thread has ended. -/
def World.Exited (w : World) (id : String) : Prop :=
  ∃ k op, id = workerId k ∧ w.ops k = some op ∧ op.worker = .exited

theorem World.Exited.continues {id : String} (h : w.Exited id) (hc : w.Continues w') :
    w'.Exited id := by
  obtain ⟨k, op, rfl, hk, hw⟩ := h
  obtain ⟨op', hk', hop⟩ := hc k op hk
  exact ⟨k, op', rfl, hk', hop.exited hw⟩

/-- The workers that a task still has to join, and those that it has joined. -/
structure JoinsOk (w : World) (pc : ShutdownPc) : Prop where
  todo : ∀ todo joined, pc = .joining todo joined → ∀ p ∈ todo, p.1 = workerId p.2.worker
  joined : ∀ todo joined, pc = .joining todo joined → ∀ id ∈ joined, w.Exited id

/-- What is listed as joined has ended. -/
structure Joins (w : World) : Prop where
  handle : ∀ {id : String} {h : JoinHandle}, w.state.tasks[id]? = some (some h) →
    id = workerId h.worker
  task : ∀ {t d}, w.shutdowns t = some d → JoinsOk w d.pc
  joined : ∀ id ∈ w.state.joinedWorkerIds, w.Exited id

theorem JoinsOk.continues {pc : ShutdownPc} (h : JoinsOk w pc) (hc : w.Continues w') :
    JoinsOk w' pc :=
  ⟨h.todo, fun todo joined hpc id hid => (h.joined todo joined hpc id hid).continues hc⟩

theorem JoinsOk.of_batch_none {pc : ShutdownPc} (h : pc.batch = none) : JoinsOk w pc := by
  constructor <;> (rintro todo joined rfl; cases h)

/-- A step that takes nothing and joins nothing. -/
theorem Joins.keep (h : Joins w) (hc : w.Continues w') (hs : w'.shutdowns = w.shutdowns)
    (ht : ∀ {id : String} {h : JoinHandle}, w'.state.tasks[id]? = some (some h) →
      w.state.tasks[id]? = some (some h) ∨ id = workerId h.worker)
    (hj : w'.state.joinedWorkerIds = w.state.joinedWorkerIds) : Joins w' where
  handle hid := (ht hid).elim h.handle id
  task hd := (h.task (hs ▸ hd)).continues hc
  joined id hid := (h.joined id (hj ▸ hid)).continues hc

/-- A step of one task. -/
theorem Joins.set (h : Joins w) {t : Nat} {d : ShutdownTask} {s : ReferenceSupervisorState}
    (hd : JoinsOk w d.pc)
    (ht : ∀ {id : String} {h : JoinHandle}, s.tasks[id]? = some (some h) →
      w.state.tasks[id]? = some (some h))
    (hj : s.joinedWorkerIds = w.state.joinedWorkerIds) :
    Joins (World.setShutdown { w with state := s } t d) where
  handle hid := h.handle (ht hid)
  task h₁ := by
    rcases update_eq_some.mp h₁ with ⟨-, rfl⟩ | ⟨-, h₁⟩
    · exact ⟨hd.todo, hd.joined⟩
    · exact ⟨(h.task h₁).todo, (h.task h₁).joined⟩
  joined id hid := h.joined id (hj ▸ hid)

/-- Taken handles are in the table no more. -/
theorem taken_handle {s : ReferenceSupervisorState} {ids : List String} {id : String}
    {h : JoinHandle} (hid : (taken s ids).tasks[id]? = some (some h)) :
    s.tasks[id]? = some (some h) := by
  rw [taken_task] at hid
  split at hid
  · cases hid
  · exact hid

theorem Joins.take (h : Joins w) {t : Nat} {d : ShutdownTask} {s : ReferenceSupervisorState}
    {todo : List (String × JoinHandle)} (hon : takeTasks.on w.state = (.ok todo, s)) :
    Joins (World.setShutdown { w with state := s } t { d with pc := .joining todo [] }) := by
  obtain ⟨htodo, rfl⟩ := takeTasks_ok hon
  refine h.set ⟨?_, ?_⟩ taken_handle rfl
  · rintro _ _ ⟨⟩ p hp
    refine h.handle (ExtTreeMap.mem_toList_iff_getElem?_eq_some.mp ?_)
    rw [htodo]
    exact List.mem_map.mpr ⟨p, hp, rfl⟩
  · rintro _ _ ⟨⟩ id hid
    cases hid

theorem Joins.join (h : Joins w) {t : Nat} {d : ShutdownTask} {id : String} {handle : JoinHandle}
    {todo : List (String × JoinHandle)} {joined : List String} {op : Operation}
    (hd : w.shutdowns t = some d) (hpc : d.pc = .joining ((id, handle) :: todo) joined)
    (hk : w.ops handle.worker = some op) (hw : op.worker = .exited) :
    Joins (w.setShutdown t { d with pc := .joining todo (joined ++ [id]) }) := by
  have hok := h.task hd
  refine h.set ⟨?_, ?_⟩ (fun h => h) rfl
  · rintro _ _ ⟨⟩ p hp
    exact hok.todo _ _ hpc p (List.mem_cons_of_mem _ hp)
  · rintro _ _ ⟨⟩ id' hid
    rcases List.mem_append.mp hid with hid | hid
    · exact hok.joined _ _ hpc id' hid
    · obtain rfl := List.mem_singleton.mp hid
      exact ⟨handle.worker, op, hok.todo _ _ hpc _ List.mem_cons_self, hk, hw⟩

theorem Joins.close (h : Joins w) {t : Nat} {d : ShutdownTask} {joined : List String}
    (hd : w.shutdowns t = some d) (hpc : d.pc = .joining [] joined) {outcome : ShutdownOutcome} :
    Joins (World.setShutdown { w with state := closed w.state joined } t
      { d with pc := .sending outcome }) where
  handle {id handle} hid := by
    have hid : (closed w.state joined).tasks[id]? = some (some handle) := hid
    rw [closed_task] at hid
    split at hid
    · cases hid
    · exact h.handle hid
  task h₁ := by
    rcases update_eq_some.mp h₁ with ⟨-, rfl⟩ | ⟨-, h₁⟩
    · exact .of_batch_none rfl
    · exact ⟨(h.task h₁).todo, (h.task h₁).joined⟩
  joined id hid := by
    rcases List.mem_append.mp hid with hid | hid
    · exact h.joined id hid
    · exact (h.task hd).joined _ _ hpc id hid

theorem ShutdownTask.Step.joins {d d' : ShutdownTask} {e : WitnessEvent} (hs : d.Step e d')
    (h : JoinsOk w d.pc) : JoinsOk w d'.pc := by
  cases hs with
  | waitStarted | waitFailed | drop => exact h
  | _ => exact .of_batch_none rfl

theorem Joins.step (h : Joins w) (hi : Inv w) (hs : Step w e w') : Joins w' := by
  have hc := hi.continues hs
  cases hs with
  | reserve hon =>
    obtain ⟨next, -, -, -, -, rfl⟩ := reserveAdmission_ok hon
    exact h.keep hc rfl .inl rfl
  | refuse hon => rwa [reserveAdmission_error hon]
  | spawn | handle | readReleased | snapshot => exact h.keep hc rfl .inl rfl
  | @insertTask k op s hk hcall hon =>
    obtain rfl := (Prod.mk.inj hon).2
    refine h.keep hc rfl (fun {id handle} hid => ?_) rfl
    simp only [World.setOp, lookup_insert] at hid
    split at hid
    · rename_i he
      obtain rfl := Option.some.inj (Option.some.inj hid)
      exact .inr he
    · exact .inl hid
  | workerRelease hk hw hon | workerPanic hk hw hon =>
    obtain ⟨r, hr, -, -⟩ := hi.record hk (by rw [hw]; rfl)
    rw [workerRelease_of_record hr] at hon
    obtain rfl := (Prod.mk.inj hon).2
    exact h.keep hc rfl .inl rfl
  | publishProgress _ _ hon =>
    rcases publishProgress_cases hon with ⟨r, -, -, -, rfl⟩ | ⟨-, rfl, -⟩
    · exact h.keep hc rfl .inl rfl
    · exact h
  | quiesce hon =>
    obtain rfl := (Prod.mk.inj hon).2
    refine h.keep hc rfl (fun {id handle} hid => .inl ?_) ?_
    · have hid : (quiesced w.state).tasks[id]? = some (some handle) := hid
      rwa [quiesced_tasks] at hid
    · show (quiesced w.state).joinedWorkerIds = _
      rw [quiesced_frame]
  | beginShutdown => exact h.set (.of_batch_none rfl) (fun h => h) rfl
  | quiesceShutdown _ _ hon =>
    obtain rfl := (Prod.mk.inj hon).2
    refine h.set (.of_batch_none rfl) (fun {id handle} hid => ?_) ?_
    · have hid : (quiesced w.state).tasks[id]? = some (some handle) := hid
      rwa [quiesced_tasks] at hid
    · show (quiesced w.state).joinedWorkerIds = _
      rw [quiesced_frame]
  | witness hd hstep => exact h.set (hstep.joins (h.task hd)) (fun h => h) rfl
  | takeTasks _ _ _ hon => exact h.take hon
  | takeTasksFailed _ _ _ hon =>
    obtain ⟨-, ids, -, rfl⟩ := takeTasks_error hon
    exact h.set (.of_batch_none rfl) taken_handle rfl
  | join hd hpc hk hw => exact h.join hd hpc hk hw
  | joinFailed => exact h.set (.of_batch_none rfl) (fun h => h) rfl
  | closeShutdown hd hpc hon =>
    rw [closeShutdown_on] at hon
    obtain ⟨-, rfl⟩ := Prod.mk.inj hon
    exact h.close hd hpc

theorem joins_inductive (capacity : Usize) :
    (supervisorSys capacity).Inductive fun w => Inv w ∧ Joins w where
  init h := by
    refine ⟨(inv_inductive capacity).init h, ?_⟩
    rw [show _ = _ from h]
    constructor <;> simp [startWorld, deterministic]
  step h hs := ⟨h.1.step hs, h.2.step h.1 hs⟩

/-- In a closed supervisor the thread of every admitted operation has ended. -/
theorem Joins.closed_exited (h : Joins w) (hi : Inv w) (hc : w.state.lifecycle = .closed)
    {k : UInt64} {op : Operation} (hk : w.ops k = some op) : op.worker = .exited := by
  obtain ⟨hidle, hreaped⟩ := hi.closing.closed hc
  have ha := World.attempts_eq hk
  have hinactive : ¬op.attempt.active = true := fun hactive => hi.not_idle hk hactive hidle
  have hinserted : op.attempt.inserted = true := by
    by_contra hn
    exact hinactive (hi.tasks.pending ha (by simpa using hn))
  have hjoined : workerId k ∈ w.state.joinedWorkerIds := by
    by_contra hn
    have := hi.tasks.task.mpr ⟨⟨k, _, ha, hinserted, rfl⟩, hn⟩
    rw [hreaped] at this
    cases this
  obtain ⟨k', op', hid, hk', hw⟩ := h.joined _ hjoined
  obtain rfl := workerId_inj.mp hid
  rwa [Option.some.inj (hk.symm.trans hk')]

/-- An operation that was admitted in a run is there at its end. -/
theorem admitted_op (hi : Inv w) {es : List (Event × World)}
    (hr : (supervisorSys capacity).Run w es w') {p : Event × World} (hp : p ∈ es)
    {operationId : String} {identity : AttemptIdentity}
    (he : p.1 = .reserve operationId (.ok identity)) :
    ∃ op, w'.ops identity.sequence = some op ∧ op.identity = identity := by
  obtain ⟨es₁, es₂, w₁, -, hr₁, hs, hr₂⟩ := hr.of_mem hp
  have hi₁ := (inv_inductive capacity).run hr₁ hi
  have hc := continues_run hr₂ (hi₁.step hs)
  rw [he] at hs
  have hop : p.2.ops identity.sequence = some ⟨identity, .spawning, .unspawned, .new⟩ := by
    generalize p.2 = w₂ at hs
    cases hs with
    | reserve hon => exact Function.update_self ..
  obtain ⟨op, hk, hop⟩ := hc _ _ hop
  exact ⟨op, hk, hop.identity⟩

/-- **A shutdown waits for the worker threads.** When a shutdown of any run answers, the thread of
every operation that the run ever admits has ended, and so it is in every later state; after it
nothing is admitted. -/
theorem shutdown_joins (h₀ : (supervisorSys capacity).init w₀)
    (h : (supervisorSys capacity).Run w₀ es w) (es₁ es₂ : List (Event × World))
    (p : Event × World) (he : es = es₁ ++ p :: es₂) (outcome : ShutdownOutcome)
    (ho : p.1.outcome? = some outcome) :
    (∀ q ∈ es, ∀ operationId identity, q.1 = .reserve operationId (.ok identity) →
      ∃ op, p.2.ops identity.sequence = some op ∧ op.identity = identity ∧
        op.worker = .exited) ∧
    (∀ q ∈ es₂, ∀ operationId reply, q.1 = .reserve operationId reply →
      ∃ stop, reply = .error stop) ∧
    ∀ k op, w.ops k = some op → op.worker = .exited := by
  subst he
  obtain ⟨w₁, hr₁, hs, hr₂⟩ := h.split_cons
  have hI := joins_inductive capacity
  obtain ⟨hi₁, hj₁⟩ := hI.run hr₁ (hI.init h₀)
  obtain ⟨hi, hj⟩ : Inv p.2 ∧ Joins p.2 := hI.step ⟨hi₁, hj₁⟩ hs
  obtain ⟨hc, -⟩ := hi₁.outcome hs ho
  have hl : p.2.state.lifecycle ≠ .running := by simp [hc]
  have hlate : ∀ q ∈ es₂, ∀ operationId identity, q.1 ≠ .reserve operationId (.ok identity) := by
    intro q hq operationId identity hadm
    obtain ⟨l₁, l₂, w₂, -, hr, hs', -⟩ := hr₂.of_mem hq
    exact absurd (admitted_running hs' hadm) (not_running_run hr hi hl)
  refine ⟨fun q hq operationId identity hadm => ?_, fun q hq operationId reply hq' => ?_,
    fun k op hk => ?_⟩
  · have hmem : q ∈ es₁ ++ [p] := by
      rcases List.mem_append.mp hq with hq | hq
      · exact List.mem_append_left _ hq
      · rcases List.mem_cons.mp hq with rfl | hq
        · exact List.mem_append_right _ List.mem_cons_self
        · exact absurd hadm (hlate q hq operationId identity)
    have hrun : (supervisorSys capacity).Run w₀ (es₁ ++ [p]) p.2 := .snoc hr₁ hs
    obtain ⟨op, hk, hid⟩ := admitted_op ((inv_inductive capacity).init h₀) hrun hmem hadm
    exact ⟨op, hk, hid, hj.closed_exited hi hc hk⟩
  · cases reply with
    | error stop => exact ⟨stop, rfl⟩
    | ok identity => exact absurd hq' (hlate q hq operationId identity)
  · obtain ⟨hi', hj'⟩ := hI.run hr₂ ⟨hi, hj⟩
    exact hj'.closed_exited hi' (hr₂.rel (inv_inductive capacity) Settled.refl Settled.trans
      (fun h hs => h.settled hs) hi hc).1 hk

/-- Two shutdowns, one after the other: each of the two answers finds the worker ended. -/
theorem shutdown_joins_twice : ∃ es w, (supervisorSys 4).Run (startWorld 4) es w ∧
    es.map (·.1) = shutdownTwice ∧ ∀ es₁ es₂ p outcome, es = es₁ ++ p :: es₂ →
      p.1.outcome? = some outcome → ∀ k op, w.ops k = some op → op.worker = .exited := by
  have hexec : (shutdownTwice.foldlM World.exec (startWorld 4)).isSome = true := by
    decide +kernel
  obtain ⟨es, w, hr, he⟩ := Sys.Run.exec_isSome (S := supervisorSys 4) World.exec_step hexec
  exact ⟨es, w, hr, he, fun es₁ es₂ p outcome hes ho =>
    (shutdown_joins rfl hr es₁ es₂ p hes outcome ho).2.2⟩

end Supervisor
end Testkit
end Platform
