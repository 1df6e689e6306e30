import PlatformContracts.Testkit.SupervisorShutdown

/-!
# The order of the worker IDs in a shutdown outcome

The supervisor lists the expected workers in the order of their admission and the joined ones in
the order of the task table, which compares IDs as strings: `worker-10` comes before `worker-2`.

* `workerIds n`: the IDs of the first `n` workers; `workerIds_sorted`: they are in string order
  exactly when `n < 10`.
* `Ordered`: how the lists of a state are ordered; `ordered_inductive`: every step keeps it.
* `joined_order`: the two lists of every outcome, and when they differ.
-/

namespace Platform
namespace Testkit
namespace Supervisor

open Std

/-! ## Worker IDs -/

/-- The IDs of the first `n` workers, in the order of their sequences. -/
def workerIds (n : Nat) : List String :=
  (List.range n).map fun i => workerId (UInt64.ofNat (i + 1))

@[simp] theorem workerIds_length (n : Nat) : (workerIds n).length = n := by simp [workerIds]

theorem workerIds_succ (n : Nat) :
    workerIds (n + 1) = workerIds n ++ [workerId (UInt64.ofNat (n + 1))] := by
  simp [workerIds, List.range_succ]

theorem workerIds_sublist {m n : Nat} (h : m ≤ n) : (workerIds m).Sublist (workerIds n) :=
  (List.range_sublist.mpr h).map _

/-- Ten workers are enough for the string order to differ from the order of the sequences. -/
theorem workerIds_sorted (n : Nat) : (workerIds n).Pairwise (· < ·) ↔ n < 10 := by
  constructor
  · intro h
    by_contra hn
    have hten : (workerIds 10).Pairwise (· < ·) := h.sublist (workerIds_sublist (by omega))
    exact absurd hten (by decide +kernel)
  · intro h
    have hnine : (workerIds 9).Pairwise (· < ·) := by decide +kernel
    exact hnine.sublist (workerIds_sublist (by omega))

/-- The same IDs in string order are another list exactly when there are ten. -/
theorem workerIds_ne_iff {n : Nat} {ids : List String} (hperm : (workerIds n).Perm ids)
    (hsorted : ids.Pairwise (· < ·)) : workerIds n ≠ ids ↔ 10 ≤ n := by
  rw [← Nat.not_lt, ← workerIds_sorted, ne_eq, not_iff_not]
  constructor
  · intro he
    rw [he]
    exact hsorted
  · intro h
    exact List.Perm.eq_of_pairwise (fun a b _ _ hab hba => absurd hba (lt_asymm hab)) h hsorted
      hperm

/-! ## The lists of a state -/

/-- What a task took is in order. -/
def Batches (shutdowns : Nat → Option ShutdownTask) : Prop :=
  ∀ t d ids, shutdowns t = some d → d.pc.batch = some ids → ids.Pairwise (· < ·)

structure Ordered (w : World) : Prop where
  expected : w.state.expectedWorkerIds = workerIds w.state.expectedWorkerIds.length
  /-- Handles are taken in the order of the task table. -/
  batch : Batches w.shutdowns
  joined : w.state.joinedWorkerIds.Pairwise (· < ·)
  unjoined : w.state.lifecycle ≠ .closed → w.state.joinedWorkerIds = []

section Steps

variable {w w' : World} {t : Nat} {d : ShutdownTask} {s : ReferenceSupervisorState}

theorem Batches.set {shutdowns : Nat → Option ShutdownTask} (h : Batches shutdowns)
    (hb : ∀ {ids}, d.pc.batch = some ids → ids.Pairwise (· < ·)) :
    Batches (Function.update shutdowns t (some d)) := by
  intro t₁ d₁ ids h₁ hids
  rcases update_eq_some.mp h₁ with ⟨-, rfl⟩ | ⟨-, h₁⟩
  · exact hb hids
  · exact h t₁ d₁ ids h₁ hids

theorem Batches.setNone {shutdowns : Nat → Option ShutdownTask} (h : Batches shutdowns)
    (hb : d.pc.batch = none) : Batches (Function.update shutdowns t (some d)) :=
  h.set fun hids => absurd (hb.symm.trans hids) (Option.some_ne_none _).symm

/-- A step that leaves the lists, and does not reopen a closed supervisor. -/
theorem Ordered.keep (h : Ordered w)
    (he : w'.state.expectedWorkerIds = w.state.expectedWorkerIds)
    (hj : w'.state.joinedWorkerIds = w.state.joinedWorkerIds)
    (hl : w.state.lifecycle = .closed → w'.state.lifecycle = .closed)
    (hb : Batches w'.shutdowns) : Ordered w' := by
  refine ⟨?_, hb, ?_, fun hc => ?_⟩
  · rw [he]
    exact h.expected
  · rw [hj]
    exact h.joined
  · rw [hj]
    exact h.unjoined fun hw => hc (hl hw)

theorem Ordered.quiesced (h : Ordered w) {shutdowns : Nat → Option ShutdownTask}
    (hb : Batches shutdowns) :
    Ordered { w with state := quiesced w.state, shutdowns := shutdowns } := by
  refine h.keep ?_ ?_ quiesced_closed.mpr hb
  · show (Supervisor.quiesced w.state).expectedWorkerIds = _
    rw [quiesced_frame]
  · show (Supervisor.quiesced w.state).joinedWorkerIds = _
    rw [quiesced_frame]

theorem Ordered.reserve (h : Ordered w) (hi : Inv w) {operationId : String} {next : UInt64}
    {ops : UInt64 → Option Operation} :
    Ordered { w with state := admitted w.state operationId next, ops := ops } := by
  refine ⟨?_, h.batch, h.joined, h.unjoined⟩
  have hseq : w.state.nextSequence =
      UInt64.ofNat (w.state.expectedWorkerIds.length + 1) := by
    rw [hi.minted.length, UInt64.ofNat_toNat]
  show w.state.expectedWorkerIds ++ [workerId w.state.nextSequence] = workerIds
    (w.state.expectedWorkerIds ++ [workerId w.state.nextSequence]).length
  rw [List.length_append, List.length_singleton, workerIds_succ, ← h.expected, ← hseq]

theorem Ordered.take (h : Ordered w) {todo : List (String × JoinHandle)}
    (hon : takeTasks.on w.state = (.ok todo, s)) :
    Ordered (World.setShutdown { w with state := s } t { d with pc := .joining todo [] }) := by
  obtain ⟨htodo, rfl⟩ := takeTasks_ok hon
  refine h.keep rfl rfl id (h.batch.set fun {ids} hb => ?_)
  obtain rfl := Option.some.inj hb
  have hkeys : todo.map (·.1) = w.state.tasks.toList.map (·.1) := by
    rw [htodo, List.map_map]
    rfl
  rw [List.nil_append, hkeys, List.pairwise_map]
  exact ExtTreeMap.ordered_keys_toList.imp fun hlt => compare_lt_iff_lt.mp hlt

theorem Ordered.close (h : Ordered w) (hi : Inv w) (hd : w.shutdowns t = some d)
    {joined : List String} (hpc : d.pc = .joining [] joined) {outcome : ShutdownOutcome} :
    Ordered (World.setShutdown { w with state := closed w.state joined } t
      { d with pc := .sending outcome }) := by
  have hb : d.pc.batch = some joined := by rw [hpc]; simp [ShutdownPc.batch]
  refine ⟨h.expected, h.batch.setNone rfl, ?_, fun hc => absurd rfl hc⟩
  show (w.state.joinedWorkerIds ++ joined).Pairwise (· < ·)
  by_cases hc : w.state.lifecycle = .closed
  · -- Another shutdown has joined the workers: there was nothing to take.
    have hnil : joined = [] := by
      refine List.eq_nil_iff_forall_not_mem.mpr fun id hid => ?_
      have := ((hi.closing.task hd).keys hb).mp hid
      rw [(hi.closing.closed hc).2 id] at this
      cases this
    rw [hnil, List.append_nil]
    exact h.joined
  · rw [h.unjoined hc, List.nil_append]
    exact h.batch _ _ _ hd hb

theorem Ordered.step {e : Event} (h : Ordered w) (hi : Inv w) (hs : Step w e w') :
    Ordered w' := by
  cases hs with
  | reserve hon =>
    obtain ⟨next, -, -, -, -, rfl⟩ := reserveAdmission_ok hon
    exact h.reserve hi
  | refuse hon => rwa [reserveAdmission_error hon]
  | spawn | handle | readReleased => exact h.keep rfl rfl id h.batch
  | insertTask _ _ hon =>
    obtain rfl := (Prod.mk.inj hon).2
    exact h.keep rfl rfl id h.batch
  | workerRelease hk hw hon | workerPanic hk hw hon =>
    obtain ⟨r, hr, -, -⟩ := hi.record hk (by rw [hw]; rfl)
    rw [workerRelease_of_record hr] at hon
    obtain rfl := (Prod.mk.inj hon).2
    exact h.keep rfl rfl id h.batch
  | snapshot => exact h
  | publishProgress _ _ hon =>
    rcases publishProgress_cases hon with ⟨r, -, -, -, rfl⟩ | ⟨-, rfl, -⟩
    · exact h.keep rfl rfl id h.batch
    · exact h
  | quiesce hon =>
    rw [← (Prod.mk.inj hon).2]
    exact h.quiesced h.batch
  | beginShutdown => exact h.keep rfl rfl id (h.batch.setNone rfl)
  | quiesceShutdown _ _ hon =>
    rw [← (Prod.mk.inj hon).2]
    exact h.quiesced (h.batch.setNone rfl)
  | witness hd hstep =>
    have hb := (hstep.ok (hi.closing.task hd)).2
    exact h.keep rfl rfl id (h.batch.set fun hids => h.batch _ _ _ hd (hb.symm.trans hids))
  | takeTasks _ _ _ hon => exact h.take hon
  | takeTasksFailed _ _ _ hon =>
    obtain ⟨-, ids, -, rfl⟩ := takeTasks_error hon
    exact h.keep rfl rfl id (h.batch.setNone rfl)
  | @join t d id handle todo joined op hd hpc =>
    refine h.keep rfl rfl (fun hc => hc) (h.batch.set fun {ids} hids => h.batch _ _ _ hd ?_)
    rw [← hids, hpc]
    simp [ShutdownPc.batch]
  | joinFailed => exact h.keep rfl rfl id (h.batch.setNone rfl)
  | closeShutdown hd hpc hon =>
    rw [closeShutdown_on] at hon
    obtain ⟨-, rfl⟩ := Prod.mk.inj hon
    exact h.close hi hd hpc

end Steps

theorem ordered_inductive (capacity : Usize) :
    (supervisorSys capacity).Inductive fun w => Inv w ∧ Ordered w where
  init h := by
    refine ⟨(inv_inductive capacity).init h, ?_⟩
    rw [show _ = _ from h]
    constructor <;> simp [startWorld, deterministic, workerIds, Batches]
  step h hs := ⟨h.1.step hs, h.2.step h.1 hs⟩

/-! ## Outcomes -/

/-- A call of `reserve` that was admitted. -/
def Event.admits : Event → Bool
  | .reserve _ (.ok _) => true
  | _ => false

theorem expected_length_step {w w' : World} {e : Event} (hi : Inv w) (hs : Step w e w') :
    w'.state.expectedWorkerIds.length =
      w.state.expectedWorkerIds.length + e.admits.toNat := by
  cases hs with
  | reserve hon =>
    obtain ⟨next, -, -, -, -, rfl⟩ := reserveAdmission_ok hon
    exact List.length_append
  | refuse hon =>
    rw [reserveAdmission_error hon]
    rfl
  | insertTask _ _ hon =>
    obtain rfl := (Prod.mk.inj hon).2
    rfl
  | workerRelease hk hw hon | workerPanic hk hw hon =>
    obtain ⟨r, hr, -, -⟩ := hi.record hk (by rw [hw]; rfl)
    rw [workerRelease_of_record hr] at hon
    obtain rfl := (Prod.mk.inj hon).2
    rfl
  | publishProgress _ _ hon =>
    rcases publishProgress_cases hon with ⟨r, -, -, -, rfl⟩ | ⟨-, rfl, -⟩ <;> rfl
  | quiesce hon | quiesceShutdown _ _ hon =>
    obtain rfl := (Prod.mk.inj hon).2
    show (quiesced w.state).expectedWorkerIds.length = _
    rw [quiesced_frame]
    rfl
  | takeTasks _ _ _ hon =>
    obtain ⟨-, rfl⟩ := takeTasks_ok hon
    rfl
  | takeTasksFailed _ _ _ hon =>
    obtain ⟨-, ids, -, rfl⟩ := takeTasks_error hon
    rfl
  | closeShutdown _ _ hon =>
    rw [closeShutdown_on] at hon
    obtain ⟨-, rfl⟩ := Prod.mk.inj hon
    rfl
  | _ => rfl

variable {capacity : Usize} {w₀ w : World} {es : List (Event × World)}

/-- Every outcome lists the workers of the admitted operations, first in the order of their
admission and then in the order of their IDs as strings; the two lists differ exactly when ten
operations were admitted. -/
theorem joined_order (hi : (supervisorSys capacity).init w₀)
    (hr : (supervisorSys capacity).Run w₀ es w) {p : Event × World} (hp : p ∈ es)
    {outcome : ShutdownOutcome} (ho : p.1.outcome? = some outcome) :
    outcome.expectedWorkerIds = workerIds (es.countP fun p => p.1.admits) ∧
    outcome.joinedWorkerIds.Perm outcome.expectedWorkerIds ∧
    outcome.joinedWorkerIds.Pairwise (· < ·) ∧
    (outcome.expectedWorkerIds ≠ outcome.joinedWorkerIds ↔
      10 ≤ es.countP fun p => p.1.admits) := by
  obtain ⟨hc, rfl⟩ := outcome_of_run hi hr hp ho
  have hind := ordered_inductive capacity
  obtain ⟨hinv, hord⟩ := hind.run hr (hind.init hi)
  have hcount : w.state.expectedWorkerIds.length = es.countP fun p => p.1.admits := by
    have := hr.count (c := Event.admits) (f := fun w => w.state.expectedWorkerIds.length)
      (inv_inductive capacity) expected_length_step ((inv_inductive capacity).init hi)
    rw [this, show w₀ = _ from hi]
    exact Nat.zero_add _
  have hexpected := hord.expected
  rw [hcount] at hexpected
  have hperm : (workerIds (es.countP fun p => p.1.admits)).Perm w.state.joinedWorkerIds := by
    rw [← hexpected]
    exact (hinv.canonical hc).perm
  have hne := workerIds_ne_iff hperm hord.joined
  rw [← hexpected] at hperm hne
  exact ⟨hexpected, hperm.symm, hord.joined, hne⟩

/-- One operation and two shutdowns: each outcome lists the worker once, in both lists. -/
theorem joined_order_twice : ∃ es w, (supervisorSys 4).Run (startWorld 4) es w ∧
    es.map (·.1) = shutdownTwice ∧ ∀ p ∈ es, ∀ outcome, p.1.outcome? = some outcome →
      (outcome.expectedWorkerIds ≠ outcome.joinedWorkerIds ↔
        10 ≤ es.countP fun p => p.1.admits) := by
  have hexec : (shutdownTwice.foldlM World.exec (startWorld 4)).isSome = true := by
    decide +kernel
  obtain ⟨es, w, hr, he⟩ := Sys.Run.exec_isSome (S := supervisorSys 4) World.exec_step hexec
  exact ⟨es, w, hr, he, fun p hp outcome ho => (joined_order rfl hr hp ho).2.2.2⟩

end Supervisor
end Testkit
end Platform
