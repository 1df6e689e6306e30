import PlatformContracts.Testkit.AdapterInv
import PlatformContracts.Testkit.SupervisorInv

/-!
# The supervisor and the adapter under the same calls

* `Call`: a call of a replay; `Call.bridge` and `Call.adapter`: what it is on the supervisor and on
  the reference adapter (`start_reference`, `finish_reference`).
* `replaySys capacity`: the two side by side, from their `deterministic`.
* `Agree`, `Call.Ended`: what a caller sees of both, and of an attempt that a call finished.
* `Related`: the simulation. The registries are equal, and every record of the supervisor is that
  of the adapter's attempt. `Related.call`: a call answers the same in both, and keeps it.
-/

namespace Platform
namespace Testkit
namespace Supervisor

open Std

/-! ## The calls -/

/-- A call. An operation is named by the identity that its `reserve` issued. -/
inductive Call where
  | reserve (operationId : String)
  | finish (op : AttemptIdentity) (termClass : TerminalClass)
  | panic (op : AttemptIdentity)
  | publishProgress (op : AttemptIdentity) (progress : UInt64)
  | quiesce
  deriving DecidableEq, Repr

/-- `start_reference`; the caller keeps the ticket. -/
def startReference (operationId : String) : Adapter Reservation := do
  let reservation ← reserve operationId
  queue reservation.lease
  start reservation.lease
  pure reservation

/-- `finish_reference`. -/
def finishReference (lease : ReferenceLease) (termClass : TerminalClass) : Adapter Unit := do
  terminal lease termClass
  release lease

namespace Call

/-- The sections of the call on the supervisor, with nothing between them. The command of a finish
reaches its worker, which runs its section. -/
def bridge : Call → Supervisor (Option AttemptIdentity)
  | reserve operationId => do
    let identity ← reserveAdmission operationId
    insertTask identity.sequence
    pure (some identity)
  | finish op termClass => do
    workerRelease op.operationId (ReferenceWorkerCommand.finish termClass).termClass
    pure none
  | panic op => do
    workerRelease op.operationId ReferenceWorkerCommand.panic.termClass
    pure none
  | publishProgress op progress => do
    Supervisor.publishProgress op.operationId progress
    pure none
  | quiesce => do
    quiesceInner
    pure none

def adapter : Call → Adapter (Option AttemptIdentity)
  | reserve operationId => do
    let reservation ← startReference operationId
    pure (some reservation.ticket.identity)
  | finish op termClass => do
    finishReference ⟨op⟩ termClass
    pure none
  | panic op => do
    recordExecutorPanic ⟨op⟩
    release ⟨op⟩
    pure none
  | publishProgress op progress => do
    Testkit.publishProgress ⟨op⟩ progress
    pure none
  | quiesce => do
    Testkit.quiesce
    pure none

/-- The operation that the call is on. -/
def op? : Call → Option AttemptIdentity
  | reserve _ | quiesce => none
  | finish op _ | panic op | publishProgress op _ => some op

/-- The call is on no operation, or on one that an earlier `reserve` issued and that is active. -/
def StillActive (s : ReferenceSupervisorState) (c : Call) : Prop :=
  ∀ op ∈ c.op?, s.active[op.operationId]? = some op.sequence ∧
    op = mintIdentity op.operationId op.sequence

end Call

/-- A call of the replay and the two answers. -/
structure ReplayEvent where
  call : Call
  bridge : Except (Stop AdapterError) (Option AttemptIdentity)
  adapter : Except (Stop AdapterError) (Option AttemptIdentity)

/-- The supervisor and the adapter of the same capacity, each from its `deterministic`. -/
def replaySys (capacity : Usize) : Sys (ReferenceSupervisorState × ReferenceState) ReplayEvent where
  init x := x.1 = deterministic capacity ∧
    Testkit.deterministic { nextSequence := 1, progressCapacity := capacity } = .ok x.2
  step x e y := e.call.StillActive x.1 ∧ e.call.bridge.on x.1 = (e.bridge, y.1) ∧
    e.call.adapter.on x.2 = (e.adapter, y.2)

/-! ## What a caller sees -/

/-- Both show the same. -/
structure Agree (s : ReferenceSupervisorState) (a : ReferenceState) : Prop where
  phase : s.lifecycle = a.lifecycle
  activeCount : s.active.size = a.active.size
  activeIds : ∀ id : String, s.active[id]? = a.active[id]?
  /-- An active ID has the same snapshot, with its cancellation flag and its progress. -/
  shown : ∀ id : String, (s.active[id]?).isSome → ∃ r, snapshot id s = some r ∧
    currentSnapshot a id = some r
  /-- What the supervisor still has of a finished attempt is what the adapter has. -/
  kept : ∀ id r, snapshot id s = some r → leaseSnapshot a ⟨r.identity⟩ = some r

/-- The operation has the terminal record of the class in both, in the same snapshot. -/
def Finished (s : ReferenceSupervisorState) (a : ReferenceState) (op : AttemptIdentity)
    (termClass : TerminalClass) : Prop :=
  ∃ r, snapshot op.operationId s = some r ∧ leaseSnapshot a ⟨op⟩ = some r ∧
    r.phase = .released ∧ r.authoritativeTerminal = some ⟨termClass, op.sequence⟩

/-- A call that finishes an attempt leaves the same terminal record. -/
def Call.Ended (c : Call) (s : ReferenceSupervisorState) (a : ReferenceState) : Prop :=
  match c with
  | finish op termClass => Finished s a op termClass
  | panic op => Finished s a op .failed
  | _ => True

/-! ## The simulation -/

structure Related (s : ReferenceSupervisorState) (a : ReferenceState) : Prop where
  books : Testkit.Inv 1 a
  lifecycle : s.lifecycle = a.lifecycle
  nextSequence : s.nextSequence = a.nextSequence
  capacity : s.progressCapacity = a.progressCapacity
  positive : 0 < s.progressCapacity
  active : s.active = a.active
  record : ∀ {id : String} {r : OperationSnapshot}, s.records[id]? = some r →
    ∃ op, a.attempts[r.identity.sequence]? = some op ∧ r = Testkit.snapshot op ∧
      op.identity.operationId = id
  live : ∀ {id : String} {k : UInt64}, s.active[id]? = some k →
    ∃ r, s.records[id]? = some r ∧ r.identity.sequence = k ∧ r.phase = .running

variable {s s' : ReferenceSupervisorState} {a a' : ReferenceState}

/-- An active operation runs in the adapter, and its record is that of the attempt. -/
theorem Related.running (h : Related s a) {op : AttemptIdentity}
    (hop : s.active[op.operationId]? = some op.sequence)
    (hm : op = mintIdentity op.operationId op.sequence) :
    ∃ attempt, a.attempts[op.sequence]? = some attempt ∧ attempt.identity = op ∧
      attempt.phase = .running ∧ s.records[op.operationId]? = some (Testkit.snapshot attempt) := by
  obtain ⟨r, hr, hk, hp⟩ := h.live hop
  obtain ⟨attempt, ha, rfl, hid⟩ := h.record hr
  rw [hk] at ha
  have hminted := (h.books.attempt ha).minted
  rw [hid, ← hm] at hminted
  exact ⟨attempt, ha, hminted, hp, hr⟩

/-- A call that writes the attempt `op` on both sides. -/
theorem Related.record_write (h : Related s a) {op : AttemptIdentity}
    {attempt attempt' : ReferenceOperation} (ha : a.attempts[op.sequence]? = some attempt)
    (hid : attempt.identity = op) (hid' : attempt'.identity = op)
    (hw : ∀ k : UInt64, a'.attempts[k]? =
      if k = op.sequence then some attempt' else a.attempts[k]?) {id : String}
    {r : OperationSnapshot}
    (hr : (s.records.insert op.operationId (Testkit.snapshot attempt'))[id]? = some r) :
    ∃ op', a'.attempts[r.identity.sequence]? = some op' ∧ r = Testkit.snapshot op' ∧
      op'.identity.operationId = id := by
  rw [lookup_insert] at hr
  split at hr
  · rename_i he
    obtain rfl := Option.some.inj hr
    refine ⟨attempt', ?_, rfl, by rw [hid', he]⟩
    rw [hw, if_pos]
    show attempt'.identity.sequence = op.sequence
    rw [hid']
  · rename_i he
    obtain ⟨op', hop', hs, hi⟩ := h.record hr
    refine ⟨op', ?_, hs, hi⟩
    have hne : r.identity.sequence ≠ op.sequence := by
      intro hk
      rw [hk, ha] at hop'
      obtain rfl := Option.some.inj hop'
      rw [hid] at hi
      exact he hi.symm
    rw [hw, if_neg hne]
    exact hop'

/-- What a call does to both: the same answer, which is no panic, and they stay related. -/
def Call.Simulates (c : Call) (s : ReferenceSupervisorState) (a : ReferenceState) : Prop :=
  ∃ reply s' a', c.bridge.on s = (reply, s') ∧ c.adapter.on a = (reply, a') ∧
    (∀ message, reply ≠ .error (.panic message)) ∧ Related s' a' ∧ c.Ended s' a'

/-! ### `reserve` -/

/-- The attempt that `start_reference` leaves. -/
def startedOperation (identity : AttemptIdentity) : ReferenceOperation :=
  { newOperation identity with phase := .running }

/-- The adapter after `start_reference`. -/
structure Started (a : ReferenceState) (id : String) (next : UInt64) (a' : ReferenceState) :
    Prop where
  books : Testkit.Inv 1 a'
  lifecycle : a'.lifecycle = a.lifecycle
  nextSequence : a'.nextSequence = next
  capacity : a'.progressCapacity = a.progressCapacity
  active : a'.active = a.active.insert id a.nextSequence
  attempt : ∀ k : UInt64, a'.attempts[k]? = if k = a.nextSequence then
    some (startedOperation (mintIdentity id a.nextSequence)) else a.attempts[k]?

theorem startReference_ok (hi : Testkit.Inv 1 a) {id : String} {next : UInt64}
    (hl : a.lifecycle = .running) (hc : ¬a.active.contains id)
    (hn : checkedAdd a.nextSequence 1 = some next) :
    ∃ a', (startReference id).on a =
        (.ok ⟨⟨mintIdentity id a.nextSequence⟩, ⟨mintIdentity id a.nextSequence⟩⟩, a') ∧
      Started a id next a' := by
  obtain ⟨retained, hretained, hr⟩ := hi.reserve_ok hl hc hn
  let lease : ReferenceLease := ⟨mintIdentity id a.nextSequence⟩
  let queued : ReferenceOperation := { newOperation lease.identity with phase := .queued }
  let a₁ := a.enroll id next retained
  let a₂ := a₁.setAttempt a.nextSequence queued
  let a₃ := a₂.setAttempt a.nextSequence { queued with phase := .running }
  have h₁ : a₁.attempts[a.nextSequence]? = some (newOperation lease.identity) := by
    simp [a₁, lease, ReferenceState.enroll]
  have hq : (queue lease).on a₁ = (.ok (), a₂) := advance_ok h₁ rfl rfl (by simp)
  have h₂ : a₂.attempts[a.nextSequence]? = some queued := by
    simp [a₂, ReferenceState.setAttempt]
  have hs : (start lease).on a₂ = (.ok (), a₃) := advance_ok h₂ rfl rfl (by simp)
  have hon : (startReference id).on a = (.ok ⟨⟨lease.identity⟩, lease⟩, a₃) := by
    unfold startReference
    rw [Exec.on_bind_of_ok hr, Exec.on_bind_of_ok hq, Exec.on_bind_of_ok hs]
    rfl
  have hfree : a.active[id]? = none := by
    rw [ExtTreeMap.contains_iff_mem] at hc
    exact ExtTreeMap.getElem?_eq_none hc
  have hi₁ : Testkit.Inv 1 a₁ := hi.enroll hl hfree (checkedAdd_eq_some.mp hn) hretained
  have hi₂ : Testkit.Inv 1 a₂ := hi₁.write h₁ (.queue rfl) (by simp [queued])
  refine ⟨a₃, hon, hi₂.write h₂ (.start rfl) (by simp), rfl, rfl, rfl, rfl, ?_⟩
  intro k
  simp only [a₃, a₂, a₁, ReferenceState.setAttempt, ReferenceState.enroll, lookup_insert]
  split <;> rfl

/-- The supervisor after `reserve`. -/
def bridged (s : ReferenceSupervisorState) (id : String) (next : UInt64) :
    ReferenceSupervisorState :=
  { admitted s id next with
    tasks := s.tasks.insert (workerId s.nextSequence) (some ⟨s.nextSequence⟩) }

theorem bridge_reserve_ok {id : String} {next : UInt64} (hl : s.lifecycle = .running)
    (hc : ¬s.active.contains id) (hn : checkedAdd s.nextSequence 1 = some next) :
    (Call.reserve id).bridge.on s =
      (.ok (some (mintIdentity id s.nextSequence)), bridged s id next) := by
  have hr : (reserveAdmission id).on s =
      (.ok (mintIdentity id s.nextSequence), admitted s id next) := by
    rw [reserveAdmission_on, if_neg (not_not_intro hl), if_neg hc, hn]
  unfold Call.bridge
  rw [Exec.on_bind_of_ok hr]
  rfl

theorem Related.reserve_ok (h : Related s a) {id : String} {next : UInt64}
    (hs : Started a id next a') :
    Related (bridged s id next) a' := by
  have hnone : a.attempts[a.nextSequence]? = none := h.books.fresh
  refine ⟨hs.books, h.lifecycle.trans hs.lifecycle.symm, hs.nextSequence.symm,
    h.capacity.trans hs.capacity.symm, h.positive, ?_, ?_, ?_⟩
  · rw [hs.active, ← h.active, ← h.nextSequence]
    rfl
  · intro id' r hr
    simp only [bridged, admitted, lookup_insert] at hr
    split at hr
    · rename_i he
      obtain rfl := Option.some.inj hr
      refine ⟨startedOperation (mintIdentity id s.nextSequence), ?_, rfl, he.symm⟩
      rw [hs.attempt, h.nextSequence]
      exact if_pos rfl
    · obtain ⟨op, hop, hsnap, hid⟩ := h.record hr
      refine ⟨op, ?_, hsnap, hid⟩
      rw [hs.attempt, if_neg, hop]
      intro hk
      rw [hk, hnone] at hop
      cases hop
  · intro id' k hk
    simp only [bridged, admitted, lookup_insert] at hk ⊢
    split at hk
    · rename_i he
      obtain rfl := Option.some.inj hk
      rw [if_pos he]
      exact ⟨_, rfl, rfl, rfl⟩
    · rename_i he
      rw [if_neg he]
      exact h.live hk

theorem Related.reserve (h : Related s a) (id : String) : (Call.reserve id).Simulates s a := by
  have hadmission : (reserveAdmission id).on s = _ := reserveAdmission_on
  have hreserve : (Testkit.reserve id).on a = _ := reserve_on id
  by_cases hl : s.lifecycle = .running
  · have hl' : a.lifecycle = .running := h.lifecycle.symm.trans hl
    by_cases hc : s.active.contains id = true
    · have hc' : a.active.contains id = true := by rwa [← h.active]
      rw [if_neg (not_not_intro hl), if_pos hc] at hadmission
      rw [if_neg (not_not_intro hl'), if_pos hc'] at hreserve
      refine ⟨.error (.err .duplicateOperation), s, a, ?_, ?_, by simp, h, trivial⟩
      · rw [Call.bridge, Exec.on_bind, hadmission]
      · rw [Call.adapter, startReference, Exec.on_bind, Exec.on_bind, hreserve]
    · have hc' : ¬a.active.contains id = true := by rwa [← h.active]
      cases hn : checkedAdd s.nextSequence 1 with
      | none =>
        have hn' : checkedAdd a.nextSequence 1 = none := by rwa [← h.nextSequence]
        rw [if_neg (not_not_intro hl), if_neg hc, hn] at hadmission
        rw [if_neg (not_not_intro hl'), if_neg hc', hn'] at hreserve
        refine ⟨.error (.err .sequenceExhausted), s, a, ?_, ?_, by simp, h, trivial⟩
        · rw [Call.bridge, Exec.on_bind, hadmission]
        · rw [Call.adapter, startReference, Exec.on_bind, Exec.on_bind, hreserve]
      | some next =>
        have hn' : checkedAdd a.nextSequence 1 = some next := by rwa [← h.nextSequence]
        obtain ⟨a', hon, hs⟩ := startReference_ok h.books hl' hc' hn'
        refine ⟨_, _, a', bridge_reserve_ok hl hc hn, ?_, by simp, h.reserve_ok hs, trivial⟩
        rw [Call.adapter, Exec.on_bind_of_ok hon, h.nextSequence]
        rfl
  · have hl' : a.lifecycle ≠ .running := by rwa [← h.lifecycle]
    rw [if_pos hl] at hadmission
    rw [if_pos hl'] at hreserve
    refine ⟨.error (.err .admissionClosed), s, a, ?_, ?_, by simp, h, trivial⟩
    · rw [Call.bridge, Exec.on_bind, hadmission]
    · rw [Call.adapter, startReference, Exec.on_bind, Exec.on_bind, hreserve]

/-! ### `finish` and `panic` -/

/-- The attempt that `finish_reference` leaves. -/
def finishedOperation (termClass : TerminalClass) (attempt : ReferenceOperation) :
    ReferenceOperation :=
  { attempt with
    terminal := some { termClass, sequence := attempt.identity.sequence }
    phase := .released }

theorem snapshot_finished (termClass : TerminalClass) (attempt : ReferenceOperation) :
    Testkit.snapshot (finishedOperation termClass attempt) =
      releaseRecord termClass (Testkit.snapshot attempt) := rfl

/-- The adapter after it finished the attempt `op`. -/
structure Ended (a : ReferenceState) (op : AttemptIdentity) (attempt : ReferenceOperation)
    (a' : ReferenceState) : Prop where
  books : Testkit.Inv 1 a'
  lifecycle : a'.lifecycle = a.lifecycle
  nextSequence : a'.nextSequence = a.nextSequence
  capacity : a'.progressCapacity = a.progressCapacity
  active : a'.active = a.active.erase op.operationId
  attempt : ∀ k : UInt64, a'.attempts[k]? =
    if k = op.sequence then some attempt else a.attempts[k]?

theorem finishReference_ok (hi : Testkit.Inv 1 a) {op : AttemptIdentity}
    {attempt : ReferenceOperation} (ha : a.attempts[op.sequence]? = some attempt)
    (hid : attempt.identity = op) (hp : attempt.phase = .running) (termClass : TerminalClass) :
    ∃ a', (finishReference ⟨op⟩ termClass).on a = (.ok (), a') ∧
      Ended a op (finishedOperation termClass attempt) a' := by
  obtain rfl := hid
  let op := attempt.identity
  let ended : ReferenceOperation :=
    { attempt with
      terminal := some { termClass, sequence := op.sequence }
      phase := .terminal }
  let a₁ := a.setAttempt op.sequence ended
  have ht : (terminal ⟨op⟩ termClass).on a = (.ok (), a₁) := advance_ok ha rfl hp (by simp)
  have h₁ : a₁.attempts[op.sequence]? = some ended := by simp [a₁, ReferenceState.setAttempt]
  have hi₁ : Testkit.Inv 1 a₁ := hi.write ha (.terminal termClass hp) (by simp [ended])
  obtain ⟨retained, joined, hr, hj, hrelease⟩ :=
    hi₁.release_ok
      (show a₁.attempts[(ReferenceLease.mk op).identity.sequence]? = some ended from h₁) rfl rfl
  have hactive : a₁.active[op.operationId]? = some op.sequence :=
    hi₁.active_of_live h₁ rfl (by simp [ended])
  refine ⟨a₁.retire op ended retained joined, ?_, hi₁.retire h₁ rfl rfl hactive hr hj,
    rfl, rfl, rfl, rfl, ?_⟩
  · unfold finishReference
    rw [Exec.on_bind_of_ok ht]
    exact hrelease
  · intro k
    simp only [a₁, ReferenceState.setAttempt, ReferenceState.retire, lookup_insert]
    split <;> rfl

theorem Related.finish_ok (h : Related s a) {op : AttemptIdentity} {attempt : ReferenceOperation}
    {termClass : TerminalClass} (ha : a.attempts[op.sequence]? = some attempt)
    (hid : attempt.identity = op) (he : Ended a op (finishedOperation termClass attempt) a') :
    Related (released s op.operationId termClass (Testkit.snapshot attempt)) a' := by
  refine ⟨he.books, h.lifecycle.trans he.lifecycle.symm, h.nextSequence.trans he.nextSequence.symm,
    h.capacity.trans he.capacity.symm, h.positive, ?_, ?_, ?_⟩
  · rw [he.active, ← h.active]
    rfl
  · intro id r hr
    refine h.record_write ha hid ?_ he.attempt hr
    exact hid
  · intro id k hk
    simp only [released, lookup_erase, lookup_insert] at hk ⊢
    split at hk
    · cases hk
    · rename_i hne
      rw [if_neg hne]
      exact h.live hk

theorem Related.finish (h : Related s a) {op : AttemptIdentity} {termClass : TerminalClass}
    (hop : (Call.finish op termClass).StillActive s) :
    (Call.finish op termClass).Simulates s a := by
  obtain ⟨hactive, hm⟩ := hop op rfl
  obtain ⟨attempt, ha, hid, hp, hr⟩ := h.running hactive hm
  obtain ⟨a', hon, he⟩ := finishReference_ok h.books ha hid hp termClass
  have hrelease : (workerRelease op.operationId termClass).on s = _ := workerRelease_of_record hr
  refine ⟨.ok none, _, a', ?_, ?_, by simp, h.finish_ok ha hid he, ?_⟩
  · simp only [Call.bridge, ReferenceWorkerCommand.termClass, Exec.on_bind_pure, hrelease]
    rfl
  · simp only [Call.adapter, Exec.on_bind_pure, hon]
    rfl
  · have hsequence : attempt.identity.sequence = op.sequence := by rw [hid]
    refine ⟨Testkit.snapshot (finishedOperation termClass attempt), ?_, ?_, rfl, ?_⟩
    · simp [snapshot, released, snapshot_finished]
    · simp [leaseSnapshot, he.attempt, finishedOperation, hid]
    · simp [Testkit.snapshot, finishedOperation, hsequence]

/-- A panic is a failure in both: `catch_unwind`, `record_executor_panic`. -/
theorem bridge_panic (op : AttemptIdentity) :
    (Call.panic op).bridge = (Call.finish op .failed).bridge := rfl

theorem adapter_panic (op : AttemptIdentity) :
    (Call.panic op).adapter = (Call.finish op .failed).adapter := by
  simp only [Call.adapter, finishReference, bind_assoc]
  rfl

theorem Related.panic (h : Related s a) {op : AttemptIdentity}
    (hop : (Call.panic op).StillActive s) : (Call.panic op).Simulates s a := by
  unfold Call.Simulates
  rw [bridge_panic, adapter_panic]
  have hfinish : (Call.finish op .failed).StillActive s := hop
  exact h.finish hfinish

/-! ### `publish_progress` -/

/-- A bounded progress is never full while it is empty. -/
theorem Related.publishes (h : Related s a) {r : OperationSnapshot} (hp : r.phase = .running) :
    Publishes s r := by
  refine ⟨hp, ?_⟩
  intro hlen he
  have hpos := UInt64.lt_iff_toNat_lt.mp h.positive
  rw [he] at hlen
  simp only [List.length_nil, UInt64.toNat_zero] at hlen hpos
  omega

/-- The attempt after a publication. -/
def pushOperation (capacity : Usize) (progress : UInt64) (attempt : ReferenceOperation) :
    ReferenceOperation :=
  { attempt with progress := pushProgress capacity attempt.progress progress }

theorem Related.publish_ok (h : Related s a) {op : AttemptIdentity}
    {attempt : ReferenceOperation} (ha : a.attempts[op.sequence]? = some attempt)
    (hid : attempt.identity = op) (hp : attempt.phase = .running)
    (hr : s.records[op.operationId]? = some (Testkit.snapshot attempt)) (progress : UInt64) :
    Related (published s op.operationId progress (Testkit.snapshot attempt))
      (a.setAttempt op.sequence (pushOperation a.progressCapacity progress attempt)) := by
  have hpush : pushRecord s.progressCapacity progress (Testkit.snapshot attempt) =
      Testkit.snapshot (pushOperation a.progressCapacity progress attempt) := by
    rw [h.capacity]
    rfl
  refine ⟨h.books.write ha (.progress _ hp) (by simp [pushOperation, hp]), h.lifecycle,
    h.nextSequence, h.capacity, h.positive, h.active, ?_, ?_⟩
  · intro id r hr'
    simp only [published, hpush] at hr'
    refine h.record_write ha hid ?_ (fun k => lookup_insert) hr'
    exact hid
  · intro id k hk
    obtain ⟨r, hr', hk', hp'⟩ := h.live hk
    simp only [published, lookup_insert]
    split
    · rename_i he
      rw [he, hr] at hr'
      obtain rfl := Option.some.inj hr'
      exact ⟨_, rfl, hk', hp'⟩
    · exact ⟨r, hr', hk', hp'⟩

theorem Related.publish (h : Related s a) {op : AttemptIdentity} {progress : UInt64}
    (hop : (Call.publishProgress op progress).StillActive s) :
    (Call.publishProgress op progress).Simulates s a := by
  obtain ⟨hactive, hm⟩ := hop op rfl
  obtain ⟨attempt, ha, hid, hp, hr⟩ := h.running hactive hm
  have hadapter : (Testkit.publishProgress ⟨op⟩ progress).on a =
      (.ok (), a.setAttempt op.sequence (pushOperation a.progressCapacity progress attempt)) := by
    unfold Testkit.publishProgress
    rw [Exec.on_get_bind]
    exact advance_ok ha hid hp (by simp)
  have hbridge : (Supervisor.publishProgress op.operationId progress).on s =
      (.ok (), published s op.operationId progress (Testkit.snapshot attempt)) := by
    rcases publishProgress_cases rfl with ⟨r, hr', -, hreply, hs⟩ | ⟨hno, -⟩
    · rw [hr] at hr'
      obtain rfl := Option.some.inj hr'
      exact Prod.ext hreply hs
    · exact absurd (h.publishes hp) (hno _ hr)
  refine ⟨.ok none, _, _, ?_, ?_, by simp, h.publish_ok ha hid hp hr progress, trivial⟩
  · simp only [Call.bridge, Exec.on_bind_pure, hbridge]
    rfl
  · simp only [Call.adapter, Exec.on_bind_pure, hadapter]
    rfl

/-! ### `quiesce` -/

theorem cancelRecord_snapshot {attempt : ReferenceOperation} (hp : attempt.phase = .running) :
    cancelRecord (Testkit.snapshot attempt) = Testkit.snapshot (quiesceOperation attempt) := by
  unfold quiesceOperation
  rw [if_pos (by simp [hp])]
  rfl

/-- A record whose public ID is not active is that of a released attempt. -/
theorem Related.retired (h : Related s a) {k : UInt64} {attempt : ReferenceOperation}
    (ha : a.attempts[k]? = some attempt) (hn : s.active[attempt.identity.operationId]? = none) :
    attempt.phase = .released := by
  by_contra hp
  have hk := h.books.index.mpr ⟨attempt, ha, rfl, hp⟩
  rw [← h.active, hn] at hk
  cases hk

theorem Related.quiesce_ok (h : Related s a) (hl : s.lifecycle = .running) :
    Related (quiesced s) a.closeAdmission := by
  have hs := quiesced_frame (s := s)
  have hq : (quiesced s).lifecycle = .quiescing := by
    unfold quiesced
    rw [if_pos hl]
  rw [hq] at hs
  have hrecord : ∀ id : String, (quiesced s).records[id]? =
      if (s.active[id]?).isSome then (s.records[id]?).map cancelRecord else s.records[id]? := by
    intro id
    rw [quiesced_record]
    simp only [hl, true_and]
  have hattempt := closeAdmission_lookup h.books
  generalize (quiesced s).records = records at hs hrecord
  rw [hs]
  refine ⟨h.books.closeAdmission, rfl, h.nextSequence, h.capacity, h.positive, h.active, ?_, ?_⟩
  · intro id r' hr'
    rw [hrecord] at hr'
    split at hr'
    · -- An active record runs, so both cancel it.
      rename_i hi
      obtain ⟨k, hk⟩ := Option.isSome_iff_exists.mp hi
      obtain ⟨r, hr, -, hp⟩ := h.live hk
      rw [hr] at hr'
      obtain rfl := Option.some.inj hr'
      obtain ⟨attempt, ha, rfl, hid⟩ := h.record hr
      have hp' : attempt.phase = .running := hp
      refine ⟨quiesceOperation attempt, ?_, cancelRecord_snapshot hp', ?_⟩
      · show a.closeAdmission.attempts[(Testkit.snapshot attempt).identity.sequence]? = _
        rw [hattempt, ha, Option.map_some, if_neg (by simp [hp'])]
      · rw [← hid]
        unfold quiesceOperation
        split <;> rfl
    · -- The others are released, and neither touches them.
      rename_i hi
      rw [Option.not_isSome_iff_eq_none] at hi
      obtain ⟨attempt, ha, rfl, rfl⟩ := h.record hr'
      refine ⟨attempt, ?_, rfl, rfl⟩
      rw [hattempt, ha, Option.map_some, if_pos (h.retired ha hi)]
  · intro id k hk
    obtain ⟨r, hr, hk', hp⟩ := h.live hk
    refine ⟨cancelRecord r, ?_, hk', hp⟩
    show records[id]? = _
    rw [hrecord, hr]
    exact if_pos (Option.isSome_of_eq_some hk)

theorem Related.quiesce (h : Related s a) : Call.quiesce.Simulates s a := by
  refine ⟨.ok none, quiesced s, if a.lifecycle = .running then a.closeAdmission else a, rfl, rfl,
    by simp, ?_, trivial⟩
  by_cases hl : s.lifecycle = .running
  · rw [if_pos (h.lifecycle.symm.trans hl)]
    exact h.quiesce_ok hl
  · have hs : quiesced s = s := by
      unfold quiesced
      rw [if_neg hl]
    rw [if_neg (by rwa [← h.lifecycle]), hs]
    exact h

/-! ### Every call -/

/-- A call on an active operation does the same to both. -/
theorem Related.call (h : Related s a) {c : Call} (hc : c.StillActive s) : c.Simulates s a := by
  cases c with
  | reserve id => exact h.reserve id
  | finish op termClass => exact h.finish hc
  | panic op => exact h.panic hc
  | publishProgress op progress => exact h.publish hc
  | quiesce => exact h.quiesce

end Supervisor
end Testkit
end Platform
