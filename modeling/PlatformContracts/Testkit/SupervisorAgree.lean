import PlatformContracts.Testkit.SupervisorReplay

/-!
# The two reference implementations agree

* `related_inductive`: the simulation holds along every replay.
* `replay_agrees`: after every call of a replay, both gave the same answer and show the same.
* `replay_run`: the supervisor's side of a replay is a run of `supervisorSys`, so what holds under
  any callers holds of it.
-/

namespace Platform
namespace Testkit
namespace Supervisor

open Std

variable {s : ReferenceSupervisorState} {a : ReferenceState}

/-! ## Every replay -/

theorem Related.init {capacity : Usize}
    (h : Testkit.deterministic { nextSequence := 1, progressCapacity := capacity } = .ok a) :
    Related (deterministic capacity) a := by
  have hbooks := Testkit.Inv.init h
  have hpos : 0 < capacity := by
    by_contra hn
    simp [Testkit.deterministic, hn] at h
  obtain rfl := deterministic_eq_ok h
  exact ⟨hbooks, rfl, rfl, rfl, hpos, rfl, by simp [deterministic], by simp [deterministic]⟩

theorem related_inductive (capacity : Usize) :
    (replaySys capacity).Inductive fun x => Related x.1 x.2 where
  init := by
    intro x hx
    rw [hx.1]
    exact Related.init hx.2
  step := by
    intro x e y hx hs
    obtain ⟨hc, hb, ha⟩ := hs
    obtain ⟨reply, s', a', hb', ha', -, hr, -⟩ := hx.call hc
    rw [hb'] at hb
    rw [ha'] at ha
    rw [← (Prod.mk.inj hb).2, ← (Prod.mk.inj ha).2]
    exact hr

/-- A caller cannot tell related states apart. -/
theorem Related.agree (h : Related s a) : Agree s a := by
  refine ⟨h.lifecycle, by rw [h.active], fun id => by rw [h.active], ?_, ?_⟩
  · intro id hi
    obtain ⟨k, hk⟩ := Option.isSome_iff_exists.mp hi
    obtain ⟨r, hr, hseq, -⟩ := h.live hk
    obtain ⟨attempt, ha, rfl, -⟩ := h.record hr
    rw [hseq] at ha
    refine ⟨Testkit.snapshot attempt, hr, ?_⟩
    unfold currentSnapshot
    rw [← h.active, hk]
    dsimp only
    rw [ha]
    rfl
  · intro id r hr
    obtain ⟨attempt, ha, rfl, -⟩ := h.record hr
    simp only [leaseSnapshot, ha]
    simp [Testkit.snapshot]

/-- **The two references agree.** Under any sequence of calls, each on no operation or on one that
is still active, every call has the same answer in both, which is never a panic; after it both show
the same, and an attempt that it finished has the same terminal record. -/
theorem replay_agrees {capacity : Usize} {x₀ x : ReferenceSupervisorState × ReferenceState}
    {es : List (ReplayEvent × (ReferenceSupervisorState × ReferenceState))}
    (hinit : (replaySys capacity).init x₀) (hrun : (replaySys capacity).Run x₀ es x) :
    ∀ p ∈ es, p.1.bridge = p.1.adapter ∧ (∀ message, p.1.bridge ≠ .error (.panic message)) ∧
      Agree p.2.1 p.2.2 ∧ p.1.call.Ended p.2.1 p.2.2 := by
  intro p hp
  obtain ⟨es₁, -, x₁, -, h₁, hs, -⟩ := hrun.of_mem hp
  have hI := related_inductive capacity
  have h := hI.run h₁ (hI.init hinit)
  obtain ⟨hc, hb, ha⟩ := hs
  obtain ⟨reply, s', a', hb', ha', hpanic, hr, he⟩ := h.call hc
  obtain ⟨h₁, h₂⟩ := Prod.mk.inj (hb.symm.trans hb')
  obtain ⟨h₃, h₄⟩ := Prod.mk.inj (ha.symm.trans ha')
  rw [h₁, h₂, h₃, h₄]
  exact ⟨rfl, hpanic, hr.agree, he⟩

/-! ### A replay, computed -/

instance (s : ReferenceSupervisorState) (c : Call) : Decidable (c.StillActive s) :=
  inferInstanceAs (Decidable (∀ op ∈ c.op?, _ ∧ _))

/-- Both states after the call, if it can happen and gives these answers. -/
def replayExec (x : ReferenceSupervisorState × ReferenceState) (e : ReplayEvent) :
    Option (ReferenceSupervisorState × ReferenceState) :=
  let b := e.call.bridge.on x.1
  let a := e.call.adapter.on x.2
  if e.call.StillActive x.1 ∧ b.1 = e.bridge ∧ a.1 = e.adapter then some (b.2, a.2) else none

theorem replayExec_step {capacity : Usize} {x y : ReferenceSupervisorState × ReferenceState}
    {e : ReplayEvent} (h : replayExec x e = some y) : (replaySys capacity).step x e y := by
  unfold replayExec at h
  rw [Option.ite_none_right_eq_some] at h
  obtain ⟨⟨hc, hb, ha⟩, h⟩ := h
  obtain rfl := Option.some.inj h
  exact ⟨hc, Prod.ext hb rfl, Prod.ext ha rfl⟩

/-- A call with the same answer in both. -/
def answered (call : Call) (reply : Except (Stop AdapterError) (Option AttemptIdentity)) :
    ReplayEvent :=
  ⟨call, reply, reply⟩

/-- A duplicate, a public ID that is used again while its first attempt is archived, a progress
that overflows, and calls after `quiesce`. -/
def replayReused : List ReplayEvent :=
  let a₁ := mintIdentity "a" 1
  let b₂ := mintIdentity "b" 2
  let a₃ := mintIdentity "a" 3
  [answered (.reserve "a") (.ok (some a₁)),
    answered (.reserve "a") (.error (.err .duplicateOperation)),
    answered (.reserve "b") (.ok (some b₂)),
    answered (.finish a₁ .completed) (.ok none),
    answered (.reserve "a") (.ok (some a₃)),
    answered (.publishProgress a₃ 7) (.ok none),
    answered (.publishProgress a₃ 8) (.ok none),
    answered .quiesce (.ok none),
    answered (.reserve "c") (.error (.err .admissionClosed)),
    answered (.panic a₃) (.ok none),
    answered (.finish b₂ .cancelled) (.ok none)]

theorem replay_agrees_reused :
    ∃ es x, (replaySys 1).Run (deterministic 1, ⟨.running, 1, 1, ∅, ∅, 0, 0⟩) es x ∧
      es.map (·.1) = replayReused ∧
      ∀ p ∈ es, p.1.bridge = p.1.adapter ∧ (∀ message, p.1.bridge ≠ .error (.panic message)) ∧
        Agree p.2.1 p.2.2 ∧ p.1.call.Ended p.2.1 p.2.2 := by
  have hinit : (replaySys 1).init (deterministic 1, ⟨.running, 1, 1, ∅, ∅, 0, 0⟩) := ⟨rfl, rfl⟩
  have hexec : (replayReused.foldlM replayExec
      (deterministic 1, ⟨.running, 1, 1, ∅, ∅, 0, 0⟩)).isSome = true := by
    decide +kernel
  obtain ⟨es, x, hr, he⟩ := Sys.Run.exec_isSome (S := replaySys 1) replayExec_step hexec
  exact ⟨es, x, hr, he, replay_agrees hinit hr⟩

/-! ## The calls of a replay among those of any callers -/

/-- An operation whose worker waits for its command, and whose caller keeps the handle. -/
def waitingOperation (identity : AttemptIdentity) : Operation :=
  ⟨identity, .returned, .receiving, .new⟩

/-- The world between two calls of a replay. -/
structure Between (w : World) (s : ReferenceSupervisorState) : Prop where
  state : w.state = s
  op : ∀ {id : String} {k : UInt64}, s.active[id]? = some k →
    w.ops k = some (waitingOperation (mintIdentity id k))

variable {w : World} {capacity : Usize}

/-- The call is a run of the bridge, which ends between two calls. -/
def RunsTo (capacity : Usize) (w : World) (s : ReferenceSupervisorState) : Prop :=
  ∃ es w', (supervisorSys capacity).Run w es w' ∧ Between w' s

/-- The sequence that an admission gets is new. -/
theorem Related.active_ne (h : Related s a) {id : String} {k : UInt64}
    (hk : s.active[id]? = some k) : k ≠ s.nextSequence := by
  rintro rfl
  obtain ⟨r, hr, hseq, -⟩ := h.live hk
  obtain ⟨attempt, ha, -⟩ := h.record hr
  rw [hseq, h.nextSequence, h.books.fresh] at ha
  cases ha

theorem Between.reserve (hb : Between w s) (h : Related s a) (id : String) :
    RunsTo capacity w ((Call.reserve id).bridge.on s).2 := by
  obtain ⟨rfl, hop⟩ := hb
  simp only [Call.bridge, Exec.on_bind]
  rcases hon : (reserveAdmission id).on w.state with ⟨e | identity, s₁⟩
  · refine ⟨_, _, Sys.Run.one (Step.refuse hon), rfl, ?_⟩
    rw [reserveAdmission_error hon]
    exact hop
  · obtain ⟨next, -, -, -, rfl, rfl⟩ := reserveAdmission_ok hon
    let n := w.state.nextSequence
    let op : Operation := ⟨mintIdentity id n, .spawning, .unspawned, .new⟩
    let w₁ := World.setOp { w with state := admitted w.state id next } n op
    let op₂ : Operation := ⟨mintIdentity id n, .inserting, .receiving, .new⟩
    let w₂ := w₁.setOp n op₂
    have h₁ : (supervisorSys capacity).step w _ w₁ := Step.reserve hon
    have hop₁ : w₁.ops n = some op := Function.update_self ..
    have h₂ : (supervisorSys capacity).step w₁ (.spawn n) w₂ := Step.spawn hop₁ rfl
    have hop₂ : w₂.ops n = some op₂ := Function.update_self ..
    have hinsert : (insertTask n).on w₂.state = (.ok (), bridged w.state id next) := rfl
    have h₃ : (supervisorSys capacity).step w₂ _ _ := Step.insertTask hop₂ rfl hinsert
    refine ⟨_, _, ((Sys.Run.one h₁).snoc h₂).snoc h₃, rfl, ?_⟩
    intro id' k hk
    change (w.state.active.insert id n)[id']? = some k at hk
    rw [lookup_insert] at hk
    split at hk
    · rename_i he
      obtain rfl := Option.some.inj hk
      rw [he]
      exact Function.update_self ..
    · have hne : k ≠ n := h.active_ne hk
      show Function.update (Function.update (Function.update w.ops n _) n _) n _ k = _
      rw [Function.update_of_ne hne, Function.update_of_ne hne, Function.update_of_ne hne]
      exact hop hk

/-- One sequence is active under one public ID. -/
theorem Related.active_inj (h : Related s a) {id id' : String} {k : UInt64}
    (hk : s.active[id]? = some k) (hk' : s.active[id']? = some k) : id = id' := by
  rw [h.active, h.books.index] at hk hk'
  obtain ⟨op, hop, hid, -⟩ := hk
  obtain ⟨op', hop', hid', -⟩ := hk'
  rw [hop] at hop'
  obtain rfl := Option.some.inj hop'
  exact hid.symm.trans hid'

/-- The command goes to the worker of the operation, which runs its section. -/
theorem Between.command (hb : Between w s) (h : Related s a) {op : AttemptIdentity}
    (hactive : s.active[op.operationId]? = some op.sequence)
    (hm : op = mintIdentity op.operationId op.sequence) (command : ReferenceWorkerCommand) :
    RunsTo capacity w ((workerRelease op.operationId command.termClass).on s).2 := by
  obtain ⟨rfl, hop⟩ := hb
  obtain ⟨attempt, -, -, -, hr⟩ := h.running hactive hm
  have hrelease : (workerRelease op.operationId command.termClass).on w.state = _ :=
    workerRelease_of_record hr
  have hk := hop hactive
  let w₁ := w.setOp op.sequence
    { waitingOperation op with worker := .commanded command, handle.command := false }
  have h₁ : (supervisorSys capacity).step w (.handle op.sequence (.command command)) w₁ := by
    rw [← hm] at hk
    exact Step.handle hk (.command command ⟨rfl, rfl⟩ rfl rfl)
  have h₂ := Step.workerRelease (w := w₁) (Function.update_self ..) rfl hrelease
  refine ⟨_, _, (Sys.Run.one h₁).snoc h₂, by rw [hrelease]; rfl, ?_⟩
  rw [hrelease]
  intro id k hk'
  change (w.state.active.erase op.operationId)[id]? = some k at hk'
  rw [lookup_erase] at hk'
  split at hk'
  · cases hk'
  · rename_i hne
    have hseq : k ≠ op.sequence := by
      rintro rfl
      exact hne (h.active_inj hk' hactive)
    show Function.update (Function.update w.ops op.sequence _) op.sequence _ k = _
    rw [Function.update_of_ne hseq, Function.update_of_ne hseq]
    exact hop hk'

theorem Between.publish (hb : Between w s) {op : AttemptIdentity} {progress : UInt64}
    (hop : (Call.publishProgress op progress).StillActive s) :
    RunsTo capacity w ((Supervisor.publishProgress op.operationId progress).on s).2 := by
  obtain ⟨rfl, hops⟩ := hb
  obtain ⟨hactive, hm⟩ := hop op rfl
  have hk := hops hactive
  rw [← hm] at hk
  rcases hon : (Supervisor.publishProgress op.operationId progress).on w.state with ⟨reply, s'⟩
  have hactive' : s'.active = w.state.active := by
    rcases publishProgress_cases hon with ⟨r, -, -, -, rfl⟩ | ⟨-, rfl, -⟩ <;> rfl
  refine ⟨_, _, Sys.Run.one (Step.publishProgress hk ⟨rfl, rfl⟩ hon), rfl, ?_⟩
  rw [hactive']
  exact hops

theorem Between.quiesce (hb : Between w s) : RunsTo capacity w (quiesced s) := by
  obtain ⟨rfl, hop⟩ := hb
  refine ⟨_, _, Sys.Run.one (Step.quiesce quiesceInner_on), rfl, ?_⟩
  rw [quiesced_active]
  intro id k hk
  exact hop hk

theorem Between.call (hb : Between w s) (h : Related s a) {c : Call} (hc : c.StillActive s) :
    RunsTo capacity w (c.bridge.on s).2 := by
  cases c with
  | reserve id => exact hb.reserve h id
  | finish op termClass =>
    obtain ⟨hactive, hm⟩ := hc op rfl
    simp only [Call.bridge, Exec.on_bind_pure]
    exact hb.command h hactive hm (.finish termClass)
  | panic op =>
    obtain ⟨hactive, hm⟩ := hc op rfl
    simp only [Call.bridge, Exec.on_bind_pure]
    exact hb.command h hactive hm .panic
  | publishProgress op progress =>
    simp only [Call.bridge, Exec.on_bind_pure]
    exact hb.publish hc
  | quiesce => exact hb.quiesce

/-- The supervisor's side of a replay is a run of the bridge. -/
theorem replay_run {x₀ x : ReferenceSupervisorState × ReferenceState}
    {es : List (ReplayEvent × (ReferenceSupervisorState × ReferenceState))}
    (hinit : (replaySys capacity).init x₀) (hrun : (replaySys capacity).Run x₀ es x) :
    RunsTo capacity (startWorld capacity) x.1 := by
  have hI := related_inductive capacity
  induction hrun with
  | nil => exact ⟨[], _, .nil, hinit.1.symm, by rw [hinit.1]; simp [deterministic]⟩
  | snoc hrun hs ih =>
    obtain ⟨es₁, w₁, hr₁, hb⟩ := ih
    obtain ⟨hc, hon, -⟩ := hs
    have hcall : RunsTo capacity w₁ _ := hb.call (hI.run hrun (hI.init hinit)) hc
    obtain ⟨es₂, w₂, hr₂, hb₂⟩ := hcall
    rw [hon] at hb₂
    exact ⟨_, w₂, hr₁.trans hr₂, hb₂⟩

end Supervisor
end Testkit
end Platform
