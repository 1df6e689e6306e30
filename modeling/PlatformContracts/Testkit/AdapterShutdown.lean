import PlatformContracts.Testkit.AdapterHandles

/-!
# Admission, quiescence and shutdown of the reference adapter

* `lifecycle_step`: the lifecycle stays or moves to the next phase. `admission_linearizes`: it
  only moves forward, a `reserve` fails once admission is closed, and an attempt that was admitted
  before carries the cancellation request until it is terminal.
* `Inv.shutdownClose_eq`: the answer of the second section of `shutdown` and the state after it.
* `admitted_count`: the number of records is the number of `reserve`s that succeeded.
* `closed_exact`: the facts that `shutdown` reports, and that nothing happens after `Closed`.
-/

namespace Platform
namespace Testkit

open Std

variable {first : UInt64} {s s' : ReferenceState} {c : Section} {reply : Reply}

/-! ## The lifecycle -/

def LifecyclePhase.next? : LifecyclePhase → Option LifecyclePhase
  | running => some quiescing
  | quiescing => some closed
  | closed => none

/-- The phases from one on. -/
def LifecyclePhase.order : LifecyclePhase → List LifecyclePhase
  | running => [running, quiescing, closed]
  | quiescing => [quiescing, closed]
  | closed => [closed]

theorem LifecyclePhase.order_next {a b : LifecyclePhase} (h : a.next? = some b) :
    a ≠ b ∧ a.order = a :: b.order := by
  cases a <;> simp only [next?, Option.some.injEq, reduceCtorEq] at h <;> subst h <;>
    exact ⟨by decide, rfl⟩

/-- Admission succeeds while the lifecycle is `Running` only. -/
theorem Effect.reserve_reply {id : String} (he : Effect s (.reserve id) reply s') :
    (∃ e, reply = .error (.err e)) ∨ s.lifecycle = .running ∧ ∃ r, reply = .ok (.reserved r) := by
  cases he with
  | refused => exact .inl ⟨_, rfl⟩
  | admitted hl => exact .inr ⟨hl, _, rfl⟩
  | moved hm => cases hm
  | cancelled hc => cases hc
  | cancelKept hc => cases hc

section Run

variable {config : TestConfig} {w₀ w w' : World} {es : List (Event × World)} {e : Event}

/-- A thread that closes is past the `quiesce` of its `shutdown`. -/
theorem World.Ok.close_not_running (hi : w.Ok config) (hs : (adapterSys config).step w e w')
    (hc : e.sec = .shutdownClose) : w.state.lifecycle ≠ .running := by
  obtain ⟨-, p, hp, -⟩ := hs
  rw [hc] at hp
  generalize hq : w.pc e.thread = q at hp
  cases hp with
  | call h => exact absurd rfl h
  | close => exact hi.closing _ hq

theorem lifecycle_step (hi : w.Ok config) (hs : (adapterSys config).step w e w') :
    w'.state.lifecycle = w.state.lifecycle ∨
      w.state.lifecycle.next? = some w'.state.lifecycle := by
  have he := hi.effect hs
  have hclose := hi.close_not_running hs
  generalize e.sec = c at he hclose
  generalize e.reply = reply at he
  generalize w'.state = s' at he ⊢
  cases he with
  | quiesced hl => right; rw [hl]; rfl
  | closed =>
    have h := hclose rfl
    cases hl : w.state.lifecycle with
    | running => exact absurd hl h
    | quiescing => exact .inr rfl
    | closed => exact .inl rfl
  | _ => left; rfl

theorem lifecycle_in_order (h₀ : (adapterSys config).init w₀)
    (h : (adapterSys config).Run w₀ es w) :
    ((Sys.states w₀ es).map (·.state.lifecycle)).destutter (· ≠ ·) <+:
      w₀.state.lifecycle.order := by
  have hI := adapterSys_inductive config
  have hc : ((Sys.states w₀ es).map (·.state.lifecycle)).IsChain
      fun a b => b = a ∨ a.next? = some b :=
    (List.isChain_map _).mpr (h.chain hI lifecycle_step (hI.init h₀)).1
  refine destutter_prefix (fun a => ?_) LifecyclePhase.order_next hc
  cases a <;> exact ⟨_, rfl⟩

theorem not_running_run (h : (adapterSys config).Run w es w') (hi : w.Ok config)
    (hl : w.state.lifecycle ≠ .running) : w'.state.lifecycle ≠ .running :=
  (h.keeps (adapterSys_inductive config) (J := fun w => w.state.lifecycle ≠ .running)
    (fun hi hl hs => (hi.effect hs).not_running hl) hi hl).2

/-- **Admission and quiescence.** Over a run from the start: the lifecycle only moves forward; no
`reserve` succeeds after a state that is not `Running`; once it is not `Running`, every live
attempt that is not terminal carries the cancellation request; and of every `reserve` of the run,
either it failed, or its attempt carries the request from then on until it is terminal. -/
theorem admission_linearizes (h₀ : (adapterSys config).init w₀)
    (h : (adapterSys config).Run w₀ es w) :
    ((Sys.states w₀ es).map (·.state.lifecycle)).destutter (· ≠ ·) <+:
      [.running, .quiescing, .closed] ∧
    (∀ (es₁ es₂ : List (Event × World)) (w₁ : World), es = es₁ ++ es₂ →
      (adapterSys config).Run w₀ es₁ w₁ → (adapterSys config).Run w₁ es₂ w →
      w₁.state.lifecycle ≠ .running →
      ∀ p ∈ es₂, ∀ id, p.1.sec = .reserve id → ∃ e, p.1.reply = .error (.err e)) ∧
    (w.state.lifecycle ≠ .running → ∀ (id : String) (k : UInt64) (op : ReferenceOperation),
      w.state.active[id]? = some k → w.state.attempts[k]? = some op → op.phase ≠ .terminal →
      op.cancellationRequested = true) ∧
    (w.state.lifecycle ≠ .running → ∀ p ∈ es, ∀ id, p.1.sec = .reserve id →
      (∃ e, p.1.reply = .error (.err e)) ∨
      ∃ (r : Reservation) (op : ReferenceOperation), p.1.reply = .ok (.reserved r) ∧
        w.state.attempts[r.lease.identity.sequence]? = some op ∧
        op.identity = r.lease.identity ∧
        (op.phase = .terminal ∨ op.phase = .released ∨ op.cancellationRequested = true)) := by
  have hI := adapterSys_inductive config
  have hi₀ := hI.init h₀
  have hi := hI.run h hi₀
  have hreply : ∀ {es₁ : List (Event × World)} {w₁ : World} {p : Event × World} {id : String},
      (adapterSys config).Run w₀ es₁ w₁ → (adapterSys config).step w₁ p.1 p.2 →
      p.1.sec = .reserve id → (∃ e, p.1.reply = .error (.err e)) ∨
        w₁.state.lifecycle = .running ∧ ∃ r, p.1.reply = .ok (.reserved r) := by
    intro es₁ w₁ p id hr hs hc
    have he := (hI.run hr hi₀).effect hs
    rw [hc] at he
    exact he.reserve_reply
  have hrun : w₀.state.lifecycle.order = [.running, .quiescing, .closed] := by
    rw [deterministic_eq_ok h₀.1]
    rfl
  refine ⟨hrun ▸ lifecycle_in_order h₀ h, fun es₁ es₂ w₁ he hr hr' hl p hp id hc => ?_,
    fun hl id k op ha hk hp => ?_, fun hl p hp id hc => ?_⟩
  · obtain ⟨l₁, l₂, w₂, -, h₁, hs, -⟩ := hr'.of_mem hp
    rcases hreply (hr.trans h₁) hs hc with h | ⟨hrun, -⟩
    · exact h
    · exact absurd hrun (not_running_run h₁ (hI.run hr hi₀) hl)
  · obtain ⟨op', hk', -, hrel⟩ := hi.books.index.mp ha
    rw [hk] at hk'
    obtain rfl := Option.some.inj hk'
    exact hi.books.cancelled hl hk fun hf => hf.elim hp hrel
  · obtain ⟨l₁, l₂, w₂, -, h₁, hs, -⟩ := h.of_mem hp
    rcases hreply h₁ hs hc with h' | ⟨-, r, hr⟩
    · exact .inl h'
    · obtain ⟨-, op, hk, hid⟩ := minted_record h hi₀ hp hr
      refine .inr ⟨r, op, hr, hk, hid, ?_⟩
      by_cases hf : op.Finished
      · exact hf.imp_right .inl
      · exact .inr (.inr (hi.books.cancelled hl hk hf))

/-- One `reserve` before the `quiesce` and one after it. -/
def quiescedCalls : List Section := [.reserve "a", .quiesce, .reserve "b"]

def quiescedWorld : World where
  state := stateAfter startWorld.state quiescedCalls
  pc _ := .idle

theorem quiescedWorld_run :
    (adapterSys {}).Run startWorld (callEvents startWorld quiescedCalls) quiescedWorld :=
  run_callEvents {} (by simp [quiescedCalls]) fun _ => rfl

theorem admission_linearizes_quiesced :
    quiescedWorld.state.active["a"]? = some 1 ∧
      ∀ (id : String) (k : UInt64) (op : ReferenceOperation),
        quiescedWorld.state.active[id]? = some k → quiescedWorld.state.attempts[k]? = some op →
        op.phase ≠ .terminal → op.cancellationRequested = true :=
  ⟨by decide, (admission_linearizes startWorld_init quiescedWorld_run).2.2.1 (by decide)⟩

end Run

/-! ## The second section of `shutdown` -/

/-- The state after the second section of `shutdown`. -/
def ReferenceState.closeOf (s : ReferenceState) : ReferenceState :=
  if s.active.size = 0 then { s with lifecycle := .closed } else s

@[simp] theorem ReferenceState.closeOf_closeOf (s : ReferenceState) :
    s.closeOf.closeOf = s.closeOf := by
  unfold closeOf
  split <;> simp [*]

theorem ReferenceState.closeOf_joinedWorkers (s : ReferenceState) :
    s.closeOf.joinedWorkers = s.joinedWorkers := by
  unfold closeOf
  split <;> rfl

theorem ReferenceState.closeOf_retainedTasks (s : ReferenceState) :
    s.closeOf.retainedTasks = s.retainedTasks := by
  unfold closeOf
  split <;> rfl

theorem ReferenceState.closeOf_active (s : ReferenceState) : s.closeOf.active = s.active := by
  unfold closeOf
  split <;> rfl

theorem ReferenceState.closeOf_not_running (h : s.lifecycle ≠ .running) :
    s.closeOf.lifecycle ≠ .running := by
  unfold closeOf
  split
  · simp
  · exact h

/-- Outside `Closed`, the section closes exactly when no attempt is active. -/
theorem ReferenceState.closeOf_closed_iff (h : s.lifecycle = .closed → s.active.size = 0) :
    s.closeOf.lifecycle = .closed ↔ s.active.size = 0 := by
  unfold closeOf
  split
  · rename_i hz; simp [hz]
  · rename_i hz; exact ⟨fun hc => absurd (h hc) hz, fun h => absurd h hz⟩

/-- The section reports the facts of the state that it leaves. -/
theorem Inv.shutdownClose_eq (hi : Inv first s) :
    ∃ expected : Usize, expected.toNat = s.joinedWorkers.toNat + s.retainedTasks.toNat ∧
      shutdownClose.on s = (.ok (s.closeOf.facts expected), s.closeOf) := by
  have hsz := hi.size_lt
  have hlive := hi.live
  have hret := hi.retained
  have hjoin := hi.joined
  have hcond : (s.active.isEmpty = true ∧ s.retainedTasks = 0) ↔ s.active.size = 0 := by
    rw [isEmpty_iff_size, ← UInt64.toNat_inj, hret]
    exact and_iff_left_of_imp id
  rw [shutdownClose_on]
  cases he : checkedAdd s.joinedWorkers s.retainedTasks with
  | none =>
    rw [checkedAdd_eq_none] at he
    omega
  | some expected =>
    refine ⟨expected, checkedAdd_eq_some.mp he, ?_⟩
    simp only [hcond, ReferenceState.closeOf]

/-- Once admission is closed, a `shutdown` with nothing after the last one repeats its facts. -/
theorem Inv.shutdown_again (hi : Inv first s) (hl : s.lifecycle ≠ .running) {expected : Usize}
    (he : expected.toNat = s.joinedWorkers.toNat + s.retainedTasks.toNat) :
    shutdown.on s.closeOf = (.ok (s.closeOf.facts expected), s.closeOf) := by
  have hi' : Inv first s.closeOf := by
    unfold ReferenceState.closeOf
    split
    · rename_i hz; exact hi.close hz
    · exact hi
  obtain ⟨expected', he', hon⟩ := hi'.shutdownClose_eq
  rw [s.closeOf_joinedWorkers, s.closeOf_retainedTasks, ← he, UInt64.toNat_inj] at he'
  rw [shutdown, Exec.on_bind, quiesce, Exec.on_modify,
    if_neg (ReferenceState.closeOf_not_running hl)]
  dsimp only
  rw [hon, he', ReferenceState.closeOf_closeOf]

/-- `quiesce` closes admission, and a second one does nothing. -/
theorem Inv.shutdown_eq (hi : Inv first s) :
    ∃ (s' : ReferenceState) (expected : Usize), Inv first s' ∧ s'.lifecycle ≠ .running ∧
      expected.toNat = s'.joinedWorkers.toNat + s'.retainedTasks.toNat ∧
      shutdown.on s = (.ok (s'.closeOf.facts expected), s'.closeOf) := by
  have hq : ∃ s', quiesce.on s = (.ok (), s') ∧ Inv first s' ∧ s'.lifecycle ≠ .running := by
    by_cases hl : s.lifecycle = .running
    · refine ⟨s.closeAdmission, ?_, hi.closeAdmission, by simp [ReferenceState.closeAdmission]⟩
      rw [quiesce, Exec.on_modify, if_pos hl]
      rfl
    · exact ⟨s, by rw [quiesce, Exec.on_modify, if_neg hl], hi, hl⟩
  obtain ⟨s', hq, hi', hl⟩ := hq
  obtain ⟨expected, he, hon⟩ := hi'.shutdownClose_eq
  refine ⟨s', expected, hi', hl, he, ?_⟩
  rw [shutdown, Exec.on_bind, hq]
  exact hon

/-! ## The number of admissions -/

/-- The section admitted an attempt. -/
def admits (c : Section) (reply : Reply) : Bool :=
  match c, reply with
  | .reserve _, .ok _ => true
  | _, _ => false

theorem Effect.admissions (hi : Inv first s) (he : Effect s c reply s') :
    s'.attempts.size = s.attempts.size + (admits c reply).toNat := by
  have other : ∀ {c : Section} {reply : Reply}, (∀ id, c ≠ .reserve id) →
      admits c reply = false := by
    intro c reply h
    cases c <;> first | rfl | exact absurd rfl (h _)
  cases he with
  | refused =>
    cases c <;> rfl
  | admitted =>
    have hnew : s.attempts[s.nextSequence]? = none := by
      rw [← Option.not_isSome_iff_eq_none, hi.keys]
      exact fun h => UInt64.lt_irrefl _ h.2
    exact size_insert_new hnew
  | moved hm hop =>
    rw [other (by rintro id rfl; cases hm)]
    exact size_insert_old hop
  | cancelled hc hop =>
    rw [other (by rintro id rfl; cases hc)]
    exact size_insert_old hop
  | cancelKept hc =>
    rw [other (by rintro id rfl; cases hc)]
    rfl
  | released hop => exact size_insert_old hop
  | quiesced => exact size_foldl_modify _
  | _ => rfl

section Run

variable {config : TestConfig} {w₀ w w' : World} {es : List (Event × World)} {e : Event}

theorem admitted_count (h₀ : (adapterSys config).init w₀)
    (h : (adapterSys config).Run w₀ es w) :
    w.state.attempts.size = es.countP fun p => admits p.1.sec p.1.reply := by
  have hI := adapterSys_inductive config
  have hz : w₀.state.attempts.size = 0 := by rw [deterministic_eq_ok h₀.1]; rfl
  have hc := h.count hI (f := fun w => w.state.attempts.size)
    (fun hi hs => (hi.effect hs).admissions hi.books) (hI.init h₀)
  rw [hc, hz, Nat.zero_add]

/-! ## `Closed` -/

/-- In `Closed` every attempt was released. -/
theorem Inv.closed_released (hi : Inv first s) (hc : s.lifecycle = .closed) {k : UInt64}
    {op : ReferenceOperation} (hk : s.attempts[k]? = some op) : op.phase = .released := by
  by_contra hp
  have ha := hi.index.mpr ⟨op, hk, rfl, hp⟩
  rw [size_eq_zero_iff.mp (hi.drained hc)] at ha
  cases ha

/-- In `Closed` no section changes the state. -/
theorem Effect.closed_state (hi : Inv first s) (hc : s.lifecycle = .closed)
    (he : Effect s c reply s') : s' = s := by
  cases he with
  | admitted hl => rw [hc] at hl; cases hl
  | moved hm hop hid hp =>
    rw [hi.closed_released hc hop] at hp
    exact absurd (hi.closed_released hc hop) (Section.move_step hm hid (by
      rw [hi.closed_released hc hop, hp])).not_released
  | cancelled _ hop _ hf => exact absurd (.inr (hi.closed_released hc hop)) hf
  | released hop _ hp =>
    rw [hi.closed_released hc hop] at hp
    cases hp
  | quiesced hl => rw [hc] at hl; cases hl
  | closed => rw [← hc]
  | _ => rfl

theorem closed_run (h : (adapterSys config).Run w es w') (hi : w.Ok config)
    (hc : w.state.lifecycle = .closed) : w'.state = w.state := by
  refine (h.keeps (adapterSys_inductive config) (J := fun w' => w'.state = w.state) ?_ hi rfl).2
  intro w₁ e w₂ hi₁ hw hs
  rw [← hw] at hc ⊢
  exact (hi₁.effect hs).closed_state hi₁.books hc

/-- **Closed.** Over a run from the start: every `shutdown` reports `Closed` exactly when no attempt
was active at its second section, and facts that agree with the admissions so far; in `Closed`
every attempt was released; no section and no further run changes a state that is `Closed`; and a
`shutdown` right after a `shutdown` reports the same facts. -/
theorem closed_exact (h₀ : (adapterSys config).init w₀) (h : (adapterSys config).Run w₀ es w) :
    (∀ (es₁ es₂ : List (Event × World)) (e : Event) (w₁ w₂ : World),
      es = es₁ ++ (e, w₂) :: es₂ → (adapterSys config).Run w₀ es₁ w₁ →
      (adapterSys config).step w₁ e w₂ → e.sec = .shutdownClose →
      ∃ facts : ClosedFacts, e.reply = .ok (.closed facts) ∧
        (facts.lifecycle = .closed ↔ w₁.state.active.size = 0) ∧
        facts.expectedWorkers.toNat = facts.joinedWorkers.toNat + facts.retainedTasks.toNat ∧
        facts.expectedWorkers.toNat = (es₁.countP fun p => admits p.1.sec p.1.reply) ∧
        facts.activeOperations = facts.retainedTasks.toNat ∧
        shutdown.on w₂.state = (.ok facts, w₂.state)) ∧
    (w.state.lifecycle = .closed →
      (∀ (k : UInt64) (op : ReferenceOperation), w.state.attempts[k]? = some op →
        op.phase = .released) ∧
      w.state.active.size = 0 ∧ w.state.retainedTasks = 0 ∧
      (∀ c : Section, (c.on w.state).2 = w.state) ∧
      ∀ (es' : List (Event × World)) (w' : World), (adapterSys config).Run w es' w' →
        w'.state = w.state) ∧
    ∃ (facts : ClosedFacts) (s : ReferenceState), shutdown.on w.state = (.ok facts, s) ∧
      shutdown.on s = (.ok facts, s) := by
  have hI := adapterSys_inductive config
  have hi := hI.run h (hI.init h₀)
  refine ⟨fun es₁ es₂ e w₁ w₂ he hr hs hc => ?_, fun hc => ⟨fun k op => hi.books.closed_released hc,
    hi.books.drained hc, ?_, fun c => (hi.books.effect c).closed_state hi.books hc,
    fun es' w' hr => closed_run hr hi hc⟩, ?_⟩
  · have hi₁ := hI.run hr (hI.init h₀)
    have hb := hi₁.books
    have hl := hi₁.close_not_running hs hc
    obtain ⟨expected, he, hon⟩ := hb.shutdownClose_eq
    have hsec := hs.1
    rw [hc] at hsec
    simp only [Section.on, Section.run, Section.answer_on, hon] at hsec
    have hreply : e.reply = .ok (.closed (w₁.state.closeOf.facts expected)) :=
      (congrArg Prod.fst hsec).symm
    have hstate : w₂.state = w₁.state.closeOf := (congrArg Prod.snd hsec).symm
    refine ⟨_, hreply, ReferenceState.closeOf_closed_iff hb.drained, ?_, ?_, ?_, ?_⟩
    · simp only [ReferenceState.facts, w₁.state.closeOf_joinedWorkers,
        w₁.state.closeOf_retainedTasks]
      exact he
    · rw [← admitted_count h₀ hr]
      simp only [ReferenceState.facts]
      rw [he, hb.joined, hb.retained, ← hb.live]
      omega
    · simp only [ReferenceState.facts, w₁.state.closeOf_active, w₁.state.closeOf_retainedTasks]
      exact hb.retained.symm
    · rw [hstate]
      exact hb.shutdown_again hl he
  · rw [← UInt64.toNat_inj, hi.books.retained, hi.books.drained hc]
    rfl
  · obtain ⟨s', expected, hi', hl, he, hon⟩ := hi.books.shutdown_eq
    exact ⟨_, _, hon, hi'.shutdown_again hl he⟩

theorem closed_exact_open :
    ∃ (facts : ClosedFacts) (s : ReferenceState), shutdown.on quiescedWorld.state = (.ok facts, s) ∧
      shutdown.on s = (.ok facts, s) ∧ facts.lifecycle = .quiescing ∧
      facts.activeOperations = 1 := by
  obtain ⟨facts, s, hon, hagain⟩ := (closed_exact startWorld_init quiescedWorld_run).2.2
  refine ⟨facts, s, hon, hagain, ?_⟩
  have hfacts : (shutdown.on quiescedWorld.state).1 = .ok ⟨.quiescing, 1, 1, 1, 0⟩ := by decide
  rw [congrArg Prod.fst hon] at hfacts
  obtain rfl := Except.ok.inj hfacts
  exact ⟨rfl, rfl⟩

end Run

end Testkit
end Platform
