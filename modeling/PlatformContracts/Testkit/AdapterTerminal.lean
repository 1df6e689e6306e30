import PlatformContracts.Testkit.AdapterInv

/-!
# Terminal authority over whole runs of the reference adapter

* `AttemptStep.phase`: a step of a record keeps its phase or moves it to the next one.
* `AttemptStep.frozen`: a finished attempt can only be released; `Frozen k` is the order on
  worlds in which a finished attempt `k` keeps its record.
* `terminal_count`: the calls that finished the attempt `k` in a run are counted by its record.
* `terminal_authority`: the phases, the terminal calls, the snapshots and the freeze.
-/

namespace Platform
namespace Testkit

open Std

/-! ## Phases -/

def OperationPhase.next? : OperationPhase → Option OperationPhase
  | reserved => some queued
  | queued => some running
  | running => some terminal
  | terminal => some released
  | released => none

/-- The phases from one on. -/
def OperationPhase.order : OperationPhase → List OperationPhase
  | reserved => [reserved, queued, running, terminal, released]
  | queued => [queued, running, terminal, released]
  | running => [running, terminal, released]
  | terminal => [terminal, released]
  | released => [released]

theorem OperationPhase.order_next {a b : OperationPhase} (h : a.next? = some b) :
    a ≠ b ∧ a.order = a :: b.order := by
  cases a <;> simp only [next?, Option.some.injEq, reduceCtorEq] at h <;> subst h <;>
    exact ⟨by decide, rfl⟩

theorem AttemptStep.phase {op op' : ReferenceOperation} (h : AttemptStep op op') :
    op'.phase = op.phase ∨ op.phase.next? = some op'.phase := by
  cases h with
  | queue hp => right; rw [hp]; rfl
  | start hp => right; rw [hp]; rfl
  | progress => left; rfl
  | cancel => left; rfl
  | terminal _ hp => right; rw [hp]; rfl
  | release hp => right; rw [hp]; rfl

/-- The phase of the attempt `k`, once it was admitted. -/
def phaseAt (k : UInt64) (w : World) : Option OperationPhase :=
  w.state.attempts[k]?.map (·.phase)

section Run

variable {config : TestConfig} {w₀ w w' : World} {es : List (Event × World)} {e : Event}
  {k : UInt64}

/-- One step takes the phase of an attempt one on at most, from `Reserved` when it admits it. -/
theorem phaseAt_step (hi : w.Ok config) (hs : (adapterSys config).step w e w') :
    Advances (fun a b => a.next? = some b) .reserved (phaseAt k w) (phaseAt k w') := by
  have he := hi.effect hs
  unfold phaseAt
  cases hk : w.state.attempts[k]? with
  | none =>
    cases hk' : w'.state.attempts[k]? with
    | none => exact .inl rfl
    | some op' =>
      obtain ⟨id, -, -, rfl, -⟩ := he.record_new hi.books hk hk'
      exact .inr rfl
  | some op =>
    obtain ⟨op', hk', hop⟩ := he.record hi.books hk
    refine ⟨op'.phase, by rw [hk']; rfl, ?_⟩
    rcases hop with rfl | hop
    · exact .inl rfl
    · exact hop.phase

/-- No attempt was admitted before the first step. -/
theorem init_attempts (h₀ : (adapterSys config).init w₀) : w₀.state.attempts[k]? = none := by
  rw [deterministic_eq_ok h₀.1]
  exact ExtTreeMap.getElem?_empty

theorem phases_in_order (h₀ : (adapterSys config).init w₀) (h : (adapterSys config).Run w₀ es w) :
    ((Sys.states w₀ es).filterMap (phaseAt k)).destutter (· ≠ ·) <+:
      OperationPhase.order .reserved := by
  have hc := (h.chain (adapterSys_inductive config) (phaseAt_step (k := k))
    ((adapterSys_inductive config).init h₀)).1
  refine destutter_filterMap_prefix (fun a => ?_) OperationPhase.order_next hc fun s hs => .inl ?_
  · cases a <;> exact ⟨_, rfl⟩
  · obtain rfl : w₀ = s := by simpa [Sys.states] using hs
    rw [phaseAt, init_attempts h₀]
    rfl

/-! ## Terminal calls -/

/-- The lease of a call that writes a terminal record. -/
def Section.terminalLease? : Section → Option ReferenceLease
  | .terminal lease _ | .recordExecutorPanic lease => some lease
  | _ => none

/-- A `terminal` or `record_executor_panic` call on the attempt `k` that returned `Ok`. -/
def terminates (k : UInt64) (c : Section) (reply : Reply) : Bool :=
  match c.terminalLease?, reply with
  | some lease, .ok _ => lease.identity.sequence = k
  | _, _ => false

/-- The attempt `k` was admitted and is finished. -/
def finishedAt (k : UInt64) (s : ReferenceState) : Bool :=
  s.attempts[k]?.any fun op => op.Finished

theorem finishedAt_setAttempt {s : ReferenceState} {j : UInt64} {op : ReferenceOperation} :
    finishedAt k (s.setAttempt j op) = if k = j then decide op.Finished else finishedAt k s := by
  unfold finishedAt ReferenceState.setAttempt
  rw [lookup_insert]
  split <;> rfl

/-- A step of a record that stays finished, or stays unfinished. -/
theorem finishedAt_write {s : ReferenceState} {j : UInt64} {op op' : ReferenceOperation}
    (hop : s.attempts[j]? = some op) (h : op'.Finished ↔ op.Finished) :
    finishedAt k (s.setAttempt j op') = finishedAt k s := by
  rw [finishedAt_setAttempt]
  split
  · rename_i e
    subst e
    rw [finishedAt, hop, Option.any_some, decide_eq_decide]
    exact h
  · rfl

/-- A terminal call that was accepted finishes its attempt, which was not finished. -/
theorem finishedAt_terminal {s : ReferenceState} {j : UInt64} {op op' : ReferenceOperation}
    (hop : s.attempts[j]? = some op) (hp : op.phase = .running) (hp' : op'.phase = .terminal) :
    (finishedAt k (s.setAttempt j op')).toNat =
      (finishedAt k s).toNat + (decide (j = k)).toNat := by
  rw [finishedAt_setAttempt]
  by_cases hk : k = j
  · subst hk
    have h : finishedAt k s = false := by
      rw [finishedAt, hop, Option.any_some, decide_eq_false_iff_not]
      simp [ReferenceOperation.Finished, hp]
    rw [h, if_pos rfl, decide_eq_true (.inl hp'), decide_eq_true rfl]
    rfl
  · rw [if_neg hk, decide_eq_false (Ne.symm hk)]
    rfl

/-- A section that returns an error, or is not a terminal call, finishes no attempt. -/
theorem terminates_eq_false {c : Section} {reply : Reply}
    (h : c.terminalLease? = none ∨ ∃ e, reply = .error e) : terminates k c reply = false := by
  rcases h with h | ⟨e, rfl⟩
  · simp [terminates, h]
  · unfold terminates
    split
    · rename_i h; cases h
    · rfl

/-- An attempt becomes finished by a terminal call on it that returned `Ok`, and by nothing else;
a call on a finished one does not return `Ok`. -/
theorem Effect.finished {first : UInt64} {s s' : ReferenceState} {c : Section} {reply : Reply}
    (hi : Inv first s) (he : Effect s c reply s') :
    (finishedAt k s').toNat = (finishedAt k s).toNat + (terminates k c reply).toNat := by
  have same : ∀ {c : Section} {reply : Reply} {s' : ReferenceState},
      (c.terminalLease? = none ∨ ∃ e, reply = .error e) → finishedAt k s' = finishedAt k s →
      (finishedAt k s').toNat = (finishedAt k s).toNat + (terminates k c reply).toNat := by
    intro c reply s' hc h
    rw [h, terminates_eq_false hc]
    rfl
  cases he with
  | refused => exact same (.inr ⟨_, rfl⟩) rfl
  | admitted _ _ _ _ =>
    refine same (.inl rfl) ?_
    simp only [finishedAt, ReferenceState.enroll, lookup_insert]
    split
    · rename_i e
      subst e
      have hnew : s.attempts[s.nextSequence]? = none := by
        rw [← Option.not_isSome_iff_eq_none, hi.keys]
        exact fun h => UInt64.lt_irrefl _ h.2
      rw [hnew]
      rfl
    · rfl
  | moved hm hop hid hp =>
    cases c <;> simp only [Section.move?, Option.some.injEq, reduceCtorEq] at hm <;> subst hm
    case terminal => exact finishedAt_terminal hop hp rfl
    case recordExecutorPanic => exact finishedAt_terminal hop hp rfl
    all_goals
      refine same (.inl rfl) (finishedAt_write hop ?_)
      simp only [ReferenceOperation.Finished, hp, reduceCtorEq, or_self]
  | cancelled hc hop _ _ =>
    refine same (.inl ?_) (finishedAt_write hop Iff.rfl)
    cases c <;> first | rfl | cases hc
  | cancelKept hc _ =>
    refine same (.inl ?_) rfl
    cases c <;> first | rfl | cases hc
  | released hop _ hp _ _ _ =>
    refine same (.inl rfl) (finishedAt_write (s := s) hop ?_)
    simp [ReferenceOperation.Finished, hp]
  | quiesced _ =>
    refine same (.inl rfl) ?_
    simp only [finishedAt, closeAdmission_lookup hi, Option.any_map]
    congr 1
    funext op
    simp only [decide_eq_decide]
    split
    · rfl
    · simp [ReferenceOperation.Finished]
  | waited => exact same (.inl rfl) rfl
  | quiesceKept => exact same (.inl rfl) rfl
  | closed => exact same (.inl rfl) rfl
  | stillOpen => exact same (.inl rfl) rfl

/-- The record of an attempt counts the terminal calls on it that returned `Ok`. -/
theorem terminal_count (h : (adapterSys config).Run w es w') (hi : w.Ok config) :
    (finishedAt k w'.state).toNat = (finishedAt k w.state).toNat +
      es.countP fun p => terminates k p.1.sec p.1.reply :=
  h.count (adapterSys_inductive config) (fun hi hs => (hi.effect hs).finished hi.books) hi

/-! ## The freeze -/

/-- A finished attempt can only be released. -/
theorem AttemptStep.frozen {op op' : ReferenceOperation} (h : AttemptStep op op')
    (hf : op.Finished) : op' = { op with phase := .released } := by
  cases h with
  | release => rfl
  | cancel h1 h2 => exact (hf.elim h1 h2).elim
  | queue hp => simp [ReferenceOperation.Finished, hp] at hf
  | start hp => simp [ReferenceOperation.Finished, hp] at hf
  | progress l hp => simp [ReferenceOperation.Finished, hp] at hf
  | terminal _ hp => simp [ReferenceOperation.Finished, hp] at hf

/-- The attempt `k` keeps its record, if it is finished. -/
def Frozen (k : UInt64) (w w' : World) : Prop :=
  ∀ op : ReferenceOperation, w.state.attempts[k]? = some op → op.Finished →
    ∃ phase, w'.state.attempts[k]? = some { op with phase } ∧
      (phase = .terminal ∨ phase = .released)

theorem Frozen.refl (w : World) : Frozen k w w := fun op hk hf => ⟨op.phase, hk, hf⟩

theorem Frozen.trans {w'' : World} (h : Frozen k w w') (h' : Frozen k w' w'') :
    Frozen k w w'' := by
  intro op hk hf
  obtain ⟨p, hk', hp⟩ := h op hk hf
  exact h' { op with phase := p } hk' hp

theorem frozen_step (hi : w.Ok config) (hs : (adapterSys config).step w e w') :
    Frozen k w w' := by
  intro op hk hf
  obtain ⟨op', hk', rfl | hop⟩ := (hi.effect hs).record hi.books hk
  · exact ⟨op'.phase, hk', hf⟩
  · exact ⟨.released, by rw [hk', hop.frozen hf], .inr rfl⟩

theorem frozen_run (h : (adapterSys config).Run w es w') (hi : w.Ok config) : Frozen k w w' :=
  h.rel (adapterSys_inductive config) Frozen.refl Frozen.trans frozen_step hi

/-! ## Snapshots -/

/-- What a snapshot shows of the terminal record. -/
structure OperationSnapshot.Truthful (snap : OperationSnapshot) : Prop where
  present : snap.authoritativeTerminal.isSome ↔
    snap.phase = .terminal ∨ snap.phase = .released
  projection : snap.authoritativeTerminal = snap.finalProjection
  sequence : ∀ r, snap.authoritativeTerminal = some r → r.sequence = snap.identity.sequence

theorem ReferenceOperation.Ok.truthful {op : ReferenceOperation} (h : op.Ok k) :
    (snapshot op).Truthful where
  present := h.finished
  projection := rfl
  sequence r hr := by rw [h.record r hr]; exact h.sequence.symm

/-- Both reads return the snapshot of a record. -/
theorem snapshot_of_read {s : ReferenceState} {snap : OperationSnapshot}
    (h : (∃ id, currentSnapshot s id = some snap) ∨ ∃ lease, leaseSnapshot s lease = some snap) :
    ∃ (k : UInt64) (op : ReferenceOperation), s.attempts[k]? = some op ∧ snap = snapshot op := by
  rcases h with ⟨id, h⟩ | ⟨lease, h⟩
  · unfold currentSnapshot at h
    split at h
    · cases h
    · obtain ⟨op, hop, rfl⟩ := Option.map_eq_some_iff.mp h
      exact ⟨_, op, hop, rfl⟩
  · unfold leaseSnapshot at h
    obtain ⟨op, hop, rfl⟩ := Option.map_eq_some_iff.mp h
    exact ⟨_, op, (Option.filter_eq_some_iff.mp hop).1, rfl⟩

/-! ## Terminal authority -/

/-- **Terminal authority.** Over a run from the start, for every attempt `k`: its phases, without
repetitions, are a prefix of the five in order; of the terminal calls on it at most one returned
`Ok`, and one did if any was made on it while it was `Running`; what a snapshot shows of its
record; and from the first state in which it is finished, its record stays. -/
theorem terminal_authority (h₀ : (adapterSys config).init w₀)
    (h : (adapterSys config).Run w₀ es w) (k : UInt64) :
    ((Sys.states w₀ es).filterMap (phaseAt k)).destutter (· ≠ ·) <+:
      [.reserved, .queued, .running, .terminal, .released] ∧
    (es.countP fun p => terminates k p.1.sec p.1.reply) ≤ 1 ∧
    (∀ (es₁ es₂ : List (Event × World)) (e : Event) (w₁ w₂ : World) (lease : ReferenceLease)
      (op : ReferenceOperation), es = es₁ ++ (e, w₂) :: es₂ → (adapterSys config).Run w₀ es₁ w₁ →
      (adapterSys config).step w₁ e w₂ → e.sec.terminalLease? = some lease →
      w₁.state.attempts[k]? = some op → op.identity = lease.identity → op.phase = .running →
      (es.countP fun p => terminates k p.1.sec p.1.reply) = 1) ∧
    (∀ snap : OperationSnapshot, ((∃ id, currentSnapshot w.state id = some snap) ∨
      ∃ lease, leaseSnapshot w.state lease = some snap) → snap.Truthful) ∧
    ∀ (es₁ es₂ : List (Event × World)) (w₁ : World) (op : ReferenceOperation),
      es = es₁ ++ es₂ → (adapterSys config).Run w₀ es₁ w₁ → (adapterSys config).Run w₁ es₂ w →
      w₁.state.attempts[k]? = some op → op.phase = .terminal ∨ op.phase = .released →
      ∃ op' : ReferenceOperation, w.state.attempts[k]? = some op' ∧ op'.identity = op.identity ∧
        op'.terminal = op.terminal ∧ op'.cancellationRequested = op.cancellationRequested ∧
        op'.progress = op.progress := by
  have hI := adapterSys_inductive config
  have hi₀ := hI.init h₀
  have hcount := terminal_count (k := k) h hi₀
  have hnone : finishedAt k w₀.state = false := by rw [finishedAt, init_attempts h₀]; rfl
  rw [hnone, Bool.toNat_false, Nat.zero_add] at hcount
  have hle : (es.countP fun p => terminates k p.1.sec p.1.reply) ≤ 1 := by
    rw [← hcount]
    exact Bool.toNat_le _
  refine ⟨phases_in_order h₀ h, hle, ?_, fun snap hs => ?_, ?_⟩
  · intro es₁ es₂ e w₁ w₂ lease op he hr hs hl hop hid hp
    -- The call is accepted.
    have hi₁ := hI.run hr hi₀
    have hseq := (hi₁.books.attempt hop).sequence
    have hm : ∃ m, e.sec.move? w₁.state.progressCapacity = some m ∧ m.lease = lease ∧
        m.expected = .running := by
      revert hl
      cases e.sec <;> simp only [Section.terminalLease?, Option.some.injEq, reduceCtorEq,
        false_imp_iff] <;> rintro rfl <;> exact ⟨_, rfl, rfl, rfl⟩
    obtain ⟨m, hm, rfl, he'⟩ := hm
    have hon := move_on hm
    rw [hid] at hseq
    rw [operationMut_eq_ok.mpr ⟨by rw [hseq]; exact hop, hid, by rw [hp]; decide⟩] at hon
    simp only [he', hp, if_true] at hon
    have hreply : e.reply = .ok .unit := congrArg Prod.fst (hs.1.symm.trans hon)
    have ht : terminates k e.sec e.reply = true := by
      unfold terminates
      rw [hl, hreply]
      exact decide_eq_true hseq
    refine Nat.le_antisymm hle (List.countP_pos_iff.mpr ⟨(e, w₂), ?_, ht⟩)
    rw [he]
    simp
  · obtain ⟨j, op, hop, rfl⟩ := snapshot_of_read hs
    exact ((hI.run h hi₀).books.attempt hop).truthful
  · intro es₁ es₂ w₁ op he hr hr' hop hf
    obtain ⟨p, hk, -⟩ := frozen_run hr' (hI.run hr hi₀) op hop hf
    exact ⟨_, hk, rfl, rfl, rfl, rfl⟩

theorem terminal_authority_reused :
    (callEvents startWorld reusedCalls).countP (fun p => terminates 1 p.1.sec p.1.reply) = 1 ∧
      ((Sys.states startWorld (callEvents startWorld reusedCalls)).filterMap
        (phaseAt 1)).destutter (· ≠ ·) <+: [.reserved, .queued, .running, .terminal, .released] :=
  ⟨by decide, (terminal_authority startWorld_init reusedWorld_run 1).1⟩

end Run

end Testkit
end Platform
