import PlatformContracts.Testkit.AdapterInv

/-!
# What a call through a handle can touch

* `Effect.refused_state`: a section that returns an error leaves the state (`failed_atomic`).
* `Effect.others`: a section on a handle of the attempt `k` writes no other record, and of the
  registry only the entry that maps the attempt's public ID to `k`.
* `stale_lease`, `stale_ticket`: once the attempt is released, its lease is rejected and its
  ticket does nothing (`generation_safe`).
* `minted_record`: the handles that a `reserve` returned are those of its attempt, for ever.
-/

namespace Platform
namespace Testkit

open Std

variable {first : UInt64} {s s' : ReferenceState} {c : Section} {reply : Reply}

/-! ## Errors -/

theorem Effect.refused_state (he : Effect s c reply s') {e : Stop AdapterError}
    (h : reply = .error e) : s' = s := by
  cases he with
  | refused => rfl
  | _ => cases h

/-- **Failed operations are atomic.** In every reachable state an operation that returns an error
leaves the whole state as it was; `waiter_timeout` leaves it in any case. -/
theorem failed_atomic {config : TestConfig} {w : World} (h : (adapterSys config).Reach w) :
    (∀ (c : Section) (e : Stop AdapterError), (c.on w.state).1 = .error e →
      (c.on w.state).2 = w.state) ∧
    ∀ ticket : ReferenceTicket, ((waiterTimeout ticket).on w.state).2 = w.state := by
  refine ⟨fun c e he => ?_, fun ticket => (waiterTimeout_on w.state ticket).1⟩
  exact ((ok_reach h).books.effect c).refused_state he

/-- A second `reserve` of a live public ID, and a second `start`. -/
theorem failed_atomic_reused :
    ((Section.reserve "a").on reusedWorld.state).1 = .error (.err .duplicateOperation) ∧
    ((Section.reserve "a").on reusedWorld.state).2 = reusedWorld.state ∧
    ((Section.release (leaseOf "a" 1)).on reusedWorld.state).2 = reusedWorld.state := by
  obtain ⟨h, -⟩ := failed_atomic reusedWorld_reach
  have hr : ((Section.reserve "a").on reusedWorld.state).1 =
      .error (.err .duplicateOperation) := by decide
  have hs : ((Section.release (leaseOf "a" 1)).on reusedWorld.state).1 =
      .error (.err .staleLease) := by decide
  exact ⟨hr, h _ _ hr, h _ _ hs⟩

/-! ## Handles -/

theorem handle_of_lease {lease : ReferenceLease} (h : c.lease? = some lease) :
    c.handle? = some lease.identity := by
  rw [Section.handle?, h]

theorem handle_of_cancels {identity : AttemptIdentity} (h : c.cancels? = some identity) :
    c.handle? = some identity := by
  cases c <;> simp only [Section.cancels?, reduceCtorEq] at h <;> exact h

/-- A section on a handle of an attempt writes no other record, and of the registry only the
entry that maps the attempt's public ID to it. -/
theorem Effect.others (he : Effect s c reply s') {identity : AttemptIdentity}
    (hc : c.handle? = some identity) :
    (∀ j : UInt64, j ≠ identity.sequence → s'.attempts[j]? = s.attempts[j]?) ∧
    ∀ id : String, s'.active[id]? ≠ s.active[id]? →
      id = identity.operationId ∧ s.active[id]? = some identity.sequence := by
  have write : ∀ {j : UInt64} {op : ReferenceOperation}, j = identity.sequence →
      ∀ i : UInt64, i ≠ identity.sequence →
        (s.attempts.insert j op)[i]? = s.attempts[i]? := by
    rintro j op rfl i hi
    rw [lookup_insert, if_neg hi]
  have keep : ∀ id : String, s.active[id]? ≠ s.active[id]? →
      id = identity.operationId ∧ s.active[id]? = some identity.sequence :=
    fun id h => absurd rfl h
  cases he with
  | admitted => cases hc
  | quiesced => cases hc
  | quiesceKept => cases hc
  | closed => cases hc
  | stillOpen => cases hc
  | refused => exact ⟨fun _ _ => rfl, keep⟩
  | waited => exact ⟨fun _ _ => rfl, keep⟩
  | cancelKept => exact ⟨fun _ _ => rfl, keep⟩
  | moved hm _ _ _ =>
    obtain rfl := Option.some.inj ((handle_of_lease (Section.move_lease hm)).symm.trans hc)
    exact ⟨write rfl, keep⟩
  | cancelled hi _ _ _ =>
    obtain rfl := Option.some.inj ((handle_of_cancels hi).symm.trans hc)
    exact ⟨write rfl, keep⟩
  | released hop hid hp ha hr hj =>
    obtain rfl := Option.some.inj hc
    refine ⟨write rfl, fun id h => ?_⟩
    simp only [ReferenceState.retire, lookup_erase] at h
    split at h
    · rename_i e
      subst e
      exact ⟨rfl, ha⟩
    · exact absurd rfl h

/-! ## Handles of a released attempt -/

theorem operationMut_released {op : ReferenceOperation}
    (hk : s.attempts[op.identity.sequence]? = some op) (hp : op.phase = .released) :
    operationMut s op.identity = .error .staleLease := by
  unfold operationMut
  rw [hk]
  exact if_pos (.inr hp)

/-- A lease operation on a released attempt is rejected. -/
theorem stale_lease {op : ReferenceOperation} (hk : s.attempts[op.identity.sequence]? = some op)
    (hp : op.phase = .released) {lease : ReferenceLease} (hc : c.lease? = some lease)
    (hl : lease.identity = op.identity) : c.on s = (.error (.err .staleLease), s) := by
  have hop : operationMut s lease.identity = .error .staleLease := by
    rw [hl]; exact operationMut_released hk hp
  by_cases hr : c = .release lease
  · subst hr
    simp only [Section.on, Section.run, Section.answer_on, release_on, hop]
    rfl
  · have hm : ∃ m, c.move? s.progressCapacity = some m ∧ m.lease = lease := by
      revert hc hr
      cases c <;> simp only [Section.lease?, Option.some.injEq, reduceCtorEq, false_imp_iff] <;>
        rintro rfl hr <;> first | exact absurd rfl hr | exact ⟨_, rfl, rfl⟩
    obtain ⟨m, hm, rfl⟩ := hm
    rw [move_on hm, hop]

/-- A ticket operation on a released attempt changes nothing. -/
theorem stale_ticket {op : ReferenceOperation} (hk : s.attempts[op.identity.sequence]? = some op)
    (hp : op.phase = .released) {ticket : ReferenceTicket} (hc : c.ticket? = some ticket)
    (ht : ticket.identity = op.identity) : (c.on s).2 = s := by
  have hcancel : ∀ {c : Section}, c.cancels? = some op.identity → (c.on s).2 = s := by
    intro c h
    rw [cancels_on h]
    simp only [hk, ReferenceOperation.Finished, hp, or_true, not_true_eq_false, and_false,
      if_false]
  cases c <;> simp only [Section.ticket?, Option.some.injEq, reduceCtorEq] at hc <;> subst hc
  · exact hcancel (congrArg some ht)
  · exact hcancel (congrArg some ht)
  · simp only [Section.on, Section.run, Section.answer_on]
    exact (waiterTimeout_on s _).1

/-! ## Minted handles -/

section Run

variable {config : TestConfig} {w w' : World} {es : List (Event × World)}

/-- An attempt keeps its record, and the record keeps its identity. -/
theorem identity_run (h : (adapterSys config).Run w es w') (hi : w.Ok config) {k : UInt64}
    {op : ReferenceOperation} (hk : w.state.attempts[k]? = some op) :
    ∃ op' : ReferenceOperation, w'.state.attempts[k]? = some op' ∧ op'.identity = op.identity := by
  refine (h.keeps (adapterSys_inductive config) (J := fun w => ∃ op' : ReferenceOperation,
    w.state.attempts[k]? = some op' ∧ op'.identity = op.identity) ?_ hi ⟨op, hk, rfl⟩).2
  rintro w e w' hi ⟨op₁, hk₁, hid⟩ hs
  obtain ⟨op₂, hk₂, rfl | hop⟩ := (hi.effect hs).record hi.books hk₁
  · exact ⟨op₂, hk₂, hid⟩
  · exact ⟨op₂, hk₂, hop.identity.trans hid⟩

/-- The handles that a `reserve` of the run returned are those of an attempt with its record. -/
theorem minted_record (h : (adapterSys config).Run w es w') (hi : w.Ok config)
    {e : Event} {w₁ : World} (he : (e, w₁) ∈ es) {r : Reservation}
    (hr : e.reply = .ok (.reserved r)) :
    r.ticket.identity = r.lease.identity ∧ ∃ op : ReferenceOperation,
      w'.state.attempts[r.lease.identity.sequence]? = some op ∧
        op.identity = r.lease.identity := by
  obtain ⟨es₁, es₂, w₀, -, h₁, hs, h₂⟩ := h.of_mem he
  have hI := adapterSys_inductive config
  have hi₀ := hI.run h₁ hi
  have hi₁ := hI.step hi₀ hs
  have heff := hi₀.effect hs
  dsimp only at heff h₂ hi₁ hs
  rw [hr] at heff
  generalize e.sec = c at heff
  generalize hw : w₁.state = s' at heff
  cases heff with
  | @admitted id _ _ _ _ _ _ =>
    refine ⟨rfl, ?_⟩
    have hk : w₁.state.attempts[w₀.state.nextSequence]? =
        some (newOperation (mintIdentity id w₀.state.nextSequence)) := by
      rw [hw]
      exact lookup_insert.trans (if_pos rfl)
    exact identity_run h₂ hi₁ hk

/-- **Generations.** In every reachable state, let `k` be an attempt with record `op`, and `c` a
section on its lease or its ticket. It changes no other record, and no entry of the registry but
the one that maps the attempt's public ID to `k`. If the attempt is released, `c` returns
`StaleLease` on the lease, and on the ticket and the lease it changes nothing. -/
theorem generation_safe (h : (adapterSys config).Reach w) {k : UInt64} {op : ReferenceOperation}
    (hk : w.state.attempts[k]? = some op) {c : Section} (hc : c.handle? = some op.identity) :
    (∀ j : UInt64, j ≠ k → (c.on w.state).2.attempts[j]? = w.state.attempts[j]?) ∧
    (∀ id : String, (c.on w.state).2.active[id]? ≠ w.state.active[id]? →
      id = op.identity.operationId ∧ w.state.active[id]? = some k) ∧
    (op.phase = .released →
      (c.lease?.isSome → (c.on w.state).1 = .error (.err .staleLease)) ∧
      (c.on w.state).2 = w.state) := by
  have hi := (ok_reach h).books
  have hseq := (hi.attempt hk).sequence
  obtain ⟨ho, ha⟩ := (hi.effect c).others hc
  rw [hseq] at ho ha
  refine ⟨ho, ha, fun hp => ?_⟩
  have hk' : w.state.attempts[op.identity.sequence]? = some op := by rw [hseq]; exact hk
  unfold Section.handle? at hc
  split at hc
  · rename_i lease hl
    have hon := stale_lease hk' hp hl (Option.some.inj hc)
    exact ⟨fun _ => by rw [hon], by rw [hon]⟩
  · rename_i hl
    obtain ⟨ticket, ht, hid⟩ := Option.map_eq_some_iff.mp hc
    refine ⟨fun h => ?_, stale_ticket hk' hp ht hid⟩
    rw [hl] at h
    cases h

/-- The late `Drop` of the ticket of a released attempt whose public ID is live again. -/
theorem generation_safe_reused :
    ((Section.dropTicket ⟨mintIdentity "a" 1⟩).on reusedWorld.state).2 = reusedWorld.state ∧
      ((Section.release (leaseOf "a" 1)).on reusedWorld.state).1 =
        .error (.err .staleLease) := by
  have hk : reusedWorld.state.attempts[(1 : UInt64)]? = some
      ⟨mintIdentity "a" 1, .released, false, some ⟨.completed, 1⟩, []⟩ := by decide
  refine ⟨?_, ?_⟩
  · exact ((generation_safe reusedWorld_reach hk rfl).2.2 rfl).2
  · exact ((generation_safe reusedWorld_reach hk rfl).2.2 rfl).1 rfl

end Run

end Testkit
end Platform
