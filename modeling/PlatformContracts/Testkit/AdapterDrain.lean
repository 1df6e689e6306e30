import PlatformContracts.Testkit.AdapterShutdown

/-!
# No state of the reference adapter is stuck

* `missing op termClass`: the steps that an attempt lacks until its release, in order.
* `Plan skipped s cs`: the calls `cs` are the missing steps of the attempts of `s`, interleaved in
  any way; an attempt in `skipped` may be left as it is.
* `Succeeds s cs`: every call answers `Ok`. `Plan.next`: the first call of a plan does, and leaves
  a plan; `Plan.succeeds`: so all calls do.
* `never_stuck`: from every reachable state, with the shutdown after a plan that skips nothing.
-/

namespace Platform
namespace Testkit

open Std

variable {first : UInt64} {s s' : ReferenceState} {c : Section} {cs : List Section}
  {skipped : Set UInt64}

/-- The lease that `reserve` returned with the attempt. -/
def ReferenceOperation.lease (op : ReferenceOperation) : ReferenceLease := ⟨op.identity⟩

/-- What an attempt lacks until its release. -/
def missing (op : ReferenceOperation) (termClass : TerminalClass) : List Section :=
  match op.phase with
  | .reserved => [.queue op.lease, .start op.lease, .terminal op.lease termClass, .release op.lease]
  | .queued => [.start op.lease, .terminal op.lease termClass, .release op.lease]
  | .running => [.terminal op.lease termClass, .release op.lease]
  | .terminal => [.release op.lease]
  | .released => []

/-- The calls on the lease of the attempt. -/
def callsOn (op : ReferenceOperation) (cs : List Section) : List Section :=
  cs.filter fun c => c.lease? = some op.lease

/-- The calls are the missing steps of the attempts, in an order that keeps the order of each
attempt's own steps. -/
structure Plan (skipped : Set UInt64) (s : ReferenceState) (cs : List Section) : Prop where
  /-- Every call is on the lease of an attempt. -/
  known : ∀ c ∈ cs, ∃ (k : UInt64) (op : ReferenceOperation), s.attempts[k]? = some op ∧
    c.lease? = some op.lease
  calls : ∀ {k : UInt64} {op : ReferenceOperation}, s.attempts[k]? = some op →
    (k ∈ skipped ∧ callsOn op cs = []) ∨ ∃ termClass, callsOn op cs = missing op termClass

/-- Every call answers `Ok`. -/
def Succeeds (s : ReferenceState) : List Section → Prop
  | [] => True
  | c :: cs => (c.on s).1 = .ok .unit ∧ Succeeds (c.on s).2 cs

/-! ## One step -/

/-- A lease is that of one attempt only. -/
theorem Inv.lease_inj (hi : Inv first s) {j k : UInt64} {opj op : ReferenceOperation}
    (hj : s.attempts[j]? = some opj) (hk : s.attempts[k]? = some op)
    (he : op.lease = opj.lease) : j = k := by
  have hids : op.identity = opj.identity := congrArg ReferenceLease.identity he
  rw [← (hi.attempt hj).sequence, ← hids, (hi.attempt hk).sequence]

/-- The next step of an attempt answers `Ok`, and the steps after it are those that are missing
then. It writes the attempt's own record only. -/
theorem missing_step (hi : Inv first s) {k : UInt64} {op : ReferenceOperation}
    {termClass : TerminalClass} (hk : s.attempts[k]? = some op)
    (hm : missing op termClass = c :: cs) :
    ∃ op' : ReferenceOperation, (c.on s).1 = .ok .unit ∧
      (c.on s).2.attempts = s.attempts.insert k op' ∧ op'.identity = op.identity ∧
      missing op' termClass = cs := by
  have hseq := (hi.attempt hk).sequence
  have hop : s.attempts[op.lease.identity.sequence]? = some op := by
    show s.attempts[op.identity.sequence]? = some op
    rw [hseq]; exact hk
  have hset : ∀ op', (s.setAttempt op.lease.identity.sequence op').attempts =
      s.attempts.insert k op' := by
    intro op'
    show s.attempts.insert op.identity.sequence op' = _
    rw [hseq]
  unfold missing at hm
  cases hp : op.phase with
  | reserved =>
    simp only [hp, List.cons.injEq] at hm
    obtain ⟨rfl, rfl⟩ := hm
    refine ⟨{ op with phase := .queued }, ?_, ?_, rfl, rfl⟩ <;>
      simp only [Section.on, Section.run, Section.answer_on, queue,
        advance_ok hop rfl hp (by decide)]
    · rfl
    · exact hset _
  | queued =>
    simp only [hp, List.cons.injEq] at hm
    obtain ⟨rfl, rfl⟩ := hm
    refine ⟨{ op with phase := .running }, ?_, ?_, rfl, rfl⟩ <;>
      simp only [Section.on, Section.run, Section.answer_on, start,
        advance_ok hop rfl hp (by decide)]
    · rfl
    · exact hset _
  | running =>
    simp only [hp, List.cons.injEq] at hm
    obtain ⟨rfl, rfl⟩ := hm
    refine ⟨{ op with
      terminal := some { termClass, sequence := op.lease.identity.sequence }
      phase := .terminal }, ?_, ?_, rfl, rfl⟩ <;>
      simp only [Section.on, Section.run, Section.answer_on, terminal, terminalInner,
        advance_ok hop rfl hp (by decide)]
    · rfl
    · exact hset _
  | terminal =>
    simp only [hp, List.cons.injEq] at hm
    obtain ⟨rfl, rfl⟩ := hm
    obtain ⟨retained, joined, -, -, hon⟩ := hi.release_ok hop rfl hp
    refine ⟨{ op with phase := .released }, ?_, ?_, rfl, rfl⟩ <;>
      simp only [Section.on, Section.run, Section.answer_on, hon]
    · rfl
    · exact hset _
  | released => simp [hp] at hm

/-- The first call of a plan answers `Ok`, and the other calls are a plan of the state after it. -/
theorem Plan.next (hi : Inv first s) (h : Plan skipped s (c :: cs)) :
    (c.on s).1 = .ok .unit ∧ Inv first (c.on s).2 ∧
      (c.on s).2.attempts.size = s.attempts.size ∧ Plan skipped (c.on s).2 cs := by
  obtain ⟨k, op, hk, hc⟩ := h.known c List.mem_cons_self
  have hown : callsOn op (c :: cs) = c :: callsOn op cs := by
    rw [callsOn, List.filter_cons_of_pos (by simpa using hc)]
    rfl
  obtain ⟨termClass, hm⟩ : ∃ termClass, missing op termClass = c :: callsOn op cs := by
    rcases h.calls hk with ⟨-, he⟩ | ⟨termClass, he⟩
    · rw [hown] at he; cases he
    · exact ⟨termClass, by rw [← he, hown]⟩
  obtain ⟨op', hok, hattempts, hid, hrest⟩ := missing_step hi hk hm
  have hlease : op'.lease = op.lease := congrArg ReferenceLease.mk hid
  have hlookup : ∀ j, (c.on s).2.attempts[j]? = if j = k then some op' else s.attempts[j]? := by
    intro j
    rw [hattempts, lookup_insert]
  refine ⟨hok, hi.step (hi.effect c), by rw [hattempts, size_insert_old hk], fun c' hc' => ?_,
    fun {j opj} hj => ?_⟩
  · obtain ⟨j, opj, hj, hlj⟩ := h.known c' (List.mem_cons_of_mem _ hc')
    by_cases hjk : j = k
    · subst hjk
      rw [hk] at hj
      obtain rfl := Option.some.inj hj
      exact ⟨j, op', by rw [hlookup, if_pos rfl], by rw [hlj, hlease]⟩
    · exact ⟨j, opj, by rw [hlookup, if_neg hjk, hj], hlj⟩
  · rw [hlookup] at hj
    by_cases hjk : j = k
    · -- The attempt that moved lacks one step less.
      rw [if_pos hjk] at hj
      obtain rfl := Option.some.inj hj
      refine .inr ⟨termClass, ?_⟩
      rw [hrest, callsOn, callsOn, hlease]
    · -- No other attempt has the lease of the call.
      rw [if_neg hjk] at hj
      have hother : callsOn opj (c :: cs) = callsOn opj cs := by
        rw [callsOn, List.filter_cons_of_neg]
        · rfl
        · rw [decide_eq_true_eq, hc, Option.some_inj]
          exact fun he => hjk (hi.lease_inj hj hk he)
      have hcalls := h.calls hj
      rwa [hother] at hcalls

/-! ## All steps -/

theorem Plan.succeeds (hi : Inv first s) (h : Plan skipped s cs) :
    Succeeds s cs ∧ Inv first (stateAfter s cs) ∧
      (stateAfter s cs).attempts.size = s.attempts.size ∧ Plan skipped (stateAfter s cs) [] := by
  induction cs generalizing s with
  | nil => exact ⟨trivial, hi, rfl, h⟩
  | cons c cs ih =>
    obtain ⟨hok, hi', hsize, hplan⟩ := h.next hi
    obtain ⟨hrest, hinv, hsizes, hlast⟩ := ih hi' hplan
    exact ⟨⟨hok, hrest⟩, hinv, hsizes.trans hsize, hlast⟩

/-- A plan that skips nothing and has no call left: every attempt is released. -/
theorem Plan.drained (hi : Inv first s) (h : Plan ∅ s []) : s.active.size = 0 := by
  refine size_eq_zero_iff.mpr fun id => ?_
  cases ha : s.active[id]? with
  | none => rfl
  | some k =>
    obtain ⟨op, hk, -, hp⟩ := hi.index.mp ha
    rcases h.calls hk with ⟨hs, -⟩ | ⟨termClass, hm⟩
    · cases hs
    · refine absurd ?_ hp
      cases hphase : op.phase <;> simp [callsOn, missing, hphase] at hm ⊢

/-- The steps that one attempt lacks are a plan that skips the others. -/
theorem Plan.single (hi : Inv first s) {k : UInt64} {op : ReferenceOperation}
    (hk : s.attempts[k]? = some op) (termClass : TerminalClass) :
    Plan Set.univ s (missing op termClass) := by
  have hlease : ∀ c ∈ missing op termClass, c.lease? = some op.lease := by
    intro c hc
    unfold missing at hc
    cases hp : op.phase <;> simp only [hp, List.mem_cons, List.not_mem_nil, or_false] at hc
    all_goals rcases hc with rfl | rfl | rfl | rfl <;> rfl
  refine ⟨fun c hc => ⟨k, op, hk, hlease c hc⟩, fun {j opj} hj => ?_⟩
  by_cases hjk : j = k
  · subst hjk
    rw [hk] at hj
    obtain rfl := Option.some.inj hj
    exact .inr ⟨termClass, List.filter_eq_self.mpr fun c hc => by simp [hlease c hc]⟩
  · refine .inl ⟨trivial, List.filter_eq_nil_iff.mpr fun c hc => ?_⟩
    rw [decide_eq_true_eq, hlease c hc, Option.some_inj]
    exact fun he => hjk (hi.lease_inj hj hk he)

/-- With no active attempt, `shutdown` closes, and the workers are all the attempts. -/
theorem Inv.shutdown_drained (hi : Inv first s) (hz : s.active.size = 0) :
    ∃ (workers : Usize) (s' : ReferenceState), workers.toNat = s.attempts.size ∧
      shutdown.on s = (.ok ⟨.closed, 0, 0, workers, workers⟩, s') := by
  have hq : ∃ q, quiesce.on s = (.ok (), q) ∧ Inv first q ∧ q.active = s.active ∧
      q.attempts.size = s.attempts.size := by
    by_cases hl : s.lifecycle = .running
    · refine ⟨s.closeAdmission, ?_, hi.closeAdmission, rfl, size_foldl_modify _⟩
      rw [quiesce, Exec.on_modify, if_pos hl]
      rfl
    · exact ⟨s, by rw [quiesce, Exec.on_modify, if_neg hl], hi, rfl, rfl⟩
  obtain ⟨q, hq, hiq, hactive, hsize⟩ := hq
  rw [← hactive] at hz
  obtain ⟨expected, he, hon⟩ := hiq.shutdownClose_eq
  have hret : q.retainedTasks = 0 := by
    rw [← UInt64.toNat_inj, hiq.retained, hz]
    rfl
  have hexpected : expected = q.joinedWorkers := by
    rw [← UInt64.toNat_inj, he, hret]
    rfl
  refine ⟨q.joinedWorkers, q.closeOf, ?_, ?_⟩
  · have hlive := hiq.live
    rw [hiq.joined]
    omega
  · have hclose : q.closeOf = { q with lifecycle := .closed } := if_pos hz
    rw [shutdown, Exec.on_bind, hq]
    dsimp only
    rw [hon, hexpected, hclose]
    simp only [ReferenceState.facts, hz, hret]

section Run

variable {config : TestConfig} {w₀ w : World} {es : List (Event × World)}

/-- **Progress.** From every state that a run reaches: the steps that an attempt lacks all answer
`Ok`; so do those of any attempts, interleaved in any way; and when no attempt is left out, the
`shutdown` after them reports `Closed`, with a worker joined for each `reserve` of the run that
succeeded. -/
theorem never_stuck (h₀ : (adapterSys config).init w₀) (h : (adapterSys config).Run w₀ es w) :
    (∀ (id : String) (k : UInt64) (op : ReferenceOperation) (termClass : TerminalClass),
      w.state.active[id]? = some k → w.state.attempts[k]? = some op →
      Succeeds w.state (missing op termClass)) ∧
    (∀ (skipped : Set UInt64) (cs : List Section), Plan skipped w.state cs →
      Succeeds w.state cs) ∧
    ∀ cs : List Section, Plan ∅ w.state cs →
      ∃ (workers : Usize) (s' : ReferenceState),
        workers.toNat = (es.countP fun p => admits p.1.sec p.1.reply) ∧
        shutdown.on (stateAfter w.state cs) = (.ok ⟨.closed, 0, 0, workers, workers⟩, s') := by
  have hI := adapterSys_inductive config
  have hi := (hI.run h (hI.init h₀)).books
  refine ⟨fun id k op termClass _ hk => ((Plan.single hi hk termClass).succeeds hi).1,
    fun skipped cs hplan => (hplan.succeeds hi).1, fun cs hplan => ?_⟩
  obtain ⟨-, hinv, hsize, hlast⟩ := hplan.succeeds hi
  obtain ⟨workers, s', hworkers, hon⟩ := hinv.shutdown_drained (hlast.drained hinv)
  exact ⟨workers, s', by rw [hworkers, hsize, admitted_count h₀ h], hon⟩

/-- One attempt runs with more progress than the projection holds, the other is cancelled, and
admission is closed. -/
def backlogCalls : List Section :=
  [Section.reserve "a", .reserve "b", .queue (leaseOf "a" 1), .start (leaseOf "a" 1)] ++
    (List.replicate 5 (Section.publishProgress (leaseOf "a" 1) 7) ++
      [Section.requestCancel ⟨mintIdentity "b" 2⟩, .quiesce])

def backlogWorld : World where
  state := stateAfter startWorld.state backlogCalls
  pc _ := .idle

theorem backlogWorld_run :
    (adapterSys {}).Run startWorld (callEvents startWorld backlogCalls) backlogWorld :=
  run_callEvents {} (by simp [backlogCalls]) fun _ => rfl

/-- The steps that the two attempts lack, one in between the other. -/
def backlogDrain : List Section :=
  [.queue (leaseOf "b" 2), .terminal (leaseOf "a" 1) .failed, .start (leaseOf "b" 2),
    .terminal (leaseOf "b" 2) .completed, .release (leaseOf "a" 1), .release (leaseOf "b" 2)]

theorem backlogDrain_plan : Plan ∅ backlogWorld.state backlogDrain := by
  have ha : backlogWorld.state.attempts[(1 : UInt64)]? =
      some ⟨mintIdentity "a" 1, .running, true, none, [7, 7, 7, 7]⟩ := by decide +kernel
  have hb : backlogWorld.state.attempts[(2 : UInt64)]? =
      some ⟨mintIdentity "b" 2, .reserved, true, none, []⟩ := by decide +kernel
  refine ⟨fun c hc => ?_, fun {k op} hk => .inr ?_⟩
  · simp only [backlogDrain, List.mem_cons, List.not_mem_nil, or_false] at hc
    rcases hc with rfl | rfl | rfl | rfl | rfl | rfl
    · exact ⟨2, _, hb, rfl⟩
    · exact ⟨1, _, ha, rfl⟩
    · exact ⟨2, _, hb, rfl⟩
    · exact ⟨2, _, hb, rfl⟩
    · exact ⟨1, _, ha, rfl⟩
    · exact ⟨2, _, hb, rfl⟩
  · have hI := adapterSys_inductive {}
    have hi := (hI.run backlogWorld_run (hI.init startWorld_init)).books
    have hkeys := hi.keys.mp (by rw [hk]; rfl)
    rw [UInt64.le_iff_toNat_le, UInt64.lt_iff_toNat_lt] at hkeys
    have hfirst : (({} : TestConfig).nextSequence).toNat = 1 := rfl
    have hnext : backlogWorld.state.nextSequence.toNat = 3 := by decide +kernel
    have hcases : k = 1 ∨ k = 2 := by
      rw [← UInt64.toNat_inj, ← UInt64.toNat_inj]
      show k.toNat = 1 ∨ k.toNat = 2
      omega
    rcases hcases with rfl | rfl
    · rw [ha] at hk
      obtain rfl := Option.some.inj hk
      exact ⟨.failed, by decide⟩
    · rw [hb] at hk
      obtain rfl := Option.some.inj hk
      exact ⟨.completed, by decide⟩

theorem never_stuck_backlog :
    Succeeds backlogWorld.state backlogDrain ∧
      ∃ (workers : Usize) (s' : ReferenceState), workers.toNat = 2 ∧
        shutdown.on (stateAfter backlogWorld.state backlogDrain) =
          (.ok ⟨.closed, 0, 0, workers, workers⟩, s') := by
  obtain ⟨-, hany, hall⟩ := never_stuck startWorld_init backlogWorld_run
  refine ⟨hany ∅ _ backlogDrain_plan, ?_⟩
  obtain ⟨workers, s', hworkers, hon⟩ := hall _ backlogDrain_plan
  exact ⟨workers, s', hworkers.trans (by decide), hon⟩

end Run

end Testkit
end Platform
