import PlatformContracts.Testkit.AdapterSys

/-!
# What a section of the reference adapter does

* `AttemptStep`: the steps of one attempt's record, the abstract life of an attempt.
* `Inv first`: the books of the adapter (the registry, the records and the two counters) agree,
  every record is well formed, and what holds once admission is closed. `first` is the sequence
  that the adapter started from.
* `Effect s c reply s'`: what the section `c` can answer in a state `s` with `Inv`, and the state
  after it. `Inv.effect`: every section does one of these; no section panics.
-/

namespace Platform
namespace Testkit

open Std

/-! ## The steps of a record -/

/-- One step of an attempt. A record changes in no other way. -/
inductive AttemptStep : ReferenceOperation → ReferenceOperation → Prop
  | queue {op : ReferenceOperation} : op.phase = .reserved →
      AttemptStep op { op with phase := .queued }
  | start {op : ReferenceOperation} : op.phase = .queued →
      AttemptStep op { op with phase := .running }
  | progress {op : ReferenceOperation} (l : List UInt64) : op.phase = .running →
      AttemptStep op { op with progress := l }
  | cancel {op : ReferenceOperation} : op.phase ≠ .terminal → op.phase ≠ .released →
      AttemptStep op (cancelOperation op)
  | terminal {op : ReferenceOperation} (termClass : TerminalClass) : op.phase = .running →
      AttemptStep op { op with
        terminal := some { termClass, sequence := op.identity.sequence }
        phase := .terminal }
  | release {op : ReferenceOperation} : op.phase = .terminal →
      AttemptStep op { op with phase := .released }

def OperationPhase.isReleased (phase : OperationPhase) : Bool := phase = .released

def ReferenceOperation.isReleased (op : ReferenceOperation) : Bool := op.phase.isReleased

@[simp] theorem isReleased_iff {op : ReferenceOperation} :
    op.isReleased = true ↔ op.phase = .released := by
  simp [ReferenceOperation.isReleased, OperationPhase.isReleased]

/-- The attempt has its terminal record. -/
def ReferenceOperation.Finished (op : ReferenceOperation) : Prop :=
  op.phase = .terminal ∨ op.phase = .released

instance (op : ReferenceOperation) : Decidable op.Finished :=
  inferInstanceAs (Decidable (_ ∨ _))

/-- A record of the attempt with sequence `k` is well formed: its identity was minted for `k`, and
it has a terminal record, with the attempt's own sequence, exactly when it is finished. -/
structure ReferenceOperation.Ok (k : UInt64) (op : ReferenceOperation) : Prop where
  minted : op.identity = mintIdentity op.identity.operationId k
  finished : op.terminal.isSome ↔ op.Finished
  record : ∀ r, op.terminal = some r → r.sequence = k

theorem ReferenceOperation.Ok.sequence {k : UInt64} {op : ReferenceOperation} (h : op.Ok k) :
    op.identity.sequence = k := by rw [h.minted]; rfl

theorem AttemptStep.identity {op op' : ReferenceOperation} (h : AttemptStep op op') :
    op'.identity = op.identity := by cases h <;> rfl

/-- A released attempt takes no step. -/
theorem AttemptStep.not_released {op op' : ReferenceOperation} (h : AttemptStep op op') :
    op.phase ≠ .released := by
  cases h <;> simp_all

theorem AttemptStep.ok {k : UInt64} {op op' : ReferenceOperation} (h : AttemptStep op op')
    (hk : op.Ok k) : op'.Ok k := by
  have hm := hk.minted
  have hs := hk.sequence
  have hf := hk.finished
  have hr := hk.record
  cases h with
  | terminal termClass hp =>
    refine ⟨hm, by simp [ReferenceOperation.Finished], fun r h => ?_⟩
    obtain rfl := Option.some.inj h
    exact hs
  | cancel => exact ⟨hm, hf, hr⟩
  | queue hp => exact ⟨hm, by simp [hf, ReferenceOperation.Finished, hp], hr⟩
  | start hp => exact ⟨hm, by simp [hf, ReferenceOperation.Finished, hp], hr⟩
  | progress l hp => exact ⟨hm, by simp [hf, ReferenceOperation.Finished, hp], hr⟩
  | release hp => exact ⟨hm, by simp [hf, ReferenceOperation.Finished, hp], hr⟩

/-! ## The invariant -/

/-- The books of the adapter agree (module doc). -/
structure Inv (first : UInt64) (s : ReferenceState) : Prop where
  attempt : ∀ {k : UInt64} {op : ReferenceOperation}, s.attempts[k]? = some op → op.Ok k
  /-- The registry lists the attempts that are not released, under their public IDs. -/
  index : ∀ {id : String} {k : UInt64}, s.active[id]? = some k ↔
    ∃ op : ReferenceOperation, s.attempts[k]? = some op ∧ op.identity.operationId = id ∧
      op.phase ≠ .released
  keys : ∀ {k : UInt64}, (s.attempts[k]?).isSome ↔ first ≤ k ∧ k < s.nextSequence
  total : first.toNat + s.attempts.size = s.nextSequence.toNat
  live : s.active.size + countV ReferenceOperation.isReleased s.attempts = s.attempts.size
  retained : s.retainedTasks.toNat = s.active.size
  joined : s.joinedWorkers.toNat = countV ReferenceOperation.isReleased s.attempts
  /-- Once admission is closed, an unfinished attempt carries the cancellation request. -/
  cancelled : s.lifecycle ≠ .running → ∀ {k : UInt64} {op : ReferenceOperation},
    s.attempts[k]? = some op → ¬op.Finished → op.cancellationRequested = true
  drained : s.lifecycle = .closed → s.active.size = 0

/-! ## The states after the sections -/

namespace ReferenceState

/-- The state after an admission. -/
def enroll (s : ReferenceState) (id : String) (next : UInt64) (retained : Usize) :
    ReferenceState :=
  { s with
    nextSequence := next
    active := s.active.insert id s.nextSequence
    attempts := s.attempts.insert s.nextSequence (newOperation (mintIdentity id s.nextSequence))
    retainedTasks := retained }

/-- The state after a release. -/
def retire (s : ReferenceState) (identity : AttemptIdentity) (op : ReferenceOperation)
    (retained joined : Usize) : ReferenceState :=
  { s with
    active := s.active.erase identity.operationId
    attempts := s.attempts.insert identity.sequence { op with phase := .released }
    retainedTasks := retained
    joinedWorkers := joined }

/-- The state after the `quiesce` that closes admission. -/
def closeAdmission (s : ReferenceState) : ReferenceState :=
  { s with
    lifecycle := .quiescing
    attempts := (s.active.toList.map (·.2)).foldl
      (fun attempts sequence => attempts.modify sequence quiesceOperation) s.attempts }

/-- The facts that `closed_facts` reads, with the sum that it computes. -/
def facts (s : ReferenceState) (expected : Usize) : ClosedFacts where
  lifecycle := s.lifecycle
  activeOperations := s.active.size
  retainedTasks := s.retainedTasks
  expectedWorkers := expected
  joinedWorkers := s.joinedWorkers

end ReferenceState

/-! ## The lease operations that only move the record -/

/-- The arguments of an `advance`. -/
structure Move where
  lease : ReferenceLease
  expected : OperationPhase
  update : ReferenceOperation → ReferenceOperation

/-- The lease operations that are one `advance`. -/
def Section.move? (capacity : Usize) : Section → Option Move
  | .queue lease => some ⟨lease, .reserved, fun op => { op with phase := .queued }⟩
  | .start lease => some ⟨lease, .queued, fun op => { op with phase := .running }⟩
  | .publishProgress lease sequence =>
    some ⟨lease, .running, fun op =>
      { op with progress := pushProgress capacity op.progress sequence }⟩
  | .terminal lease termClass =>
    some ⟨lease, .running, fun op => { op with
      terminal := some { termClass, sequence := lease.identity.sequence }, phase := .terminal }⟩
  | .recordExecutorPanic lease =>
    some ⟨lease, .running, fun op => { op with
      terminal := some { termClass := .failed, sequence := lease.identity.sequence }
      phase := .terminal }⟩
  | _ => none

/-- The identity whose attempt the section asks to cancel. -/
def Section.cancels? : Section → Option AttemptIdentity
  | .requestCancel ticket | .dropTicket ticket => some ticket.identity
  | _ => none

/-- A move is a step of the record that the lease names. -/
theorem Section.move_step {c : Section} {capacity : Usize} {m : Move}
    (hm : c.move? capacity = some m) {op : ReferenceOperation}
    (hid : op.identity = m.lease.identity) (hp : op.phase = m.expected) :
    AttemptStep op (m.update op) := by
  cases c <;> simp only [Section.move?, Option.some.injEq, reduceCtorEq] at hm <;> subst hm
  · exact .queue hp
  · exact .start hp
  · exact .progress _ hp
  · dsimp only at hid ⊢; rw [← hid]; exact .terminal _ hp
  · dsimp only at hid ⊢; rw [← hid]; exact .terminal _ hp

theorem Section.move_lease {c : Section} {capacity : Usize} {m : Move}
    (hm : c.move? capacity = some m) : c.lease? = some m.lease := by
  cases c <;> simp only [Section.move?, Option.some.injEq, reduceCtorEq] at hm <;> subst hm <;> rfl

/-! ## What each section answers -/

section On

variable {s : ReferenceState}

theorem operationMut_eq_ok {identity : AttemptIdentity} {op : ReferenceOperation} :
    operationMut s identity = .ok op ↔
      s.attempts[identity.sequence]? = some op ∧ op.identity = identity ∧
        op.phase ≠ .released := by
  unfold operationMut
  cases h : s.attempts[identity.sequence]? with
  | none => simp
  | some op' =>
    simp only [ne_eq, Option.some.injEq]
    split
    · rename_i hc
      simp only [reduceCtorEq, false_iff]
      rintro ⟨rfl, h1, h2⟩
      exact hc.elim (· h1) h2
    · rename_i hc
      simp only [not_or, not_not] at hc
      constructor
      · intro h; obtain rfl := Except.ok.inj h; exact ⟨rfl, hc⟩
      · rintro ⟨rfl, -⟩; rfl

theorem advance_on (lease : ReferenceLease) (expected : OperationPhase)
    (update : ReferenceOperation → ReferenceOperation) :
    (advance lease expected update).on s =
      match operationMut s lease.identity with
      | .error e => (.error (.err e), s)
      | .ok op =>
        if op.phase = expected then (.ok (), s.setAttempt lease.identity.sequence (update op))
        else (.error (.err .invalidTransition), s) := by
  unfold advance
  simp only [Exec.on_get_bind, Exec.on_ofResult_bind, Exec.on_ensure_bind, Exec.on_modify]
  cases operationMut s lease.identity <;> rfl

/-- A lease operation on a live attempt in the right phase. -/
theorem advance_ok {lease : ReferenceLease} {expected : OperationPhase}
    {update : ReferenceOperation → ReferenceOperation} {op : ReferenceOperation}
    (h : s.attempts[lease.identity.sequence]? = some op) (hid : op.identity = lease.identity)
    (hp : op.phase = expected) (hr : expected ≠ .released) :
    (advance lease expected update).on s =
      (.ok (), s.setAttempt lease.identity.sequence (update op)) := by
  have hop : operationMut s lease.identity = .ok op :=
    operationMut_eq_ok.mpr ⟨h, hid, by rwa [hp]⟩
  rw [advance_on, hop]
  exact if_pos hp

theorem move_on {c : Section} {m : Move} (hm : c.move? s.progressCapacity = some m) :
    c.on s = match operationMut s m.lease.identity with
      | .error e => (.error (.err e), s)
      | .ok op =>
        if op.phase = m.expected then
          (.ok .unit, s.setAttempt m.lease.identity.sequence (m.update op))
        else (.error (.err .invalidTransition), s) := by
  have key : c.on s =
      (((advance m.lease m.expected m.update).on s).1.map fun _ => .unit,
        ((advance m.lease m.expected m.update).on s).2) := by
    cases c <;> simp only [Section.move?, Option.some.injEq, reduceCtorEq] at hm <;> subst hm <;>
      simp only [Section.on, Section.run, Section.answer_on, queue, start, publishProgress,
        terminal, recordExecutorPanic, terminalInner, Exec.on_get_bind]
  rw [key, advance_on]
  cases operationMut s m.lease.identity with
  | error => rfl
  | ok op =>
    by_cases hp : op.phase = m.expected
    · simp only [if_pos hp]; rfl
    · simp only [if_neg hp]; rfl

theorem cancels_on {c : Section} {identity : AttemptIdentity} (hc : c.cancels? = some identity) :
    c.on s = (.ok .unit, match s.attempts[identity.sequence]? with
      | none => s
      | some op =>
        if op.identity = identity ∧ ¬op.Finished then
          s.setAttempt identity.sequence (cancelOperation op)
        else s) := by
  cases c <;> simp only [Section.cancels?, Option.some.injEq, reduceCtorEq] at hc <;> subst hc <;>
    rfl

theorem reserve_on (id : String) :
    (reserve id).on s =
      if s.lifecycle ≠ .running then (.error (.err .admissionClosed), s)
      else if s.active.contains id then (.error (.err .duplicateOperation), s)
      else match checkedAdd s.nextSequence 1 with
        | none => (.error (.err .sequenceExhausted), s)
        | some next => match checkedAdd s.retainedTasks 1 with
          | none => (.error (.panic "test retained-task count exhausted"),
              s.enroll id next s.retainedTasks)
          | some retained =>
            (.ok ⟨⟨mintIdentity id s.nextSequence⟩, ⟨mintIdentity id s.nextSequence⟩⟩,
              s.enroll id next retained) := by
  unfold reserve
  simp only [Exec.on_get_bind, Exec.on_ensure_bind, Exec.on_ofResult_bind, Exec.on_modify_bind,
    Exec.on_expect_bind, Exec.on_pure]
  by_cases hl : s.lifecycle = .running
  · rw [if_pos hl, if_neg (not_not.mpr hl)]
    by_cases hc : s.active.contains id = true
    · rw [if_neg (not_not.mpr hc), if_pos hc]
    · rw [if_pos hc, if_neg hc]
      cases checkedAdd s.nextSequence 1 with
      | none => rfl
      | some next =>
        simp only [Exec.okOr, ReferenceState.setAttempt]
        cases checkedAdd s.retainedTasks 1 <;> rfl
  · rw [if_neg hl, if_pos hl]

theorem release_on (lease : ReferenceLease) :
    (release lease).on s =
      match operationMut s lease.identity with
      | .error e => (.error (.err e), s)
      | .ok op =>
        if op.phase ≠ .terminal then (.error (.err .invalidTransition), s)
        else
          let s' := s.retire lease.identity op s.retainedTasks s.joinedWorkers
          if s.active[lease.identity.operationId]? ≠ some lease.identity.sequence then
            (.error (.err .staleLease), s')
          else match checkedSub s.retainedTasks 1 with
            | none => (.error (.panic "attempt to subtract with overflow"), s')
            | some retained => match checkedAdd s.joinedWorkers 1 with
              | none => (.error (.panic "test joined-worker count exhausted"),
                  s.retire lease.identity op retained s.joinedWorkers)
              | some joined => (.ok (), s.retire lease.identity op retained joined) := by
  unfold release
  rw [Exec.on_bind, advance_on]
  cases operationMut s lease.identity with
  | error => rfl
  | ok op =>
    by_cases hp : op.phase = .terminal
    · simp only [if_pos hp, if_neg (not_not.mpr hp), Exec.on_get_bind, Exec.on_modify_bind,
        Exec.on_ensure_bind, Exec.on_expect_bind, Exec.on_modify, ReferenceState.setAttempt]
      by_cases ha : s.active[lease.identity.operationId]? = some lease.identity.sequence
      · rw [if_pos ha, if_neg (not_not.mpr ha)]
        cases checkedSub s.retainedTasks 1 with
        | none => rfl
        | some retained => cases checkedAdd s.joinedWorkers 1 <;> rfl
      · rw [if_neg ha, if_pos ha]
        rfl
    · simp only [if_neg hp, if_pos hp]

theorem quiesce_on :
    Section.quiesce.on s =
      (.ok .unit, if s.lifecycle = .running then s.closeAdmission else s) := rfl

theorem waiterTimeout_on (s : ReferenceState) (ticket : ReferenceTicket) :
    ((waiterTimeout ticket).on s).2 = s ∧
      (((waiterTimeout ticket).on s).1 = .ok .timedOut ∨
        ((waiterTimeout ticket).on s).1 = .error (.err .unknownOperation)) := by
  unfold waiterTimeout
  simp only [Exec.on_get_bind, Exec.on_ofResult_bind, Exec.on_pure]
  cases s.attempts[ticket.identity.sequence]?.filter fun op => op.identity = ticket.identity <;>
    simp [Exec.okOr]

theorem shutdownClose_on :
    shutdownClose.on s =
      let s' :=
        if s.active.isEmpty ∧ s.retainedTasks = 0 then { s with lifecycle := .closed } else s
      match checkedAdd s.joinedWorkers s.retainedTasks with
      | none => (.error (.panic "test expected-worker count exhausted"), s')
      | some expected => (.ok (s'.facts expected), s') := by
  unfold shutdownClose closedFacts
  simp only [Exec.on_modify_bind, Exec.on_get_bind, Exec.on_expect_bind, Exec.on_pure]
  by_cases hc : s.active.isEmpty = true ∧ s.retainedTasks = 0
  · simp only [if_pos hc]
    cases checkedAdd s.joinedWorkers s.retainedTasks <;> rfl
  · simp only [if_neg hc]
    cases checkedAdd s.joinedWorkers s.retainedTasks <;> rfl

end On

/-! ## The effects -/

/-- What a section answers and does in a state with `Inv`. -/
inductive Effect (s : ReferenceState) : Section → Reply → ReferenceState → Prop
  /-- An error changes nothing. -/
  | refused {c : Section} {e : AdapterError} : Effect s c (.error (.err e)) s
  | admitted {id : String} {next : UInt64} {retained : Usize} :
      s.lifecycle = .running → s.active[id]? = none →
      next.toNat = s.nextSequence.toNat + 1 → retained.toNat = s.retainedTasks.toNat + 1 →
      Effect s (.reserve id)
        (.ok (.reserved ⟨⟨mintIdentity id s.nextSequence⟩, ⟨mintIdentity id s.nextSequence⟩⟩))
        (s.enroll id next retained)
  | moved {c : Section} {m : Move} {op : ReferenceOperation} :
      c.move? s.progressCapacity = some m → s.attempts[m.lease.identity.sequence]? = some op →
      op.identity = m.lease.identity → op.phase = m.expected →
      Effect s c (.ok .unit) (s.setAttempt m.lease.identity.sequence (m.update op))
  | cancelled {c : Section} {identity : AttemptIdentity} {op : ReferenceOperation} :
      c.cancels? = some identity → s.attempts[identity.sequence]? = some op →
      op.identity = identity → ¬op.Finished →
      Effect s c (.ok .unit) (s.setAttempt identity.sequence (cancelOperation op))
  /-- A request that names no attempt, or a finished one. -/
  | cancelKept {c : Section} {identity : AttemptIdentity} :
      c.cancels? = some identity →
      (∀ op : ReferenceOperation, s.attempts[identity.sequence]? = some op →
        op.identity = identity → op.Finished) →
      Effect s c (.ok .unit) s
  | waited (ticket : ReferenceTicket) :
      Effect s (.waiterTimeout ticket) (.ok (.waited .timedOut)) s
  | released {lease : ReferenceLease} {op : ReferenceOperation} {retained joined : Usize} :
      s.attempts[lease.identity.sequence]? = some op → op.identity = lease.identity →
      op.phase = .terminal →
      s.active[lease.identity.operationId]? = some lease.identity.sequence →
      retained.toNat + 1 = s.retainedTasks.toNat →
      joined.toNat = s.joinedWorkers.toNat + 1 →
      Effect s (.release lease) (.ok .unit) (s.retire lease.identity op retained joined)
  | quiesced : s.lifecycle = .running → Effect s .quiesce (.ok .unit) s.closeAdmission
  | quiesceKept : s.lifecycle ≠ .running → Effect s .quiesce (.ok .unit) s
  | closed {expected : Usize} : s.active.size = 0 →
      expected.toNat = s.joinedWorkers.toNat + s.retainedTasks.toNat →
      Effect s .shutdownClose
        (.ok (.closed (ReferenceState.facts { s with lifecycle := .closed } expected)))
        { s with lifecycle := .closed }
  | stillOpen {expected : Usize} : s.active.size ≠ 0 →
      expected.toNat = s.joinedWorkers.toNat + s.retainedTasks.toNat →
      Effect s .shutdownClose (.ok (.closed (s.facts expected))) s

namespace Inv

variable {first : UInt64} {s : ReferenceState}

/-- The sizes are below the number of sequences. -/
theorem size_lt (hi : Inv first s) : s.attempts.size < 2 ^ 64 := by
  have := hi.total
  have := s.nextSequence.toNat_lt
  omega

/-- A live attempt is in the registry under its public ID. -/
theorem active_of_live (hi : Inv first s) {identity : AttemptIdentity} {op : ReferenceOperation}
    (h : s.attempts[identity.sequence]? = some op) (hid : op.identity = identity)
    (hp : op.phase ≠ .released) :
    s.active[identity.operationId]? = some identity.sequence :=
  hi.index.mpr ⟨op, h, by rw [hid], hp⟩

/-- An admission that the registry and the sequences allow does not exhaust the counter. -/
theorem reserve_ok (hi : Inv first s) {id : String} {next : UInt64}
    (hl : s.lifecycle = .running) (hc : ¬s.active.contains id)
    (hn : checkedAdd s.nextSequence 1 = some next) :
    ∃ retained : Usize, retained.toNat = s.retainedTasks.toNat + 1 ∧ (reserve id).on s =
      (.ok ⟨⟨mintIdentity id s.nextSequence⟩, ⟨mintIdentity id s.nextSequence⟩⟩,
        s.enroll id next retained) := by
  have hsz := hi.size_lt
  have hlive := hi.live
  have htotal := hi.total
  have hret := hi.retained
  rw [reserve_on, if_neg (not_not_intro hl), if_neg hc, hn]
  rw [checkedAdd_eq_some] at hn
  have hnext := next.toNat_lt
  dsimp only
  split
  · -- The count is at most the number of sequences handed out.
    rename_i h
    rw [checkedAdd_eq_none] at h
    simp only [UInt64.toNat_one] at hn h
    omega
  · rename_i retained hr
    exact ⟨retained, checkedAdd_eq_some.mp hr, rfl⟩

theorem effect_reserve (hi : Inv first s) (id : String) :
    Effect s (.reserve id) ((Section.reserve id).on s).1 ((Section.reserve id).on s).2 := by
  simp only [Section.on, Section.run, Section.answer_on]
  by_cases hl : s.lifecycle = .running
  · by_cases hc : s.active.contains id = true
    · rw [reserve_on, if_neg (not_not_intro hl), if_pos hc]
      exact .refused
    · cases hn : checkedAdd s.nextSequence 1 with
      | none =>
        rw [reserve_on, if_neg (not_not_intro hl), if_neg hc, hn]
        exact .refused
      | some next =>
        obtain ⟨retained, hr, hon⟩ := hi.reserve_ok hl hc hn
        rw [hon]
        rw [ExtTreeMap.contains_iff_mem] at hc
        exact .admitted hl (ExtTreeMap.getElem?_eq_none hc) (checkedAdd_eq_some.mp hn) hr
  · rw [reserve_on, if_pos hl]
    exact .refused

theorem effect_move (_ : Inv first s) {c : Section} {m : Move}
    (hm : c.move? s.progressCapacity = some m) : Effect s c (c.on s).1 (c.on s).2 := by
  rw [move_on hm]
  split
  · exact .refused
  rename_i op hop
  obtain ⟨h, hid, -⟩ := operationMut_eq_ok.mp hop
  split
  · rename_i hp
    exact .moved hm h hid hp
  · exact .refused

theorem effect_cancels (_ : Inv first s) {c : Section} {identity : AttemptIdentity}
    (hc : c.cancels? = some identity) : Effect s c (c.on s).1 (c.on s).2 := by
  rw [cancels_on hc]
  dsimp only
  cases h : s.attempts[identity.sequence]? with
  | none => exact .cancelKept hc fun op hop => by rw [h] at hop; cases hop
  | some op =>
    dsimp only
    split
    · rename_i hcond
      exact .cancelled hc h hcond.1 hcond.2
    · rename_i hcond
      refine .cancelKept hc fun op' hop hid => ?_
      rw [h] at hop
      obtain rfl := Option.some.inj hop
      exact not_not.mp fun hf => hcond ⟨hid, hf⟩

/-- The release of a terminal attempt finds it in the registry and in the counts. -/
theorem release_ok (hi : Inv first s) {lease : ReferenceLease} {op : ReferenceOperation}
    (h : s.attempts[lease.identity.sequence]? = some op) (hid : op.identity = lease.identity)
    (hp : op.phase = .terminal) :
    ∃ retained joined : Usize, retained.toNat + 1 = s.retainedTasks.toNat ∧
      joined.toNat = s.joinedWorkers.toNat + 1 ∧
      (release lease).on s = (.ok (), s.retire lease.identity op retained joined) := by
  have hsz := hi.size_lt
  have hlive := hi.live
  have hret := hi.retained
  have hjoin := hi.joined
  have hrel : op.phase ≠ .released := by rw [hp]; simp
  have ha := hi.active_of_live h hid hrel
  -- The registry has an entry, so the count is not zero.
  have hpos := size_erase_old ha
  have hop : operationMut s lease.identity = .ok op := operationMut_eq_ok.mpr ⟨h, hid, hrel⟩
  rw [release_on, hop]
  dsimp only
  rw [if_neg (not_not_intro hp), if_neg (not_not_intro ha)]
  split
  · rename_i hn
    rw [checkedSub_eq_none, UInt64.toNat_one] at hn
    omega
  rename_i retained hr
  rw [checkedSub_eq_some, UInt64.toNat_one] at hr
  split
  · rename_i hn
    rw [checkedAdd_eq_none, UInt64.toNat_one] at hn
    omega
  · rename_i joined hj
    rw [checkedAdd_eq_some, UInt64.toNat_one] at hj
    exact ⟨retained, joined, hr, hj, rfl⟩

theorem effect_release (hi : Inv first s) (lease : ReferenceLease) :
    Effect s (.release lease) ((Section.release lease).on s).1
      ((Section.release lease).on s).2 := by
  simp only [Section.on, Section.run, Section.answer_on]
  cases hop : operationMut s lease.identity with
  | error e =>
    rw [release_on, hop]
    exact .refused
  | ok op =>
    obtain ⟨h, hid, hrel⟩ := operationMut_eq_ok.mp hop
    by_cases hp : op.phase = .terminal
    · obtain ⟨retained, joined, hr, hj, hon⟩ := hi.release_ok h hid hp
      rw [hon]
      exact .released h hid hp (hi.active_of_live h hid hrel) hr hj
    · rw [release_on, hop]
      dsimp only
      rw [if_pos hp]
      exact .refused

theorem effect_close (hi : Inv first s) :
    Effect s .shutdownClose (Section.shutdownClose.on s).1 (Section.shutdownClose.on s).2 := by
  have hsz := hi.size_lt
  have hlive := hi.live
  have hret := hi.retained
  have hjoin := hi.joined
  simp only [Section.on, Section.run, Section.answer_on, shutdownClose_on]
  split
  · rename_i hn
    rw [checkedAdd_eq_none] at hn
    omega
  rename_i expected he
  rw [checkedAdd_eq_some] at he
  by_cases hz : s.active.size = 0
  · have hr : s.retainedTasks = 0 := by
      rw [← UInt64.toNat_inj, hret, hz]; rfl
    rw [if_pos ⟨isEmpty_iff_size.mpr hz, hr⟩]
    exact .closed hz he
  · rw [if_neg fun h => hz (isEmpty_iff_size.mp h.1)]
    exact .stillOpen hz he

/-- **What a section does.** In a state with `Inv` every section has one of the effects; none of
them is a panic. -/
theorem effect (hi : Inv first s) (c : Section) : Effect s c (c.on s).1 (c.on s).2 := by
  cases c with
  | reserve id => exact hi.effect_reserve id
  | queue lease => exact hi.effect_move rfl
  | start lease => exact hi.effect_move rfl
  | publishProgress lease sequence => exact hi.effect_move rfl
  | requestCancel ticket => exact hi.effect_cancels rfl
  | dropTicket ticket => exact hi.effect_cancels rfl
  | waiterTimeout ticket =>
    obtain ⟨hs, hr⟩ := waiterTimeout_on s ticket
    simp only [Section.on, Section.run, Section.answer_on]
    rw [hs]
    rcases hr with hr | hr <;> rw [hr]
    · exact .waited ticket
    · exact .refused
  | terminal lease termClass => exact hi.effect_move rfl
  | recordExecutorPanic lease => exact hi.effect_move rfl
  | release lease => exact hi.effect_release lease
  | quiesce =>
    rw [quiesce_on]
    dsimp only
    split
    · rename_i hl; exact .quiesced hl
    · rename_i hl; exact .quiesceKept hl
  | shutdownClose => exact hi.effect_close

end Inv

end Testkit
end Platform
