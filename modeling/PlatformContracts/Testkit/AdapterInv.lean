import PlatformContracts.Testkit.AdapterEffect

/-!
# The books of the reference adapter agree in every reachable state

* `Effect.record`: a section takes each record at most one `AttemptStep`, and forgets none: the
  adapter simulates one abstract attempt for each sequence.
* `Inv.step`: every effect keeps the invariant. `inv_reach`: it holds in every reachable state of
  `adapterSys`, under any threads.
* `accounting`: the registry, the records and the counters, and that no check of them fails.
-/

namespace Platform
namespace Testkit

open Std

variable {first : UInt64} {s s' : ReferenceState} {c : Section} {reply : Reply}

/-! ## Records -/

@[simp] theorem quiesceOperation_phase (op : ReferenceOperation) :
    (quiesceOperation op).phase = op.phase := by
  unfold quiesceOperation
  split <;> rfl

theorem quiesceOperation_idem (op : ReferenceOperation) :
    quiesceOperation (quiesceOperation op) = quiesceOperation op := by
  unfold quiesceOperation
  split <;> simp [*]

/-- After the `quiesce` that closes admission, each live attempt has been asked to cancel, unless
it is terminal. -/
theorem closeAdmission_lookup (hi : Inv first s) (k : UInt64) :
    s.closeAdmission.attempts[k]? = s.attempts[k]?.map fun op =>
      if op.phase = .released then op else quiesceOperation op := by
  have hmem : k ∈ s.active.toList.map (·.2) ↔
      ∃ op : ReferenceOperation, s.attempts[k]? = some op ∧ op.phase ≠ .released := by
    simp only [List.mem_map, Prod.exists, exists_eq_right]
    constructor
    · rintro ⟨id, h⟩
      rw [ExtTreeMap.mem_toList_iff_getElem?_eq_some] at h
      obtain ⟨op, hop, -, hp⟩ := hi.index.mp h
      exact ⟨op, hop, hp⟩
    · rintro ⟨op, hop, hp⟩
      refine ⟨op.identity.operationId, ?_⟩
      rw [ExtTreeMap.mem_toList_iff_getElem?_eq_some]
      exact hi.index.mpr ⟨op, hop, rfl, hp⟩
  unfold ReferenceState.closeAdmission
  rw [lookup_foldl_modify quiesceOperation_idem]
  cases h : s.attempts[k]? with
  | none => simp
  | some op =>
    rw [h] at hmem
    simp only [Option.some.injEq, exists_eq_left'] at hmem
    by_cases hp : op.phase = .released
    · rw [if_neg (by rw [hmem]; exact not_not.mpr hp), Option.map_some, if_pos hp]
    · rw [if_pos (hmem.mpr hp), Option.map_some, Option.map_some, if_neg hp]

theorem quiesceOperation_step {op : ReferenceOperation} (hp : op.phase ≠ .released) :
    quiesceOperation op = op ∨ AttemptStep op (quiesceOperation op) := by
  unfold quiesceOperation
  split
  · rename_i h; exact .inr (.cancel h hp)
  · exact .inl rfl

/-- **Simulation.** A section takes each record at most one step, and forgets none. -/
theorem Effect.record (hi : Inv first s) (he : Effect s c reply s') {k : UInt64}
    {op : ReferenceOperation} (hk : s.attempts[k]? = some op) :
    ∃ op', s'.attempts[k]? = some op' ∧ (op' = op ∨ AttemptStep op op') := by
  have write : ∀ {j : UInt64} {old new : ReferenceOperation}, s.attempts[j]? = some old →
      AttemptStep old new → ∃ op', (s.attempts.insert j new)[k]? = some op' ∧
        (op' = op ∨ AttemptStep op op') := by
    intro j old new hj hs
    rw [lookup_insert]
    split
    · rename_i e
      subst e
      rw [hk] at hj
      obtain rfl := Option.some.inj hj
      exact ⟨new, rfl, .inr hs⟩
    · exact ⟨op, hk, .inl rfl⟩
  cases he with
  | admitted _ _ _ _ =>
    refine ⟨op, ?_, .inl rfl⟩
    simp only [ReferenceState.enroll, lookup_insert]
    have hlt := (hi.keys.mp (by rw [hk]; rfl)).2
    rw [if_neg (UInt64.ne_of_lt hlt), hk]
  | moved hm hop hid hp => exact write hop (Section.move_step hm hid hp)
  | cancelled _ hop _ hf =>
    exact write hop (.cancel (fun h => hf (.inl h)) (fun h => hf (.inr h)))
  | released hop _ hp _ _ _ => exact write hop (.release hp)
  | quiesced _ =>
    rw [closeAdmission_lookup hi, hk]
    refine ⟨_, rfl, ?_⟩
    dsimp only
    split
    · exact .inl rfl
    · rename_i hp; exact quiesceOperation_step hp
  | _ => exact ⟨op, hk, .inl rfl⟩

/-- A record that was not there is that of the attempt just admitted. -/
theorem Effect.record_new (hi : Inv first s) (he : Effect s c reply s') {k : UInt64}
    {op : ReferenceOperation} (hk : s.attempts[k]? = none) (hk' : s'.attempts[k]? = some op) :
    ∃ id, c = .reserve id ∧ k = s.nextSequence ∧ op = newOperation (mintIdentity id k) ∧
      reply = .ok (.reserved ⟨⟨mintIdentity id k⟩, ⟨mintIdentity id k⟩⟩) := by
  have write : ∀ {j : UInt64} {old new : ReferenceOperation}, s.attempts[j]? = some old →
      (s.attempts.insert j new)[k]? = some op → False := by
    intro j old new hj h
    rw [lookup_insert] at h
    split at h
    · rename_i e; subst e; rw [hk] at hj; cases hj
    · rw [hk] at h; cases h
  cases he with
  | admitted _ _ _ _ =>
    simp only [ReferenceState.enroll, lookup_insert] at hk'
    split at hk'
    · rename_i e
      obtain rfl := Option.some.inj hk'
      exact ⟨_, rfl, e, by rw [e], by rw [e]⟩
    · rw [hk] at hk'; cases hk'
  | moved _ hop _ _ => exact (write hop hk').elim
  | cancelled _ hop _ _ => exact (write hop hk').elim
  | released hop _ _ _ _ _ => exact (write hop hk').elim
  | quiesced _ => rw [closeAdmission_lookup hi, hk] at hk'; cases hk'
  | _ => exact absurd hk' (by simp [hk])

/-! ## Every effect keeps the invariant -/

/-- A finished attempt stays finished. -/
theorem AttemptStep.finished {op op' : ReferenceOperation} (h : AttemptStep op op')
    (hf : op.Finished) : op'.Finished := by
  cases h with
  | terminal => exact .inl rfl
  | release => exact .inr rfl
  | cancel h1 h2 => exact (hf.elim h1 h2).elim
  | queue hp => simp [ReferenceOperation.Finished, hp] at hf
  | start hp => simp [ReferenceOperation.Finished, hp] at hf
  | progress l hp => simp [ReferenceOperation.Finished, hp] at hf

/-- A cancellation request stays. -/
theorem AttemptStep.cancellation {op op' : ReferenceOperation} (h : AttemptStep op op')
    (hc : op.cancellationRequested = true) : op'.cancellationRequested = true := by
  cases h <;> first | exact hc | rfl

namespace Inv

/-- A section that writes records, but neither admits nor releases, keeps the books. -/
theorem records (hi : Inv first s) (hn : s'.nextSequence = s.nextSequence)
    (ha : s'.active = s.active) (hr : s'.retainedTasks = s.retainedTasks)
    (hj : s'.joinedWorkers = s.joinedWorkers) (hsz : s'.attempts.size = s.attempts.size)
    (hnone : ∀ {k : UInt64}, s.attempts[k]? = none → s'.attempts[k]? = none)
    (hsome : ∀ {k : UInt64} {op : ReferenceOperation}, s.attempts[k]? = some op →
      ∃ op', s'.attempts[k]? = some op' ∧ (op' = op ∨ AttemptStep op op') ∧
        op'.isReleased = op.isReleased)
    (hcan : s'.lifecycle ≠ .running → ∀ {k : UInt64} {op : ReferenceOperation},
      s'.attempts[k]? = some op → ¬op.Finished → op.cancellationRequested = true)
    (hd : s'.lifecycle = .closed → s.active.size = 0) : Inv first s' := by
  have back : ∀ {k : UInt64} {op' : ReferenceOperation}, s'.attempts[k]? = some op' →
      ∃ op, s.attempts[k]? = some op ∧ (op' = op ∨ AttemptStep op op') ∧
        op'.isReleased = op.isReleased := by
    intro k op' h
    cases hk : s.attempts[k]? with
    | none => rw [hnone hk] at h; cases h
    | some op =>
      obtain ⟨op'', h', hs⟩ := hsome hk
      rw [h] at h'
      obtain rfl := Option.some.inj h'
      exact ⟨op, rfl, hs⟩
  have hid : ∀ {op op' : ReferenceOperation}, (op' = op ∨ AttemptStep op op') →
      op'.identity = op.identity := by
    rintro op op' (rfl | h)
    · rfl
    · exact h.identity
  have hrel : ∀ {op op' : ReferenceOperation}, op'.isReleased = op.isReleased →
      (op'.phase ≠ .released ↔ op.phase ≠ .released) := by
    intro op op' h
    rw [ne_eq, ne_eq, ← isReleased_iff, ← isReleased_iff, h]
  have hcount : countV ReferenceOperation.isReleased s'.attempts =
      countV ReferenceOperation.isReleased s.attempts := by
    refine countV_congr fun k => ?_
    cases hk : s.attempts[k]? with
    | none => rw [hnone hk]
    | some op =>
      obtain ⟨op', h', -, h⟩ := hsome hk
      rw [h', Option.map_some, Option.map_some, h]
  refine ⟨fun h => ?_, fun {id k} => ?_, fun {k} => ?_, ?_, ?_, ?_, ?_, hcan, ?_⟩
  · obtain ⟨op, hk, hs, -⟩ := back h
    rcases hs with rfl | hs
    · exact hi.attempt hk
    · exact hs.ok (hi.attempt hk)
  · rw [ha, hi.index]
    constructor
    · rintro ⟨op, hk, he, hp⟩
      obtain ⟨op', hk', hs, h⟩ := hsome hk
      exact ⟨op', hk', by rw [hid hs, he], (hrel h).mpr hp⟩
    · rintro ⟨op', hk', he, hp⟩
      obtain ⟨op, hk, hs, h⟩ := back hk'
      exact ⟨op, hk, by rw [← hid hs, he], (hrel h).mp hp⟩
  · rw [hn, ← hi.keys]
    cases hk : s.attempts[k]? with
    | none => rw [hnone hk]
    | some op =>
      obtain ⟨op', hk', -⟩ := hsome hk
      rw [hk']; simp
  · rw [hsz, hn]; exact hi.total
  · rw [ha, hcount, hsz]; exact hi.live
  · rw [hr, ha]; exact hi.retained
  · rw [hj, hcount]; exact hi.joined
  · rw [ha]; exact hd

/-- Writing one step of a record that stays unreleased. -/
theorem write (hi : Inv first s) {k : UInt64} {op op' : ReferenceOperation}
    (hk : s.attempts[k]? = some op) (hs : AttemptStep op op') (hp : op'.phase ≠ .released) :
    Inv first (s.setAttempt k op') := by
  have hl : ∀ j, (s.setAttempt k op').attempts[j]? =
      if j = k then some op' else s.attempts[j]? := fun j => lookup_insert
  refine hi.records rfl rfl rfl rfl (size_insert_old hk) (fun {j} hj => ?_) (fun {j o} hj => ?_)
    (fun hr {j o} hj hf => ?_) hi.drained
  · rw [hl, if_neg, hj]
    rintro rfl
    rw [hk] at hj; cases hj
  · rw [hl]
    split
    · rename_i e
      subst e
      rw [hk] at hj
      obtain rfl := Option.some.inj hj
      refine ⟨op', rfl, .inr hs, ?_⟩
      rw [Bool.eq_iff_iff, isReleased_iff, isReleased_iff]
      exact ⟨fun h => absurd h hp, fun h => absurd h hs.not_released⟩
    · exact ⟨o, hj, .inl rfl, rfl⟩
  · rw [hl] at hj
    split at hj
    · obtain rfl := Option.some.inj hj
      exact hs.cancellation (hi.cancelled hr hk fun h => hf (hs.finished h))
    · exact hi.cancelled hr hj hf

theorem closeAdmission (hi : Inv first s) : Inv first s.closeAdmission := by
  have hl := closeAdmission_lookup hi
  refine hi.records rfl rfl rfl rfl (size_foldl_modify _) (fun {k} hk => ?_) (fun {k op} hk => ?_)
    (fun _ {k op} hk hf => ?_) (fun h => by cases h)
  · rw [hl, hk]; rfl
  · rw [hl, hk]
    refine ⟨_, rfl, ?_⟩
    dsimp only
    split
    · exact ⟨.inl rfl, rfl⟩
    · rename_i hp
      refine ⟨quiesceOperation_step hp, ?_⟩
      unfold quiesceOperation
      split <;> rfl
  · rw [hl] at hk
    obtain ⟨o, -, rfl⟩ := Option.map_eq_some_iff.mp hk
    by_cases hp : o.phase = .released
    · rw [if_pos hp] at hf
      exact absurd (.inr hp) hf
    · rw [if_neg hp] at hf ⊢
      unfold quiesceOperation at hf ⊢
      by_cases ht : o.phase = .terminal
      · rw [if_neg (not_not.mpr ht)] at hf
        exact absurd (.inl ht) hf
      · rw [if_pos ht]

theorem close (hi : Inv first s) (hz : s.active.size = 0) :
    Inv first { s with lifecycle := .closed } := by
  refine hi.records rfl rfl rfl rfl rfl id (fun hk => ⟨_, hk, .inl rfl, rfl⟩)
    (fun _ {k op} hk hf => ?_) fun _ => hz
  -- No attempt is live.
  have hk' : s.attempts[k]? = some op := hk
  have := hi.index.mpr ⟨op, hk', rfl, fun h => hf (.inr h)⟩
  rw [size_eq_zero_iff.mp hz] at this
  cases this

/-- A new attempt gets a sequence that no record has. -/
theorem fresh (hi : Inv first s) : s.attempts[s.nextSequence]? = none := by
  rw [← Option.not_isSome_iff_eq_none, hi.keys]
  rintro ⟨-, h⟩
  exact UInt64.lt_irrefl _ h

theorem enroll_index (hi : Inv first s) {id : String} {next : UInt64} {retained : Usize}
    (hid : s.active[id]? = none) {i : String} {k : UInt64} :
    (s.enroll id next retained).active[i]? = some k ↔
      ∃ op, (s.enroll id next retained).attempts[k]? = some op ∧
        op.identity.operationId = i ∧ op.phase ≠ .released := by
  simp only [ReferenceState.enroll, lookup_insert]
  by_cases hik : k = s.nextSequence
  · subst hik
    rw [if_pos rfl]
    have hno : s.active[i]? ≠ some s.nextSequence := fun h => by
      obtain ⟨op, hop, -⟩ := hi.index.mp h
      rw [hi.fresh] at hop; cases hop
    simp only [Option.some.injEq, exists_eq_left']
    split
    · rename_i e
      simp only [true_iff]
      exact ⟨e.symm, by simp [newOperation]⟩
    · rename_i e
      simp only [hno, false_iff]
      rintro ⟨h, -⟩
      exact e h.symm
  · rw [if_neg hik]
    split
    · rename_i e
      subst e
      simp only [Option.some.injEq, Ne.symm hik, false_iff]
      rintro h
      rw [← hi.index, hid] at h
      cases h
    · exact hi.index

theorem enroll (hi : Inv first s) {id : String} {next : UInt64} {retained : Usize}
    (hl : s.lifecycle = .running) (hid : s.active[id]? = none)
    (hn : next.toNat = s.nextSequence.toNat + 1)
    (hr : retained.toNat = s.retainedTasks.toNat + 1) : Inv first (s.enroll id next retained) := by
  have htotal := hi.total
  have hlive := hi.live
  have hret := hi.retained
  have hnew := hi.fresh
  have hsz := size_insert_new (v := newOperation (mintIdentity id s.nextSequence)) hnew
  have hact := size_insert_new (v := s.nextSequence) hid
  have hcount := countV_insert (p := ReferenceOperation.isReleased)
    (v := newOperation (mintIdentity id s.nextSequence)) hnew
  have hnr : (newOperation (mintIdentity id s.nextSequence)).isReleased = false := rfl
  rw [hnr] at hcount
  refine ⟨fun {k op} h => ?_, fun {i k} => ?_, fun {k} => ?_, ?_, ?_, ?_, ?_, fun h => absurd hl h,
    fun h => ?_⟩
  · simp only [ReferenceState.enroll, lookup_insert] at h
    split at h
    · rename_i e
      obtain rfl := Option.some.inj h
      subst e
      exact ⟨rfl, by simp [newOperation, ReferenceOperation.Finished], by simp [newOperation]⟩
    · exact hi.attempt h
  · exact hi.enroll_index hid
  · simp only [ReferenceState.enroll, lookup_insert]
    have hk := hi.keys (k := k)
    rw [UInt64.le_iff_toNat_le, UInt64.lt_iff_toNat_lt] at hk ⊢
    split
    · rename_i e
      subst e
      simp only [Option.isSome_some, true_iff]
      omega
    · rename_i e
      rw [hk]
      rw [← UInt64.toNat_inj] at e
      omega
  · simp only [ReferenceState.enroll]; omega
  · simp only [ReferenceState.enroll]; rw [hact, hcount, hsz]; simp; omega
  · simp only [ReferenceState.enroll]; omega
  · simp only [ReferenceState.enroll]; rw [hcount, hi.joined]; simp
  · simp only [ReferenceState.enroll, hl] at h; cases h

theorem retire_index (hi : Inv first s) {identity : AttemptIdentity} {op : ReferenceOperation}
    {retained joined : Usize} (hop : s.attempts[identity.sequence]? = some op)
    (hid : op.identity = identity) (ha : s.active[identity.operationId]? = some identity.sequence)
    {i : String} {k : UInt64} :
    (s.retire identity op retained joined).active[i]? = some k ↔
      ∃ o, (s.retire identity op retained joined).attempts[k]? = some o ∧
        o.identity.operationId = i ∧ o.phase ≠ .released := by
  simp only [ReferenceState.retire, lookup_insert, lookup_erase]
  by_cases hk : k = identity.sequence
  · subst hk
    rw [if_pos rfl]
    simp only [Option.some.injEq, exists_eq_left', not_true, and_false, iff_false, ne_eq]
    split
    · simp
    · rename_i e
      intro h
      obtain ⟨o, ho, he, -⟩ := hi.index.mp h
      rw [hop] at ho
      obtain rfl := Option.some.inj ho
      exact e (by rw [← he, hid])
  · rw [if_neg hk]
    split
    · rename_i e
      subst e
      simp only [reduceCtorEq, false_iff]
      intro h
      rw [← hi.index, ha] at h
      exact hk (Option.some.inj h).symm
    · exact hi.index

theorem retire (hi : Inv first s) {identity : AttemptIdentity} {op : ReferenceOperation}
    {retained joined : Usize} (hop : s.attempts[identity.sequence]? = some op)
    (hid : op.identity = identity) (hp : op.phase = .terminal)
    (ha : s.active[identity.operationId]? = some identity.sequence)
    (hr : retained.toNat + 1 = s.retainedTasks.toNat)
    (hj : joined.toNat = s.joinedWorkers.toNat + 1) :
    Inv first (s.retire identity op retained joined) := by
  have hlive := hi.live
  have hret := hi.retained
  have hjoin := hi.joined
  have hstep : AttemptStep op { op with phase := .released } := .release hp
  have hact := size_erase_old ha
  have hsz := size_insert_old (w := { op with phase := .released }) hop
  have hcount := countV_replace (p := ReferenceOperation.isReleased)
    (w := { op with phase := .released }) hop
  have hnr : op.isReleased = false := by
    rw [Bool.eq_false_iff, ne_eq, isReleased_iff, hp]
    exact fun h => by cases h
  have hnew : ({ op with phase := .released } : ReferenceOperation).isReleased = true := rfl
  rw [hnr, hnew] at hcount
  simp only [Bool.false_eq_true, if_false, if_true] at hcount
  refine ⟨fun {k o} h => ?_, fun {i k} => ?_, fun {k} => ?_, ?_, ?_, ?_, ?_,
    fun hc {k o} h hf => ?_, fun h => ?_⟩
  · simp only [ReferenceState.retire, lookup_insert] at h
    split at h
    · rename_i e
      obtain rfl := Option.some.inj h
      subst e
      exact hstep.ok (hi.attempt hop)
    · exact hi.attempt h
  · exact hi.retire_index hop hid ha
  · simp only [ReferenceState.retire, lookup_insert]
    split
    · rename_i e
      subst e
      rw [← hi.keys, hop]
      simp
    · exact hi.keys
  · simp only [ReferenceState.retire]; rw [hsz]; exact hi.total
  · simp only [ReferenceState.retire]; omega
  · simp only [ReferenceState.retire]; omega
  · simp only [ReferenceState.retire]; omega
  · simp only [ReferenceState.retire, lookup_insert] at h
    split at h
    · obtain rfl := Option.some.inj h
      exact absurd (.inr rfl) hf
    · exact hi.cancelled hc h hf
  · have hz : s.active.size = 0 := hi.drained h
    simp only [ReferenceState.retire]; omega

/-- Every effect keeps the invariant. -/
theorem step (hi : Inv first s) (he : Effect s c reply s') : Inv first s' := by
  cases he with
  | admitted hl hid hn hr => exact hi.enroll hl hid hn hr
  | moved hm hop hid hp =>
    refine hi.write hop (Section.move_step hm hid hp) ?_
    cases c <;> simp only [Section.move?, Option.some.injEq, reduceCtorEq] at hm <;> subst hm <;>
      simp_all
  | cancelled _ hop _ hf =>
    exact hi.write hop (.cancel (fun h => hf (.inl h)) fun h => hf (.inr h)) fun h => hf (.inr h)
  | released hop hid hp ha hr hj => exact hi.retire hop hid hp ha hr hj
  | quiesced _ => exact hi.closeAdmission
  | closed hz _ => exact hi.close hz
  | _ => exact hi

end Inv

/-! ## Every reachable state -/

theorem deterministic_eq_ok {config : TestConfig} (h : deterministic config = .ok s) :
    s = ⟨.running, config.nextSequence, config.progressCapacity, ∅, ∅, 0, 0⟩ := by
  unfold deterministic at h
  split at h
  · exact (Except.ok.inj h).symm
  · cases h

/-- The adapter starts with empty books. -/
theorem Inv.init {config : TestConfig} (h : deterministic config = .ok s) :
    Inv config.nextSequence s := by
  obtain rfl := deterministic_eq_ok h
  refine ⟨by simp, by simp, fun {k} => ?_, by simp, by simp, by simp, by simp, by simp, by simp⟩
  simp only [ExtTreeMap.getElem?_empty, Option.isSome_none, Bool.false_eq_true, false_iff,
    not_and]
  exact fun h => UInt64.not_lt.mpr h

/-- Admission does not open again. -/
theorem Effect.not_running (he : Effect s c reply s') (h : s.lifecycle ≠ .running) :
    s'.lifecycle ≠ .running := by
  cases he with
  | admitted hl => exact absurd hl h
  | quiesced hl => exact absurd hl h
  | closed => simp
  | _ => exact h

/-- `quiesce` closes admission. -/
theorem Effect.quiesce_not_running (he : Effect s .quiesce reply s') (hr : ∀ e, reply ≠ .error e) :
    s'.lifecycle ≠ .running := by
  cases he with
  | refused => exact absurd rfl (hr _)
  | moved hm => cases hm
  | cancelled hc => cases hc
  | cancelKept hc => cases hc
  | quiesced => simp [ReferenceState.closeAdmission]
  | quiesceKept h => exact h

/-- The invariant of the threads on one adapter. -/
structure World.Ok (config : TestConfig) (w : World) : Prop where
  books : Inv config.nextSequence w.state
  /-- Between the sections of `shutdown`, admission is closed. -/
  closing : ∀ t, w.pc t = .closing → w.state.lifecycle ≠ .running

theorem World.Ok.effect {config : TestConfig} {w w' : World} {e : Event} (h : w.Ok config)
    (hs : (adapterSys config).step w e w') : Effect w.state e.sec e.reply w'.state := by
  have he := h.books.effect e.sec
  rwa [hs.1] at he

theorem adapterSys_inductive (config : TestConfig) :
    (adapterSys config).Inductive (World.Ok config) where
  init {w} h := ⟨Inv.init h.1, fun t ht => by rw [h.2 t] at ht; cases ht⟩
  step {w e w'} hi hs := by
    have he := hi.effect hs
    refine ⟨hi.books.step he, fun t ht => ?_⟩
    obtain ⟨ho, p, hp, hpc⟩ := hs
    rw [hpc, Function.update_apply] at ht
    split at ht
    · subst ht
      generalize e.sec = c at hp he ho
      generalize w.pc e.thread = q at hp
      cases hp
      have hr : e.reply = .ok .unit := congrArg Prod.fst (ho.symm.trans quiesce_on)
      exact he.quiesce_not_running fun x h => by rw [hr] at h; cases h
    · exact he.not_running (hi.closing t ht)

theorem ok_reach {config : TestConfig} {w : World} (h : (adapterSys config).Reach w) :
    w.Ok config :=
  (adapterSys_inductive config).reach h

/-- In a state with the invariant no section panics. -/
theorem Inv.safe (hi : Inv first s) (c : Section) : c.run.Safe s := by
  intro message h
  have he := hi.effect c
  have hr : (c.on s).1 = .error (.panic message) := h
  rw [hr] at he
  cases he

/-- In a state with the invariant `release` finds the registry as its record says. -/
theorem Inv.release_stale (hi : Inv first s) {lease : ReferenceLease}
    (h : ((release lease).on s).1 = .error (.err .staleLease)) :
    operationMut s lease.identity = .error .staleLease := by
  rw [release_on] at h
  cases hop : operationMut s lease.identity with
  | error e =>
    rw [hop] at h
    simp only [Except.error.injEq, Stop.err.injEq] at h
    rw [h]
  | ok op =>
    obtain ⟨hk, hid, hp⟩ := operationMut_eq_ok.mp hop
    rw [hop] at h
    simp only [hi.active_of_live hk hid hp, ne_eq, not_true_eq_false, if_false] at h
    -- Every other exit is another error, a panic or `Ok`.
    split at h
    · cases h
    · split at h
      · cases h
      · split at h <;> cases h

/-- **Accounting.** In every reachable state the registry lists exactly the attempts that are not
released, one for a public ID at most; the counters count the live and the released attempts; the
sequences are those handed out since the start. So no section overflows or panics, and the
`StaleLease` that `release` returns is always that of `operation_mut`. -/
theorem accounting {config : TestConfig} {w : World} (h : (adapterSys config).Reach w) :
    (∀ (id : String) (k : UInt64), w.state.active[id]? = some k ↔
      ∃ op : ReferenceOperation, w.state.attempts[k]? = some op ∧
        op.identity.operationId = id ∧ op.identity.sequence = k ∧ op.phase ≠ .released) ∧
    (∀ (k₁ k₂ : UInt64) (op₁ op₂ : ReferenceOperation), w.state.attempts[k₁]? = some op₁ →
      w.state.attempts[k₂]? = some op₂ → op₁.phase ≠ .released → op₂.phase ≠ .released →
      op₁.identity.operationId = op₂.identity.operationId → k₁ = k₂) ∧
    w.state.retainedTasks.toNat = w.state.active.size ∧
    w.state.joinedWorkers.toNat = countV ReferenceOperation.isReleased w.state.attempts ∧
    (∀ k : UInt64, k ∈ w.state.attempts ↔
      config.nextSequence ≤ k ∧ k < w.state.nextSequence) ∧
    (∀ c : Section, c.run.Safe w.state) ∧
    ∀ lease : ReferenceLease, ((release lease).on w.state).1 = .error (.err .staleLease) →
      operationMut w.state lease.identity = .error .staleLease := by
  have hi := (ok_reach h).books
  refine ⟨fun id k => ?_, fun k₁ k₂ op₁ op₂ h₁ h₂ hp₁ hp₂ he => ?_, hi.retained, hi.joined,
    fun k => ?_, hi.safe, fun lease => hi.release_stale⟩
  · rw [hi.index]
    constructor
    · rintro ⟨op, hk, hid, hp⟩
      exact ⟨op, hk, hid, (hi.attempt hk).sequence, hp⟩
    · rintro ⟨op, hk, hid, -, hp⟩
      exact ⟨op, hk, hid, hp⟩
  · have ha₁ := hi.index.mpr ⟨op₁, h₁, he, hp₁⟩
    have ha₂ := hi.index.mpr ⟨op₂, h₂, rfl, hp₂⟩
    exact Option.some.inj (ha₁.symm.trans ha₂)
  · rw [ExtTreeMap.mem_iff_isSome_getElem?, hi.keys]

theorem accounting_reused :
    reusedWorld.state.active["a"]? = some 2 ∧ reusedWorld.state.retainedTasks.toNat = 1 ∧
      reusedWorld.state.joinedWorkers.toNat =
        countV ReferenceOperation.isReleased reusedWorld.state.attempts ∧
      ∀ c : Section, c.run.Safe reusedWorld.state := by
  obtain ⟨-, -, -, hj, -, hs, -⟩ := accounting reusedWorld_reach
  exact ⟨by decide, by decide, hj, hs⟩

end Testkit
end Platform
