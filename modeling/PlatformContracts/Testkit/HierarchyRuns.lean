import PlatformContracts.Testkit.Hierarchy

/-!
# Runs of the attempt hierarchy

* `Effect`, `effect`: the answers of the calls and the states after them.
* `Ledger`, `ledger es`: what a caller who only sees the answers knows of a run: the attempts that
  were issued, the ones that were finished, and for each ID what happened since it was last
  created. `Agrees`: how it describes the state (`agrees_run`).
* `attempts_anchored`: what the reads show, in terms of the ledger.
* `atomic_iff`: the failed calls of a run change nothing exactly when no attempt is started on an
  unknown operation.
-/

namespace Platform
namespace Testkit
namespace Hierarchy

open Std

/-! ## Effects -/

/-- The operation whose record a call looks up first. -/
def Call.owner? : Call → Option String
  | createOperation _ | startAttempt _ => none
  | requestOperationCancel operation | finishOperation operation => some operation.operationId
  | finishAttempt attempt => some attempt.identity.operationId

/-- What a call answers, and the state after it. -/
inductive Effect (s : ReferenceAttemptHierarchyState) :
    Call → Reply → ReferenceAttemptHierarchyState → Prop
  | created {id : String} : s.operations[id]? = none →
      Effect s (.createOperation id) (.ok (.operation ⟨id⟩)) (s.put id newOperation)
  | duplicate {id : String} {owner : ReferenceAttemptHierarchyOperation} :
      s.operations[id]? = some owner →
      Effect s (.createOperation id) (.error (.err .duplicateOperation)) s
  | started {operation : ReferenceHierarchyOperation} {next : UInt64}
      {owner : ReferenceAttemptHierarchyOperation} :
      next.toNat = s.nextSequence.toNat + 1 →
      s.operations[operation.operationId]? = some owner →
      Effect s (.startAttempt operation)
        (.ok (.attempt ⟨mintIdentity operation.operationId s.nextSequence⟩))
        ({ s with nextSequence := next }.put operation.operationId
          (owner.started (mintIdentity operation.operationId s.nextSequence)))
  | unanchored {operation : ReferenceHierarchyOperation} {next : UInt64} :
      next.toNat = s.nextSequence.toNat + 1 → s.operations[operation.operationId]? = none →
      Effect s (.startAttempt operation) (.error (.err .unknownOperation))
        { s with nextSequence := next }
  | exhausted {operation : ReferenceHierarchyOperation} : s.nextSequence.toNat = 2 ^ 64 - 1 →
      Effect s (.startAttempt operation) (.error (.err .sequenceExhausted)) s
  | cancelled {operation : ReferenceHierarchyOperation}
      {owner : ReferenceAttemptHierarchyOperation} :
      s.operations[operation.operationId]? = some owner →
      Effect s (.requestOperationCancel operation) (.ok .unit)
        (s.put operation.operationId { owner with cancellationRequested := true })
  | finished {attempt : ReferenceHierarchyAttempt} {owner : ReferenceAttemptHierarchyOperation} :
      s.operations[attempt.identity.operationId]? = some owner →
      owner.attempts[attempt.identity.sequence]? = some attempt.identity →
      Effect s (.finishAttempt attempt) (.ok .unit)
        (s.put attempt.identity.operationId (owner.finished attempt.identity.sequence))
  | stale {attempt : ReferenceHierarchyAttempt} {owner : ReferenceAttemptHierarchyOperation} :
      s.operations[attempt.identity.operationId]? = some owner →
      owner.attempts[attempt.identity.sequence]? ≠ some attempt.identity →
      Effect s (.finishAttempt attempt) (.error (.err .staleLease))
        (s.put attempt.identity.operationId (owner.finished attempt.identity.sequence))
  | closed {operation : ReferenceHierarchyOperation}
      {owner : ReferenceAttemptHierarchyOperation} :
      s.operations[operation.operationId]? = some owner → owner.attempts.isEmpty →
      Effect s (.finishOperation operation) (.ok .unit)
        { s with operations := s.operations.erase operation.operationId }
  | busy {operation : ReferenceHierarchyOperation} {owner : ReferenceAttemptHierarchyOperation} :
      s.operations[operation.operationId]? = some owner → ¬owner.attempts.isEmpty →
      Effect s (.finishOperation operation) (.error (.err .invalidTransition)) s
  | unknown {c : Call} {id : String} : c.owner? = some id → s.operations[id]? = none →
      Effect s c (.error (.err .unknownOperation)) s

section Effect

variable {s s' : ReferenceAttemptHierarchyState} {c : Call} {reply : Reply}

theorem effect (h : c.run.on s = (reply, s')) : Effect s c reply s' := by
  cases c with
  | createOperation id =>
    rw [Call.run, answer_on, createOperation_on] at h
    cases ho : s.operations[id]? <;> rw [ho] at h <;> obtain ⟨rfl, rfl⟩ := Prod.mk.inj h
    · exact .created ho
    · exact .duplicate ho
  | startAttempt operation =>
    rw [Call.run, answer_on, startAttempt_on] at h
    cases hn : checkedAdd s.nextSequence 1 with
    | none =>
      rw [hn] at h
      obtain ⟨rfl, rfl⟩ := Prod.mk.inj h
      rw [checkedAdd_eq_none, UInt64.toNat_one] at hn
      have hlt := s.nextSequence.toNat_lt
      exact .exhausted (by omega)
    | some next =>
      rw [hn] at h
      have hn := checkedAdd_eq_some.mp hn
      cases ho : s.operations[operation.operationId]? <;> rw [ho] at h <;>
        obtain ⟨rfl, rfl⟩ := Prod.mk.inj h
      · exact .unanchored hn ho
      · exact .started hn ho
  | requestOperationCancel operation =>
    rw [Call.run, answer_on, requestOperationCancel_on] at h
    cases ho : s.operations[operation.operationId]? <;> rw [ho] at h <;>
      obtain ⟨rfl, rfl⟩ := Prod.mk.inj h
    · exact .unknown rfl ho
    · exact .cancelled ho
  | finishAttempt attempt =>
    rw [Call.run, answer_on, finishAttempt_on] at h
    cases ho : s.operations[attempt.identity.operationId]? with
    | none =>
      rw [ho] at h
      obtain ⟨rfl, rfl⟩ := Prod.mk.inj h
      exact .unknown rfl ho
    | some owner =>
      rw [ho] at h
      by_cases hr : owner.attempts[attempt.identity.sequence]? = some attempt.identity
      · simp only [hr, if_true] at h
        obtain ⟨rfl, rfl⟩ := Prod.mk.inj h
        exact .finished ho hr
      · simp only [hr, if_false] at h
        obtain ⟨rfl, rfl⟩ := Prod.mk.inj h
        exact .stale ho hr
  | finishOperation operation =>
    rw [Call.run, answer_on, finishOperation_on] at h
    cases ho : s.operations[operation.operationId]? with
    | none =>
      rw [ho] at h
      obtain ⟨rfl, rfl⟩ := Prod.mk.inj h
      exact .unknown rfl ho
    | some owner =>
      rw [ho] at h
      by_cases he : owner.attempts.isEmpty = true
      · simp only [he, if_true] at h
        obtain ⟨rfl, rfl⟩ := Prod.mk.inj h
        exact .closed ho he
      · simp only [he, Bool.false_eq_true, if_false] at h
        obtain ⟨rfl, rfl⟩ := Prod.mk.inj h
        exact .busy ho he

end Effect

/-! ## Ledgers -/

/-- What the answers of a run say. -/
structure Ledger where
  issued : List AttemptIdentity
  finished : List AttemptIdentity
  /-- The attempts that were started since the ID was last created. -/
  started : String → List AttemptIdentity
  /-- The ID was cancelled since it was last created. -/
  cancelled : String → Bool
  /-- The ID was created and not finished since. -/
  present : String → Bool

namespace Ledger

def new : Ledger := ⟨[], [], fun _ => [], fun _ => false, fun _ => false⟩

/-- The ledger after one more call. -/
def note (l : Ledger) (e : Event) : Ledger :=
  match e.call, e.reply with
  | .createOperation id, .ok _ =>
    { l with
      started := Function.update l.started id []
      cancelled := Function.update l.cancelled id false
      present := Function.update l.present id true }
  | .startAttempt operation, .ok (.attempt attempt) =>
    { l with
      issued := l.issued ++ [attempt.identity]
      started := Function.update l.started operation.operationId
        (l.started operation.operationId ++ [attempt.identity]) }
  | .requestOperationCancel operation, .ok _ =>
    { l with cancelled := Function.update l.cancelled operation.operationId true }
  | .finishAttempt attempt, .ok _ => { l with finished := l.finished ++ [attempt.identity] }
  | .finishOperation operation, .ok _ =>
    { l with present := Function.update l.present operation.operationId false }
  | _, _ => l

end Ledger

def ledger (es : List (Event × World)) : Ledger := es.foldl (fun l p => l.note p.1) .new

/-- What the ledger says of the attempts. -/
structure Ledger.Sound (l : Ledger) (next : UInt64) : Prop where
  minted : ∀ a ∈ l.issued, a = mintIdentity a.operationId a.sequence
  below : ∀ a ∈ l.issued, a.sequence < next
  increasing : l.issued.Pairwise fun a b => a.sequence < b.sequence
  current : ∀ id, (l.started id).Sublist l.issued
  own : ∀ id, ∀ a ∈ l.started id, a.operationId = id
  ended : ∀ a ∈ l.finished, a ∈ l.issued
  once : l.finished.Nodup
  /-- An attempt from before the last creation of its ID was finished. -/
  past : ∀ a ∈ l.issued, a ∉ l.started a.operationId → a ∈ l.finished

/-- The operations are what the ledger says. -/
structure Ledger.Matches (l : Ledger)
    (operations : ExtTreeMap String ReferenceAttemptHierarchyOperation) : Prop where
  known : ∀ {id owner}, operations[id]? = some owner →
    l.present id = true ∧ owner.cancellationRequested = l.cancelled id
  entry : ∀ {id owner}, operations[id]? = some owner → ∀ (k : UInt64) (a : AttemptIdentity),
    owner.attempts[k]? = some a ↔ a ∈ l.started id ∧ a ∉ l.finished ∧ a.sequence = k
  gone : ∀ {id}, operations[id]? = none →
    l.present id = false ∧ ∀ a ∈ l.started id, a ∈ l.finished

structure Agrees (l : Ledger) (w : World) : Prop where
  handles : w.attempts.map (·.identity) = l.issued
  sound : l.Sound w.state.nextSequence
  matched : l.Matches w.state.operations

section Steps

variable {l : Ledger} {next : UInt64}
  {operations : ExtTreeMap String ReferenceAttemptHierarchyOperation}

/-- An issued attempt is told by its sequence. -/
theorem Ledger.Sound.eq_of_sequence (h : l.Sound next) {a b : AttemptIdentity}
    (ha : a ∈ l.issued) (hb : b ∈ l.issued) (hs : a.sequence = b.sequence) : a = b := by
  refine List.inj_on_of_nodup_map (f := fun a : AttemptIdentity => a.sequence) ?_ ha hb hs
  refine List.pairwise_map.mpr (h.increasing.imp fun hlt he => ?_)
  rw [he] at hlt
  exact UInt64.lt_irrefl _ hlt

theorem Ledger.Sound.mono (h : l.Sound next) {next' : UInt64} (hn : next.toNat ≤ next'.toNat) :
    l.Sound next' :=
  { h with
    below := fun a ha => UInt64.lt_iff_toNat_lt.mpr
      (Nat.lt_of_lt_of_le (UInt64.lt_iff_toNat_lt.mp (h.below a ha)) hn) }

/-- The two ledgers say the same of the ID. -/
structure Ledger.SameAt (l l' : Ledger) (id : String) : Prop where
  present : l'.present id = l.present id
  cancelled : l'.cancelled id = l.cancelled id
  started : l'.started id = l.started id
  finished : ∀ a ∈ l.started id, a ∈ l'.finished ↔ a ∈ l.finished

/-- One operation is written, and the ledger of its ID alone. -/
theorem Ledger.Matches.insert (hm : l.Matches operations) {l' : Ledger} {id : String}
    {owner : ReferenceAttemptHierarchyOperation}
    (hknown : l'.present id = true ∧ owner.cancellationRequested = l'.cancelled id)
    (hentry : ∀ (k : UInt64) (a : AttemptIdentity),
      owner.attempts[k]? = some a ↔ a ∈ l'.started id ∧ a ∉ l'.finished ∧ a.sequence = k)
    (hsame : ∀ id', id' ≠ id → l.SameAt l' id') :
    l'.Matches (operations.insert id owner) := by
  constructor
  · intro id' owner' ho
    rw [lookup_insert] at ho
    split at ho
    · rename_i hid
      subst hid
      obtain rfl := Option.some.inj ho
      exact hknown
    · rename_i hid
      rw [(hsame id' hid).present, (hsame id' hid).cancelled]
      exact hm.known ho
  · intro id' owner' ho k a
    rw [lookup_insert] at ho
    split at ho
    · rename_i hid
      subst hid
      obtain rfl := Option.some.inj ho
      exact hentry k a
    · rename_i hid
      rw [hm.entry ho k a, (hsame id' hid).started]
      refine and_congr_right fun ha => and_congr_left' ?_
      rw [(hsame id' hid).finished a ha]
  · intro id' ho
    rw [lookup_insert] at ho
    split at ho
    · cases ho
    · rename_i hid
      rw [(hsame id' hid).present, (hsame id' hid).started]
      exact ⟨(hm.gone ho).1, fun a ha =>
        ((hsame id' hid).finished a ha).mpr ((hm.gone ho).2 a ha)⟩

/-! ### `create_operation` -/

theorem Ledger.Sound.created (h : l.Sound next) (hm : l.Matches operations) {id : String}
    (ho : operations[id]? = none) : (l.note ⟨.createOperation id, .ok (.operation ⟨id⟩)⟩).Sound
      next := by
  refine { h with current := fun id' => ?_, own := fun id' => ?_, past := fun a ha hold => ?_ }
  · show (Function.update l.started id [] id').Sublist l.issued
    rw [Function.update_apply]
    split
    · exact List.nil_sublist _
    · exact h.current id'
  · show ∀ a ∈ Function.update l.started id [] id', a.operationId = id'
    rw [Function.update_apply]
    split
    · simp
    · exact h.own id'
  · by_cases hs : a ∈ l.started a.operationId
    · -- It was started under the incarnation that is gone, and only that one.
      have hid : a.operationId = id := by
        by_contra hne
        exact hold (by show a ∈ Function.update l.started id [] _; rwa [Function.update_of_ne hne])
      rw [hid] at hs
      exact (hm.gone ho).2 a hs
    · exact h.past a ha hs

theorem Ledger.Matches.created (hm : l.Matches operations) {id : String} :
    (l.note ⟨.createOperation id, .ok (.operation ⟨id⟩)⟩).Matches
      (operations.insert id newOperation) := by
  refine hm.insert ?_ (fun k a => ?_) fun id' hid => ?_
  · simp [Ledger.note, newOperation]
  · simp [Ledger.note, newOperation]
  · exact ⟨Function.update_of_ne hid .., Function.update_of_ne hid ..,
      Function.update_of_ne hid .., fun _ _ => Iff.rfl⟩

/-! ### `start_attempt` -/

/-- The event of an attempt that was started with the sequence `k`. -/
def startEvent (operation : ReferenceHierarchyOperation) (k : UInt64) : Event :=
  ⟨.startAttempt operation, .ok (.attempt ⟨mintIdentity operation.operationId k⟩)⟩

theorem note_started {operation : ReferenceHierarchyOperation} {k : UInt64} (id : String) :
    (l.note (startEvent operation k)).started id =
      if id = operation.operationId then
        l.started id ++ [mintIdentity operation.operationId k]
      else l.started id := by
  show Function.update l.started operation.operationId _ id = _
  rw [Function.update_apply]
  by_cases h : id = operation.operationId
  · rw [if_pos h, if_pos h, h]
  · rw [if_neg h, if_neg h]

theorem Ledger.Sound.started (h : l.Sound next) {operation : ReferenceHierarchyOperation}
    {next' : UInt64} (hn : next'.toNat = next.toNat + 1) :
    (l.note (startEvent operation next)).Sound next' := by
  have hle : next.toNat ≤ next'.toNat := by omega
  have hmono := h.mono hle
  have hlast : ∀ {a : AttemptIdentity}, a ∈ (l.note (startEvent operation next)).issued →
      a ∈ l.issued ∨ a = mintIdentity operation.operationId next := by
    intro a ha
    simpa [Ledger.note, startEvent] using ha
  constructor
  case minted =>
    intro a ha
    rcases hlast ha with ha | rfl
    · exact h.minted a ha
    · rfl
  case below =>
    intro a ha
    rcases hlast ha with ha | rfl
    · exact hmono.below a ha
    · exact UInt64.lt_iff_toNat_lt.mpr (by show next.toNat < _; omega)
  case increasing =>
    refine List.pairwise_append.mpr ⟨h.increasing, List.pairwise_singleton _ _, ?_⟩
    intro a ha b hb
    obtain rfl := List.mem_singleton.mp hb
    exact h.below a ha
  case current =>
    intro id
    rw [note_started]
    split
    · exact (h.current id).append_right _
    · exact (h.current id).trans (List.sublist_append_left _ _)
  case own =>
    intro id a ha
    rw [note_started] at ha
    split at ha
    · rename_i hid
      rcases List.mem_append.mp ha with ha | ha
      · exact h.own id a ha
      · rw [List.mem_singleton.mp ha, hid]
        rfl
    · exact h.own id a ha
  case ended =>
    intro a ha
    exact List.mem_append_left _ (h.ended a ha)
  case once => exact h.once
  case past =>
    intro a ha hnot
    rw [note_started] at hnot
    rcases hlast ha with ha | rfl
    · refine h.past a ha fun hs => hnot ?_
      split
      · exact List.mem_append_left _ hs
      · exact hs
    · have hid : (mintIdentity operation.operationId next).operationId =
        operation.operationId := rfl
      rw [if_pos hid] at hnot
      exact absurd (List.mem_append_right _ (List.mem_singleton_self _)) hnot

theorem Ledger.Matches.started (hm : l.Matches operations) (h : l.Sound next)
    {operation : ReferenceHierarchyOperation} {owner : ReferenceAttemptHierarchyOperation}
    (ho : operations[operation.operationId]? = some owner) :
    (l.note (startEvent operation next)).Matches
      (operations.insert operation.operationId
        (owner.started (mintIdentity operation.operationId next))) := by
  -- The sequence is new: no attempt of the ledger has it.
  have hfresh : ∀ {a : AttemptIdentity}, a ∈ l.issued → a.sequence ≠ next := by
    intro a ha he
    have hlt := h.below a ha
    rw [he] at hlt
    exact UInt64.lt_irrefl _ hlt
  obtain ⟨hpresent, hcancelled⟩ := hm.known ho
  refine hm.insert ⟨hpresent, hcancelled⟩ (fun k a => ?_) fun id' hid => ?_
  · rw [note_started, if_pos rfl, List.mem_append, List.mem_singleton]
    show (owner.attempts.insert next _)[k]? = some a ↔ _ ∧ a ∉ l.finished ∧ _
    rw [lookup_insert]
    by_cases hk : k = next
    · subst hk
      rw [if_pos rfl, Option.some_inj]
      constructor
      · rintro rfl
        exact ⟨.inr rfl, fun hf => hfresh (h.ended _ hf) rfl, rfl⟩
      · rintro ⟨ha | ha, -, hs⟩
        · exact absurd hs (hfresh ((h.current _).subset ha))
        · exact ha.symm
    · rw [if_neg hk, hm.entry ho k a]
      constructor
      · rintro ⟨ha, hf, hs⟩
        exact ⟨.inl ha, hf, hs⟩
      · rintro ⟨ha | rfl, hf, hs⟩
        · exact ⟨ha, hf, hs⟩
        · exact absurd hs.symm hk
  · exact ⟨rfl, rfl, (note_started id').trans (if_neg hid), fun _ _ => Iff.rfl⟩

/-! ### `request_operation_cancel` -/

theorem Ledger.Matches.cancelled (hm : l.Matches operations)
    {operation : ReferenceHierarchyOperation} {owner : ReferenceAttemptHierarchyOperation}
    (ho : operations[operation.operationId]? = some owner) :
    (l.note ⟨.requestOperationCancel operation, .ok .unit⟩).Matches
      (operations.insert operation.operationId { owner with cancellationRequested := true }) := by
  refine hm.insert ⟨(hm.known ho).1, ?_⟩ (fun k a => hm.entry ho k a) fun id' hid => ?_
  · exact (Function.update_self operation.operationId true l.cancelled).symm
  · exact ⟨rfl, Function.update_of_ne hid .., rfl, fun _ _ => Iff.rfl⟩

/-! ### `finish_attempt` -/

theorem Ledger.Sound.finished (h : l.Sound next) {attempt : ReferenceHierarchyAttempt}
    (hi : attempt.identity ∈ l.issued) (hf : attempt.identity ∉ l.finished) :
    (l.note ⟨.finishAttempt attempt, .ok .unit⟩).Sound next := by
  refine { h with ended := fun a ha => ?_, once := ?_, past := fun a ha hs => ?_ }
  · rcases List.mem_append.mp ha with ha | ha
    · exact h.ended a ha
    · rw [List.mem_singleton.mp ha]
      exact hi
  · show (l.finished ++ [attempt.identity]).Nodup
    rw [List.nodup_append_comm]
    exact List.nodup_cons.mpr ⟨hf, h.once⟩
  · exact List.mem_append_left _ (h.past a ha hs)

theorem Ledger.Matches.finished (hm : l.Matches operations) (h : l.Sound next)
    {attempt : ReferenceHierarchyAttempt} {owner : ReferenceAttemptHierarchyOperation}
    (ho : operations[attempt.identity.operationId]? = some owner)
    (hi : attempt.identity ∈ l.issued) :
    (l.note ⟨.finishAttempt attempt, .ok .unit⟩).Matches
      (operations.insert attempt.identity.operationId
        (owner.finished attempt.identity.sequence)) := by
  have hfinished : ∀ {a : AttemptIdentity},
      a ∈ (l.note ⟨.finishAttempt attempt, .ok .unit⟩).finished ↔
        a ∈ l.finished ∨ a = attempt.identity := by
    intro a
    show a ∈ l.finished ++ [attempt.identity] ↔ _
    rw [List.mem_append, List.mem_singleton]
  obtain ⟨hpresent, hcancelled⟩ := hm.known ho
  refine hm.insert ⟨hpresent, hcancelled⟩ (fun k a => ?_)
    fun id' hid => ⟨rfl, rfl, rfl, fun a ha => ?_⟩
  · rw [hfinished, not_or]
    show (owner.attempts.erase attempt.identity.sequence)[k]? = some a ↔ a ∈ l.started _ ∧ _
    rw [lookup_erase]
    by_cases hk : k = attempt.identity.sequence
    · rw [if_pos hk]
      constructor
      · intro hnone
        cases hnone
      · rintro ⟨hs, ⟨-, hne⟩, hseq⟩
        exact absurd (h.eq_of_sequence ((h.current _).subset hs) hi (hseq.trans hk)) hne
    · rw [if_neg hk, hm.entry ho k a]
      constructor
      · rintro ⟨hs, hf, hseq⟩
        refine ⟨hs, ⟨hf, ?_⟩, hseq⟩
        rintro rfl
        exact hk hseq.symm
      · rintro ⟨hs, ⟨hf, -⟩, hseq⟩
        exact ⟨hs, hf, hseq⟩
  · rw [hfinished]
    refine or_iff_left ?_
    rintro rfl
    exact hid (h.own id' _ ha).symm

/-- An attempt that is not listed under its ID is not there at all. -/
theorem Ledger.Matches.stale (hm : l.Matches operations) (h : l.Sound next)
    {attempt : ReferenceHierarchyAttempt} {owner : ReferenceAttemptHierarchyOperation}
    (ho : operations[attempt.identity.operationId]? = some owner)
    (hi : attempt.identity ∈ l.issued)
    (hr : owner.attempts[attempt.identity.sequence]? ≠ some attempt.identity) :
    owner.finished attempt.identity.sequence = owner := by
  have hnone : owner.attempts[attempt.identity.sequence]? = none := by
    rw [Option.eq_none_iff_forall_ne_some]
    intro a ha
    obtain ⟨hs, -, hseq⟩ := (hm.entry ho _ _).mp ha
    rw [h.eq_of_sequence ((h.current _).subset hs) hi hseq] at ha
    exact hr ha
  unfold ReferenceAttemptHierarchyOperation.finished
  rw [erase_of_none hnone]

/-! ### `finish_operation` -/

theorem Ledger.Matches.closed (hm : l.Matches operations)
    {operation : ReferenceHierarchyOperation} {owner : ReferenceAttemptHierarchyOperation}
    (ho : operations[operation.operationId]? = some owner) (he : owner.attempts.isEmpty) :
    (l.note ⟨.finishOperation operation, .ok .unit⟩).Matches
      (operations.erase operation.operationId) := by
  have hempty : ∀ k : UInt64, owner.attempts[k]? = none :=
    size_eq_zero_iff.mp (isEmpty_iff_size.mp he)
  constructor
  · intro id owner' ho'
    rw [lookup_erase] at ho'
    split at ho'
    · cases ho'
    · rename_i hid
      show Function.update l.present operation.operationId false id = true ∧ _
      rw [Function.update_of_ne hid]
      exact hm.known ho'
  · intro id owner' ho'
    rw [lookup_erase] at ho'
    split at ho'
    · cases ho'
    · exact hm.entry ho'
  · intro id ho'
    rw [lookup_erase] at ho'
    show Function.update l.present operation.operationId false id = false ∧ _
    by_cases hid : id = operation.operationId
    · subst hid
      rw [Function.update_self]
      refine ⟨rfl, fun a ha => ?_⟩
      by_contra hf
      have hentry := (hm.entry ho a.sequence a).mpr ⟨ha, hf, rfl⟩
      rw [hempty] at hentry
      cases hentry
    · rw [if_neg hid] at ho'
      rw [Function.update_of_ne hid]
      exact hm.gone ho'

/-! ### Runs -/

variable {w w' : World} {e : Event}

theorem Agrees.issued (h : Agrees l w) {attempt : ReferenceHierarchyAttempt}
    (ha : attempt ∈ w.attempts) : attempt.identity ∈ l.issued := by
  rw [← h.handles]
  exact List.mem_map.mpr ⟨attempt, ha, rfl⟩

theorem Agrees.step (h : Agrees l w) (hs : hierarchySys.step w e w') :
    Agrees (l.note e) w' := by
  obtain ⟨hissued, s, hon, rfl⟩ := hs
  obtain ⟨c, reply⟩ := e
  cases effect hon with
  | created ho => exact ⟨h.handles, h.sound.created h.matched ho, h.matched.created⟩
  | duplicate _ => exact h
  | @started operation next owner hn ho =>
    refine ⟨?_, h.sound.started hn, h.matched.started h.sound ho⟩
    show (w.attempts ++ [_]).map _ = l.issued ++ [_]
    rw [List.map_append, h.handles]
    rfl
  | @unanchored operation next hn ho =>
    have hle : w.state.nextSequence.toNat ≤ next.toNat := by omega
    exact ⟨h.handles, h.sound.mono hle, h.matched⟩
  | exhausted _ => exact h
  | cancelled ho => exact ⟨h.handles, { h.sound with }, h.matched.cancelled ho⟩
  | @finished attempt owner ho hr =>
    have hi := h.issued hissued
    exact ⟨h.handles, h.sound.finished hi ((h.matched.entry ho _ _).mp hr).2.1,
      h.matched.finished h.sound ho hi⟩
  | stale ho hr =>
    rw [h.matched.stale h.sound ho (h.issued hissued) hr, put_self ho]
    exact h
  | closed ho he => exact ⟨h.handles, { h.sound with }, h.matched.closed ho he⟩
  | busy _ _ => exact h
  | unknown hc _ => cases c <;> exact h

theorem agrees_start : Agrees .new startWorld := by
  refine ⟨rfl, ?_, ?_⟩
  · constructor <;> simp [Ledger.new]
  · constructor <;> simp [Ledger.new, startWorld, deterministic]

/-- Whatever the answers were, some ledger describes the state. -/
theorem agrees_inductive : hierarchySys.Inductive fun w => ∃ l, Agrees l w where
  init h := ⟨.new, by rw [show _ = startWorld from h]; exact agrees_start⟩
  step h hs := ⟨_, h.choose_spec.step hs⟩

theorem agrees_run {w₀ : World} {es : List (Event × World)} (h₀ : hierarchySys.init w₀)
    (h : hierarchySys.Run w₀ es w) : Agrees (ledger es) w := by
  induction h with
  | nil =>
    obtain rfl : w₀ = startWorld := h₀
    exact agrees_start
  | snoc _ hs ih =>
    rw [ledger, List.foldl_concat]
    exact ih.step hs

end Steps

/-! ## Reads -/

section Reads

variable {l : Ledger} {w : World}

/-- The unfinished attempts of the ID. -/
def Ledger.active (l : Ledger) (id : String) : List AttemptIdentity :=
  (l.started id).filter (· ∉ l.finished)

theorem Ledger.Sound.active_increasing {next : UInt64} (h : l.Sound next) (id : String) :
    (l.active id).Pairwise fun a b => a.sequence < b.sequence :=
  h.increasing.sublist (List.filter_sublist.trans (h.current id))

/-- The records of an operation, in the order of the sequences, are the unfinished attempts. -/
theorem Agrees.entries (h : Agrees l w) {id : String}
    {owner : ReferenceAttemptHierarchyOperation} (ho : w.state.operations[id]? = some owner) :
    owner.attempts.toList.map (·.2) = l.active id := by
  have hentry := h.matched.entry ho
  have hmem : ∀ {p : UInt64 × AttemptIdentity}, p ∈ owner.attempts.toList →
      p.2.sequence = p.1 := fun {p} hp =>
    ((hentry p.1 p.2).mp (ExtTreeMap.mem_toList_iff_getElem?_eq_some.mp hp)).2.2
  have hsorted : (owner.attempts.toList.map (·.2)).Pairwise fun a b => a.sequence < b.sequence := by
    refine List.pairwise_map.mpr (ExtTreeMap.ordered_keys_toList.imp_of_mem ?_)
    intro p q hp hq hlt
    rw [hmem hp, hmem hq]
    exact Std.compare_eq_lt.mp hlt
  have hirrefl : ∀ {a b : AttemptIdentity}, a.sequence < b.sequence → a ≠ b := by
    rintro a _ hlt rfl
    exact UInt64.lt_irrefl _ hlt
  refine List.Perm.eq_of_pairwise (fun a b _ _ hab hba => ?_) hsorted
    (h.sound.active_increasing id) ?_
  · exact absurd (UInt64.lt_trans hab hba) (UInt64.lt_irrefl _)
  · refine (List.perm_ext_iff_of_nodup (hsorted.imp hirrefl)
      ((h.sound.active_increasing id).imp hirrefl)).mpr fun a => ?_
    rw [List.mem_map, Ledger.active, List.mem_filter, decide_eq_true_eq]
    constructor
    · rintro ⟨p, hp, rfl⟩
      have ha := (hentry p.1 p.2).mp (ExtTreeMap.mem_toList_iff_getElem?_eq_some.mp hp)
      exact ⟨ha.1, ha.2.1⟩
    · rintro ⟨hs, hf⟩
      exact ⟨(a.sequence, a), ExtTreeMap.mem_toList_iff_getElem?_eq_some.mpr
        ((hentry _ _).mpr ⟨hs, hf, rfl⟩), rfl⟩

theorem Agrees.activeAttempts_eq (h : Agrees l w) (operation : ReferenceHierarchyOperation) :
    activeAttempts w.state operation = l.active operation.operationId := by
  unfold activeAttempts
  cases ho : w.state.operations[operation.operationId]? with
  | some owner => exact h.entries ho
  | none =>
    refine (List.filter_eq_nil_iff.mpr fun a ha => ?_).symm
    simpa using (h.matched.gone ho).2 a ha

theorem Agrees.present_iff (h : Agrees l w) (operation : ReferenceHierarchyOperation) :
    operationActive w.state operation = l.present operation.operationId := by
  unfold operationActive
  rw [Bool.eq_iff_iff, contains_iff]
  cases ho : w.state.operations[operation.operationId]? with
  | some owner => simp [(h.matched.known ho).1]
  | none => simp [(h.matched.gone ho).1]

theorem Agrees.cancellation_iff (h : Agrees l w) {attempt : ReferenceHierarchyAttempt}
    (hi : attempt.identity ∈ l.issued) :
    cancellationRequested w.state attempt = true ↔
      attempt.identity ∉ l.finished ∧ l.cancelled attempt.identity.operationId = true := by
  unfold cancellationRequested
  cases ho : w.state.operations[attempt.identity.operationId]? with
  | none =>
    have hf : attempt.identity ∈ l.finished := by
      by_cases hs : attempt.identity ∈ l.started attempt.identity.operationId
      · exact (h.matched.gone ho).2 _ hs
      · exact h.sound.past _ hi hs
    simp [hf]
  | some owner =>
    have hlisted : owner.attempts.contains attempt.identity.sequence = true ↔
        attempt.identity ∉ l.finished := by
      rw [ExtTreeMap.contains_iff_mem, ExtTreeMap.mem_iff_isSome_getElem?,
        Option.isSome_iff_exists]
      constructor
      · rintro ⟨a, ha⟩
        obtain ⟨hs, hf, hseq⟩ := (h.matched.entry ho _ _).mp ha
        rwa [h.sound.eq_of_sequence ((h.sound.current _).subset hs) hi hseq] at hf
      · intro hf
        have hs : attempt.identity ∈ l.started attempt.identity.operationId := by
          by_contra hs
          exact hf (h.sound.past _ hi hs)
        exact ⟨_, (h.matched.entry ho _ _).mpr ⟨hs, hf, rfl⟩⟩
    simp only [Bool.and_eq_true, hlisted, (h.matched.known ho).2, and_comm]

theorem Agrees.finishOperation_iff (h : Agrees l w) (operation : ReferenceHierarchyOperation) :
    ((finishOperation operation).on w.state).1 = .ok () ↔
      l.present operation.operationId = true ∧ l.active operation.operationId = [] := by
  rw [finishOperation_on]
  cases ho : w.state.operations[operation.operationId]? with
  | none => simp [(h.matched.gone ho).1]
  | some owner =>
    have hempty : owner.attempts.isEmpty = true ↔ l.active operation.operationId = [] := by
      rw [← h.entries ho, List.map_eq_nil_iff, ExtTreeMap.toList_eq_nil_iff,
        ExtTreeMap.isEmpty_iff]
    by_cases he : owner.attempts.isEmpty = true
    · simp [he, hempty.mp he, (h.matched.known ho).1]
    · simp [he, mt hempty.mpr he]

/-- A finished attempt cannot be finished again, and the try changes nothing. -/
theorem Agrees.finishAttempt_again (h : Agrees l w) {attempt : ReferenceHierarchyAttempt}
    (hi : attempt.identity ∈ l.issued) (hf : attempt.identity ∈ l.finished) :
    ∃ e, (finishAttempt attempt).on w.state = (.error e, w.state) := by
  rw [finishAttempt_on]
  cases ho : w.state.operations[attempt.identity.operationId]? with
  | none => exact ⟨_, rfl⟩
  | some owner =>
    have hr : owner.attempts[attempt.identity.sequence]? ≠ some attempt.identity := fun hr =>
      ((h.matched.entry ho _ _).mp hr).2.1 hf
    refine ⟨.err .staleLease, ?_⟩
    simp only [hr, if_false, h.matched.stale h.sound ho hi hr, put_self ho]

end Reads

section Run

variable {w₀ w w' : World} {es : List (Event × World)}

/-- In every run: the issued attempts have sequences and attempt IDs of their own; an operation
lists the attempts that were started since its ID was last created and not finished, and they see
its cancellation; an attempt is finished once; an operation is finished when it has no attempt
left. So the handle of an attempt of an earlier operation of the ID reads and changes nothing. -/
theorem attempts_anchored (h₀ : hierarchySys.init w₀) (h : hierarchySys.Run w₀ es w) :
    ((ledger es).issued.Pairwise fun a b =>
      a.sequence ≠ b.sequence ∧ a.attemptId ≠ b.attemptId) ∧
    (∀ operation, activeAttempts w.state operation = (ledger es).active operation.operationId ∧
      (activeAttempts w.state operation).Pairwise fun a b => a.sequence < b.sequence) ∧
    (∀ attempt ∈ w.attempts, cancellationRequested w.state attempt = true ↔
      attempt.identity ∉ (ledger es).finished ∧
        (ledger es).cancelled attempt.identity.operationId = true) ∧
    (ledger es).finished.Nodup ∧
    (∀ operation, operationActive w.state operation =
        (ledger es).present operation.operationId ∧
      (((finishOperation operation).on w.state).1 = .ok () ↔
        operationActive w.state operation = true ∧ activeAttempts w.state operation = [])) ∧
    ∀ attempt ∈ w.attempts,
      attempt.identity ∉ (ledger es).started attempt.identity.operationId →
      cancellationRequested w.state attempt = false ∧
        ∃ e, (finishAttempt attempt).on w.state = (.error e, w.state) := by
  have ha := agrees_run h₀ h
  have hs := ha.sound
  refine ⟨?_, fun operation => ?_, fun attempt hm => ha.cancellation_iff (ha.issued hm), hs.once,
    fun operation => ⟨ha.present_iff operation, ?_⟩, fun attempt hm hold => ?_⟩
  · refine hs.increasing.imp_of_mem fun {a b} hma hmb hlt => ⟨fun he => ?_, fun he => ?_⟩
    · rw [he] at hlt
      exact UInt64.lt_irrefl _ hlt
    · rw [hs.minted a hma, hs.minted b hmb] at he
      rw [(mintIdentity_inj he).2] at hlt
      exact UInt64.lt_irrefl _ hlt
  · rw [ha.activeAttempts_eq]
    exact ⟨rfl, hs.active_increasing _⟩
  · rw [ha.finishOperation_iff, ha.present_iff, ha.activeAttempts_eq]
  · have hi := ha.issued hm
    have hf := hs.past _ hi hold
    refine ⟨?_, ha.finishAttempt_again hi hf⟩
    rw [Bool.eq_false_iff, ne_eq, ha.cancellation_iff hi]
    exact fun hc => hc.1 hf

/-- A list of events that can be executed is a run. -/
theorem run_of_exec {ls : List Event} (h : ls.foldlM World.exec startWorld = some w) :
    ∃ es, hierarchySys.Run startWorld es w ∧ es.map (·.1) = ls :=
  Sys.Run.exec World.exec_step h

/-- The ID `a` is cancelled with one attempt and gets another one; both are finished, and it is
created again. -/
def recreatedEvents : List Event :=
  let a : ReferenceHierarchyOperation := ⟨"a"⟩
  let attempt (k : UInt64) : ReferenceHierarchyAttempt := ⟨mintIdentity "a" k⟩
  [⟨.createOperation "a", .ok (.operation a)⟩, startEvent a 1,
    ⟨.requestOperationCancel a, .ok .unit⟩, startEvent a 2,
    ⟨.finishAttempt (attempt 1), .ok .unit⟩, ⟨.finishAttempt (attempt 2), .ok .unit⟩,
    ⟨.finishOperation a, .ok .unit⟩, ⟨.createOperation "a", .ok (.operation a)⟩, startEvent a 3]

theorem attempts_anchored_recreated : ∃ es w, hierarchySys.Run startWorld es w ∧
    es.map (·.1) = recreatedEvents ∧
    activeAttempts w.state ⟨"a"⟩ = (ledger es).active "a" ∧ (ledger es).finished.Nodup := by
  have hexec : (recreatedEvents.foldlM World.exec startWorld).isSome = true := by
    decide +kernel
  obtain ⟨es, w, hr, he⟩ := Sys.Run.exec_isSome (S := hierarchySys) World.exec_step hexec
  obtain ⟨-, hactive, -, hfinished, -⟩ := attempts_anchored rfl hr
  exact ⟨es, w, hr, he, (hactive ⟨"a"⟩).1, hfinished⟩

/-! ## Failed calls -/

/-- A call that fails leaves the state. -/
def Atomic (w : World) (e : Event) (w' : World) : Prop :=
  ∀ error, e.reply = .error error → w'.state = w.state

/-- An attempt is started on an operation that exists, or when there is no sequence left. -/
def Anchored (w : World) (e : Event) (_ : World) : Prop :=
  ∀ operation, e.call = .startAttempt operation →
    operationActive w.state operation = true ∨ w.state.nextSequence.toNat = 2 ^ 64 - 1

theorem Agrees.atomic_step {l : Ledger} (h : Agrees l w) {e : Event}
    (hs : hierarchySys.step w e w') : Atomic w e w' ↔ Anchored w e w' := by
  obtain ⟨hissued, s, hon, rfl⟩ := hs
  obtain ⟨c, reply⟩ := e
  have quiet : ∀ {c : Call} {reply : Reply} {w' : World},
      (∀ error, reply = .error error → w'.state = w.state) →
      (∀ operation, c ≠ .startAttempt operation) →
      (Atomic w ⟨c, reply⟩ w' ↔ Anchored w ⟨c, reply⟩ w') := fun hatomic hc =>
    ⟨fun _ operation he => absurd he (hc operation), fun _ => hatomic⟩
  cases effect hon with
  | @unanchored operation next hn ho =>
    constructor
    · intro hatomic
      have hsame : next = w.state.nextSequence :=
        congrArg ReferenceAttemptHierarchyState.nextSequence (hatomic _ rfl)
      rw [hsame] at hn
      omega
    · intro hanchored
      rcases hanchored operation rfl with hactive | hlast
      · rw [operationActive, contains_iff, ho] at hactive
        cases hactive
      · have hlt := next.toNat_lt
        omega
  | @started operation next owner _ ho =>
    refine ⟨fun _ operation' he => .inl ?_, fun _ error he => by cases he⟩
    obtain rfl := Call.startAttempt.inj he
    rw [operationActive, contains_iff, ho]
    rfl
  | exhausted hlast => exact ⟨fun _ _ _ => .inr hlast, fun _ _ _ => rfl⟩
  | stale ho hr =>
    refine quiet (fun _ _ => ?_) fun _ => by simp
    show _ = w.state
    rw [h.matched.stale h.sound ho (h.issued hissued) hr, put_self ho]
    rfl
  | unknown hc _ =>
    refine quiet (fun _ _ => rfl) fun operation he => ?_
    rw [he] at hc
    cases hc
  | duplicate _ => exact quiet (fun _ _ => rfl) fun _ => by simp
  | busy _ _ => exact quiet (fun _ _ => rfl) fun _ => by simp
  | _ => exact quiet (fun _ he => by cases he) fun _ => by simp

/-- The failed calls of a run leave the state exactly when no attempt is started on an operation
that does not exist, while there is a sequence to take. -/
theorem atomic_iff (h₀ : hierarchySys.init w₀) (h : hierarchySys.Run w₀ es w) :
    Sys.Along Atomic w₀ es ↔ Sys.Along Anchored w₀ es :=
  h.along_iff agrees_inductive (fun hi hs => hi.choose_spec.atomic_step hs)
    (agrees_inductive.init h₀)

theorem atomic_recreated : ∃ es w, hierarchySys.Run startWorld es w ∧
    es.map (·.1) = recreatedEvents ∧
    (Sys.Along Atomic startWorld es ↔ Sys.Along Anchored startWorld es) := by
  have hexec : (recreatedEvents.foldlM World.exec startWorld).isSome = true := by
    decide +kernel
  obtain ⟨es, w, hr, he⟩ := Sys.Run.exec_isSome (S := hierarchySys) World.exec_step hexec
  exact ⟨es, w, hr, he, atomic_iff rfl hr⟩

/-- The handle of an operation that was finished takes a sequence. -/
def lateEvents : List Event :=
  [⟨.createOperation "a", .ok (.operation ⟨"a"⟩)⟩, ⟨.finishOperation ⟨"a"⟩, .ok .unit⟩]

theorem start_not_atomic : ∃ es w w', hierarchySys.Run startWorld es w ∧
    es.map (·.1) = lateEvents ∧
    hierarchySys.step w ⟨.startAttempt ⟨"a"⟩, .error (.err .unknownOperation)⟩ w' ∧
    w.state.nextSequence = 1 ∧ w'.state.nextSequence = 2 := by
  have hexec : (lateEvents.foldlM World.exec startWorld).bind (fun w =>
      (w.exec ⟨.startAttempt ⟨"a"⟩, .error (.err .unknownOperation)⟩).map fun w' =>
        (w.state.nextSequence, w'.state.nextSequence)) = some (1, 2) := by
    decide +kernel
  obtain ⟨w, hw, hlate⟩ := Option.bind_eq_some_iff.mp hexec
  obtain ⟨w', hw', hn⟩ := Option.map_eq_some_iff.mp hlate
  obtain ⟨es, hr, he⟩ := run_of_exec hw
  exact ⟨es, w, w', hr, he, World.exec_step hw', (Prod.mk.inj hn).1, (Prod.mk.inj hn).2⟩

end Run

end Hierarchy
end Testkit
end Platform
