import PlatformContracts.Testkit.SupervisorInv

/-!
# Handles of a public ID that was used again

The records of the supervisor are keyed by the public ID, so a handle reads and writes the record
of the latest attempt of its ID.

* `World.Current`: no later attempt of the ID was admitted. `Inv.record_current`: the record of
  the ID is the handle's own exactly then.
* `Own`: what a call on a handle should touch; `Fresh`: the calls that find their own record.
  `handles_own_iff`: the runs of own calls are the runs of fresh ones; `handles_reused`: a run
  that is not.
-/

namespace Platform
namespace Testkit
namespace Supervisor

open Std

/-- Some attempt of the public ID is the latest one. -/
theorem Minted.exists_latest {next : UInt64} {expected : List String} {a : Attempts}
    (h : Minted next expected a) {k : UInt64} {t : Attempt} (hk : a k = some t) :
    ∃ k' t', a k' = some t' ∧ t'.operationId = t.operationId ∧ Latest a k' t' := by
  induction hn : next.toNat - k.toNat using Nat.strong_induction_on generalizing k t with
  | _ n ih =>
    by_cases hl : Latest a k t
    · exact ⟨k, t, hk, rfl, hl⟩
    · unfold Latest at hl
      push Not at hl
      obtain ⟨k₁, t₁, hk₁, he, hlt⟩ := hl
      have hb := UInt64.lt_iff_toNat_lt.mp (h.below hk₁)
      have hlt := UInt64.lt_iff_toNat_lt.mp (UInt64.not_le.mp hlt)
      obtain ⟨k', t', hk', he', hl'⟩ := ih (next.toNat - k₁.toNat) (by omega) hk₁ rfl
      exact ⟨k', t', hk', he'.trans he, hl'⟩

variable {w w' : World} {k : UInt64} {op : Operation}

/-- No attempt of the public ID of `k` was admitted after `k`. -/
def World.Current (w : World) (k : UInt64) : Prop :=
  ∀ op k' op', w.ops k = some op → w.ops k' = some op' →
    op'.identity.operationId = op.identity.operationId → k' ≤ k

theorem current_iff (hk : w.ops k = some op) :
    w.Current k ↔ Latest w.attempts k op.attempt := by
  constructor
  · intro h k' t' ht' he
    obtain ⟨op', hk', rfl⟩ := Option.map_eq_some_iff.mp ht'
    exact h op k' op' hk hk' he
  · intro h op₁ k' op' hk₁ hk' he
    obtain rfl := Option.some.inj (hk.symm.trans hk₁)
    exact h k' op'.attempt (World.attempts_eq hk') he

/-- The record of a handle's public ID is the handle's own exactly when no later attempt of the
ID was admitted. -/
theorem Inv.record_current (h : Inv w) (hk : w.ops k = some op) :
    ∃ r, w.state.records[op.identity.operationId]? = some r ∧
      (r.identity = op.identity ↔ w.Current k) ∧ (w.Current k → r.phase = op.attempt.phase) := by
  have ha := World.attempts_eq hk
  obtain ⟨k', t', hk', he, hl⟩ := h.minted.exists_latest ha
  obtain ⟨r, hr, hi, hp⟩ := h.index.record hk' hl
  have hsame : w.Current k → k' = k := fun hc =>
    UInt64.le_antisymm ((current_iff hk).mp hc k' t' hk' he) (hl k op.attempt ha he.symm)
  refine ⟨r, by rw [← hr, he]; rfl, ⟨?_, ?_⟩, ?_⟩
  · intro hri
    have hid : t'.identity = op.attempt.identity := hi.symm.trans hri
    rw [h.minted.identity hk', h.minted.identity ha] at hid
    obtain rfl : k' = k := congrArg AttemptIdentity.sequence hid
    obtain rfl := Option.some.inj (ha.symm.trans hk')
    exact (current_iff hk).mpr hl
  · intro hc
    obtain rfl := hsame hc
    obtain rfl := Option.some.inj (ha.symm.trans hk')
    exact hi
  · intro hc
    obtain rfl := hsame hc
    obtain rfl := Option.some.inj (ha.symm.trans hk')
    exact hp

/-! ## Calls on a handle -/

/-- The record of another attempt is as before. -/
def Others (w w' : World) (op : Operation) : Prop :=
  ∀ (id : String) (r : OperationSnapshot), w.state.records[id]? = some r →
    r.identity ≠ op.identity → w'.state.records[id]? = some r

/-- A call on the handle of an attempt reads and writes the record of this attempt only. -/
def Own (w : World) (e : Event) (w' : World) : Prop :=
  match e with
  | .readReleased k reply => ∀ op r, w.ops k = some op → reply = .ok r →
      r.identity = op.identity ∧ r.phase = .released
  | .snapshot k reply => ∀ op r, w.ops k = some op → reply = some r → r.identity = op.identity
  | .publishProgress k _ reply => ∀ op, w.ops k = some op → Others w w' op ∧
      (reply = .ok () → ∃ r, w.state.records[op.identity.operationId]? = some r ∧
        r.identity = op.identity)
  | .workerRelease k _ => ∀ op, w.ops k = some op → Others w w' op
  | _ => True

/-- A read or a publication on the handle of the latest attempt of a public ID. A publication
that the record refuses is one on any handle. -/
def Fresh (w : World) (e : Event) (_ : World) : Prop :=
  match e with
  | .readReleased k _ | .snapshot k _ => w.Current k
  | .publishProgress k _ _ => ∀ op r, w.ops k = some op →
      w.state.records[op.identity.operationId]? = some r → Publishes w.state r → w.Current k
  | _ => True

/-- A step that writes the record of the operation's public ID, where this is its own. -/
theorem others_insert {s : ReferenceSupervisorState} {r r' : OperationSnapshot}
    (hr : w.state.records[op.identity.operationId]? = some r) (hi : r.identity = op.identity)
    (hs : s.records = w.state.records.insert op.identity.operationId r') {w'' : World}
    (hw : w''.state = s) : Others w w'' op := by
  intro id r₁ hr₁ hne
  rw [hw, hs, lookup_insert]
  split
  · rename_i he
    subst he
    obtain rfl := Option.some.inj (hr.symm.trans hr₁)
    exact absurd hi hne
  · exact hr₁

theorem Inv.publish_own_iff (h : Inv w) (hk : w.ops k = some op) {progress : UInt64}
    {reply : Except (Stop AdapterError) Unit} {s : ReferenceSupervisorState}
    (hon : (Supervisor.publishProgress op.identity.operationId progress).on w.state = (reply, s)) :
    Own w (.publishProgress k progress reply) { w with state := s } ↔
      Fresh w (.publishProgress k progress reply) { w with state := s } := by
  obtain ⟨r, hr, hcurrent, -⟩ := h.record_current hk
  constructor
  · intro hown op₁ r₁ hk₁ hr₁ hp
    obtain rfl := Option.some.inj (hk.symm.trans hk₁)
    obtain rfl := Option.some.inj (hr.symm.trans hr₁)
    rcases publishProgress_cases hon with ⟨-, -, -, hok, -⟩ | ⟨hno, -, -⟩
    · obtain ⟨r₂, hr₂, hi⟩ := (hown op hk).2 hok
      obtain rfl := Option.some.inj (hr.symm.trans hr₂)
      exact hcurrent.mp hi
    · exact absurd hp (hno r hr)
  · intro hfresh op₁ hk₁
    obtain rfl := Option.some.inj (hk.symm.trans hk₁)
    rcases publishProgress_cases hon with ⟨r₁, hr₁, hp, -, rfl⟩ | ⟨-, rfl, hne⟩
    · obtain rfl := Option.some.inj (hr.symm.trans hr₁)
      have hi := hcurrent.mpr (hfresh op r hk hr hp)
      exact ⟨others_insert hr hi rfl rfl, fun _ => ⟨r, hr, hi⟩⟩
    · exact ⟨fun id r₁ hr₁ _ => hr₁, fun hok => absurd hok hne⟩

theorem Inv.own_iff (h : Inv w) {e : Event} (hs : Step w e w') :
    Own w e w' ↔ Fresh w e w' := by
  cases hs with
  | @readReleased k op hk hrec =>
    obtain ⟨r, hr, hcurrent, hphase⟩ := h.record_current hk
    have hread : Supervisor.readReleased op.identity.operationId w.state = .ok r := by
      unfold Supervisor.readReleased
      rw [hr]
      rfl
    constructor
    · intro hown
      exact hcurrent.mp (hown op r hk hread).1
    · intro hc op₁ r₁ hk₁ hr₁
      obtain rfl := Option.some.inj (hk.symm.trans hk₁)
      obtain rfl := Except.ok.inj (hread.symm.trans hr₁)
      refine ⟨hcurrent.mpr hc, (hphase hc).trans ?_⟩
      simp [Attempt.phase, Operation.attempt, (h.formed hk).inactive hrec]
  | @snapshot k op hk =>
    obtain ⟨r, hr, hcurrent, -⟩ := h.record_current hk
    constructor
    · intro hown
      exact hcurrent.mp (hown op r hk hr)
    · intro hc op₁ r₁ hk₁ hr₁
      obtain rfl := Option.some.inj (hk.symm.trans hk₁)
      obtain rfl := Option.some.inj (hr.symm.trans hr₁)
      exact hcurrent.mpr hc
  | publishProgress hk _ hon => exact h.publish_own_iff hk hon
  | @workerRelease k op command s hk hw hon =>
    refine ⟨fun _ => trivial, fun _ op₁ hk₁ => ?_⟩
    obtain rfl := Option.some.inj (hk.symm.trans hk₁)
    obtain ⟨r, hr, hi, -⟩ := h.record hk (by rw [hw]; rfl)
    rw [workerRelease_of_record hr] at hon
    obtain rfl := (Prod.mk.inj hon).2
    exact others_insert hr hi rfl rfl
  | @workerPanic k op command s e hk hw hon =>
    obtain ⟨r, hr, -, -⟩ := h.record hk (by rw [hw]; rfl)
    rw [workerRelease_of_record hr] at hon
    exact absurd (Prod.mk.inj hon).1 (by simp)
  | _ => exact Iff.rfl

/-- The runs whose calls on handles touch their own attempt are the runs in which each such call
is on the latest attempt of its public ID. -/
theorem handles_own_iff {capacity : Usize} {w₀ : World} {es : List (Event × World)}
    (hi : (supervisorSys capacity).init w₀) (hr : (supervisorSys capacity).Run w₀ es w) :
    Sys.Along Own w₀ es ↔ Sys.Along Fresh w₀ es :=
  hr.along_iff (inv_inductive capacity) (fun h hs => h.own_iff hs)
    ((inv_inductive capacity).init hi)

/-- The record of the second attempt of `a`, after a publication. -/
def reusedRecord : OperationSnapshot :=
  pushRecord 4 7 (newRecord (mintIdentity "a" 2))

/-- The public ID `a` is used again between the release of its first attempt and the read of it;
in between the first handle publishes. -/
def handleReused : List Event :=
  reserveEvents "a" 1 ++ completeEvents 1 ++ waitEvents 1 ++ reserveEvents "a" 2 ++
    [.publishProgress 1 7 (.ok ()), .snapshot 1 (some reusedRecord)]

theorem handles_own_reused : ∃ es w, (supervisorSys 4).Run (startWorld 4) es w ∧
    es.map (·.1) = handleReused ∧
    (Sys.Along Own (startWorld 4) es ↔ Sys.Along Fresh (startWorld 4) es) := by
  have hexec : (handleReused.foldlM World.exec (startWorld 4)).isSome = true := by
    decide +kernel
  obtain ⟨es, w, hr, he⟩ := Sys.Run.exec_isSome (S := supervisorSys 4) World.exec_step hexec
  exact ⟨es, w, hr, he, handles_own_iff rfl hr⟩

/-- `wait_released` on the first handle returns the running record of the second attempt. -/
theorem handles_reused : ∃ es w, (supervisorSys 4).Run (startWorld 4) es w ∧
    es.map (·.1) = handleReused ++ [.readReleased 1 (.ok reusedRecord)] ∧
    ¬Sys.Along Own (startWorld 4) es := by
  have hexec : (handleReused.foldlM World.exec (startWorld 4)).bind (fun w =>
      (w.ops 1).map fun op => (op, readReleased op.identity.operationId w.state)) =
      some (⟨mintIdentity "a" 1, .returned, .exiting, ⟨true, false, .received, true⟩⟩,
        .ok reusedRecord) := by
    decide +kernel
  obtain ⟨w, hw, hop⟩ := Option.bind_eq_some_iff.mp hexec
  obtain ⟨op, hk, hop⟩ := Option.map_eq_some_iff.mp hop
  obtain ⟨hop, hread⟩ := Prod.mk.inj hop
  obtain ⟨es, hr, he⟩ := run_of_exec hw
  have hs := Step.readReleased hk (by rw [hop])
  rw [hread] at hs
  refine ⟨_, _, hr.snoc hs, by rw [List.map_append, he]; rfl, ?_⟩
  intro hown
  have hid := ((hr.along_snoc.mp hown).2 op _ hk rfl).1
  rw [hop] at hid
  exact absurd hid (by decide)

end Supervisor
end Testkit
end Platform
