import PlatformContracts.Testkit.SupervisorEffect

/-!
# The books of the supervisor

* `Attempt`: what the books know of an operation: its identity, whether it is active, and whether
  its task was inserted.
* `Minted`, `Indexed`, `Retained`: the worker IDs that are expected, the registry with the
  records, and the tasks with the joined worker IDs, each for the attempts that were admitted.
* One lemma for each of them and each change: an admission (`enroll`), the insertion of a task
  (`insert`), a release (`release`), a shutdown's last section (`close`), and what they do not
  read (`update`, `records_congr`, `tasks_congr`).
-/

namespace Platform
namespace Testkit
namespace Supervisor

open Std

/-! ## The attempts -/

/-- An admitted operation, as the books have it. -/
structure Attempt where
  identity : AttemptIdentity
  active : Bool
  inserted : Bool
  deriving DecidableEq, Repr

namespace Attempt

def operationId (t : Attempt) : String := t.identity.operationId

def phase (t : Attempt) : OperationPhase := if t.active then .running else .released

/-- The attempt of an operation that was just admitted. -/
def new (identity : AttemptIdentity) : Attempt := ⟨identity, true, false⟩

end Attempt

/-- The attempts, by sequence. -/
abbrev Attempts := UInt64 → Option Attempt

/-- No attempt of the public ID of `k` was admitted after `k`. -/
def Latest (a : Attempts) (k : UInt64) (t : Attempt) : Prop :=
  ∀ k' t', a k' = some t' → t'.operationId = t.operationId → k' ≤ k

/-- The IDs of the workers that are expected are those of the attempts below `next`. -/
structure Minted (next : UInt64) (expected : List String) (a : Attempts) : Prop where
  identity : ∀ {k t}, a k = some t → t.identity = mintIdentity t.operationId k
  below : ∀ {k t}, a k = some t → k < next
  nodup : expected.Nodup
  mem : ∀ {id}, id ∈ expected ↔ ∃ k, (a k).isSome ∧ id = workerId k
  length : expected.length + 1 = next.toNat

/-- The registry has the active attempts, the records are those of the latest attempts. -/
structure Indexed (active : ExtTreeMap String UInt64)
    (records : ExtTreeMap String OperationSnapshot) (a : Attempts) : Prop where
  active : ∀ {id k}, active[id]? = some k ↔ ∃ t, a k = some t ∧ t.active ∧ t.operationId = id
  latest : ∀ {k t}, a k = some t → t.active → Latest a k t
  record : ∀ {k t}, a k = some t → Latest a k t →
    ∃ r, records[t.operationId]? = some r ∧ r.identity = t.identity ∧ r.phase = t.phase
  owner : ∀ {id r}, records[id]? = some r → ∃ k t, a k = some t ∧ Latest a k t ∧ t.operationId = id

/-- The retained tasks are those that were inserted, less the joined ones. -/
structure Retained (tasks : ExtTreeMap String (Option JoinHandle)) (joined : List String)
    (a : Attempts) : Prop where
  pending : ∀ {k t}, a k = some t → t.inserted = false → t.active
  task : ∀ {id}, (tasks[id]?).isSome ↔
    (∃ k t, a k = some t ∧ t.inserted ∧ id = workerId k) ∧ id ∉ joined
  nodup : joined.Nodup
  joined : ∀ {id}, id ∈ joined → ∃ k t, a k = some t ∧ t.inserted ∧ id = workerId k

theorem update_eq_some {κ τ : Type} [DecidableEq κ] {a : κ → Option τ} {k k' : κ} {t t' : τ} :
    Function.update a k (some t) k' = some t' ↔ k' = k ∧ t' = t ∨ k' ≠ k ∧ a k' = some t' := by
  by_cases h : k' = k
  · subst h
    simp [eq_comm]
  · simp [h]

section Books

variable {a : Attempts} {k : UInt64} {t t' : Attempt}

theorem Latest.update (hk : a k = some t) (hid : t'.operationId = t.operationId) {k₁ : UInt64}
    {t₁ : Attempt} :
    Latest (Function.update a k (some t')) k₁ t₁ ↔ Latest a k₁ t₁ := by
  constructor
  · intro h k' t'' ha he
    by_cases hkk : k' = k
    · subst hkk
      obtain rfl := Option.some.inj (hk.symm.trans ha)
      exact h k' t' (by simp) (hid.trans he)
    · exact h k' t'' (by simp [hkk, ha]) he
  · intro h k' t'' ha he
    rcases update_eq_some.mp ha with ⟨rfl, rfl⟩ | ⟨-, ha⟩
    · exact h k' t hk (hid.symm.trans he)
    · exact h k' t'' ha he

/-! ## The expected workers -/

namespace Minted

variable {next next' : UInt64} {expected : List String}

theorem fresh (h : Minted next expected a) : a next = none := by
  cases hn : a next with
  | none => rfl
  | some t => exact absurd (h.below hn) (UInt64.lt_irrefl next)

theorem enroll (h : Minted next expected a) (hn : next'.toNat = next.toNat + 1) (id : String) :
    Minted next' (expected ++ [workerId next])
      (Function.update a next (some (.new (mintIdentity id next)))) := by
  have hlt : next < next' := by rw [UInt64.lt_iff_toNat_lt]; omega
  have hf := h.fresh
  constructor
  case identity =>
    intro k t hk
    rcases update_eq_some.mp hk with ⟨rfl, rfl⟩ | ⟨-, hk⟩
    · rfl
    · exact h.identity hk
  case below =>
    intro k t hk
    rcases update_eq_some.mp hk with ⟨rfl, -⟩ | ⟨-, hk⟩
    · exact hlt
    · exact UInt64.lt_trans (h.below hk) hlt
  case nodup =>
    rw [List.nodup_append]
    refine ⟨h.nodup, List.nodup_singleton _, ?_⟩
    intro id hid id' hid' he
    obtain ⟨k, hk, rfl⟩ := h.mem.mp hid
    obtain rfl := workerId_inj.mp (he.trans (List.mem_singleton.mp hid'))
    simp [hf] at hk
  case mem =>
    intro id'
    rw [List.mem_append, h.mem, List.mem_singleton]
    constructor
    · rintro (⟨k, hk, rfl⟩ | rfl)
      · refine ⟨k, ?_, rfl⟩
        by_cases hkn : k = next <;> simp [hkn, hk]
      · exact ⟨next, by simp, rfl⟩
    · intro ⟨k, hk, he⟩
      by_cases hkn : k = next
      · exact .inr (by rw [he, hkn])
      · exact .inl ⟨k, by simpa [hkn] using hk, he⟩
  case length =>
    have := h.length
    rw [List.length_append, List.length_singleton]
    omega

theorem update (h : Minted next expected a) (hk : a k = some t)
    (hid : t'.identity = t.identity) :
    Minted next expected (Function.update a k (some t')) := by
  constructor
  case identity =>
    intro k' t'' ha
    rcases update_eq_some.mp ha with ⟨rfl, rfl⟩ | ⟨-, ha⟩
    · rw [Attempt.operationId, hid]; exact h.identity hk
    · exact h.identity ha
  case below =>
    intro k' t'' ha
    rcases update_eq_some.mp ha with ⟨rfl, rfl⟩ | ⟨-, ha⟩
    · exact h.below hk
    · exact h.below ha
  case nodup => exact h.nodup
  case mem =>
    intro id
    have he : ∀ k', (Function.update a k (some t') k').isSome = (a k').isSome := by
      intro k'
      by_cases hkk : k' = k
      · subst hkk; simp [hk]
      · simp [hkk]
    simp only [he, h.mem]
  case length => exact h.length

end Minted

/-! ## The registry and the records -/

namespace Indexed

variable {active : ExtTreeMap String UInt64} {records : ExtTreeMap String OperationSnapshot}

theorem enroll {next : UInt64} {expected : List String} (h : Indexed active records a)
    (hm : Minted next expected a) {id : String} (hid : active[id]? = none) :
    Indexed (active.insert id next) (records.insert id (newRecord (mintIdentity id next)))
      (Function.update a next (some (.new (mintIdentity id next)))) := by
  have hf := hm.fresh
  have hle : ∀ {k t}, a k = some t → k ≤ next := fun hk => UInt64.le_of_lt (hm.below hk)
  have hinactive : ∀ {k t}, a k = some t → t.active → t.operationId ≠ id := by
    intro k t hk ht he
    rw [h.active.mpr ⟨t, hk, ht, he⟩] at hid
    cases hid
  have hnew : (Attempt.new (mintIdentity id next)).operationId = id := rfl
  constructor
  case active =>
    intro id' k
    rw [lookup_insert]
    by_cases he : id' = id
    · subst he
      rw [if_pos rfl]
      constructor
      · intro hk
        obtain rfl := Option.some.inj hk
        exact ⟨_, Function.update_self .., rfl, rfl⟩
      · intro ⟨t, hk, ht, he⟩
        rcases update_eq_some.mp hk with ⟨rfl, -⟩ | ⟨-, hk⟩
        · rfl
        · exact absurd he (hinactive hk ht)
    · rw [if_neg he, h.active]
      constructor
      · intro ⟨t, hk, ht⟩
        exact ⟨t, update_eq_some.mpr (.inr ⟨by rintro rfl; simp [hf] at hk, hk⟩), ht⟩
      · intro ⟨t, hk, ht, hti⟩
        rcases update_eq_some.mp hk with ⟨rfl, rfl⟩ | ⟨-, hk⟩
        · exact absurd (hti.symm.trans hnew) he
        · exact ⟨t, hk, ht, hti⟩
  case latest =>
    intro k t hk ht k' t' hk' he
    rcases update_eq_some.mp hk with ⟨rfl, rfl⟩ | ⟨-, hold⟩
    · rcases update_eq_some.mp hk' with ⟨rfl, -⟩ | ⟨-, hk'⟩
      · exact UInt64.le_refl _
      · exact hle hk'
    · rcases update_eq_some.mp hk' with ⟨rfl, rfl⟩ | ⟨-, hk'⟩
      · exact absurd (he.symm.trans hnew) (hinactive hold ht)
      · exact h.latest hold ht k' t' hk' he
  case record =>
    intro k t hk hl
    rcases update_eq_some.mp hk with ⟨rfl, rfl⟩ | ⟨hkn, hk⟩
    · exact ⟨_, by rw [lookup_insert, hnew, if_pos rfl], rfl, rfl⟩
    · have hti : t.operationId ≠ id := by
        intro he
        have := hl next _ (Function.update_self ..) (hnew.trans he.symm)
        exact hkn (UInt64.le_antisymm (hle hk) this)
      rw [lookup_insert, if_neg hti]
      refine h.record hk fun k' t' hk' he => ?_
      exact hl k' t' (update_eq_some.mpr (.inr ⟨by rintro rfl; simp [hf] at hk', hk'⟩)) he
  case owner =>
    intro id' r hr
    rw [lookup_insert] at hr
    by_cases he : id' = id
    · refine ⟨next, _, Function.update_self .., ?_, hnew.trans he.symm⟩
      intro k' t' hk' _
      rcases update_eq_some.mp hk' with ⟨rfl, -⟩ | ⟨-, hk'⟩
      · exact UInt64.le_refl _
      · exact hle hk'
    · rw [if_neg he] at hr
      obtain ⟨k, t, hk, hl, hti⟩ := h.owner hr
      refine ⟨k, t, update_eq_some.mpr (.inr ⟨by rintro rfl; simp [hf] at hk, hk⟩), ?_, hti⟩
      intro k' t' hk' he'
      rcases update_eq_some.mp hk' with ⟨rfl, rfl⟩ | ⟨-, hk'⟩
      · exact absurd (hti.symm.trans (he'.symm.trans hnew)) he
      · exact hl k' t' hk' he'

/-- The index does not read whether a task was inserted. -/
theorem update (h : Indexed active records a) (hk : a k = some t)
    (hid : t'.identity = t.identity) (ha : t'.active = t.active) :
    Indexed active records (Function.update a k (some t')) := by
  have hop : t'.operationId = t.operationId := by rw [Attempt.operationId, hid]; rfl
  constructor
  case active =>
    intro id k'
    rw [h.active]
    constructor
    · intro ⟨t₁, hk₁, ht₁, hi₁⟩
      by_cases hkk : k' = k
      · subst hkk
        obtain rfl := Option.some.inj (hk.symm.trans hk₁)
        exact ⟨t', Function.update_self .., ha.trans ht₁, hop.trans hi₁⟩
      · exact ⟨t₁, update_eq_some.mpr (.inr ⟨hkk, hk₁⟩), ht₁, hi₁⟩
    · intro ⟨t₁, hk₁, ht₁, hi₁⟩
      rcases update_eq_some.mp hk₁ with ⟨rfl, rfl⟩ | ⟨-, hk₁⟩
      · exact ⟨t, hk, ha.symm.trans ht₁, hop.symm.trans hi₁⟩
      · exact ⟨t₁, hk₁, ht₁, hi₁⟩
  case latest =>
    intro k₁ t₁ hk₁ ht₁
    rw [Latest.update hk hop]
    rcases update_eq_some.mp hk₁ with ⟨rfl, rfl⟩ | ⟨-, hk₁⟩
    · have hl := h.latest hk (ha.symm.trans ht₁)
      unfold Latest at hl ⊢
      rwa [hop]
    · exact h.latest hk₁ ht₁
  case record =>
    intro k₁ t₁ hk₁ hl
    rw [Latest.update hk hop] at hl
    rcases update_eq_some.mp hk₁ with ⟨rfl, rfl⟩ | ⟨-, hk₁⟩
    · have hl' : Latest a k₁ t := by unfold Latest at hl ⊢; rwa [← hop]
      obtain ⟨r, hr, hi, hp⟩ := h.record hk hl'
      exact ⟨r, by rwa [hop], hi.trans hid.symm, by rw [hp, Attempt.phase, Attempt.phase, ha]⟩
    · exact h.record hk₁ hl
  case owner =>
    intro id r hr
    obtain ⟨k₁, t₁, hk₁, hl, hi⟩ := h.owner hr
    by_cases hkk : k₁ = k
    · subst hkk
      obtain rfl := Option.some.inj (hk.symm.trans hk₁)
      refine ⟨k₁, t', Function.update_self .., ?_, hop.trans hi⟩
      rw [Latest.update hk hop]
      unfold Latest at hl ⊢
      rwa [hop]
    · exact ⟨k₁, t₁, update_eq_some.mpr (.inr ⟨hkk, hk₁⟩), (Latest.update hk hop).mpr hl, hi⟩

/-- The section of a worker releases its attempt. -/
theorem release (h : Indexed active records a) (hk : a k = some t) (ht : t.active)
    {r : OperationSnapshot} (hr : records[t.operationId]? = some r) (termClass : TerminalClass) :
    Indexed (active.erase t.operationId)
      (records.insert t.operationId (releaseRecord termClass r))
      (Function.update a k (some { t with active := false })) := by
  have hop : ({ t with active := false } : Attempt).operationId = t.operationId := rfl
  have hl := h.latest hk ht
  have hactive := h.active.mpr ⟨t, hk, ht, rfl⟩
  constructor
  case active =>
    intro id k'
    rw [lookup_erase]
    by_cases he : id = t.operationId
    · rw [if_pos he]
      constructor
      · intro hn
        cases hn
      · intro ⟨t₁, hk₁, ht₁, hi₁⟩
        rcases update_eq_some.mp hk₁ with ⟨-, rfl⟩ | ⟨hkk, hk₁⟩
        · cases ht₁
        · rw [h.active.mpr ⟨t₁, hk₁, ht₁, hi₁.trans he⟩] at hactive
          exact absurd (Option.some.inj hactive) hkk
    · rw [if_neg he, h.active]
      constructor
      · intro ⟨t₁, hk₁, ht₁, hi₁⟩
        have hkk : k' ≠ k := by
          rintro rfl
          obtain rfl := Option.some.inj (hk.symm.trans hk₁)
          exact he hi₁.symm
        exact ⟨t₁, update_eq_some.mpr (.inr ⟨hkk, hk₁⟩), ht₁, hi₁⟩
      · intro ⟨t₁, hk₁, ht₁, hi₁⟩
        rcases update_eq_some.mp hk₁ with ⟨-, rfl⟩ | ⟨-, hk₁⟩
        · cases ht₁
        · exact ⟨t₁, hk₁, ht₁, hi₁⟩
  case latest =>
    intro k₁ t₁ hk₁ ht₁
    rw [Latest.update hk hop]
    rcases update_eq_some.mp hk₁ with ⟨-, rfl⟩ | ⟨-, hk₁⟩
    · cases ht₁
    · exact h.latest hk₁ ht₁
  case record =>
    intro k₁ t₁ hk₁ hl₁
    rw [Latest.update hk hop] at hl₁
    rw [lookup_insert]
    rcases update_eq_some.mp hk₁ with ⟨rfl, rfl⟩ | ⟨hkk, hk₁⟩
    · obtain ⟨r', hr', hi, -⟩ := h.record hk hl
      obtain rfl := Option.some.inj (hr.symm.trans hr')
      exact ⟨_, if_pos hop, hi, rfl⟩
    · have he : t₁.operationId ≠ t.operationId := fun he =>
        hkk (UInt64.le_antisymm (hl k₁ t₁ hk₁ he) (hl₁ k t hk he.symm))
      rw [if_neg he]
      exact h.record hk₁ hl₁
  case owner =>
    intro id r' hr'
    rw [lookup_insert] at hr'
    by_cases he : id = t.operationId
    · exact ⟨k, _, Function.update_self .., (Latest.update hk hop).mpr hl, he.symm⟩
    · rw [if_neg he] at hr'
      obtain ⟨k₁, t₁, hk₁, hl₁, hi₁⟩ := h.owner hr'
      have hkk : k₁ ≠ k := by
        rintro rfl
        obtain rfl := Option.some.inj (hk.symm.trans hk₁)
        exact he hi₁.symm
      exact ⟨k₁, t₁, update_eq_some.mpr (.inr ⟨hkk, hk₁⟩), (Latest.update hk hop).mpr hl₁, hi₁⟩

/-- The index reads the identity and the phase of a record. -/
theorem records_congr {records' : ExtTreeMap String OperationSnapshot}
    (h : Indexed active records a)
    (hr : ∀ id : String, (records'[id]?).map (fun r : OperationSnapshot => (r.identity, r.phase)) =
      (records[id]?).map fun r : OperationSnapshot => (r.identity, r.phase)) :
    Indexed active records' a := by
  refine ⟨h.active, h.latest, ?_, ?_⟩
  · intro k t hk hl
    obtain ⟨r, hr₀, hi, hp⟩ := h.record hk hl
    have he := hr t.operationId
    rw [hr₀] at he
    obtain ⟨r', hr', he'⟩ := Option.map_eq_some_iff.mp he
    obtain ⟨hi', hp'⟩ := Prod.mk.inj he'
    exact ⟨r', hr', hi'.trans hi, hp'.trans hp⟩
  · intro id r' hr'
    have he := hr id
    rw [hr'] at he
    obtain ⟨r, hr₀, -⟩ := Option.map_eq_some_iff.mp he.symm
    exact h.owner hr₀

end Indexed

/-! ## The retained tasks -/

namespace Retained

variable {tasks : ExtTreeMap String (Option JoinHandle)} {joined : List String}

theorem enroll (h : Retained tasks joined a) (hf : a k = none) (identity : AttemptIdentity) :
    Retained tasks joined (Function.update a k (some (.new identity))) := by
  have hmem : ∀ {id}, (∃ k' t, a k' = some t ∧ t.inserted ∧ id = workerId k') ↔
      ∃ k' t, Function.update a k (some (.new identity)) k' = some t ∧ t.inserted ∧
        id = workerId k' := by
    intro id
    constructor
    · intro ⟨k', t, hk', ht⟩
      exact ⟨k', t, update_eq_some.mpr (.inr ⟨by rintro rfl; simp [hf] at hk', hk'⟩), ht⟩
    · intro ⟨k', t, hk', ht, he⟩
      rcases update_eq_some.mp hk' with ⟨-, rfl⟩ | ⟨-, hk'⟩
      · cases ht
      · exact ⟨k', t, hk', ht, he⟩
  refine ⟨?_, ?_, h.nodup, ?_⟩
  · intro k' t hk' ht
    rcases update_eq_some.mp hk' with ⟨-, rfl⟩ | ⟨-, hk'⟩
    · rfl
    · exact h.pending hk' ht
  · intro id
    rw [h.task, hmem]
  · intro id hid
    exact hmem.mp (h.joined hid)

/-- The tasks do not read whether an inserted attempt is active. -/
theorem update (h : Retained tasks joined a) (hk : a k = some t) (hi : t'.inserted = t.inserted)
    (hp : t'.inserted = false → t'.active) :
    Retained tasks joined (Function.update a k (some t')) := by
  have hmem : ∀ {id}, (∃ k' t, a k' = some t ∧ t.inserted ∧ id = workerId k') ↔
      ∃ k' t, Function.update a k (some t') k' = some t ∧ t.inserted ∧ id = workerId k' := by
    intro id
    constructor
    · intro ⟨k', t₁, hk', ht, he⟩
      by_cases hkk : k' = k
      · subst hkk
        obtain rfl := Option.some.inj (hk.symm.trans hk')
        exact ⟨k', t', Function.update_self .., hi.trans ht, he⟩
      · exact ⟨k', t₁, update_eq_some.mpr (.inr ⟨hkk, hk'⟩), ht, he⟩
    · intro ⟨k', t₁, hk', ht, he⟩
      rcases update_eq_some.mp hk' with ⟨rfl, rfl⟩ | ⟨-, hk'⟩
      · exact ⟨k', t, hk, hi.symm.trans ht, he⟩
      · exact ⟨k', t₁, hk', ht, he⟩
  refine ⟨?_, ?_, h.nodup, ?_⟩
  · intro k' t₁ hk' ht
    rcases update_eq_some.mp hk' with ⟨-, rfl⟩ | ⟨-, hk'⟩
    · exact hp ht
    · exact h.pending hk' ht
  · intro id
    rw [h.task, hmem]
  · intro id hid
    exact hmem.mp (h.joined hid)

theorem insert (h : Retained tasks joined a) (hk : a k = some t) (ht : t.inserted = false)
    (handle : Option JoinHandle) :
    Retained (tasks.insert (workerId k) handle) joined
      (Function.update a k (some { t with inserted := true })) := by
  have hmem : ∀ {id},
      (∃ k' t₁, Function.update a k (some { t with inserted := true }) k' = some t₁ ∧
        t₁.inserted ∧ id = workerId k') ↔
        id = workerId k ∨ ∃ k' t, a k' = some t ∧ t.inserted ∧ id = workerId k' := by
    intro id
    constructor
    · intro ⟨k', t₁, hk', ht₁, he⟩
      rcases update_eq_some.mp hk' with ⟨rfl, -⟩ | ⟨-, hk'⟩
      · exact .inl he
      · exact .inr ⟨k', t₁, hk', ht₁, he⟩
    · intro hid
      rcases hid with he | ⟨k', t₁, hk', ht₁, he⟩
      · exact ⟨k, _, Function.update_self .., rfl, he⟩
      · refine ⟨k', t₁, update_eq_some.mpr (.inr ⟨?_, hk'⟩), ht₁, he⟩
        rintro rfl
        obtain rfl := Option.some.inj (hk.symm.trans hk')
        simp [ht] at ht₁
  have hnew : workerId k ∉ joined := by
    intro hj
    obtain ⟨k', t₁, hk', ht₁, he⟩ := h.joined hj
    obtain rfl := workerId_inj.mp he
    obtain rfl := Option.some.inj (hk.symm.trans hk')
    simp [ht] at ht₁
  refine ⟨?_, ?_, h.nodup, ?_⟩
  · intro k' t₁ hk' ht₁
    rcases update_eq_some.mp hk' with ⟨-, rfl⟩ | ⟨-, hk'⟩
    · cases ht₁
    · exact h.pending hk' ht₁
  · intro id
    rw [lookup_insert, hmem]
    by_cases he : id = workerId k
    · rw [if_pos he]
      simp [he, hnew]
    · rw [if_neg he, h.task]
      simp [he]
  · intro id hid
    exact hmem.mpr (.inr (h.joined hid))

theorem tasks_congr {tasks' : ExtTreeMap String (Option JoinHandle)} (h : Retained tasks joined a)
    (ht : ∀ id : String, (tasks'[id]?).isSome = (tasks[id]?).isSome) : Retained tasks' joined a :=
  ⟨h.pending, fun {id} => by rw [ht, h.task], h.nodup, h.joined⟩

/-- Joined tasks move from the one side to the other. -/
theorem close {tasks' : ExtTreeMap String (Option JoinHandle)} {ids : List String}
    (h : Retained tasks joined a) (hn : ids.Nodup) (hids : ∀ id ∈ ids, (tasks[id]?).isSome)
    (ht : ∀ id : String, tasks'[id]? = if id ∈ ids then none else tasks[id]?) :
    Retained tasks' (joined ++ ids) a := by
  refine ⟨h.pending, ?_, ?_, ?_⟩
  · intro id
    rw [ht, List.mem_append]
    by_cases hid : id ∈ ids
    · simp [hid]
    · rw [if_neg hid, h.task]
      simp [hid]
  · rw [List.nodup_append]
    refine ⟨h.nodup, hn, ?_⟩
    rintro id hj id' hid' rfl
    exact (h.task.mp (hids id hid')).2 hj
  · intro id hid
    rcases List.mem_append.mp hid with hid | hid
    · exact h.joined hid
    · exact (h.task.mp (hids id hid)).1

end Retained
end Books

end Supervisor
end Testkit
end Platform
