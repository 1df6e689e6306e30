import Mathlib

/-!
# Validators

A validator is a sequence of checks in `Except ε`, in order: the first that fails gives the error.

* `check p e`: `if !p { return Err(e) }`; `mapErr`: `map_err`.
* `forUnique`: a loop that checks each element and collects the keys in a set, which it does not
  allow to meet a key again; `forUnique_eq_ok`: it accepts distinct keys. `checkUnique`: the same
  without what comes after the insertion.
* `unit_bind_eq_ok`, `check_eq_ok`, `ite_eq_ok`, `ite_bind_eq_ok`: a validator accepts exactly when
  each of its checks does. `simp only` with them turns a validator into the conjunction of its
  checks.
* `check_ne_error`, `bind_ne_error`, `forM_ne_error`: a validator does not give an error that none
  of its checks gives.
-/

namespace Platform

variable {ε ε' α β : Type}

/-- `if !p { return Err(e) }`. -/
def check (p : Prop) [Decidable p] (e : ε) : Except ε Unit :=
  if p then .ok () else .error e

/-- `r.map_err(f)`. -/
def mapErr (f : ε → ε') : Except ε α → Except ε' α
  | .ok a => .ok a
  | .error e => .error (f e)

theorem check_eq_ok {p : Prop} [Decidable p] {e : ε} {u : Unit} : check p e = .ok u ↔ p := by
  unfold check
  split <;> simp [*]

@[simp] theorem check_true {e : ε} : check True e = .ok () := rfl

@[simp] theorem ok_bind {a : α} {f : α → Except ε β} : (Except.ok a >>= f) = f a := rfl

theorem mapErr_eq_ok {f : ε → ε'} {x : Except ε α} {a : α} : mapErr f x = .ok a ↔ x = .ok a := by
  cases x <;> simp [mapErr]

theorem bind_eq_ok {x : Except ε α} {f : α → Except ε β} {b : β} :
    x >>= f = .ok b ↔ ∃ a, x = .ok a ∧ f a = .ok b := by
  cases x with
  | error e => simp [bind, Except.bind]
  | ok a => simp [bind, Except.bind]

/-- A check before the rest. -/
theorem unit_bind_eq_ok {x : Except ε Unit} {f : Unit → Except ε β} {b : β} :
    x >>= f = .ok b ↔ x = .ok () ∧ f () = .ok b := by
  rw [bind_eq_ok]
  exact ⟨fun ⟨(), hx, hf⟩ => ⟨hx, hf⟩, fun ⟨hx, hf⟩ => ⟨(), hx, hf⟩⟩

/-- A last check under a condition. -/
theorem ite_eq_ok {p : Prop} [Decidable p] {x : Except ε Unit} :
    (if p then x else pure ()) = .ok () ↔ (p → x = .ok ()) := by
  split
  · next hp => simp [hp]
  · next hp => simp [hp, pure, Except.pure]

/-- A check under a condition, before the rest. -/
theorem ite_bind_eq_ok {p : Prop} [Decidable p] {x : Except ε Unit} {y : Except ε β} {b : β} :
    (if p then x >>= fun _ => y else y) = .ok b ↔ (p → x = .ok ()) ∧ y = .ok b := by
  split
  · next hp => rw [unit_bind_eq_ok, forall_prop_of_true hp]
  · next hp => rw [forall_prop_of_false hp, true_and]

/-! ## Errors that a validator does not give -/

theorem check_ne_error {p : Prop} [Decidable p] {e e' : ε} (h : e' ≠ e) :
    check p e' ≠ .error e := by
  unfold check
  split <;> simp [h]

theorem bind_ne_error {x : Except ε α} {f : α → Except ε β} {e : ε} (hx : x ≠ .error e)
    (hf : ∀ a, x = .ok a → f a ≠ .error e) : x >>= f ≠ .error e := by
  cases x with
  | error e' => simpa [bind, Except.bind] using hx
  | ok a => exact hf a rfl

theorem forM_ne_error {f : α → Except ε Unit} {l : List α} {e : ε}
    (h : ∀ a ∈ l, f a ≠ .error e) : l.forM f ≠ .error e := by
  induction l with
  | nil => simp [List.forM, pure, Except.pure]
  | cons a l ih =>
    rw [List.forall_mem_cons] at h
    exact bind_ne_error h.1 fun _ _ => ih h.2

/-! ## Loops -/

theorem forM_eq_ok {f : α → Except ε Unit} {l : List α} {u : Unit} :
    l.forM f = .ok u ↔ ∀ a ∈ l, f a = .ok () := by
  induction l with
  | nil => simp [List.forM, pure, Except.pure]
  | cons a l ih => rw [List.forM, unit_bind_eq_ok, ih, List.forall_mem_cons]

/-! ## Loops with a set of the keys so far -/

section Unique

variable {κ : Type} [DecidableEq κ] (pre : α → Except ε Unit) (key : α → κ) (duplicate : ε)
  (post : α → Except ε Unit)

/-- `for a in l { pre(a)?; if !seen.insert(key(a)) { return Err(duplicate) } post(a)? }`, and the
set after it. -/
def forUnique (seen : Finset κ) : List α → Except ε (Finset κ)
  | [] => .ok seen
  | a :: l => do
    pre a
    check (key a ∉ seen) duplicate
    post a
    forUnique (insert (key a) seen) l

def checkUnique (l : List α) : Except ε Unit := do
  let _ ← forUnique pre key duplicate (fun _ => .ok ()) ∅ l
  pure ()

variable {pre key duplicate post}

theorem forUnique_eq_ok {seen s : Finset κ} {l : List α} :
    forUnique pre key duplicate post seen l = .ok s ↔
      (∀ a ∈ l, pre a = .ok () ∧ key a ∉ seen ∧ post a = .ok ()) ∧ (l.map key).Nodup ∧
        s = seen ∪ (l.map key).toFinset := by
  induction l generalizing seen with
  | nil => simp [forUnique, eq_comm]
  | cons a l ih =>
    simp only [forUnique, unit_bind_eq_ok, check_eq_ok, ih, List.forall_mem_cons, List.map_cons,
      List.nodup_cons, List.toFinset_cons, Finset.mem_insert, not_or]
    constructor
    · rintro ⟨hp, hk, hq, hl, hn, rfl⟩
      refine ⟨⟨⟨hp, hk, hq⟩, fun b hb => ?_⟩, ⟨?_, hn⟩, ?_⟩
      · obtain ⟨hpb, ⟨-, hkb⟩, hqb⟩ := hl b hb
        exact ⟨hpb, hkb, hqb⟩
      · intro hm
        obtain ⟨b, hb, hba⟩ := List.mem_map.mp hm
        exact (hl b hb).2.1.1 hba
      · rw [Finset.insert_union, Finset.union_insert]
    · rintro ⟨⟨⟨hp, hk, hq⟩, hl⟩, ⟨hm, hn⟩, rfl⟩
      refine ⟨hp, hk, hq, fun b hb => ?_, hn, ?_⟩
      · obtain ⟨hpb, hkb, hqb⟩ := hl b hb
        exact ⟨hpb, ⟨fun h => hm (List.mem_map.mpr ⟨b, hb, h⟩), hkb⟩, hqb⟩
      · rw [Finset.insert_union, Finset.union_insert]

theorem checkUnique_eq_ok {l : List α} {u : Unit} :
    checkUnique pre key duplicate l = .ok u ↔
      (∀ a ∈ l, pre a = .ok ()) ∧ (l.map key).Nodup := by
  unfold checkUnique
  rw [bind_eq_ok]
  simp only [forUnique_eq_ok, Finset.notMem_empty, not_false_eq_true, and_true]
  constructor
  · rintro ⟨_, ⟨h, hn, -⟩, -⟩
    exact ⟨h, hn⟩
  · rintro ⟨h, hn⟩
    exact ⟨_, ⟨h, hn, rfl⟩, rfl⟩

end Unique

end Platform
