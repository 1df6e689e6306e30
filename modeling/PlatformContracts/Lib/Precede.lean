import Mathlib

/-!
# One kind of element before another

* `Precedes p q l`: some element of `l` with `p` stands before every element with `q`.
  `precedes_iff`: the same with positions; `findIdx?_lt_iff`: the first positions tell it.
* `Inserts same other l l'`: `l'` is `l`, each element as another one that is the `same`, with
  elements that are `other` put in anywhere. `Inserts.precedes`: these do not matter.
-/

namespace Platform

variable {α : Type}

/-- Some element with `p` stands before every element with `q`. -/
inductive Precedes (p q : α → Prop) : List α → Prop
  | here {a : α} {l : List α} : p a → ¬q a → Precedes p q (a :: l)
  | there {a : α} {l : List α} : ¬q a → Precedes p q l → Precedes p q (a :: l)

theorem precedes_cons {p q : α → Prop} {a : α} {l : List α} :
    Precedes p q (a :: l) ↔ ¬q a ∧ (p a ∨ Precedes p q l) := by
  constructor
  · intro h
    cases h with
    | here hp hq => exact ⟨hq, .inl hp⟩
    | there hq h => exact ⟨hq, .inr h⟩
  · rintro ⟨hq, hp | h⟩
    · exact .here hp hq
    · exact .there hq h

theorem precedes_iff {p q : α → Prop} {l : List α} :
    Precedes p q l ↔ ∃ (i : Nat) (a : α), l[i]? = some a ∧ p a ∧
      ∀ (j : Nat) (b : α), l[j]? = some b → q b → i < j := by
  constructor
  · intro h
    induction h with
    | @here a l hp hq =>
      refine ⟨0, a, rfl, hp, fun j b hj hb => ?_⟩
      cases j with
      | zero =>
        obtain rfl := Option.some.inj hj
        exact absurd hb hq
      | succ j => exact Nat.succ_pos j
    | @there a l hq _ ih =>
      obtain ⟨i, b, hi, hp, hall⟩ := ih
      refine ⟨i + 1, b, hi, hp, fun j c hj hc => ?_⟩
      cases j with
      | zero =>
        obtain rfl := Option.some.inj hj
        exact absurd hc hq
      | succ j => exact Nat.succ_lt_succ (hall j c hj hc)
  · rintro ⟨i, a, hi, hp, hall⟩
    induction l generalizing i with
    | nil => simp at hi
    | cons b l ih =>
      have hq : ¬q b := fun hb => Nat.not_lt_zero i (hall 0 b rfl hb)
      cases i with
      | zero =>
        obtain rfl := Option.some.inj hi
        exact .here hp hq
      | succ i =>
        exact .there hq (ih i hi fun j c hj hc => Nat.lt_of_succ_lt_succ (hall (j + 1) c hj hc))

theorem findIdx?_exists {q : α → Prop} [DecidablePred q] {l : List α} :
    (∃ j, l.findIdx? (q ·) = some j) ↔ ∃ b ∈ l, q b := by
  rw [← Option.isSome_iff_exists, List.findIdx?_isSome, List.any_eq_true]
  simp only [decide_eq_true_eq]

/-- The first element with `p` is before the first one with `q`. -/
theorem findIdx?_lt_iff {p q : α → Prop} [DecidablePred p] [DecidablePred q] {l : List α} :
    (∃ i j, l.findIdx? (p ·) = some i ∧ l.findIdx? (q ·) = some j ∧ i < j) ↔
      Precedes p q l ∧ ∃ b ∈ l, q b := by
  induction l with
  | nil => simp
  | cons a l ih =>
    rw [precedes_cons, List.findIdx?_cons, List.findIdx?_cons]
    by_cases hq : q a
    · simp [hq]
    have hmem : (∃ b ∈ a :: l, q b) ↔ ∃ b ∈ l, q b := by simp [hq]
    rw [hmem]
    by_cases hp : p a
    · -- Position 0 comes first, so what is left is that some element has `q`.
      rw [← findIdx?_exists]
      simp [hp, hq, Option.map_eq_some_iff]
    · simp only [hp, hq, decide_false, Bool.false_eq_true, if_false, not_false_eq_true, true_and,
        false_or, Option.map_eq_some_iff, ← ih]
      constructor
      · rintro ⟨i, j, ⟨i, hi, rfl⟩, ⟨j, hj, rfl⟩, hlt⟩
        exact ⟨i, j, hi, hj, Nat.lt_of_succ_lt_succ hlt⟩
      · rintro ⟨i, j, hi, hj, hlt⟩
        exact ⟨i + 1, j + 1, ⟨i, hi, rfl⟩, ⟨j, hj, rfl⟩, Nat.succ_lt_succ hlt⟩

/-- `l'` is `l` with other elements put in. -/
inductive Inserts (same : α → α → Prop) (other : α → Prop) : List α → List α → Prop
  | nil : Inserts same other [] []
  | keep {a b : α} {l l' : List α} :
      same a b → Inserts same other l l' → Inserts same other (a :: l) (b :: l')
  | insert {b : α} {l l' : List α} :
      other b → Inserts same other l l' → Inserts same other l (b :: l')

namespace Inserts

variable {same : α → α → Prop} {other : α → Prop} {l l' : List α}

theorem exists_same (h : Inserts same other l l') {a : α} (ha : a ∈ l) : ∃ b ∈ l', same a b := by
  induction h with
  | nil => cases ha
  | @keep a' b l l' hs _ ih =>
    rcases List.mem_cons.mp ha with rfl | ha
    · exact ⟨b, List.mem_cons_self, hs⟩
    · obtain ⟨c, hc, hac⟩ := ih ha
      exact ⟨c, List.mem_cons_of_mem _ hc, hac⟩
  | insert _ _ ih =>
    obtain ⟨c, hc, hac⟩ := ih ha
    exact ⟨c, List.mem_cons_of_mem _ hc, hac⟩

/-- Elements that are neither do not change which kind comes first. -/
theorem precedes (h : Inserts same other l l') {p q : α → Prop}
    (hp : ∀ {a b}, same a b → p a → p b) (hq : ∀ {a b}, same a b → q b → q a)
    (ho : ∀ {b}, other b → ¬q b) (hl : Precedes p q l) : Precedes p q l' := by
  induction h with
  | nil => exact hl
  | keep hs _ ih =>
    obtain ⟨hqa, hpa | hl⟩ := precedes_cons.mp hl
    · exact .here (hp hs hpa) fun hb => hqa (hq hs hb)
    · exact .there (fun hb => hqa (hq hs hb)) (ih hl)
  | insert hb _ ih => exact .there (ho hb) (ih hl)

end Inserts

end Platform
