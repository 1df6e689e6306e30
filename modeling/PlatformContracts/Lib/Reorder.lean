import PlatformContracts.Lib.Check

/-!
# Lists in another order

* `Reordered R l l'`: `l'` has the elements of `l` in some order, each changed as `R` says.
* `Reordered.forall_iff`, `Reordered.map_perm`: what holds of each element, and the keys.
* `forM_reordered`, `checkUnique_reordered`: a loop that checks each element, with or without a
  set of the keys, accepts a list in any order. The first error may be another one.
-/

namespace Platform

variable {ε α β κ : Type} {R : α → α → Prop} {l l' : List α}

/-- `l'` has the elements of `l` in some order, each in relation `R` to its own. -/
def Reordered (R : α → α → Prop) (l l' : List α) : Prop := ∃ m, List.Forall₂ R l m ∧ m.Perm l'

namespace Reordered

/-- Only the order changes. -/
theorem of_perm (h : l.Perm l') : Reordered (· = ·) l l' :=
  ⟨l, by rw [List.forall₂_eq_eq_eq], h⟩

theorem forall_iff (h : Reordered R l l') {p : α → Prop} (hp : ∀ a b, R a b → (p a ↔ p b)) :
    (∀ a ∈ l, p a) ↔ ∀ b ∈ l', p b := by
  obtain ⟨m, hm, hperm⟩ := h
  have hforall : (∀ a ∈ l, p a) ↔ ∀ b ∈ m, p b := by
    clear hperm
    induction hm with
    | nil => exact Iff.rfl
    | cons hab _ ih => rw [List.forall_mem_cons, List.forall_mem_cons, hp _ _ hab, ih]
  rw [hforall]
  exact forall_congr' fun b => by rw [hperm.mem_iff]

theorem map_perm (h : Reordered R l l') {f : α → β} (hf : ∀ a b, R a b → f a = f b) :
    (l.map f).Perm (l'.map f) := by
  obtain ⟨m, hm, hperm⟩ := h
  have hmap : l.map f = m.map f := by
    clear hperm
    induction hm with
    | nil => rfl
    | cons hab _ ih => rw [List.map_cons, List.map_cons, hf _ _ hab, ih]
  rw [hmap]
  exact hperm.map f

theorem eq_nil_iff (h : Reordered R l l') : l = [] ↔ l' = [] := by
  have hperm := h.map_perm (f := fun _ => ()) fun _ _ _ => rfl
  have hlength := hperm.length_eq
  rw [List.length_map, List.length_map] at hlength
  rw [← List.length_eq_zero_iff, hlength, List.length_eq_zero_iff]

theorem any_eq (h : Reordered R l l') {p : α → Bool} (hp : ∀ a b, R a b → p a = p b) :
    l.any p = l'.any p := by
  have hany : ∀ m : List α, m.any p = (m.map p).any id := fun m => by
    rw [List.any_map, Function.id_comp]
  rw [hany, hany]
  exact (h.map_perm hp).any_eq

end Reordered

theorem forM_reordered (h : Reordered R l l') {f : α → Except ε Unit}
    (hf : ∀ a b, R a b → (f a = .ok () ↔ f b = .ok ())) :
    l.forM f = .ok () ↔ l'.forM f = .ok () := by
  rw [forM_eq_ok, forM_eq_ok]
  exact h.forall_iff hf

theorem checkUnique_reordered [DecidableEq κ] (h : Reordered R l l') {pre : α → Except ε Unit}
    {key : α → κ} {duplicate : ε} (hpre : ∀ a b, R a b → (pre a = .ok () ↔ pre b = .ok ()))
    (hkey : ∀ a b, R a b → key a = key b) :
    checkUnique pre key duplicate l = .ok () ↔ checkUnique pre key duplicate l' = .ok () := by
  rw [checkUnique_eq_ok, checkUnique_eq_ok, (h.map_perm hkey).nodup_iff]
  exact and_congr_left' (h.forall_iff hpre)

theorem checkUnique_perm [DecidableEq κ] (h : l.Perm l') {pre : α → Except ε Unit}
    {key : α → κ} {duplicate : ε} :
    checkUnique pre key duplicate l = .ok () ↔ checkUnique pre key duplicate l' = .ok () :=
  checkUnique_reordered (.of_perm h) (fun _ _ he => by rw [he]) fun _ _ he => by rw [he]

end Platform
