import PlatformContracts.Lib.FinMap

/-!
# Lists whose elements have keys

* `find_unique`: what a search finds, when at most one element passes; `find_key`: a search by key,
  when the keys are distinct; `find_perm`: then it does not depend on the order.
* `lookup_ofList`, `size_ofList`: the map that is collected from pairs with distinct keys has the
  pairs as its entries; `lookup_foldl_insert_key`: values inserted one by one.
* `perm_iff_mem`: a list without repetitions is a reordering of each list that is as long and has
  its elements; `perm_of_keys`: the same through the keys.
* `Forall₂`: two lists matched one to one. `exists_left`: the partner of an element;
  `forall₂_nodup`: elements with partners of distinct keys are distinct; `forall₂_perm_right`:
  one list reordered.
-/

namespace Platform
namespace Keyed

open Std

section Lists

variable {α κ : Type} {l l' : List α} {key : α → κ}

/-- A search finds the one element that passes the test. -/
theorem find_unique {p : α → Bool} (hp : ∀ a ∈ l, ∀ b ∈ l, p a = true → p b = true → a = b)
    {a : α} : l.find? p = some a ↔ a ∈ l ∧ p a = true := by
  constructor
  · exact fun h => ⟨List.mem_of_find?_eq_some h, List.find?_some h⟩
  · rintro ⟨ha, hpa⟩
    have hsome : (l.find? p).isSome := by
      rw [List.find?_isSome]
      exact ⟨a, ha, hpa⟩
    obtain ⟨b, hb⟩ := Option.isSome_iff_exists.mp hsome
    rw [hb, hp b (List.mem_of_find?_eq_some hb) a ha (List.find?_some hb) hpa]

theorem find_key [DecidableEq κ] (hn : (l.map key).Nodup) {k : κ} {a : α} :
    l.find? (key · = k) = some a ↔ a ∈ l ∧ key a = k := by
  rw [find_unique, decide_eq_true_iff]
  intro a ha b hb hka hkb
  rw [decide_eq_true_eq] at hka hkb
  exact List.inj_on_of_nodup_map hn ha hb (hka.trans hkb.symm)

/-- A search by key finds the same in any order. -/
theorem find_perm [DecidableEq κ] (hp : l.Perm l') (hn : (l.map key).Nodup) (k : κ) :
    l.find? (key · = k) = l'.find? (key · = k) := by
  refine Option.ext fun a => ?_
  rw [find_key hn, find_key ((hp.map key).nodup_iff.mp hn), hp.mem_iff]

/-- A list without repetitions is a reordering of each list that is as long and has its
elements. -/
theorem perm_iff_mem (hn : l.Nodup) :
    l.Perm l' ↔ l.length = l'.length ∧ ∀ a ∈ l, a ∈ l' := by
  constructor
  · intro h
    exact ⟨h.length_eq, fun _ => h.mem_iff.mp⟩
  · rintro ⟨hlen, hmem⟩
    exact (List.subperm_of_subset hn hmem).perm_of_length_le hlen.ge

/-- Elements of a list with distinct keys, all the keys among theirs, are the list reordered. -/
theorem perm_of_keys (hn : (l'.map key).Nodup) (hmem : ∀ a ∈ l, a ∈ l')
    (hkeys : (l.map key).Perm (l'.map key)) : l.Perm l' := by
  refine (perm_iff_mem ((hkeys.nodup_iff.mpr hn).of_map _)).mpr ⟨?_, hmem⟩
  simpa only [List.length_map] using hkeys.length_eq

end Lists

/-! ## Maps collected from pairs -/

section Collect

variable {κ υ : Type} {cmp : κ → κ → Ordering} [TransCmp cmp] [LawfulEqCmp cmp]
  {l : List (κ × υ)}

omit [TransCmp cmp] in
theorem pairwise_keys (hn : (l.map Prod.fst).Nodup) :
    l.Pairwise fun a b => ¬cmp a.1 b.1 = .eq := by
  refine (List.pairwise_map.mp hn).imp fun {a b} h e => h ?_
  exact LawfulEqCmp.compare_eq_iff_eq.mp e

theorem size_ofList (hn : (l.map Prod.fst).Nodup) : (ExtTreeMap.ofList l cmp).size = l.length :=
  ExtTreeMap.size_ofList (pairwise_keys hn)

theorem lookup_ofList [DecidableEq κ] (hn : (l.map Prod.fst).Nodup) {k : κ} {v : υ} :
    (ExtTreeMap.ofList l cmp)[k]? = some v ↔ (k, v) ∈ l := by
  have hmem : ∀ {w}, (k, w) ∈ l → (ExtTreeMap.ofList l cmp)[k]? = some w := fun h =>
    ExtTreeMap.getElem?_ofList_of_mem ReflCmp.compare_self (pairwise_keys hn) h
  refine ⟨fun h => ?_, hmem⟩
  by_cases hk : k ∈ l.map Prod.fst
  · obtain ⟨⟨k, w⟩, hw, rfl⟩ := List.mem_map.mp hk
    rw [hmem hw] at h
    cases h
    exact hw
  · rw [ExtTreeMap.getElem?_ofList_of_contains_eq_false (by simpa using hk)] at h
    cases h

/-- Values inserted one by one under their own keys, which are distinct. -/
theorem lookup_foldl_insert_key [DecidableEq κ] {m : ExtTreeMap κ υ cmp} {key : υ → κ}
    {l : List υ} (hn : (l.map key).Nodup) {k : κ} {v : υ} :
    (l.foldl (fun m v => m.insert (key v) v) m)[k]? = some v ↔
      v ∈ l ∧ key v = k ∨ k ∉ l.map key ∧ m[k]? = some v := by
  induction l generalizing m with
  | nil => simp
  | cons w l ih =>
    rw [List.map_cons, List.nodup_cons] at hn
    rw [List.foldl_cons, ih hn.2, lookup_insert, List.mem_cons, List.map_cons, List.mem_cons]
    by_cases hk : k = key w
    · subst hk
      have hl : ∀ v ∈ l, key v ≠ key w := fun v hv e => hn.1 (e ▸ List.mem_map_of_mem hv)
      simp only [hn.1, not_false_eq_true, true_and, if_true, Option.some_inj, not_true,
        false_and, or_false]
      grind
    · grind

end Collect

/-! ## Lists matched one to one -/

section Matched

variable {α β κ : Type} {R : α → β → Prop} {l : List α} {l' l₁' : List β}

theorem exists_left (h : List.Forall₂ R l l') {b : β} (hb : b ∈ l') : ∃ a ∈ l, R a b := by
  induction h with
  | nil => cases hb
  | cons hr _ ih =>
    rcases List.mem_cons.mp hb with rfl | hb
    · exact ⟨_, List.mem_cons_self, hr⟩
    · obtain ⟨a, ha, hab⟩ := ih hb
      exact ⟨a, List.mem_cons_of_mem _ ha, hab⟩

theorem exists_right (h : List.Forall₂ R l l') {a : α} (ha : a ∈ l) : ∃ b ∈ l', R a b :=
  exists_left h.flip ha

/-- A list whose elements all have partners is matched by a list. -/
theorem exists_forall₂ (h : ∀ a ∈ l, ∃ b, R a b) : ∃ l', List.Forall₂ R l l' := by
  induction l with
  | nil => exact ⟨[], .nil⟩
  | cons a l ih =>
    rw [List.forall_mem_cons] at h
    obtain ⟨b, hb⟩ := h.1
    obtain ⟨l', hl'⟩ := ih h.2
    exact ⟨b :: l', .cons hb hl'⟩

/-- Equal elements have partners with the same key, so partners with distinct keys are those of
distinct elements. -/
theorem forall₂_nodup {key : α → κ} (h : List.Forall₂ R l l')
    (hkey : ∀ a a' b, R a b → R a' b → key a = key a') (hn : (l.map key).Nodup) : l'.Nodup := by
  induction h with
  | nil => exact .nil
  | cons hr h ih =>
    obtain ⟨hnot, hn⟩ := List.nodup_cons.mp hn
    refine List.nodup_cons.mpr ⟨fun hb => ?_, ih hn⟩
    obtain ⟨a, ha, hab⟩ := exists_left h hb
    exact hnot (List.mem_map.mpr ⟨a, ha, (hkey _ _ _ hr hab).symm⟩)

/-- A reordering of one list is matched by a reordering of the other. -/
theorem forall₂_perm_right (h : List.Forall₂ R l l') (hp : l'.Perm l₁') :
    ∃ l₁, l.Perm l₁ ∧ List.Forall₂ R l₁ l₁' := by
  obtain ⟨l₁, hf, hp'⟩ := List.perm_comp_forall₂ hp.symm h.flip
  exact ⟨l₁, hp'.symm, hf.flip⟩

end Matched

end Keyed
end Platform
