import Mathlib

/-!
# Ordered finite maps: lookups, entries and counts

Facts about `Std.ExtTreeMap` for maps that serve as registries.

* `lookup_insert`, `lookup_erase`, `lookup_modify`: the library's lookups with `=` of keys for
  the comparison.
* `mem_keys`, `nodup_keys`: the keys that a map lists.
* `toList_insert_perm`, `toList_erase_perm`: the entries of a map after an insertion of a new
  key, and of a map with a key taken out.
* `countV p m`: how many values satisfy `p`, and how it changes (`countV_insert`,
  `countV_replace`, `countV_congr`).
* `lookup_foldl_modify`: one update of each listed key, for an update that may be repeated;
  `lookup_foldl_insert`, `lookup_foldl_erase`: one value for each listed key, and none.
-/

namespace Platform

open Std

section FinMap

variable {κ υ : Type} {cmp : κ → κ → Ordering} [TransCmp cmp] {m : ExtTreeMap κ υ cmp} {k : κ}

theorem isEmpty_iff_size : m.isEmpty ↔ m.size = 0 := by
  rw [ExtTreeMap.isEmpty_iff, ExtTreeMap.eq_empty_iff_size_eq_zero]

theorem size_insert_new {v : υ} (h : m[k]? = none) : (m.insert k v).size = m.size + 1 := by
  rw [ExtTreeMap.size_insert, if_neg]
  rw [ExtTreeMap.contains_iff_mem, ExtTreeMap.mem_iff_isSome_getElem?, h]
  simp

theorem size_insert_old {v w : υ} (h : m[k]? = some v) :
    (m.insert k w).size = m.size := by
  rw [ExtTreeMap.size_insert, if_pos]
  rw [ExtTreeMap.contains_iff_mem, ExtTreeMap.mem_iff_isSome_getElem?, h]
  rfl

/-- How many values of the map satisfy `p`. -/
def countV (p : υ → Bool) (m : ExtTreeMap κ υ cmp) : Nat := m.toList.countP fun e => p e.2

variable {p : υ → Bool} {f : υ → υ}

@[simp] theorem countV_empty : countV p (∅ : ExtTreeMap κ υ cmp) = 0 := by
  have : (∅ : ExtTreeMap κ υ cmp).toList = [] := ExtTreeMap.toList_eq_nil_iff.mpr rfl
  rw [countV, this, List.countP_nil]

theorem size_foldl_modify (l : List κ) : (l.foldl (fun m k => m.modify k f) m).size = m.size := by
  induction l generalizing m with
  | nil => rfl
  | cons k l ih => rw [List.foldl_cons, ih, ExtTreeMap.size_modify]

variable [LawfulEqCmp cmp] {m' : ExtTreeMap κ υ cmp} {a : κ} {v w : υ}

theorem size_eq_zero_iff : m.size = 0 ↔ ∀ a : κ, m[a]? = none := by
  rw [← ExtTreeMap.eq_empty_iff_size_eq_zero]
  constructor
  · rintro rfl a; simp
  · intro h
    apply ExtTreeMap.ext_getElem?
    intro a
    rw [h a]; simp

section Lookup

variable [DecidableEq κ]

theorem lookup_insert : (m.insert k v)[a]? = if a = k then some v else m[a]? := by
  simp only [ExtTreeMap.getElem?_insert, LawfulEqCmp.compare_eq_iff_eq]
  by_cases h : a = k
  · rw [if_pos h, if_pos h.symm]
  · rw [if_neg h, if_neg (Ne.symm h)]

theorem lookup_erase : (m.erase k)[a]? = if a = k then none else m[a]? := by
  simp only [ExtTreeMap.getElem?_erase, LawfulEqCmp.compare_eq_iff_eq]
  by_cases h : a = k
  · rw [if_pos h, if_pos h.symm]
  · rw [if_neg h, if_neg (Ne.symm h)]

theorem lookup_modify : (m.modify k f)[a]? = if a = k then m[a]?.map f else m[a]? := by
  simp only [ExtTreeMap.getElem?_modify, LawfulEqCmp.compare_eq_iff_eq]
  by_cases h : a = k
  · rw [if_pos h, if_pos h.symm, h]
  · rw [if_neg h, if_neg (Ne.symm h)]

/-- Updating each key of a list, for an update that gives the same when repeated. -/
theorem lookup_foldl_modify (hf : ∀ v, f (f v) = f v) (l : List κ) :
    (l.foldl (fun m k => m.modify k f) m)[a]? = if a ∈ l then m[a]?.map f else m[a]? := by
  induction l generalizing m with
  | nil => simp
  | cons k l ih =>
    rw [List.foldl_cons, ih, lookup_modify]
    by_cases hk : a = k <;> by_cases hl : a ∈ l <;> simp [hk, hl, Function.comp_def, hf]

theorem lookup_foldl_insert (l : List κ) :
    (l.foldl (fun m k => m.insert k v) m)[a]? = if a ∈ l then some v else m[a]? := by
  induction l generalizing m with
  | nil => simp
  | cons k l ih =>
    rw [List.foldl_cons, ih, lookup_insert]
    by_cases hk : a = k <;> by_cases hl : a ∈ l <;> simp [hk, hl]

theorem lookup_foldl_erase (l : List κ) :
    (l.foldl (fun m k => m.erase k) m)[a]? = if a ∈ l then none else m[a]? := by
  induction l generalizing m with
  | nil => simp
  | cons k l ih =>
    rw [List.foldl_cons, ih, lookup_erase]
    by_cases hk : a = k <;> by_cases hl : a ∈ l <;> simp [hk, hl]

end Lookup

/-- Taking a key out and putting it back. -/
theorem insert_eq_insert_erase : m.insert k v = (m.erase k).insert k v := by
  classical
  apply ExtTreeMap.ext_getElem?
  intro a
  simp only [lookup_insert, lookup_erase]
  split <;> simp

theorem erase_insert : (m.insert k v).erase k = m.erase k := by
  classical
  apply ExtTreeMap.ext_getElem?
  intro a
  simp only [lookup_erase, lookup_insert]
  split <;> rfl

theorem erase_of_none (h : m[k]? = none) : m.erase k = m := by
  classical
  apply ExtTreeMap.ext_getElem?
  intro a
  rw [lookup_erase]
  split
  · rename_i e; subst e; exact h.symm
  · rfl

theorem erase_insert_self (h : m[k]? = some v) : (m.erase k).insert k v = m := by
  classical
  apply ExtTreeMap.ext_getElem?
  intro a
  simp only [lookup_insert, lookup_erase]
  split
  · rename_i e; subst e; exact h.symm
  · rfl

theorem size_erase_old (h : m[k]? = some v) : (m.erase k).size + 1 = m.size := by
  have h' := size_insert_new (m := m.erase k) (k := k) (v := v) (by simp)
  rw [erase_insert_self h] at h'
  exact h'.symm

/-- The only key. -/
theorem size_eq_one (h : ∀ a : κ, (m[a]?).isSome ↔ a = k) : m.size = 1 := by
  classical
  obtain ⟨v, hv⟩ := Option.isSome_iff_exists.mp ((h k).mpr rfl)
  have hnone : (m.erase k).size = 0 := by
    refine size_eq_zero_iff.mpr fun a => ?_
    rw [lookup_erase]
    by_cases ha : a = k
    · rw [if_pos ha]
    · rw [if_neg ha, ← Option.not_isSome_iff_eq_none, h a]
      exact ha
  rw [← size_erase_old hv, hnone]

/-! ## Entries -/

theorem nodup_toList : m.toList.Nodup :=
  ExtTreeMap.distinct_keys_toList.imp fun {a b} h e =>
    h (by rw [e]; exact ReflCmp.compare_self)

theorem nodup_keys : (m.toList.map (·.1)).Nodup := by
  refine List.pairwise_map.mpr (ExtTreeMap.distinct_keys_toList.imp fun {a b} hn e => ?_)
  exact hn (by rw [e]; exact ReflCmp.compare_self)

theorem mem_keys : a ∈ m.toList.map (·.1) ↔ (m[a]?).isSome := by
  simp only [List.mem_map, Option.isSome_iff_exists]
  constructor
  · intro ⟨e, he, ha⟩
    exact ⟨e.2, by rw [← ha]; exact ExtTreeMap.mem_toList_iff_getElem?_eq_some.mp he⟩
  · intro ⟨v, hv⟩
    exact ⟨(a, v), ExtTreeMap.mem_toList_iff_getElem?_eq_some.mpr hv, rfl⟩

/-- The entries after the insertion of a new key. -/
theorem toList_insert_perm (h : m[k]? = none) :
    (m.insert k v).toList.Perm ((k, v) :: m.toList) := by
  classical
  rw [List.perm_ext_iff_of_nodup nodup_toList]
  · rintro ⟨a, u⟩
    rw [ExtTreeMap.mem_toList_iff_getElem?_eq_some, lookup_insert, List.mem_cons,
      ExtTreeMap.mem_toList_iff_getElem?_eq_some, Prod.mk.injEq]
    split
    · rename_i e; subst e; simp [h, eq_comm]
    · rename_i e; simp [e]
  · refine List.nodup_cons.mpr ⟨?_, nodup_toList⟩
    rw [ExtTreeMap.mem_toList_iff_getElem?_eq_some, h]
    simp

theorem toList_erase_perm (h : m[k]? = some v) :
    m.toList.Perm ((k, v) :: (m.erase k).toList) := by
  have h' := toList_insert_perm (m := m.erase k) (k := k) (v := v) (by simp)
  rwa [erase_insert_self h] at h'

/-! ## Counting values -/

theorem countV_insert (h : m[k]? = none) :
    countV p (m.insert k v) = countV p m + if p v then 1 else 0 := by
  unfold countV
  rw [(toList_insert_perm h).countP_eq, List.countP_cons]

theorem countV_erase (h : m[k]? = some v) :
    countV p m = countV p (m.erase k) + if p v then 1 else 0 := by
  unfold countV
  rw [(toList_erase_perm h).countP_eq, List.countP_cons]

/-- The count after the value of one key changed. -/
theorem countV_replace (h : m[k]? = some v) :
    countV p (m.insert k w) + (if p v then 1 else 0) = countV p m + if p w then 1 else 0 := by
  rw [insert_eq_insert_erase, countV_insert (by simp), countV_erase h]
  omega

/-- Maps with the same keys whose values agree on `p` have the same count. -/
theorem countV_congr (h : ∀ a : κ, m[a]?.map p = m'[a]?.map p) : countV p m = countV p m' := by
  have key : ∀ {m₁ m₂ : ExtTreeMap κ υ cmp}, (∀ a : κ, m₁[a]?.map p = m₂[a]?.map p) →
      ∀ a, a ∈ (m₁.toList.filter fun e => p e.2).map Prod.fst →
        a ∈ (m₂.toList.filter fun e => p e.2).map Prod.fst := by
    intro m₁ m₂ h a ha
    obtain ⟨⟨b, w⟩, hb, rfl⟩ := List.mem_map.mp ha
    obtain ⟨hb, hp⟩ := List.mem_filter.mp hb
    rw [ExtTreeMap.mem_toList_iff_getElem?_eq_some] at hb
    have hb' := h b
    rw [hb, Option.map_some] at hb'
    obtain ⟨w', hw', hp'⟩ := Option.map_eq_some_iff.mp hb'.symm
    refine List.mem_map.mpr ⟨(b, w'), List.mem_filter.mpr ⟨?_, by rw [hp']; exact hp⟩, rfl⟩
    rwa [ExtTreeMap.mem_toList_iff_getElem?_eq_some]
  have nodup : ∀ m₁ : ExtTreeMap κ υ cmp,
      ((m₁.toList.filter fun e => p e.2).map Prod.fst).Nodup := by
    intro m₁
    refine List.Nodup.sublist (List.Sublist.map _ List.filter_sublist) ?_
    refine List.pairwise_map.mpr (ExtTreeMap.distinct_keys_toList.imp fun {a b} hn e => ?_)
    exact hn (by rw [e]; exact ReflCmp.compare_self)
  have hperm := (List.perm_ext_iff_of_nodup (nodup m) (nodup m')).mpr fun a =>
    ⟨key h a, key (fun b => (h b).symm) a⟩
  simpa [countV, List.countP_eq_length_filter] using hperm.length_eq

end FinMap

end Platform
