import Mathlib

/-!
# Greedy matching of a prefix

A list is read once, from left to right, and each of its elements is compared with the next one
that is wanted.

* `Embeds ps hs js`: at the positions `js` of `hs` stand the first elements of `ps`, in order.
  `Embeds.sublist`, `Embeds.of_sublist`: then they are a subsequence, and each subsequence has
  such positions.
* `greedy ps hs`: the positions at which the wanted element comes. `embeds_greedy`: they embed a
  prefix; `greedy_noLater`: no other embedding is longer, or earlier anywhere. `greedy_longest`:
  the prefix is the longest that is a subsequence.
-/

namespace Platform

variable {α : Type} {p h : α} {ps hs : List α} {j : Nat} {js : List Nat}

/-- Positions of `hs` with the first elements of `ps`, in order. -/
structure Embeds (ps hs : List α) (js : List Nat) : Prop where
  increasing : js.Pairwise (· < ·)
  elements : ∀ {k j : Nat}, js[k]? = some j → ∃ p, ps[k]? = some p ∧ hs[j]? = some p

namespace Embeds

theorem nil : Embeds ps hs [] := ⟨.nil, fun hk => by simp at hk⟩

/-- The first position, and the others for the rest of `ps`. -/
theorem cons_iff : Embeds (p :: ps) hs (j :: js) ↔
    hs[j]? = some p ∧ (∀ i ∈ js, j < i) ∧ Embeds ps hs js := by
  constructor
  · intro he
    obtain ⟨hlt, hinc⟩ := List.pairwise_cons.mp he.increasing
    obtain ⟨q, hq, hj⟩ := he.elements (k := 0) (List.getElem?_cons_zero ..)
    obtain rfl := Option.some.inj hq
    exact ⟨hj, hlt, hinc, fun {k _} hk => he.elements (k := k + 1) hk⟩
  · rintro ⟨hj, hlt, he⟩
    refine ⟨List.pairwise_cons.mpr ⟨hlt, he.increasing⟩, fun {k i} hk => ?_⟩
    cases k with
    | zero =>
      obtain rfl := Option.some.inj hk
      exact ⟨p, rfl, hj⟩
    | succ k => exact he.elements hk

theorem eq_nil_of_wanted (he : Embeds [] hs js) : js = [] := by
  cases js with
  | nil => rfl
  | cons j js =>
    obtain ⟨p, hp, -⟩ := he.elements (k := 0) rfl
    cases hp

theorem eq_nil_of_read (he : Embeds ps [] js) : js = [] := by
  cases js with
  | nil => rfl
  | cons j js =>
    obtain ⟨p, -, hp⟩ := he.elements (k := 0) rfl
    cases hp

/-- The same positions after one more element. -/
theorem shift_iff : Embeds ps (h :: hs) (js.map (· + 1)) ↔ Embeds ps hs js := by
  have hinc : (js.map (· + 1)).Pairwise (· < ·) ↔ js.Pairwise (· < ·) := by
    rw [List.pairwise_map]
    simp only [Nat.add_lt_add_iff_right]
  constructor
  · intro he
    refine ⟨hinc.mp he.increasing, fun {k j} hk => ?_⟩
    have hk' : (js.map (· + 1))[k]? = some (j + 1) := by rw [List.getElem?_map, hk]; rfl
    exact he.elements hk'
  · intro he
    refine ⟨hinc.mpr he.increasing, fun {k j} hk => ?_⟩
    rw [List.getElem?_map, Option.map_eq_some_iff] at hk
    obtain ⟨i, hk, rfl⟩ := hk
    exact he.elements hk

/-- Positions that are not the first one. -/
theorem exists_shift (hpos : ∀ j ∈ js, 0 < j) : ∃ js' : List Nat, js = js'.map (· + 1) := by
  refine ⟨js.map (· - 1), ?_⟩
  rw [List.map_map]
  refine (List.map_id js).symm.trans (List.map_congr_left fun j hj => ?_)
  have hj := hpos j hj
  simp only [id, Function.comp_apply]
  omega

theorem of_prefix {qs : List α} (he : Embeds qs hs js) (hp : qs <+: ps) : Embeds ps hs js := by
  obtain ⟨rest, rfl⟩ := hp
  refine ⟨he.increasing, fun {k j} hk => ?_⟩
  obtain ⟨p, hq, hj⟩ := he.elements hk
  obtain ⟨hlt, -⟩ := List.getElem?_eq_some_iff.mp hq
  exact ⟨p, (List.getElem?_append_left hlt).trans hq, hj⟩

/-- What is embedded is a subsequence. -/
theorem sublist (he : Embeds ps hs js) : (ps.take js.length).Sublist hs := by
  induction hs generalizing ps js with
  | nil =>
    obtain rfl := he.eq_nil_of_read
    exact .slnil
  | cons h hs ih =>
    cases js with
    | nil => exact List.nil_sublist _
    | cons j js =>
      cases ps with
      | nil => cases he.eq_nil_of_wanted
      | cons p ps =>
        obtain ⟨hj, hlt, hrest⟩ := cons_iff.mp he
        have hpos : ∀ i ∈ js, 0 < i := fun i hi => Nat.zero_lt_of_lt (hlt i hi)
        cases j with
        | zero =>
          obtain rfl := Option.some.inj hj
          obtain ⟨js, rfl⟩ := exists_shift hpos
          rw [List.length_cons, List.length_map, List.take_succ_cons]
          exact (ih (shift_iff.mp hrest)).cons_cons _
        | succ j =>
          obtain ⟨js', hjs⟩ := exists_shift (List.forall_mem_cons.mpr ⟨Nat.succ_pos j, hpos⟩)
          rw [hjs] at he ⊢
          rw [List.length_map]
          exact (ih (shift_iff.mp he)).cons h

theorem of_sublist (hs' : ps.Sublist hs) : ∃ js, Embeds ps hs js ∧ js.length = ps.length := by
  induction hs' with
  | slnil => exact ⟨[], .nil, rfl⟩
  | cons h _ ih =>
    obtain ⟨js, he, hlen⟩ := ih
    exact ⟨js.map (· + 1), shift_iff.mpr he, by rw [List.length_map, hlen]⟩
  | cons_cons h _ ih =>
    obtain ⟨js, he, hlen⟩ := ih
    refine ⟨0 :: js.map (· + 1), cons_iff.mpr ⟨rfl, fun i hi => ?_, shift_iff.mpr he⟩, ?_⟩
    · obtain ⟨j, -, rfl⟩ := List.mem_map.mp hi
      exact Nat.succ_pos j
    · rw [List.length_cons, List.length_map, hlen, List.length_cons]

end Embeds

/-- `is` goes as far as `js`, and is nowhere later. -/
structure NoLater (is js : List Nat) : Prop where
  length_le : js.length ≤ is.length
  le : ∀ {k i j : Nat}, is[k]? = some i → js[k]? = some j → i ≤ j

namespace NoLater

variable {is : List Nat}

theorem nil : NoLater is [] := ⟨Nat.zero_le _, fun _ hj => by simp at hj⟩

theorem cons (h : NoLater is js) : NoLater (0 :: is) (j :: js) where
  length_le := Nat.succ_le_succ h.length_le
  le {k i j'} hi hj := by
    cases k with
    | zero =>
      obtain rfl := Option.some.inj hi
      exact Nat.zero_le _
    | succ k => exact h.le hi hj

theorem shift (h : NoLater is js) : NoLater (is.map (· + 1)) (js.map (· + 1)) where
  length_le := by
    rw [List.length_map, List.length_map]
    exact h.length_le
  le {k i j'} hi hj := by
    rw [List.getElem?_map, Option.map_eq_some_iff] at hi hj
    obtain ⟨i, hi, rfl⟩ := hi
    obtain ⟨j, hj, rfl⟩ := hj
    exact Nat.succ_le_succ (h.le hi hj)

end NoLater

variable [DecidableEq α]

/-- The positions of `hs` at which the next element of `ps` comes. -/
def greedy (ps : List α) : List α → List Nat
  | [] => []
  | h :: hs =>
    if ps.head? = some h then 0 :: (greedy ps.tail hs).map (· + 1)
    else (greedy ps hs).map (· + 1)

theorem embeds_greedy : Embeds ps hs (greedy ps hs) := by
  induction hs generalizing ps with
  | nil => exact .nil
  | cons h hs ih =>
    unfold greedy
    split
    · rename_i hhead
      obtain ⟨ps', rfl⟩ := List.head?_eq_some_iff.mp hhead
      refine Embeds.cons_iff.mpr ⟨rfl, fun i hi => ?_, Embeds.shift_iff.mpr ih⟩
      obtain ⟨j, -, rfl⟩ := List.mem_map.mp hi
      exact Nat.succ_pos j
    · exact Embeds.shift_iff.mpr ih

theorem greedy_noLater (he : Embeds ps hs js) : NoLater (greedy ps hs) js := by
  induction hs generalizing ps js with
  | nil =>
    obtain rfl := he.eq_nil_of_read
    exact .nil
  | cons h hs ih =>
    cases js with
    | nil => exact .nil
    | cons j js =>
      cases ps with
      | nil => cases he.eq_nil_of_wanted
      | cons p ps =>
        obtain ⟨hj, hlt, hrest⟩ := Embeds.cons_iff.mp he
        unfold greedy
        by_cases hp : p = h
        · subst hp
          -- The others come after the first position.
          obtain ⟨js, rfl⟩ := Embeds.exists_shift fun i hi => Nat.zero_lt_of_lt (hlt i hi)
          rw [List.head?_cons, if_pos rfl, List.tail_cons]
          exact (ih (Embeds.shift_iff.mp hrest)).shift.cons
        · have hpos : 0 < j := by
            refine Nat.pos_of_ne_zero ?_
            rintro rfl
            exact hp (Option.some.inj hj).symm
          have hall : ∀ i ∈ j :: js, 0 < i :=
            List.forall_mem_cons.mpr ⟨hpos, fun i hi => Nat.zero_lt_of_lt (hlt i hi)⟩
          obtain ⟨js', hjs⟩ := Embeds.exists_shift hall
          rw [List.head?_cons, if_neg (fun e => hp (Option.some.inj e))]
          rw [hjs] at he ⊢
          exact (ih (Embeds.shift_iff.mp he)).shift

/-- The prefix that the greedy positions embed is the longest one that is a subsequence. -/
theorem greedy_longest (ps hs : List α) : (ps.take (greedy ps hs).length).Sublist hs ∧
    ∀ qs, qs <+: ps → qs.Sublist hs → qs <+: ps.take (greedy ps hs).length := by
  refine ⟨embeds_greedy.sublist, fun qs hq hsub => ?_⟩
  obtain ⟨js, he, hlen⟩ := Embeds.of_sublist hsub
  have hle := (greedy_noLater (he.of_prefix hq)).length_le
  rw [hlen] at hle
  exact List.prefix_take_iff.mpr ⟨hq, hle⟩

end Platform
