import Mathlib.Computability.Language

/-!
# Regular expressions

* `Regex`, `language`: expressions over classes of characters, and the strings that match, as a
  whole, in the algebra of `Language`.
* `isMatch`: a matcher by derivatives; `isMatch_iff`: it decides the language.
* `plus`, `opt`, `times`, `upTo`: the other repetitions.
* `mem_plus_chars`, `mem_times_chars`, `mem_upTo_chars`: repeated classes are conditions on the
  length and on each character; `mem_separated`: parts between separators.
-/

namespace Platform

open Computability

inductive Regex where
  | empty
  | eps
  | chars (cls : Char → Bool)
  | alt (r s : Regex)
  | seq (r s : Regex)
  | star (r : Regex)

namespace Regex

/-- A class of characters by its ranges. -/
def inRanges (ranges : List (Char × Char)) (c : Char) : Bool :=
  ranges.any fun r => r.1 ≤ c && c ≤ r.2

/-- The strings that match. -/
def language : Regex → Language Char
  | empty => 0
  | eps => 1
  | chars cls => {w | ∃ c, cls c ∧ w = [c]}
  | alt r s => language r + language s
  | seq r s => language r * language s
  | star r => (language r)∗

def nullable : Regex → Bool
  | empty => false
  | eps => true
  | chars _ => false
  | alt r s => nullable r || nullable s
  | seq r s => nullable r && nullable s
  | star _ => true

/-- What has to follow the character. -/
def deriv (c : Char) : Regex → Regex
  | empty => empty
  | eps => empty
  | chars cls => if cls c then eps else empty
  | alt r s => alt (deriv c r) (deriv c s)
  | seq r s =>
    if nullable r then alt (seq (deriv c r) s) (deriv c s) else seq (deriv c r) s
  | star r => seq (deriv c r) (star r)

def isMatch (r : Regex) : List Char → Bool
  | [] => nullable r
  | c :: w => isMatch (deriv c r) w

/-- `r+`. -/
def plus (r : Regex) : Regex := seq r (star r)

/-- `r?`. -/
def opt (r : Regex) : Regex := alt eps r

/-- `r` repeated `n` times. -/
def times (r : Regex) : Nat → Regex
  | 0 => eps
  | n + 1 => seq r (times r n)

/-- `r` repeated at most `n` times. -/
def upTo (r : Regex) : Nat → Regex
  | 0 => eps
  | n + 1 => opt (seq r (upTo r n))

/-! ## The matcher decides the language -/

section Language

variable {r s : Regex} {cls : Char → Bool} {c : Char} {w : List Char}

@[simp] theorem mem_empty : w ∈ language empty ↔ False := Iff.rfl

@[simp] theorem mem_eps : w ∈ language eps ↔ w = [] := Iff.rfl

@[simp] theorem mem_chars : w ∈ language (chars cls) ↔ ∃ c, cls c ∧ w = [c] := Iff.rfl

@[simp] theorem mem_alt : w ∈ language (alt r s) ↔ w ∈ language r ∨ w ∈ language s := Iff.rfl

theorem mem_seq :
    w ∈ language (seq r s) ↔ ∃ u ∈ language r, ∃ v ∈ language s, u ++ v = w := Language.mem_mul

theorem mem_star :
    w ∈ language (star r) ↔ ∃ parts : List (List Char), w = parts.flatten ∧
      ∀ u ∈ parts, u ∈ language r := Language.mem_kstar

theorem nullable_iff : nullable r = true ↔ [] ∈ language r := by
  induction r with
  | empty => simp [nullable]
  | eps => simp [nullable]
  | chars cls => simp [nullable]
  | alt r s ihr ihs => simp [nullable, ihr, ihs]
  | seq r s ihr ihs => simp [nullable, ihr, ihs, mem_seq]
  | star r => simp [nullable, language, Language.nil_mem_kstar]

theorem cons_mem_seq : c :: w ∈ language (seq r s) ↔
    (∃ u v, c :: u ∈ language r ∧ v ∈ language s ∧ u ++ v = w) ∨
      [] ∈ language r ∧ c :: w ∈ language s := by
  rw [mem_seq]
  constructor
  · rintro ⟨u, hu, v, hv, h⟩
    cases u with
    | nil => exact .inr ⟨hu, by simpa [← h] using hv⟩
    | cons d u =>
      rw [List.cons_append, List.cons.injEq] at h
      obtain ⟨rfl, h⟩ := h
      exact .inl ⟨u, v, hu, hv, h⟩
  · rintro (⟨u, v, hu, hv, rfl⟩ | ⟨hr, hs⟩)
    · exact ⟨c :: u, hu, v, hv, rfl⟩
    · exact ⟨[], hr, c :: w, hs, rfl⟩

/-- A string in `r*` that is not empty begins with a part that is not empty. -/
theorem cons_mem_star : c :: w ∈ language (star r) ↔
    ∃ u v, c :: u ∈ language r ∧ v ∈ language (star r) ∧ u ++ v = w := by
  constructor
  · intro h
    obtain ⟨parts, hw, hparts⟩ := Language.mem_kstar_iff_exists_nonempty.mp h
    cases parts with
    | nil => cases hw
    | cons u parts =>
      rw [List.forall_mem_cons] at hparts
      cases u with
      | nil => exact absurd rfl hparts.1.2
      | cons d u =>
        rw [List.flatten_cons, List.cons_append, List.cons.injEq] at hw
        obtain ⟨rfl, rfl⟩ := hw
        exact ⟨u, parts.flatten, hparts.1.1,
          Language.join_mem_kstar fun y hy => (hparts.2 y hy).1, rfl⟩
  · rintro ⟨u, v, hu, hv, rfl⟩
    obtain ⟨parts, rfl, hparts⟩ := mem_star.mp hv
    exact mem_star.mpr ⟨(c :: u) :: parts, rfl, List.forall_mem_cons.mpr ⟨hu, hparts⟩⟩

theorem mem_deriv : w ∈ language (deriv c r) ↔ c :: w ∈ language r := by
  induction r generalizing w with
  | empty => simp [deriv]
  | eps => simp [deriv]
  | chars cls =>
    unfold deriv
    split <;> simp_all
  | alt r s ihr ihs => simp [deriv, ihr, ihs]
  | seq r s ihr ihs =>
    have hseq : w ∈ language (seq (deriv c r) s) ↔
        ∃ u v, c :: u ∈ language r ∧ v ∈ language s ∧ u ++ v = w := by
      simp only [mem_seq, ihr]
      grind
    unfold deriv
    rw [cons_mem_seq, ← nullable_iff]
    split <;> simp_all
  | star r ih =>
    rw [cons_mem_star]
    simp only [deriv, mem_seq, ih]
    grind

theorem isMatch_iff : isMatch r w = true ↔ w ∈ language r := by
  induction w generalizing r with
  | nil => exact nullable_iff
  | cons c w ih => rw [isMatch, ih, mem_deriv]

end Language

/-! ## Repeated classes -/

section Classes

variable {cls : Char → Bool} {n : Nat} {w : List Char}

theorem mem_star_chars : w ∈ language (star (chars cls)) ↔ ∀ c ∈ w, cls c := by
  induction w with
  | nil => simpa [language] using Language.nil_mem_kstar _
  | cons c w ih =>
    rw [cons_mem_star, List.forall_mem_cons, ← ih]
    simp

theorem mem_plus_chars : w ∈ language (plus (chars cls)) ↔ w ≠ [] ∧ ∀ c ∈ w, cls c := by
  cases w with
  | nil => simp [plus, mem_seq]
  | cons c w =>
    rw [plus, cons_mem_seq, List.forall_mem_cons, ← mem_star_chars]
    simp

theorem mem_times_chars :
    w ∈ language (times (chars cls) n) ↔ w.length = n ∧ ∀ c ∈ w, cls c := by
  induction n generalizing w with
  | zero =>
    rw [times, mem_eps, List.length_eq_zero_iff]
    exact ⟨fun h => ⟨h, by simp [h]⟩, fun h => h.1⟩
  | succ n ih =>
    cases w with
    | nil => simp [times, mem_seq]
    | cons c w =>
      rw [times, cons_mem_seq, List.forall_mem_cons, List.length_cons, Nat.succ_inj]
      simp [ih]
      tauto

theorem mem_upTo_chars :
    w ∈ language (upTo (chars cls) n) ↔ w.length ≤ n ∧ ∀ c ∈ w, cls c := by
  induction n generalizing w with
  | zero =>
    rw [upTo, mem_eps, Nat.le_zero, List.length_eq_zero_iff]
    exact ⟨fun h => ⟨h, by simp [h]⟩, fun h => h.1⟩
  | succ n ih =>
    cases w with
    | nil => simp [upTo, opt]
    | cons c w =>
      rw [upTo, opt, mem_alt, cons_mem_seq, List.forall_mem_cons, List.length_cons,
        Nat.succ_le_succ_iff]
      simp [ih]
      tauto

/-- `r(?:dr)*` is one or more matches of `r` with `d` between them. -/
theorem mem_separated {r : Regex} {d : Char} :
    w ∈ language (seq r (star (seq (chars (· == d)) r))) ↔
      ∃ parts, parts ≠ [] ∧ (∀ part ∈ parts, part ∈ language r) ∧ w = [d].intercalate parts := by
  have hstar : ∀ {q v}, q ∈ language r → v ∈ language (star (seq (chars (· == d)) r)) →
      d :: (q ++ v) ∈ language (star (seq (chars (· == d)) r)) := by
    intro q v hq hv
    refine cons_mem_star.mpr ⟨q, v, mem_seq.mpr ⟨[d], ?_, q, hq, rfl⟩, hv, rfl⟩
    exact ⟨d, beq_self_eq_true d, rfl⟩
  rw [mem_seq]
  constructor
  · rintro ⟨u, hu, v, hv, rfl⟩
    obtain ⟨items, rfl, hitems⟩ := mem_star.mp hv
    -- The parts are `u` and what follows the separator in each item.
    suffices h : ∃ qs, (∀ q ∈ qs, q ∈ language r) ∧
        u ++ items.flatten = [d].intercalate (u :: qs) by
      obtain ⟨qs, hqs, heq⟩ := h
      exact ⟨u :: qs, List.cons_ne_nil _ _, List.forall_mem_cons.mpr ⟨hu, hqs⟩, heq⟩
    clear hu hv
    induction items generalizing u with
    | nil => exact ⟨[], by simp, by simp⟩
    | cons item items ih =>
      rw [List.forall_mem_cons] at hitems
      obtain ⟨_, ⟨c, hc, rfl⟩, q, hq, rfl⟩ := mem_seq.mp hitems.1
      obtain rfl := beq_iff_eq.mp hc
      obtain ⟨qs, hqs, heq⟩ := ih q hitems.2
      refine ⟨q :: qs, List.forall_mem_cons.mpr ⟨hq, hqs⟩, ?_⟩
      rw [List.intercalate_cons_cons, ← heq]
      simp
  · rintro ⟨parts, hne, hparts, rfl⟩
    obtain ⟨u, qs, rfl⟩ := List.exists_cons_of_ne_nil hne
    clear hne
    induction qs generalizing u with
    | nil =>
      rw [List.forall_mem_cons] at hparts
      exact ⟨u, hparts.1, [], Language.nil_mem_kstar _, by simp⟩
    | cons q qs ih =>
      rw [List.forall_mem_cons] at hparts
      obtain ⟨q', hq', v, hv, heq⟩ := ih q hparts.2
      refine ⟨u, hparts.1, d :: (q' ++ v), hstar hq' hv, ?_⟩
      rw [List.intercalate_cons_cons, ← heq]
      simp

end Classes

end Regex
end Platform
