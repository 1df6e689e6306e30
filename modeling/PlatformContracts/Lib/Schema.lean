import PlatformContracts.Lib.Json
import PlatformContracts.Lib.Regex

/-!
# JSON schemas

A schema accepts or rejects a value. The keywords are those of draft 2020-12: a keyword about one
type of values accepts the values of the other types, lengths of strings are in code points, and an
integer is a number without a fractional part. A schema with several keywords is their `allOf`; a
reference is the schema that it names.

* `closed`: an object with exactly the listed keys, which is the form of every record.
* `closed_iff`, `closed_object`: what it accepts, also for the members of a listed object.
-/

namespace Platform

abbrev Schema := Json → Bool

namespace Schema

inductive JsonType where
  | null
  | boolean
  | integer
  | string
  | array
  | object
  deriving DecidableEq, Repr

def type : JsonType → Schema
  | .null, .null => true
  | .boolean, .bool _ => true
  | .integer, .num n => n.value.den = 1
  | .string, .str _ => true
  | .array, .arr _ => true
  | .object, .obj _ _ => true
  | _, _ => false

def const (v : Json) : Schema := v.same

def enum (vs : List Json) : Schema := fun j => vs.any (·.same j)

/-! ## Strings and numbers -/

def minLength (n : Nat) : Schema
  | .str s => n ≤ s.length
  | _ => true

def maxLength (n : Nat) : Schema
  | .str s => s.length ≤ n
  | _ => true

/-- The patterns have `^` and `$` around them, so the whole string matches. -/
def pattern (r : Regex) : Schema
  | .str s => r.isMatch s.toList
  | _ => true

def minimum (q : ℚ) : Schema
  | .num n => q ≤ n.value
  | _ => true

/-! ## Arrays -/

def minItems (n : Nat) : Schema
  | .arr items => n ≤ items.length
  | _ => true

def maxItems (n : Nat) : Schema
  | .arr items => items.length ≤ n
  | _ => true

def uniqueItems : Schema
  | .arr items => items.Pairwise fun a b => a.same b = false
  | _ => true

def items (s : Schema) : Schema
  | .arr items => items.all s
  | _ => true

def contains (s : Schema) : Schema
  | .arr items => items.any s
  | _ => true

/-! ## Objects -/

def minProperties (n : Nat) : Schema := fun j => !j.isObj || decide (n ≤ j.keys.card)

def required (keys : List String) : Schema := fun j => !j.isObj || decide (∀ k ∈ keys, k ∈ j.keys)

def properties (members : List (String × Schema)) : Schema := fun j =>
  members.all fun p => (j.get? p.1).all p.2

/-- The values of the keys that `properties` does not list. -/
def additionalProperties (listed : List String) (s : Schema) : Schema := fun j =>
  decide (∀ k ∈ j.keys, k ∈ listed ∨ (j.get? k).all s = true)

def propertyNames (s : Schema) : Schema := fun j => decide (∀ k ∈ j.keys, s (.str k) = true)

/-! ## Combinations -/

def allOf (ss : List Schema) : Schema := fun j => ss.all fun s => s j

def oneOf (ss : List Schema) : Schema := fun j => ss.countP (fun s => s j) = 1

def not (s : Schema) : Schema := fun j => !s j

def ifThen (c t : Schema) : Schema := fun j => !c j || t j

def ifThenElse (c t e : Schema) : Schema := fun j => if c j then t j else e j

/-- No value. -/
def never : Schema := fun _ => false

/-- `type: object`, `additionalProperties: false`, and `required` with all the keys of
`properties`. -/
def closed (members : List (String × Schema)) : Schema :=
  allOf [type .object, additionalProperties (members.map Prod.fst) never,
    required (members.map Prod.fst), properties members]

/-! ## What the keywords accept -/

section Keywords

variable {j : Json} {s : String} {n : Nat}

theorem type_object_iff : type .object j = true ↔ j.isObj := by
  cases j <;> simp [type, Json.isObj]

theorem enum_strings_iff {names : List String} :
    enum (names.map .str) j = true ↔ ∃ name ∈ names, j = .str name := by
  simp [enum]

@[simp] theorem type_string : type .string (.str s) = true := rfl

@[simp] theorem type_null : type .null .null = true := rfl

@[simp] theorem minLength_str : minLength n (.str s) = true ↔ n ≤ s.length := decide_eq_true_iff

@[simp] theorem maxLength_str : maxLength n (.str s) = true ↔ s.length ≤ n := decide_eq_true_iff

@[simp] theorem pattern_str {r : Regex} :
    pattern r (.str s) = true ↔ s.toList ∈ r.language := Regex.isMatch_iff

/-- A natural number is an integer of at least zero. -/
theorem accepts_natural {m : Nat} :
    allOf [type .integer, minimum 0] (.num (.int m)) = true := by
  simp [allOf, type, minimum, Number.value]

@[simp] theorem allOf_nil : allOf [] j = true := rfl

@[simp] theorem allOf_cons {a : Schema} {as : List Schema} :
    allOf (a :: as) j = (a j && allOf as j) := rfl

@[simp] theorem properties_nil : properties [] j = true := rfl

@[simp] theorem properties_cons {k : String} {a : Schema} {members : List (String × Schema)} :
    properties ((k, a) :: members) j = ((j.get? k).all a && properties members j) := rfl

theorem ifThen_iff {c t : Schema} : ifThen c t j = true ↔ (c j = true → t j = true) := by
  simp only [ifThen, Bool.or_eq_true, Bool.not_eq_true']
  cases c j <;> simp

/-- Of two schemas that do not overlap one is enough. -/
theorem oneOf_pair {a b : Schema} :
    oneOf [a, b] j = true ↔ (a j = true ∧ b j = false ∨ a j = false ∧ b j = true) := by
  simp only [oneOf, List.countP_cons, List.countP_nil, decide_eq_true_eq]
  cases a j <;> cases b j <;> simp

/-- Of three schemas one accepts the value and two do not. -/
theorem oneOf_triple {a b c : Schema} (h : a j = true ∧ b j = false ∧ c j = false ∨
    a j = false ∧ b j = true ∧ c j = false ∨ a j = false ∧ b j = false ∧ c j = true) :
    oneOf [a, b, c] j = true := by
  rcases h with ⟨ha, hb, hc⟩ | ⟨ha, hb, hc⟩ | ⟨ha, hb, hc⟩ <;> simp [oneOf, ha, hb, hc]

end Keywords

/-! ## Records -/

section Closed

variable {members : List (String × Schema)} {j : Json}

theorem closed_iff : closed members j = true ↔ j.isObj ∧
    (∀ k ∈ j.keys, k ∈ members.map Prod.fst) ∧
      ∀ p ∈ members, ∃ v, j.get? p.1 = some v ∧ p.2 v = true := by
  simp only [closed, allOf_cons, allOf_nil, Bool.and_true, Bool.and_eq_true, type_object_iff]
  refine and_congr_right fun hj => and_congr ?_ ?_
  · simp only [additionalProperties, never, decide_eq_true_eq, Option.all_eq_true,
      Json.mem_keys, Option.isSome_iff_exists]
    constructor
    · rintro h k ⟨v, hv⟩
      rcases h k ⟨v, hv⟩ with hk | hk
      · exact hk
      · cases hk v hv
    · exact fun h k hk => .inl (h k hk)
  · simp only [required, properties, hj, Bool.not_true, Bool.false_or, decide_eq_true_eq,
      List.all_eq_true, Option.all_eq_true, List.forall_mem_map, Json.mem_keys,
      Option.isSome_iff_exists]
    constructor
    · rintro ⟨hreq, hprop⟩ p hp
      obtain ⟨v, hv⟩ := hreq p hp
      exact ⟨v, hv, hprop p hp v hv⟩
    · intro h
      refine ⟨fun p hp => ?_, fun p hp v hv => ?_⟩
      · obtain ⟨v, hv, -⟩ := h p hp
        exact ⟨v, hv⟩
      · obtain ⟨w, hw, haccept⟩ := h p hp
        rw [hv, Option.some_inj] at hw
        exact hw ▸ haccept

/-- One value that its schema rejects is enough. -/
theorem closed_eq_false {p : String × Schema} {v : Json} (hp : p ∈ members)
    (hv : j.get? p.1 = some v) (hrejects : p.2 v = false) : closed members j = false := by
  by_contra h
  obtain ⟨w, hw, haccepts⟩ := (closed_iff.mp (Bool.eq_true_of_not_eq_false h)).2.2 p hp
  rw [hv, Option.some_inj] at hw
  rw [← hw, hrejects] at haccepts
  cases haccepts

theorem forall_mem_iff_forall₂ {values : List (String × Json)}
    (hkeys : values.map Prod.fst = members.map Prod.fst) (hn : (members.map Prod.fst).Nodup) :
    (∀ p ∈ members, ∃ v, (p.1, v) ∈ values ∧ p.2 v = true) ↔
      List.Forall₂ (fun p v => p.2 v.2 = true) members values := by
  induction members generalizing values with
  | nil =>
    rw [List.map_nil, List.map_eq_nil_iff] at hkeys
    subst hkeys
    simp
  | cons p members ih =>
    cases values with
    | nil => cases hkeys
    | cons w values =>
      rw [List.map_cons, List.map_cons, List.cons.injEq] at hkeys
      rw [List.map_cons, List.nodup_cons] at hn
      -- The head is the only value of its key, and no value of another.
      have hhead : (∃ v, (p.1, v) ∈ w :: values ∧ p.2 v = true) ↔ p.2 w.2 = true := by
        have hnot : ∀ v, (p.1, v) ∉ values := fun v h =>
          hn.1 (hkeys.2 ▸ List.mem_map_of_mem h)
        simp [hnot, Prod.ext_iff, hkeys.1]
      have htail : ∀ q ∈ members, ∀ v, (q.1, v) ∈ w :: values ↔ (q.1, v) ∈ values := by
        intro q hq v
        have hne : q.1 ≠ w.1 := fun e => hn.1 (hkeys.1 ▸ e ▸ List.mem_map_of_mem hq)
        simp [Prod.ext_iff, hne]
      rw [List.forall_mem_cons, hhead, List.forall₂_cons, ← ih hkeys.2 hn.2]
      refine and_congr_right fun _ => forall₂_congr fun q hq => ?_
      simp only [htail q hq]

/-- The members of a listed object against the members of the schema, one by one. -/
theorem closed_object {values : List (String × Json)}
    (hkeys : values.map Prod.fst = members.map Prod.fst) (hn : (members.map Prod.fst).Nodup) :
    closed members (.object values) = true ↔
      List.Forall₂ (fun p v => p.2 v.2 = true) members values := by
  rw [closed_iff, ← forall_mem_iff_forall₂ hkeys hn]
  simp [Json.get?_object, Json.lookup_eq_some (hkeys ▸ hn), ← hkeys]

end Closed

end Schema
end Platform
