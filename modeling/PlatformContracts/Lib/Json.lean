import Mathlib

/-!
# JSON values

* `Json`: a value. An object is the set of its keys with a value for each, so its members have no
  order and no key twice. A number is an integer or a decimal; a reader can tell `1` from `1.0`.
* `object`: the object with the listed members. `get?`: the value of a key; `Json.ext_get`: objects
  are equal when their keys have the same values. `At`, `Each`: a property of the value of a key,
  and of the items of an array.
* `same`: equality of JSON Schema, which compares numbers by their values.
-/

namespace Platform

inductive Number where
  | int (n : Int)
  | decimal (value : ℚ)
  deriving DecidableEq

def Number.value : Number → ℚ
  | int n => n
  | decimal value => value

inductive Json where
  | null
  | bool (b : Bool)
  | num (n : Number)
  | str (s : String)
  | arr (items : List Json)
  | obj (keys : Finset String) (vals : {k // k ∈ keys} → Json)

namespace Json

def isObj : Json → Bool
  | obj _ _ => true
  | _ => false

def isStr : Json → Bool
  | str _ => true
  | _ => false

theorem isStr_iff {j : Json} : j.isStr = true ↔ ∃ s, j = str s := by
  cases j <;> simp [isStr]

def keys : Json → Finset String
  | obj keys _ => keys
  | _ => ∅

def get? : Json → String → Option Json
  | obj keys vals, k => if h : k ∈ keys then some (vals ⟨k, h⟩) else none
  | _, _ => none

theorem lookup_isSome {l : List (String × Json)} {k : String}
    (h : k ∈ (l.map Prod.fst).toFinset) : (l.lookup k).isSome := by
  induction l with
  | nil => simp at h
  | cons p l ih =>
    rw [List.map_cons, List.toFinset_cons, Finset.mem_insert] at h
    rw [List.lookup_cons]
    cases hk : k == p.1 with
    | true => rfl
    | false => exact ih (h.resolve_left (beq_eq_false_iff_ne.mp hk))

/-- The object with these members; of two with one key it has the first. -/
def object (members : List (String × Json)) : Json :=
  obj (members.map Prod.fst).toFinset fun k => (members.lookup k.1).get (lookup_isSome k.2)

theorem isSome_get?_obj {keys : Finset String} {vals : {k // k ∈ keys} → Json} {k : String} :
    ((obj keys vals).get? k).isSome ↔ k ∈ keys := by
  show (if h : k ∈ keys then some (vals ⟨k, h⟩) else none).isSome ↔ _
  split <;> simp [*]

theorem mem_keys {j : Json} {k : String} : k ∈ j.keys ↔ (j.get? k).isSome := by
  cases j with
  | obj keys vals => exact isSome_get?_obj.symm
  | _ => simp [keys, get?]

theorem isObj_of_get? {j v : Json} {k : String} (h : j.get? k = some v) : j.isObj := by
  cases j <;> simp_all [get?, isObj]

/-- The value of the key, where there is one, has the property. -/
def At (j : Json) (k : String) (p : Json → Prop) : Prop := ∀ v, j.get? k = some v → p v

/-- The items, where the value is an array, have the property. -/
def Each (p : Json → Prop) (j : Json) : Prop := ∀ items, j = arr items → ∀ v ∈ items, p v

theorem at_of_not_mem {j : Json} {k : String} {p : Json → Prop} (h : k ∉ j.keys) : j.At k p :=
  fun _ hv => absurd (mem_keys.mpr (Option.isSome_of_eq_some hv)) h

@[simp] theorem at_true {j : Json} {k : String} : j.At k fun _ => True := fun _ _ => trivial

/-! ## Objects -/

theorem ext_get {a b : Json} (ha : a.isObj) (hb : b.isObj) (h : ∀ k, a.get? k = b.get? k) :
    a = b := by
  cases a with
  | obj keys vals =>
    cases b with
    | obj keys' vals' =>
      have hk : keys = keys' := by
        ext k
        rw [← @isSome_get?_obj keys vals k, h k, isSome_get?_obj]
      subst hk
      congr 1
      funext k
      have := h k.1
      simpa [get?, k.2] using this
    | _ => cases hb
  | _ => cases ha

section Object

variable {members : List (String × Json)} {k : String}

@[simp] theorem isObj_object : (object members).isObj := rfl

@[simp] theorem keys_object : (object members).keys = (members.map Prod.fst).toFinset := rfl

theorem lookup_eq_none (h : k ∉ members.map Prod.fst) : members.lookup k = none := by
  induction members with
  | nil => rfl
  | cons p l ih =>
    rw [List.map_cons, List.mem_cons, not_or] at h
    rw [List.lookup_cons, beq_eq_false_iff_ne.mpr h.1, ih h.2]

theorem get?_object : (object members).get? k = members.lookup k := by
  show (if h : k ∈ (members.map Prod.fst).toFinset then some _ else none) = _
  split
  · simp
  · next h => rw [List.mem_toFinset] at h; rw [lookup_eq_none h]

@[simp] theorem get?_cons {k' : String} {v : Json} :
    (object ((k', v) :: members)).get? k = if k = k' then some v else (object members).get? k := by
  rw [get?_object, get?_object, List.lookup_cons]
  cases hk : k == k' with
  | true => rw [if_pos (beq_iff_eq.mp hk)]
  | false => rw [if_neg (beq_eq_false_iff_ne.mp hk)]

@[simp] theorem get?_nil : (object []).get? k = none := rfl

/-- With distinct keys the lookup finds each member. -/
theorem lookup_eq_some (hn : (members.map Prod.fst).Nodup) {v : Json} :
    members.lookup k = some v ↔ (k, v) ∈ members := by
  induction members with
  | nil => simp
  | cons p l ih =>
    rw [List.map_cons, List.nodup_cons] at hn
    rw [List.lookup_cons, List.mem_cons]
    cases hk : k == p.1 with
    | true =>
      obtain rfl := beq_iff_eq.mp hk
      have hp : (p.1, v) ∉ l := fun h => hn.1 (List.mem_map.mpr ⟨_, h, rfl⟩)
      simp [hp, Prod.ext_iff, eq_comm]
    | false =>
      rw [beq_eq_false_iff_ne] at hk
      simp [hk, ih hn.2, Prod.ext_iff]

end Object

/-! ## Equality of values -/

mutual

/-- The values are equal, numbers as rationals. -/
def same : Json → Json → Bool
  | null, null => true
  | bool a, bool b => a == b
  | num a, num b => a.value == b.value
  | str a, str b => a == b
  | arr as, arr bs => sameAll as bs
  | obj keys vals, obj keys' vals' =>
    if h : keys = keys' then
      decide (∀ k : {k // k ∈ keys}, same (vals k) (vals' ⟨k.1, h ▸ k.2⟩) = true)
    else false
  | _, _ => false

def sameAll : List Json → List Json → Bool
  | [], [] => true
  | a :: as, b :: bs => same a b && sameAll as bs
  | _, _ => false

end

@[simp] theorem same_str {s : String} {j : Json} : same (str s) j = true ↔ j = str s := by
  cases j with
  | str t =>
    show (s == t) = true ↔ _
    rw [beq_iff_eq, str.injEq, eq_comm]
  | _ => simp [same]

@[simp] theorem same_bool {b : Bool} {j : Json} : same (bool b) j = true ↔ j = bool b := by
  cases j with
  | bool c =>
    show (b == c) = true ↔ _
    rw [beq_iff_eq, bool.injEq, eq_comm]
  | _ => simp [same]

/-- Equal objects have equal values for each key. -/
theorem same_get {a b x : Json} {k : String} (h : same a b = true) (hx : a.get? k = some x) :
    ∃ y, b.get? k = some y ∧ same x y = true := by
  cases a with
  | obj keys vals =>
    cases b with
    | obj keys' vals' =>
      simp only [same] at h
      split at h
      · next hk =>
        subst hk
        rw [decide_eq_true_eq] at h
        simp only [get?] at hx ⊢
        split at hx
        · next hmem =>
          cases hx
          exact ⟨vals' ⟨k, hmem⟩, by simp [hmem], h ⟨k, hmem⟩⟩
        · cases hx
      · cases h
    | _ => simp [same] at h
  | _ => simp [get?] at hx

/-- Objects are different when a key has different strings. -/
theorem not_same_of_str {a b : Json} {k s t : String} (ha : a.get? k = some (str s))
    (hb : b.get? k = some (str t)) (hne : s ≠ t) : same a b = false := by
  by_contra h
  obtain ⟨y, hy, hs⟩ := same_get (Bool.eq_true_of_not_eq_false h) ha
  rw [hb, Option.some_inj] at hy
  rw [same_str, ← hy, str.injEq] at hs
  exact hne hs.symm

end Json
end Platform
