import PlatformContracts.Lib.Json
import PlatformContracts.Lib.Keyed

/-!
# Codecs

A codec writes a value as JSON and reads JSON that may be of no value, as the derived readers and
writers of serde do. It carries what a reader and a writer owe each other, so a codec that is built
from lawful parts is lawful.

* `Codec`: `valid` are the values that come back, `full` the documents that are written back as
  they were read. A reader takes more documents than its writer makes, among them other forms of
  one value, and is given all of them here.
* `Input`: where the reader finds a value, in the parsed document or in kept content, which
  differ in what a variant without fields may carry.
* `Text`: values that are strings, as the keys of maps are. `text`, `bool`, `unsigned`, `signed`,
  `list`, `map`: the codecs of such values, of truth values, words, vectors and ordered maps.
  `ofMap`: the object of a map, for any functions.
* `enumeration`: variants without fields, read from their names and from objects with a name as
  the only key.
* `checked`: the values that pass a check, made after the reading. `imap`: another type.
-/

namespace Platform

/-! ## Input -/

/-- Where a reader finds a value. An enumeration that has its tag beside its fields keeps them
until it has the tag, and reads them from there. -/
inductive Input where
  | parsed
  | kept

namespace Input

/-- Nothing, as a variant without fields carries it: null, or in kept content an empty object. -/
def isUnit : Input → Json → Bool
  | _, .null => true
  | kept, .obj keys _ => keys = ∅
  | _, _ => false

/-- The value names the variant: by the name, or by an object with the name as its only key. -/
def names (i : Input) (name : String) : Json → Bool
  | .str s => s = name
  | j => j.keys = {name} && (j.get? name).any i.isUnit

@[simp] theorem names_str {i : Input} {name s : String} :
    i.names name (.str s) = true ↔ s = name := decide_eq_true_iff

theorem names_unique {i : Input} {name name' : String} {j : Json} (h : i.names name j = true)
    (h' : i.names name' j = true) : name = name' := by
  have hkeys : (∃ s, j = .str s) ∨ j.keys = {name} ∧ j.keys = {name'} := by
    cases j <;> simp_all [names]
  rcases hkeys with ⟨s, rfl⟩ | ⟨hkeys, hkeys'⟩
  · rw [← names_str.mp h, names_str.mp h']
  · exact Finset.singleton_injective (hkeys.symm.trans hkeys')

/-- The name that the value gives is found in a list of names. -/
theorem find_names {i : Input} {names : List String} {j : Json} {name : String} :
    names.find? (i.names · j) = some name ↔ name ∈ names ∧ i.names name j = true :=
  Keyed.find_unique fun _ _ _ _ => names_unique

end Input

/-- Values that are written as strings. -/
structure Text (α : Type) where
  print : α → String
  parse : String → Option α
  parse_print : ∀ a, parse (print a) = some a
  print_of_parse : ∀ {s a}, parse s = some a → print a = s

namespace Text

variable {α : Type}

def string : Text String where
  print := id
  parse := some
  parse_print _ := rfl
  print_of_parse h := by cases h; rfl

theorem print_injective (t : Text α) : Function.Injective t.print := by
  intro a b h
  rw [← Option.some_inj, ← t.parse_print, h, t.parse_print]

end Text

structure Codec (α : Type) where
  encode : α → Json
  read : Input → Json → Option α
  valid : α → Bool
  full : Json → Bool
  encode_ne_null : ∀ a, encode a ≠ .null
  read_encode : ∀ i a, read i (encode a) = if valid a then some a else none
  valid_of_read : ∀ {i j a}, read i j = some a → valid a
  full_encode : ∀ a, full (encode a)
  encode_of_full : ∀ {i j a}, read i j = some a → full j → encode a = j

namespace Codec

variable {α β : Type}

/-- The reader of a document. -/
def decode (c : Codec α) : Json → Option α := c.read .parsed

theorem decode_encode (c : Codec α) (a : α) :
    c.decode (c.encode a) = if c.valid a then some a else none :=
  c.read_encode .parsed a

theorem valid_of_decode (c : Codec α) {j : Json} {a : α} (h : c.decode j = some a) :
    c.valid a = true :=
  c.valid_of_read h

theorem encode_read (c : Codec α) {i : Input} {j : Json} {a : α} (h : c.read i j = some a) :
    c.encode a = j ↔ c.full j = true := by
  constructor
  · rintro rfl
    exact c.full_encode a
  · exact c.encode_of_full h

theorem encode_decode (c : Codec α) {j : Json} {a : α} (h : c.decode j = some a) :
    c.encode a = j ↔ c.full j = true :=
  c.encode_read h

/-! ## Values without parts -/

def text (t : Text α) : Codec α where
  encode a := .str (t.print a)
  read
    | _, .str s => t.parse s
    | _, _ => none
  valid _ := true
  full _ := true
  encode_ne_null _ := by simp
  read_encode _ := t.parse_print
  valid_of_read _ := rfl
  full_encode _ := rfl
  encode_of_full {i j a} h _ := by
    cases j with
    | str s => rw [t.print_of_parse h]
    | _ => cases h

def string : Codec String := text .string

/-- An enumeration without fields, by the names of its variants. -/
def enumeration (variants : List α) (name : α → String) (hmem : ∀ a, a ∈ variants)
    (hn : (variants.map name).Nodup) : Codec α where
  encode a := .str (name a)
  read i j := variants.find? fun a => i.names (name a) j
  valid _ := true
  full := Json.isStr
  encode_ne_null _ := by simp
  read_encode i a := by
    refine (Keyed.find_unique fun b hb c hc hbj hcj => ?_).mpr ⟨hmem a, by simp⟩
    exact List.inj_on_of_nodup_map hn hb hc (Input.names_unique hbj hcj)
  valid_of_read _ := rfl
  full_encode _ := rfl
  encode_of_full {i j a} h hj := by
    obtain ⟨s, rfl⟩ := Json.isStr_iff.mp hj
    have hname := List.find?_some h
    rw [Input.names_str.mp hname]

def bool : Codec Bool where
  encode := .bool
  read
    | _, .bool b => some b
    | _, _ => none
  valid _ := true
  full _ := true
  encode_ne_null _ := by simp
  read_encode _ _ := rfl
  valid_of_read _ := rfl
  full_encode _ := rfl
  encode_of_full {i j a} h _ := by
    cases j <;> simp_all

/-- A 64-bit word: an integer in its range. `1.0` is no integer. -/
def unsigned : Codec UInt64 where
  encode n := .num (.int n.toNat)
  read
    | _, .num (.int n) => if 0 ≤ n ∧ n < 2 ^ 64 then some (UInt64.ofNat n.toNat) else none
    | _, _ => none
  valid _ := true
  full _ := true
  encode_ne_null _ := by simp
  read_encode _ n := by
    have := n.toNat_lt
    have hn : (0 : Int) ≤ n.toNat ∧ (n.toNat : Int) < 2 ^ 64 := by omega
    simp only [hn, and_self, if_true, Int.toNat_natCast, UInt64.ofNat_toNat]
  valid_of_read _ := rfl
  full_encode _ := rfl
  encode_of_full {i j a} h _ := by
    cases j with
    | num n =>
      cases n with
      | int n =>
        simp only at h
        split at h
        · next hn =>
          cases h
          have : (UInt64.ofNat n.toNat).toNat = n.toNat := by
            rw [UInt64.toNat_ofNat', Nat.mod_eq_of_lt (by omega)]
          simp [this, hn.1]
        · cases h
      | decimal q => cases h
    | _ => cases h

/-- A signed 64-bit word. -/
def signed : Codec Int64 where
  encode n := .num (.int n.toInt)
  read
    | _, .num (.int n) => if -2 ^ 63 ≤ n ∧ n < 2 ^ 63 then some (Int64.ofInt n) else none
    | _, _ => none
  valid _ := true
  full _ := true
  encode_ne_null _ := by simp
  read_encode _ n := by
    simp only [n.le_toInt, n.toInt_lt, and_self, if_true, Int64.ofInt_toInt]
  valid_of_read _ := rfl
  full_encode _ := rfl
  encode_of_full {i j a} h _ := by
    cases j with
    | num n =>
      cases n with
      | int n =>
        simp only at h
        split at h
        · next hn =>
          cases h
          rw [Int64.toInt_ofInt_of_le hn.1 hn.2]
        · cases h
      | decimal q => cases h
    | _ => cases h

/-! ## Other values of the same documents -/

/-- The values that pass the check. -/
def checked (c : Codec α) (check : α → Bool) : Codec α where
  encode := c.encode
  read i j := (c.read i j).filter check
  valid a := c.valid a && check a
  full := c.full
  encode_ne_null := c.encode_ne_null
  read_encode i a := by
    rw [c.read_encode]
    cases c.valid a <;> cases h : check a <;> simp [Option.filter, h]
  valid_of_read h := by
    rw [Option.filter_eq_some_iff] at h
    rw [c.valid_of_read h.1, h.2, Bool.and_self]
  full_encode := c.full_encode
  encode_of_full h := c.encode_of_full (Option.filter_eq_some_iff.mp h).1

def imap (c : Codec α) (e : α ≃ β) : Codec β where
  encode b := c.encode (e.symm b)
  read i j := (c.read i j).map e
  valid b := c.valid (e.symm b)
  full := c.full
  encode_ne_null _ := c.encode_ne_null _
  read_encode i b := by
    rw [c.read_encode]
    cases c.valid (e.symm b) <;> simp
  valid_of_read h := by
    obtain ⟨a, ha, rfl⟩ := Option.map_eq_some_iff.mp h
    rw [e.symm_apply_apply, c.valid_of_read ha]
  full_encode _ := c.full_encode _
  encode_of_full h := by
    obtain ⟨a, ha, rfl⟩ := Option.map_eq_some_iff.mp h
    rw [e.symm_apply_apply]
    exact c.encode_of_full ha

/-! ## Lists -/

theorem mapM_eq_some {f : α → Option β} {l : List α} {l' : List β} :
    l.mapM f = some l' ↔ List.Forall₂ (fun a b => f a = some b) l l' := by
  induction l generalizing l' with
  | nil => cases l' <;> simp
  | cons a l ih =>
    rw [List.mapM_cons]
    constructor
    · intro h
      simp only [Option.bind_eq_bind, Option.bind_eq_some_iff, Option.pure_def,
        Option.some_inj] at h
      obtain ⟨b, hb, bs, hbs, rfl⟩ := h
      exact .cons hb (ih.mp hbs)
    · rintro (_ | ⟨hb, hbs⟩)
      simp [hb, ih.mpr hbs]

def list (c : Codec α) : Codec (List α) where
  encode l := .arr (l.map c.encode)
  read
    | i, .arr js => js.mapM (c.read i)
    | _, _ => none
  valid l := l.all c.valid
  full
    | .arr js => js.all c.full
    | _ => true
  encode_ne_null _ := by simp
  read_encode i l := by
    show (l.map c.encode).mapM (c.read i) = _
    induction l with
    | nil => rfl
    | cons a l ih =>
      rw [List.map_cons, List.mapM_cons, ih, c.read_encode]
      cases hv : c.valid a <;> cases h : l.all c.valid <;> simp [hv, h]
  valid_of_read {i j l} h := by
    cases j with
    | arr js =>
      replace h := mapM_eq_some.mp h
      induction h with
      | nil => rfl
      | cons ha _ ih => simpa [c.valid_of_read ha] using ih
    | _ => cases h
  full_encode l := by simp [c.full_encode]
  encode_of_full {i j l} h hfull := by
    cases j with
    | arr js =>
      replace h := mapM_eq_some.mp h
      rw [Json.arr.injEq]
      induction h with
      | nil => rfl
      | cons ha _ ih =>
        simp only [List.all_cons, Bool.and_eq_true] at hfull
        rw [List.map_cons, c.encode_of_full ha hfull.1, ih hfull.2]
    | _ => cases h

end Codec

/-! ## Maps -/

namespace Codec

section Map

open Std

variable {κ α : Type} {cmp : κ → κ → Ordering} [TransCmp cmp] [LawfulEqCmp cmp]

/-- The object with a member for each entry of the map. -/
def ofMap (print : κ → String) (f : α → Json) (m : ExtTreeMap κ α cmp) : Json :=
  .object (m.toList.map fun p => (print p.1, f p.2))

theorem get?_ofMap {print : κ → String} (hprint : Function.Injective print) {f : α → Json}
    {m : ExtTreeMap κ α cmp} {s : String} {v : Json} :
    (ofMap print f m).get? s = some v ↔ ∃ k a, print k = s ∧ m[k]? = some a ∧ f a = v := by
  have hkeys : (m.toList.map fun p => (print p.1, f p.2)).map Prod.fst =
      (m.toList.map Prod.fst).map print := by
    rw [List.map_map, List.map_map]
    rfl
  have hn : ((m.toList.map fun p => (print p.1, f p.2)).map Prod.fst).Nodup := by
    rw [hkeys]
    exact nodup_keys.map hprint
  rw [ofMap, Json.get?_object, Json.lookup_eq_some hn, List.mem_map]
  constructor
  · rintro ⟨p, hp, h⟩
    cases h
    exact ⟨p.1, p.2, rfl, ExtTreeMap.mem_toList_iff_getElem?_eq_some.mp hp, rfl⟩
  · rintro ⟨k, a, rfl, ha, rfl⟩
    exact ⟨(k, a), ExtTreeMap.mem_toList_iff_getElem?_eq_some.mpr ha, rfl⟩

variable (i : Input) (t : Text κ) (c : Codec α)

/-- The entry of the map that a member of the object gives. -/
def entry (j : Json) (s : String) : Option (κ × α) :=
  (t.parse s).bind fun k => ((j.get? s).bind (c.read i)).map fun a => (k, a)

def encodeMap (m : ExtTreeMap κ α cmp) : Json :=
  .object (m.toList.map fun p => (t.print p.1, c.encode p.2))

/-- An object, its keys in the order of the strings. -/
def readMap (j : Json) : Option (ExtTreeMap κ α cmp) :=
  if j.isObj then
    ((j.keys.sort).mapM (entry i t c j)).map (ExtTreeMap.ofList · cmp)
  else none

variable {i t c}

theorem entry_eq_some {j : Json} {s : String} {p : κ × α} :
    entry i t c j s = some p ↔
      t.print p.1 = s ∧ ∃ v, j.get? s = some v ∧ c.read i v = some p.2 := by
  unfold entry
  constructor
  · intro h
    obtain ⟨k, hk, h⟩ := Option.bind_eq_some_iff.mp h
    obtain ⟨a, ha, rfl⟩ := Option.map_eq_some_iff.mp h
    exact ⟨t.print_of_parse hk, Option.bind_eq_some_iff.mp ha⟩
  · rintro ⟨rfl, v, hv, ha⟩
    simp [t.parse_print, hv, ha]

theorem get?_encodeMap {m : ExtTreeMap κ α cmp} {s : String} {v : Json} :
    (encodeMap t c m).get? s = some v ↔
      ∃ k a, t.print k = s ∧ m[k]? = some a ∧ c.encode a = v :=
  get?_ofMap t.print_injective

/-- The map of the entries of all members has exactly the entries of the object. -/
theorem getElem?_ofList_entries [DecidableEq κ] {j : Json} {l : List (κ × α)}
    (h : List.Forall₂ (fun s p => entry i t c j s = some p) j.keys.sort l) {k : κ} {a : α} :
    (ExtTreeMap.ofList l cmp)[k]? = some a ↔ entry i t c j (t.print k) = some (k, a) := by
  have hnames : (j.keys.sort.map id).Nodup := by
    rw [List.map_id]
    exact j.keys.sort_nodup _
  have hkeys : (l.map Prod.fst).Nodup :=
    Keyed.forall₂_nodup (R := fun s k => t.print k = s)
      (List.forall₂_map_right_iff.mpr (h.imp fun s p hp => (entry_eq_some.mp hp).1))
      (fun s s' k hs hs' => hs.symm.trans hs') hnames
  rw [Keyed.lookup_ofList hkeys]
  constructor
  · intro hp
    obtain ⟨s, -, hs⟩ := Keyed.exists_left h hp
    rw [← (entry_eq_some.mp hs).1] at hs
    exact hs
  · intro hs
    obtain ⟨-, v, hv, -⟩ := entry_eq_some.mp hs
    obtain ⟨p, hp, hps⟩ := Keyed.exists_right h
      ((Finset.mem_sort _).mpr (Json.mem_keys.mpr (Option.isSome_of_eq_some hv)))
    rw [hs, Option.some_inj] at hps
    exact hps ▸ hp

/-- The reader gives the map of the entries, when each member has one. -/
theorem readMap_eq_some [DecidableEq κ] {j : Json} {m : ExtTreeMap κ α cmp} :
    readMap i t c j = some m ↔ j.isObj ∧ (∀ s ∈ j.keys, ∃ p, entry i t c j s = some p) ∧
      ∀ k a, m[k]? = some a ↔ entry i t c j (t.print k) = some (k, a) := by
  unfold readMap
  constructor
  · intro h
    split at h
    · next hj =>
      obtain ⟨l, hl, rfl⟩ := Option.map_eq_some_iff.mp h
      rw [mapM_eq_some] at hl
      refine ⟨hj, fun s hs => ?_, fun k a => getElem?_ofList_entries hl⟩
      obtain ⟨p, -, hp⟩ := Keyed.exists_right hl ((Finset.mem_sort _).mpr hs)
      exact ⟨p, hp⟩
    · cases h
  · rintro ⟨hj, hall, hm⟩
    obtain ⟨l, hl⟩ := Keyed.exists_forall₂ fun s (hs : s ∈ j.keys.sort) =>
      hall s ((Finset.mem_sort _).mp hs)
    rw [if_pos hj, mapM_eq_some.mpr hl, Option.map_some, Option.some_inj]
    refine ExtTreeMap.ext_getElem? fun k => Option.ext fun a => ?_
    rw [getElem?_ofList_entries hl, hm]

theorem entry_encodeMap {m : ExtTreeMap κ α cmp} {s : String} {p : κ × α} :
    entry i t c (encodeMap t c m) s = some p ↔
      t.print p.1 = s ∧ m[p.1]? = some p.2 ∧ c.valid p.2 := by
  rw [entry_eq_some]
  refine and_congr_right fun hs => ?_
  constructor
  · rintro ⟨v, hv, hp⟩
    obtain ⟨k, a, hk, ha, rfl⟩ := get?_encodeMap.mp hv
    obtain rfl := t.print_injective (hk.trans hs.symm)
    rw [c.read_encode] at hp
    split at hp
    · next hvalid =>
      cases hp
      exact ⟨ha, hvalid⟩
    · cases hp
  · rintro ⟨ha, hvalid⟩
    refine ⟨c.encode p.2, get?_encodeMap.mpr ⟨_, _, hs, ha, rfl⟩, ?_⟩
    rw [c.read_encode, if_pos hvalid]

theorem all_toList {m : ExtTreeMap κ α cmp} {p : α → Bool} :
    (m.toList.all fun e => p e.2) = true ↔ ∀ (k : κ) (a : α), m[k]? = some a → p a := by
  rw [List.all_eq_true]
  exact ⟨fun h k a ha => h (k, a) (ExtTreeMap.mem_toList_iff_getElem?_eq_some.mpr ha),
    fun h e he => h e.1 e.2 (ExtTreeMap.mem_toList_iff_getElem?_eq_some.mp he)⟩

/-- The document of a map is read as the map, or not at all when a value is not valid. -/
theorem readMap_encodeMap [DecidableEq κ] {m : ExtTreeMap κ α cmp} :
    readMap i t c (encodeMap t c m) =
      if m.toList.all fun e => c.valid e.2 then some m else none := by
  have hmember : ∀ {k a}, m[k]? = some a → t.print k ∈ (encodeMap t c m).keys := fun {k a} ha =>
    Json.mem_keys.mpr (Option.isSome_of_eq_some (get?_encodeMap.mpr ⟨k, a, rfl, ha, rfl⟩))
  split
  · next hvalid =>
    rw [all_toList] at hvalid
    refine readMap_eq_some.mpr ⟨Json.isObj_object, fun s hs => ?_, fun k a => ?_⟩
    · obtain ⟨v, hv⟩ := Option.isSome_iff_exists.mp (Json.mem_keys.mp hs)
      obtain ⟨k, a, hk, ha, -⟩ := get?_encodeMap.mp hv
      exact ⟨(k, a), entry_encodeMap.mpr ⟨hk, ha, hvalid k a ha⟩⟩
    · rw [entry_encodeMap]
      exact ⟨fun ha => ⟨rfl, ha, hvalid k a ha⟩, fun h => h.2.1⟩
  · next hvalid =>
    rw [all_toList] at hvalid
    refine Option.eq_none_iff_forall_ne_some.mpr fun m' hm' => hvalid fun k a ha => ?_
    obtain ⟨p, hp⟩ := (readMap_eq_some.mp hm').2.1 _ (hmember ha)
    obtain ⟨hk, hp, hv⟩ := entry_encodeMap.mp hp
    rw [t.print_injective hk, ha, Option.some_inj] at hp
    exact hp ▸ hv

/-- A member of a document that was read, and what the map writes for it. -/
theorem exists_written [DecidableEq κ] {j : Json} {m : ExtTreeMap κ α cmp}
    (h : readMap i t c j = some m) {s : String} (hs : s ∈ j.keys) :
    ∃ v a, j.get? s = some v ∧ c.read i v = some a ∧
      (encodeMap t c m).get? s = some (c.encode a) := by
  obtain ⟨-, hall, hm⟩ := readMap_eq_some.mp h
  obtain ⟨⟨k, a⟩, hp⟩ := hall s hs
  obtain ⟨rfl, v, hv, ha⟩ := entry_eq_some.mp hp
  exact ⟨v, a, hv, ha, get?_encodeMap.mpr ⟨k, a, rfl, (hm k a).mpr hp, rfl⟩⟩

/-- The map writes no member that the document had not. -/
theorem get?_encodeMap_eq_none [DecidableEq κ] {j : Json} {m : ExtTreeMap κ α cmp}
    (h : readMap i t c j = some m) {s : String} (hs : s ∉ j.keys) :
    (encodeMap t c m).get? s = none := by
  obtain ⟨-, -, hm⟩ := readMap_eq_some.mp h
  rw [Option.eq_none_iff_forall_ne_some]
  intro v hv
  obtain ⟨k, a, rfl, ha, -⟩ := get?_encodeMap.mp hv
  obtain ⟨-, v, hv, -⟩ := entry_eq_some.mp ((hm k a).mp ha)
  exact hs (Json.mem_keys.mpr (Option.isSome_of_eq_some hv))

/-- The map writes the document again if each value does so with its member. -/
theorem encodeMap_of_full [DecidableEq κ] {j : Json} {m : ExtTreeMap κ α cmp}
    (h : readMap i t c j = some m) (hfull : ∀ s ∈ j.keys, (j.get? s).all c.full) :
    encodeMap t c m = j := by
  refine Json.ext_get Json.isObj_object (readMap_eq_some.mp h).1 fun s => ?_
  by_cases hs : s ∈ j.keys
  · obtain ⟨v, a, hv, ha, hw⟩ := exists_written h hs
    have := hfull s hs
    rw [hv, Option.all_some] at this
    rw [hw, hv, c.encode_of_full ha this]
  · have hnone : j.get? s = none := by
      rw [← Option.not_isSome_iff_eq_none, ← Json.mem_keys]
      exact hs
    rw [hnone, get?_encodeMap_eq_none h hs]

variable (t c) in
/-- An ordered map as an object. -/
def map [DecidableEq κ] : Codec (ExtTreeMap κ α cmp) where
  encode := encodeMap t c
  read i := readMap i t c
  valid m := m.toList.all fun e => c.valid e.2
  full j := decide (∀ s ∈ j.keys, (j.get? s).all c.full)
  encode_ne_null m h := by cases h
  read_encode _ _ := readMap_encodeMap
  valid_of_read h := by
    rw [all_toList]
    intro k a ha
    obtain ⟨-, v, -, hv⟩ := entry_eq_some.mp (((readMap_eq_some.mp h).2.2 k a).mp ha)
    exact c.valid_of_read hv
  full_encode m := by
    simp only [decide_eq_true_eq, Option.all_eq_true]
    intro s _ v hv
    obtain ⟨k, a, -, -, rfl⟩ := get?_encodeMap.mp hv
    exact c.full_encode a
  encode_of_full h hfull := encodeMap_of_full h (of_decide_eq_true hfull)

end Map

/-! ## What is valid and what is written back -/

section Lemmas

variable {α β : Type} {j : Json}

@[simp] theorem valid_string {s : String} : string.valid s = true := rfl

@[simp] theorem valid_enumeration {variants : List α} {name : α → String}
    {hmem : ∀ a, a ∈ variants} {hn : (variants.map name).Nodup} {a : α} :
    (enumeration variants name hmem hn).valid a = true := rfl

@[simp] theorem valid_bool {b : Bool} : bool.valid b = true := rfl

@[simp] theorem valid_unsigned {n : UInt64} : unsigned.valid n = true := rfl

@[simp] theorem valid_signed {n : Int64} : signed.valid n = true := rfl

@[simp] theorem valid_imap {c : Codec α} {e : α ≃ β} {b : β} :
    (c.imap e).valid b = c.valid (e.symm b) := rfl

@[simp] theorem valid_list {c : Codec α} {l : List α} : c.list.valid l = l.all c.valid := rfl

@[simp] theorem full_text {t : Text α} : (text t).full j = true := rfl

@[simp] theorem full_string : string.full j = true := rfl

@[simp] theorem full_enumeration {variants : List α} {name : α → String}
    {hmem : ∀ a, a ∈ variants} {hn : (variants.map name).Nodup} :
    (enumeration variants name hmem hn).full j = j.isStr := rfl

@[simp] theorem full_bool : bool.full j = true := rfl

@[simp] theorem full_unsigned : unsigned.full j = true := rfl

@[simp] theorem full_checked {c : Codec α} {check : α → Bool} :
    (c.checked check).full j = c.full j := rfl

@[simp] theorem full_imap {c : Codec α} {e : α ≃ β} : (c.imap e).full j = c.full j := rfl

@[simp] theorem full_list {c : Codec α} :
    c.list.full j = true ↔ j.Each fun v => c.full v = true := by
  cases j <;> simp [list, Json.Each]

section Map

variable {κ : Type} [DecidableEq κ] {cmp : κ → κ → Ordering} [Std.TransCmp cmp]
  [Std.LawfulEqCmp cmp] {t : Text κ} {c : Codec α}

@[simp] theorem valid_map {m : Std.ExtTreeMap κ α cmp} :
    (map t c).valid m = m.toList.all fun e => c.valid e.2 := rfl

@[simp] theorem full_map :
    (map t c : Codec (Std.ExtTreeMap κ α cmp)).full j = true ↔
      ∀ s, j.At s fun v => c.full v = true := by
  show decide (∀ s ∈ j.keys, (j.get? s).all c.full = true) = true ↔ _
  simp only [decide_eq_true_eq, Json.mem_keys, Option.all_eq_true]
  exact ⟨fun h s v hv => h s (Option.isSome_of_eq_some hv) v hv, fun h s _ v hv => h s v hv⟩

end Map

end Lemmas

end Codec
end Platform
