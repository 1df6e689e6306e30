import PlatformContracts.Lib.Record
import PlatformContracts.Lib.Schema

/-!
# Readers of what a schema accepts

* `Json.Numbers p`: a property of the numbers in a value, at every depth.
* `Codec.Reads P s c`: of the documents that the schema `s` accepts, the codec `c` reads those with
  `P`, and writes them back as they were. `P` is what the schema does not say, such as the size of
  an integer.
* A rule for each way to build a codec, against the schema of the same shape: `string`,
  `enumeration`, `unsigned`, `list`, `map`; `Fields.Reads` with `field`, `optional` and `both`, up
  to `record`; `Variants.Reads` with `variant`, `unit` and `either`, up to `tagged`.
-/

namespace Platform

/-! ## The numbers of a value -/

/-- An integer in the range of an unsigned word. -/
def Number.IsWord (n : Number) : Prop := ∃ k : Int, n = .int k ∧ 0 ≤ k ∧ k < 2 ^ 64

/-- An integer in the range of a signed word. -/
def Number.IsSigned (n : Number) : Prop := ∃ k : Int, n = .int k ∧ -2 ^ 63 ≤ k ∧ k < 2 ^ 63

namespace Json

inductive Numbers (p : Number → Prop) : Json → Prop
  | null : Numbers p null
  | bool {b : Bool} : Numbers p (bool b)
  | num {n : Number} : p n → Numbers p (num n)
  | str {s : String} : Numbers p (str s)
  | arr {items : List Json} : (∀ v ∈ items, Numbers p v) → Numbers p (arr items)
  | obj {keys : Finset String} {vals : {k // k ∈ keys} → Json} :
    (∀ k, Numbers p (vals k)) → Numbers p (obj keys vals)

section Numbers

variable {p : Number → Prop}

@[simp] theorem numbers_num {n : Number} : Numbers p (num n) ↔ p n := by
  constructor
  · rintro ⟨⟩
    assumption
  · exact .num

@[simp] theorem numbers_arr {items : List Json} :
    Numbers p (arr items) ↔ ∀ v ∈ items, Numbers p v := by
  constructor
  · rintro ⟨⟩
    assumption
  · exact .arr

theorem numbers_iff_get? {j : Json} (hj : j.isObj) :
    Numbers p j ↔ ∀ k v, j.get? k = some v → Numbers p v := by
  cases j with
  | obj keys vals =>
    have hget : ∀ k v, (obj keys vals).get? k = some v ↔ ∃ h : k ∈ keys, vals ⟨k, h⟩ = v := by
      intro k v
      simp [get?]
    constructor
    · rintro ⟨⟩ k v hv
      obtain ⟨hk, rfl⟩ := (hget k v).mp hv
      rename_i hvals
      exact hvals ⟨k, hk⟩
    · intro h
      exact .obj fun k => h k.1 _ ((hget k.1 _).mpr ⟨k.2, rfl⟩)
  | _ => cases hj

end Numbers

end Json

open Schema

/-- The keys of a record are those of its members. -/
theorem Schema.forall_closed {P : String → Json → Prop} {members : List (String × Schema)}
    {j : Json} (h : closed members j = true) :
    (∀ m ∈ members, ∀ v, j.get? m.1 = some v → P m.1 v) ↔ ∀ k v, j.get? k = some v → P k v := by
  obtain ⟨-, hclosed, -⟩ := closed_iff.mp h
  constructor
  · intro hall k v hv
    have hk := hclosed k (Json.mem_keys.mpr (Option.isSome_of_eq_some hv))
    obtain ⟨m, hm, rfl⟩ := List.mem_map.mp hk
    exact hall m hm v hv
  · exact fun hall m _ => hall m.1

theorem Schema.numbers_closed {p : Number → Prop} {members : List (String × Schema)} {j : Json}
    (h : closed members j = true) :
    j.Numbers p ↔ ∀ m ∈ members, ∀ v, j.get? m.1 = some v → v.Numbers p :=
  (Json.numbers_iff_get? (closed_iff.mp h).1).trans
    (forall_closed (P := fun _ => Json.Numbers p) h).symm

/-! ## Codecs -/

namespace Codec

variable {α β : Type}

/-- What the schema accepts is written back as it was read, and is read where `P` holds, also in
kept content. -/
def Reads (P : Json → Prop) (s : Schema) (c : Codec α) : Prop :=
  ∀ j, s j = true → c.full j = true ∧ ∀ i, (∃ a, c.read i j = some a) ↔ P j

namespace Reads

variable {P Q : Json → Prop} {s t : Schema} {c : Codec α} {j : Json}

theorem encode_read (h : Reads P s c) (hs : s j = true) {i : Input} {a : α}
    (hr : c.read i j = some a) : c.encode a = j :=
  c.encode_of_full hr (h j hs).1

/-- A schema that accepts less, and another property of what it accepts. -/
theorem weaken (h : Reads P s c) (hs : ∀ j, t j = true → s j = true)
    (hP : ∀ j, t j = true → (P j ↔ Q j)) : Reads Q t c := by
  intro j ht
  obtain ⟨hfull, hread⟩ := h j (hs j ht)
  exact ⟨hfull, fun i => (hread i).trans (hP j ht)⟩

theorem allOf (h : Reads P s c) {rest : List Schema} : Reads P (allOf (s :: rest)) c := by
  refine h.weaken (fun j hj => ?_) fun _ _ => Iff.rfl
  rw [allOf_cons, Bool.and_eq_true] at hj
  exact hj.1

theorem imap (h : Reads P s c) (e : α ≃ β) : Reads P s (c.imap e) := by
  intro j hs
  obtain ⟨hfull, hread⟩ := h j hs
  refine ⟨hfull, fun i => ?_⟩
  rw [← hread i]
  show (∃ b, (c.read i j).map e = some b) ↔ _
  constructor
  · rintro ⟨b, hb⟩
    obtain ⟨a, ha, -⟩ := Option.map_eq_some_iff.mp hb
    exact ⟨a, ha⟩
  · rintro ⟨a, ha⟩
    exact ⟨e a, by rw [ha, Option.map_some]⟩

/-- A check after the reading, which the accepted values pass where `Q` holds. -/
theorem checked (h : Reads P s c) {check : α → Bool}
    (hcheck : ∀ a, s (c.encode a) = true → (check a = true ↔ Q (c.encode a))) :
    Reads (fun j => P j ∧ Q j) s (c.checked check) := by
  intro j hs
  obtain ⟨hfull, hread⟩ := h j hs
  refine ⟨hfull, fun i => ?_⟩
  show (∃ a, (c.read i j).filter check = some a) ↔ P j ∧ Q j
  rw [← hread i]
  constructor
  · rintro ⟨a, ha⟩
    obtain ⟨hr, hc⟩ := Option.filter_eq_some_iff.mp ha
    obtain rfl := h.encode_read hs hr
    exact ⟨⟨a, hr⟩, (hcheck a hs).mp hc⟩
  · rintro ⟨⟨a, hr⟩, hq⟩
    obtain rfl := h.encode_read hs hr
    exact ⟨a, Option.filter_eq_some_iff.mpr ⟨hr, (hcheck a hs).mpr hq⟩⟩

/-- A check that all accepted values pass. -/
theorem checked_all (h : Reads P s c) {check : α → Bool}
    (hcheck : ∀ a, s (c.encode a) = true → check a = true) : Reads P s (c.checked check) :=
  (h.checked (Q := fun _ => True) fun a hs => iff_of_true (hcheck a hs) trivial).weaken
    (fun _ hs => hs) fun _ _ => and_iff_left trivial

/-- A codec whose values are all valid, and a schema that accepts only what it writes. -/
theorem of_encode (hvalid : ∀ a, c.valid a = true)
    (hs : ∀ j, s j = true → P j ∧ ∃ a, j = c.encode a) : Reads P s c := by
  intro j hj
  obtain ⟨hP, a, rfl⟩ := hs j hj
  refine ⟨c.full_encode a, fun i => iff_of_true ⟨a, ?_⟩ hP⟩
  rw [c.read_encode, if_pos (hvalid a)]

theorem string (hs : ∀ j, s j = true → P j ∧ ∃ value, j = .str value) : Reads P s string :=
  of_encode (fun _ => rfl) hs

theorem enumeration {variants : List α} {name : α → String} {hmem : ∀ a, a ∈ variants}
    {hn : (variants.map name).Nodup} (hs : ∀ j, s j = true → P j ∧ ∃ a, j = .str (name a)) :
    Reads P s (enumeration variants name hmem hn) :=
  of_encode (fun _ => rfl) hs

theorem bool (hs : ∀ j, s j = true → P j ∧ ∃ b, j = .bool b) : Reads P s bool :=
  of_encode (fun _ => rfl) hs

theorem list (h : Reads P s c) (hs : ∀ j, t j = true → ∃ items, j = .arr items ∧
    (∀ v ∈ items, s v = true) ∧ (Q j ↔ ∀ v ∈ items, P v)) : Reads Q t c.list := by
  intro j hj
  obtain ⟨items, rfl, hitems, hQ⟩ := hs j hj
  constructor
  · exact List.all_eq_true.mpr fun v hv => (h v (hitems v hv)).1
  · intro i
    rw [hQ]
    show (∃ l, items.mapM (c.read i) = some l) ↔ _
    simp only [mapM_eq_some]
    constructor
    · rintro ⟨l, hl⟩ v hv
      obtain ⟨a, -, ha⟩ := Keyed.exists_right hl hv
      exact ((h v (hitems v hv)).2 i).mp ⟨a, ha⟩
    · intro hall
      exact Keyed.exists_forall₂ fun v hv => ((h v (hitems v hv)).2 i).mpr (hall v hv)

theorem unsigned (hs : ∀ j, s j = true → ∃ n, j = .num n ∧ (P j ↔ n.IsWord)) :
    Reads P s unsigned := by
  intro j hj
  obtain ⟨n, rfl, hP⟩ := hs j hj
  refine ⟨rfl, fun i => ?_⟩
  rw [hP]
  cases n with
  | int k =>
    show (∃ a, (if 0 ≤ k ∧ k < 2 ^ 64 then some (UInt64.ofNat k.toNat) else none) = some a) ↔ _
    simp [Number.IsWord]
  | decimal q => simp [Number.IsWord, Codec.unsigned]

theorem signed (hs : ∀ j, s j = true → ∃ n, j = .num n ∧ (P j ↔ n.IsSigned)) :
    Reads P s signed := by
  intro j hj
  obtain ⟨n, rfl, hP⟩ := hs j hj
  refine ⟨rfl, fun i => ?_⟩
  rw [hP]
  cases n with
  | int k =>
    show (∃ a, (if -2 ^ 63 ≤ k ∧ k < 2 ^ 63 then some (Int64.ofInt k) else none) = some a) ↔ _
    simp [Number.IsSigned]
  | decimal q => simp [Number.IsSigned, Codec.signed]

/-- A map from strings: each member of the object is an entry. -/
theorem map {cmp : String → String → Ordering} [Std.TransCmp cmp] [Std.LawfulEqCmp cmp]
    (h : Reads P s c) (hs : ∀ j, t j = true → j.isObj ∧
      (∀ k v, j.get? k = some v → s v = true) ∧ (Q j ↔ ∀ k v, j.get? k = some v → P v)) :
    Reads Q t (map .string c : Codec (Std.ExtTreeMap String α cmp)) := by
  intro j hj
  obtain ⟨hobj, hmembers, hQ⟩ := hs j hj
  refine ⟨full_map.mpr fun k v hv => (h v (hmembers k v hv)).1, fun i => ?_⟩
  rw [hQ]
  show (∃ m, readMap i .string c j = some m) ↔ _
  constructor
  · rintro ⟨m, hm⟩ k v hv
    obtain ⟨-, hall, -⟩ := readMap_eq_some.mp hm
    obtain ⟨p, hp⟩ := hall k (Json.mem_keys.mpr (Option.isSome_of_eq_some hv))
    obtain ⟨-, w, hw, ha⟩ := entry_eq_some.mp hp
    rw [hv, Option.some_inj] at hw
    exact ((h v (hmembers k v hv)).2 i).mp ⟨p.2, hw ▸ ha⟩
  · intro hall
    have hentry : ∀ k ∈ j.keys.sort, ∃ p, entry i .string c j k = some p := by
      intro k hk
      obtain ⟨v, hv⟩ := Option.isSome_iff_exists.mp (Json.mem_keys.mp ((Finset.mem_sort _).mp hk))
      obtain ⟨a, ha⟩ := ((h v (hmembers k v hv)).2 i).mpr (hall k v hv)
      exact ⟨(k, a), entry_eq_some.mpr ⟨rfl, v, hv, ha⟩⟩
    obtain ⟨l, hl⟩ := Keyed.exists_forall₂ hentry
    rw [readMap, if_pos hobj, mapM_eq_some.mpr hl]
    exact ⟨_, rfl⟩

end Reads

end Codec

/-! ## Members of an object -/

namespace Fields

variable {α β : Type}

/-- The same for the members of an object, each with the property of its key. -/
def Reads (P : String → Json → Prop) (members : List (String × Schema)) (f : Fields α) : Prop :=
  ∀ j, (∀ m ∈ members, ∃ v, j.get? m.1 = some v ∧ m.2 v = true) → f.full j = true ∧
    ∀ i, (∃ a, f.read i j = some a) ↔ ∀ m ∈ members, ∀ v, j.get? m.1 = some v → P m.1 v

namespace Reads

variable {P : String → Json → Prop} {members : List (String × Schema)} {f : Fields α}
  {g : Fields β} {name : String} {s t : Schema} {c : Codec α}

theorem field (h : c.Reads (P name) s) : Reads P [(name, s)] (field name c) := by
  intro j hj
  obtain ⟨v, hv, hs⟩ := hj _ (List.mem_singleton_self _)
  obtain ⟨hfull, hread⟩ := h v hs
  constructor
  · rw [Codec.full_field]
    intro w hw
    rw [hv, Option.some_inj] at hw
    exact hw ▸ hfull
  · intro i
    show (∃ a, (j.get? name).bind (c.read i) = some a) ↔ _
    simp [hv, hread]

/-- The value of an optional key, which the schema requires, is null or accepted. -/
theorem optional (h : c.Reads (P name) s)
    (ht : ∀ v, t v = true → v = .null ∧ P name v ∨ v ≠ .null ∧ s v = true) :
    Reads P [(name, t)] (optional name c) := by
  intro j hj
  obtain ⟨v, hv, hs⟩ := hj _ (List.mem_singleton_self _)
  rw [Codec.full_optional]
  show _ ∧ ∀ i, (∃ o, readOption c i (j.get? name) = some o) ↔ _
  rcases ht v hs with ⟨rfl, hP⟩ | ⟨hne, hs⟩
  · refine ⟨⟨_, hv, .inl rfl⟩, fun i => ?_⟩
    simp [hv, readOption, hP]
  · obtain ⟨hfull, hread⟩ := h v hs
    refine ⟨⟨v, hv, .inr hfull⟩, fun i => ?_⟩
    simp [hv, readOption_some hne, ← hread i]

theorem both {m : String × Schema} (hf : f.Reads P [m]) (hg : g.Reads P members) :
    (f.both g).Reads P (m :: members) := by
  intro j hj
  rw [← List.singleton_append, List.forall_mem_append] at hj
  obtain ⟨hfull, hread⟩ := hf j hj.1
  obtain ⟨hfull', hread'⟩ := hg j hj.2
  constructor
  · rw [Codec.full_both, hfull, hfull', Bool.and_self]
  · intro i
    rw [← List.singleton_append, List.forall_mem_append, ← hread i, ← hread' i]
    show (∃ p, ((f.read i j).bind fun a => (g.read i j).map fun b => (a, b)) = some p) ↔ _
    cases f.read i j <;> cases g.read i j <;> simp

/-- A record denies the keys that its schema does not list. -/
theorem record (hf : f.Reads P members) (hkeys : f.keys = members.map Prod.fst)
    {hn : f.keys.Nodup} : (Codec.record f hn).Reads
      (fun j => ∀ k v, j.get? k = some v → P k v) (closed members) := by
  intro j hj
  obtain ⟨hobj, hclosed, hmembers⟩ := closed_iff.mp hj
  obtain ⟨hfull, hread⟩ := hf j hmembers
  rw [Codec.full_record, hobj, hfull, Bool.and_self]
  refine ⟨rfl, fun i => ?_⟩
  rw [Codec.read_record hobj (hkeys ▸ hclosed), hread i, forall_closed hj]

end Reads

end Fields

/-! ## Enumerations -/

namespace Variants

variable {tag : String} {α β : Type}

/-- The same for the documents that one of the schemas accepts, which name a variant. -/
def Reads (P : Json → Prop) (schemas : List Schema) (v : Variants tag α) : Prop :=
  ∀ s ∈ schemas, ∀ j, s j = true → ∃ n ∈ v.names, j.get? tag = some (.str n) ∧
    v.full n j = true ∧ ∀ i, (∃ a, v.read i n j = some a) ↔ P j

namespace Reads

variable {P : Json → Prop} {schemas : List Schema} {v : Variants tag α} {w : Variants tag β}

theorem variant {name : String} {f : Fields α} {Pk : String → Json → Prop}
    {members : List (String × Schema)} (hf : f.Reads Pk members)
    (hkeys : f.keys = members.map Prod.fst) {hn : (tag :: f.keys).Nodup}
    (hP : ∀ j, closed ((tag, const (.str name)) :: members) j = true →
      (P j ↔ ∀ m ∈ members, ∀ v, j.get? m.1 = some v → Pk m.1 v)) :
    (Variants.variant name f hn).Reads P [closed ((tag, const (.str name)) :: members)] := by
  intro s hs j hj
  obtain rfl := List.mem_singleton.mp hs
  obtain ⟨hobj, hclosed, hmembers⟩ := closed_iff.mp hj
  rw [List.forall_mem_cons] at hmembers
  obtain ⟨⟨v, hv, hname⟩, hmembers⟩ := hmembers
  obtain rfl := Json.same_str.mp hname
  obtain ⟨hfull, hread⟩ := hf j hmembers
  refine ⟨name, List.mem_singleton_self _, hv, hfull, fun i => ?_⟩
  show (∃ a, (if name = name ∧ ∀ k ∈ j.keys, k ∈ tag :: f.keys then f.read i j else none) =
    some a) ↔ _
  rw [if_pos ⟨rfl, hkeys ▸ hclosed⟩, hread i, hP j hj]

theorem unit {name : String} (hP : ∀ j, closed [(tag, const (.str name))] j = true → P j) :
    (Variants.unit name : Variants tag Unit).Reads P [closed [(tag, const (.str name))]] := by
  intro s hs j hj
  obtain rfl := List.mem_singleton.mp hs
  obtain ⟨hobj, hclosed, hmembers⟩ := closed_iff.mp hj
  obtain ⟨v, hv, hname⟩ := hmembers _ (List.mem_singleton_self _)
  obtain rfl := Json.same_str.mp hname
  refine ⟨name, List.mem_singleton_self _, hv, ?_,
    fun _ => iff_of_true ⟨(), if_pos rfl⟩ (hP j hj)⟩
  exact decide_eq_true fun k hk => List.mem_singleton.mp (hclosed k hk)

theorem either {first : Schema} (hv : v.Reads P [first]) (hw : w.Reads P schemas)
    {hd : ∀ n ∈ v.names, n ∉ w.names} : (v.either w hd).Reads P (first :: schemas) := by
  intro s hs j hj
  show ∃ n ∈ v.names ++ w.names, _ ∧ (if n ∈ v.names then v.full n j else w.full n j) = true ∧
    ∀ i, (∃ x, (if n ∈ v.names then (v.read i n j).map Sum.inl else (w.read i n j).map Sum.inr) =
      some x) ↔ P j
  rcases List.mem_cons.mp hs with rfl | hs
  · obtain ⟨n, hn, htag, hfull, hread⟩ := hv s (List.mem_singleton_self _) j hj
    refine ⟨n, List.mem_append_left _ hn, htag, ?_, fun i => ?_⟩
    · rw [if_pos hn, hfull]
    · simp [hn, ← hread i]
  · obtain ⟨n, hn, htag, hfull, hread⟩ := hw s hs j hj
    have hnot : n ∉ v.names := fun h => hd n h hn
    refine ⟨n, List.mem_append_right _ hn, htag, ?_, fun i => ?_⟩
    · rw [if_neg hnot, hfull]
    · simp [hnot, ← hread i]

theorem tagged {t : Tagging} (hv : v.Reads P schemas) :
    (Codec.tagged t tag v).Reads P (oneOf schemas) := by
  intro j hj
  rw [oneOf, decide_eq_true_iff] at hj
  obtain ⟨s, hs, haccepts⟩ := List.countP_pos_iff.mp (by omega : 0 < schemas.countP fun s => s j)
  obtain ⟨n, hn, htag, hfull, hread⟩ := hv s hs j haccepts
  refine ⟨Codec.full_tagged.mpr ⟨n, htag, hfull⟩, fun i => ?_⟩
  rw [Codec.read_tagged (Json.isObj_of_get? htag), htag, Option.bind_some, Tagging.find_names hn,
    Option.bind_some, hread]

end Reads

end Variants

/-! ## Documents that are read when their numbers fit -/

section Numbers

variable {p : Number → Prop} {α : Type} {c : Codec α} {s t : Schema}
  {members : List (String × Schema)}

theorem Codec.Reads.string_numbers (hs : ∀ j, s j = true → ∃ value, j = .str value) :
    Codec.string.Reads (Json.Numbers p) s := by
  refine .string fun j hj => ?_
  obtain ⟨value, rfl⟩ := hs j hj
  exact ⟨.str, value, rfl⟩

theorem Codec.Reads.list_numbers (h : c.Reads (Json.Numbers p) s)
    (hs : ∀ j, t j = true → type .array j = true ∧ items s j = true) :
    c.list.Reads (Json.Numbers p) t := by
  refine h.list fun j hj => ?_
  obtain ⟨harr, hitems⟩ := hs j hj
  cases j with
  | arr items => exact ⟨items, rfl, List.all_eq_true.mp hitems, Json.numbers_arr⟩
  | _ => cases harr

theorem Fields.Reads.record_numbers {f : Fields α}
    (hf : f.Reads (fun _ => Json.Numbers p) members) (hkeys : f.keys = members.map Prod.fst)
    {hn : f.keys.Nodup} : (Codec.record f hn).Reads (Json.Numbers p) (closed members) :=
  (hf.record hkeys).weaken (fun _ h => h) fun _ h =>
    (Json.numbers_iff_get? (closed_iff.mp h).1).symm

theorem Fields.Reads.optional_numbers {name : String} (h : c.Reads (Json.Numbers p) s)
    (ht : ∀ v, t v = true → v = .null ∨ v ≠ .null ∧ s v = true) :
    (Fields.optional name c).Reads (fun _ => Json.Numbers p) [(name, t)] := by
  refine .optional h fun v hv => ?_
  rcases ht v hv with rfl | hv
  · exact .inl ⟨rfl, .null⟩
  · exact .inr hv

/-- The name of a variant has no numbers. -/
theorem Schema.numbers_tag {tag name : String} {j : Json}
    (h : closed ((tag, const (.str name)) :: members) j = true) :
    ∀ v, j.get? tag = some v → v.Numbers p := by
  obtain ⟨w, hw, hname⟩ := (closed_iff.mp h).2.2 _ List.mem_cons_self
  obtain rfl := Json.same_str.mp hname
  intro v hv
  rw [hw, Option.some_inj] at hv
  exact hv ▸ .str

theorem Variants.Reads.variant_numbers {tag name : String} {f : Fields α}
    (hf : f.Reads (fun _ => Json.Numbers p) members) (hkeys : f.keys = members.map Prod.fst)
    {hn : (tag :: f.keys).Nodup} : (Variants.variant name f hn).Reads (Json.Numbers p)
      [closed ((tag, const (.str name)) :: members)] := by
  refine .variant hf hkeys fun j hj => ?_
  rw [numbers_closed hj, List.forall_mem_cons, and_iff_right (numbers_tag hj)]

theorem Variants.Reads.unit_numbers {tag name : String} :
    (Variants.unit name : Variants tag Unit).Reads (Json.Numbers p)
      [closed [(tag, const (.str name))]] := by
  refine .unit fun j hj => ?_
  rw [numbers_closed hj, List.forall_mem_singleton]
  exact numbers_tag hj

end Numbers

end Platform
