import PlatformContracts.Contracts.Capability
import PlatformContracts.Contracts.Shutdown
import PlatformContracts.Lib.Regex

/-!
# Strings as bytes and as characters

The validators of strings look at the bytes of UTF-8, the patterns of the schemas at code points.
An ASCII character is one byte, and the bytes of the others are none of ASCII.

* `AsciiClass`: a class of bytes and a class of characters that are the same of ASCII;
  `AsciiClass.all_iff`: all bytes of a string are in the one exactly when all its characters are in
  the other. Then the lengths are the same.
* `splitOn_bytes`, `AsciiClass.splitOn_iff`: parts between ASCII separators, as bytes and as
  characters.
* The validators of identifiers, codes and digests accept what their patterns do.
-/

namespace Platform
namespace Contracts

/-! ## Bytes of characters -/

theorem bytes_toList {s : String} : bytes s = s.toList.flatMap String.utf8EncodeChar := by
  rw [← bytes_ofList, String.ofList_toList]

theorem bytes_inj {s t : String} : bytes s = bytes t ↔ s = t := by
  rw [bytes, bytes, Array.toList_inj, ← ByteArray.ext_iff]
  exact String.toByteArray_inj

theorem flatMap_encode_injective : Function.Injective (List.flatMap String.utf8EncodeChar) := by
  intro l l' h
  rw [← bytes_ofList, ← bytes_ofList, bytes_inj] at h
  exact String.ofList_injective h

theorem bytes_eq_nil {s : String} : bytes s = [] ↔ s = "" := by
  rw [bytes_toList, List.flatMap_eq_nil_iff, ← String.toList_eq_nil_iff]
  constructor
  · intro h
    refine List.eq_nil_iff_forall_not_mem.mpr fun c hc => ?_
    exact String.utf8EncodeChar_ne_nil (h c hc)
  · intro h
    simp [h]

/-- A character has at least one byte. -/
theorem length_le_bytes {s : String} : s.length ≤ (bytes s).length := by
  rw [bytes_toList, ← String.length_toList]
  induction s.toList with
  | nil => simp
  | cons c l ih =>
    have := c.utf8Size_pos
    simp only [List.flatMap_cons, List.length_append, List.length_cons,
      String.length_utf8EncodeChar]
    omega

theorem encode_of_ascii {c : Char} (h : c.toNat < 128) :
    String.utf8EncodeChar c = [UInt8.ofNat c.toNat] := by
  have h' : c.val.toNat ≤ 0x7f := by
    have : c.val.toNat = c.toNat := rfl
    omega
  unfold String.utf8EncodeChar
  exact if_pos h'

theorem flatMap_encode_of_ascii {l : List Char} (h : ∀ c ∈ l, c.toNat < 128) :
    l.flatMap String.utf8EncodeChar = l.map fun c => UInt8.ofNat c.toNat := by
  induction l with
  | nil => rfl
  | cons c l ih =>
    rw [List.forall_mem_cons] at h
    rw [List.flatMap_cons, encode_of_ascii h.1, ih h.2, List.map_cons, List.singleton_append]

theorem encode_of_not_ascii {c : Char} (h : ¬c.toNat < 128) :
    ∀ b ∈ String.utf8EncodeChar c, 128 ≤ b.toNat := by
  have h' : ¬c.val.toNat ≤ 0x7f := by
    have : c.val.toNat = c.toNat := rfl
    omega
  simp only [String.utf8EncodeChar, h', if_false]
  intro b hb
  split at hb
  · simp at hb
    rcases hb with rfl | rfl <;> simp <;> omega
  split at hb
  · simp at hb
    rcases hb with rfl | rfl | rfl <;> simp <;> omega
  · simp at hb
    rcases hb with rfl | rfl | rfl | rfl <;> simp <;> omega

/-! ## Classes of ASCII -/

/-- A class of bytes and a class of characters that are the same characters of ASCII. -/
structure AsciiClass (q : UInt8 → Bool) (p : Char → Bool) : Prop where
  bytes_lt : ∀ b, q b → b.toNat < 128
  chars_lt : ∀ c, p c → c.toNat < 128
  agree : ∀ n < 128, p (Char.ofNat n) = q (UInt8.ofNat n)

open Regex

/-- The code is in one of the ranges. -/
def codeIn (ranges : List (Char × Char)) (n : Nat) : Bool :=
  ranges.any fun r => r.1.toNat ≤ n && n ≤ r.2.toNat

theorem inRanges_eq {ranges : List (Char × Char)} {c : Char} :
    inRanges ranges c = codeIn ranges c.toNat := by
  simp only [inRanges, codeIn, Char.le_def, UInt32.le_iff_toNat_le]
  rfl

theorem toNat_ofByte {n : Nat} (h : n < 128) : (Char.ofNat n).toNat = n := by
  have hv : n.isValidChar := .inl (by omega)
  rw [Char.toNat_ofNat, if_pos hv]

theorem AsciiClass.of_ranges {ranges : List (Char × Char)} {q : UInt8 → Bool}
    (hr : ∀ r ∈ ranges, r.2.toNat < 128) (hq : ∀ b, q b = codeIn ranges b.toNat) :
    AsciiClass q (inRanges ranges) := by
  have hlt : ∀ n, codeIn ranges n → n < 128 := by
    intro n hn
    obtain ⟨r, hmem, hle⟩ := List.any_eq_true.mp hn
    simp only [Bool.and_eq_true, decide_eq_true_eq] at hle
    exact Nat.lt_of_le_of_lt hle.2 (hr r hmem)
  constructor
  · intro b hb
    exact hlt _ (hq b ▸ hb)
  · intro c hc
    exact hlt _ (inRanges_eq ▸ hc)
  · intro n hn
    rw [inRanges_eq, toNat_ofByte hn, hq, UInt8.toNat_ofNat', Nat.mod_eq_of_lt (by omega)]

section Ascii

variable {q : UInt8 → Bool} {p : Char → Bool} {s : String}

theorem AsciiClass.encode_iff (h : AsciiClass q p) {c : Char} :
    (∀ b ∈ String.utf8EncodeChar c, q b) ↔ p c := by
  by_cases hc : c.toNat < 128
  · rw [encode_of_ascii hc, List.forall_mem_singleton, ← h.agree _ hc, Char.ofNat_toNat]
  · obtain ⟨b, l, hb⟩ := List.exists_cons_of_ne_nil (String.utf8EncodeChar_ne_nil (c := c))
    have hmem : b ∈ String.utf8EncodeChar c := hb ▸ List.mem_cons_self
    constructor
    · intro hall
      have := h.bytes_lt b (hall b hmem)
      have := encode_of_not_ascii hc b hmem
      omega
    · intro hp
      exact absurd (h.chars_lt c hp) hc

theorem AsciiClass.all_iff (h : AsciiClass q p) :
    (∀ b ∈ bytes s, q b) ↔ ∀ c ∈ s.toList, p c := by
  rw [bytes_toList, List.forall_mem_flatMap]
  exact forall₂_congr fun c _ => h.encode_iff

theorem bytes_of_ascii (h : ∀ c ∈ s.toList, c.toNat < 128) :
    bytes s = s.toList.map fun c => UInt8.ofNat c.toNat :=
  bytes_toList.trans (flatMap_encode_of_ascii h)

theorem AsciiClass.length_eq (h : AsciiClass q p) (hs : ∀ c ∈ s.toList, p c) :
    (bytes s).length = s.length := by
  rw [bytes_of_ascii fun c hc => h.chars_lt c (hs c hc), List.length_map, String.length_toList]

/-- Some number of bytes of a class, not none. -/
theorem AsciiClass.plus_iff (h : AsciiClass q p) {max : Nat} :
    (bytes s ≠ [] ∧ (bytes s).length ≤ max ∧ ∀ b ∈ bytes s, q b) ↔
      s.toList ∈ (plus (chars p)).language ∧ s.length ≤ max := by
  rw [h.all_iff, mem_plus_chars, Ne, bytes_eq_nil, ← String.toList_eq_nil_iff]
  constructor
  · rintro ⟨hne, hlen, hp⟩
    exact ⟨⟨hne, hp⟩, h.length_eq hp ▸ hlen⟩
  · rintro ⟨⟨hne, hp⟩, hlen⟩
    exact ⟨hne, (h.length_eq hp).symm ▸ hlen, hp⟩

/-- A fixed number of bytes of a class. -/
theorem AsciiClass.times_iff (h : AsciiClass q p) {n : Nat} :
    ((bytes s).length = n ∧ ∀ b ∈ bytes s, q b) ↔
      s.toList ∈ (times (chars p) n).language := by
  rw [h.all_iff, mem_times_chars, String.length_toList]
  refine and_congr_left fun hp => ?_
  rw [h.length_eq hp]

end Ascii

/-! ## Separators -/

theorem flatMap_intercalate {α β : Type} (f : α → List β) (d : α) (parts : List (List α)) :
    ([d].intercalate parts).flatMap f = (f d).intercalate (parts.map (List.flatMap f)) := by
  induction parts with
  | nil => rfl
  | cons part parts ih =>
    cases parts with
    | nil => simp
    | cons part' parts =>
      rw [List.map_cons, List.map_cons, List.intercalate_cons_cons, List.intercalate_cons_cons,
        ← List.map_cons, ← ih]
      simp

/-- An element of a part is an element of the whole, and not the separator. -/
theorem mem_part {α : Type} [DecidableEq α] {d a : α} {l part : List α}
    (h : part ∈ l.splitOn d) (ha : a ∈ part) : a ∈ l ∧ a ≠ d := by
  induction l generalizing part with
  | nil =>
    rw [List.splitOn_nil, List.mem_singleton] at h
    subst h
    cases ha
  | cons b l ih =>
    rw [List.splitOn_cons_eq_if_modifyHead] at h
    split at h
    · rcases List.mem_cons.mp h with rfl | h
      · cases ha
      · exact (ih h ha).imp_left (List.mem_cons_of_mem b)
    · next hb =>
      obtain ⟨first, rest, hsplit⟩ := List.exists_cons_of_ne_nil (List.splitOn_ne_nil d l)
      rw [hsplit] at h ih
      rcases List.mem_cons.mp h with rfl | h
      · rcases List.mem_cons.mp ha with rfl | ha
        · exact ⟨List.mem_cons_self, by simpa using hb⟩
        · exact (ih List.mem_cons_self ha).imp_left (List.mem_cons_of_mem b)
      · exact (ih (List.mem_cons_of_mem _ h) ha).imp_left (List.mem_cons_of_mem b)

theorem mem_intercalate {α : Type} {d a : α} {parts : List (List α)}
    (h : a ∈ [d].intercalate parts) : a = d ∨ ∃ part ∈ parts, a ∈ part := by
  induction parts with
  | nil => cases h
  | cons part parts ih =>
    cases parts with
    | nil => exact .inr ⟨part, by simp, by simpa using h⟩
    | cons part' parts =>
      rw [List.intercalate_cons_cons, List.mem_append, List.mem_append, List.mem_singleton] at h
      rcases h with (h | h) | h
      · exact .inr ⟨part, by simp, h⟩
      · exact .inl h
      · rcases ih h with h | ⟨u, hu, ha⟩
        · exact .inl h
        · exact .inr ⟨u, List.mem_cons_of_mem _ hu, ha⟩

section Separated

variable {q : UInt8 → Bool} {p : Char → Bool} {s : String} {d : Char}

/-- The byte of an ASCII character has its code. -/
theorem toNat_byte {c : Char} (h : c.toNat < 128) : (UInt8.ofNat c.toNat).toNat = c.toNat := by
  rw [UInt8.toNat_ofNat', Nat.mod_eq_of_lt (by omega)]

theorem AsciiClass.insert (h : AsciiClass q p) (hd : d.toNat < 128) :
    AsciiClass (fun b => q b || b == UInt8.ofNat d.toNat) fun c => p c || c == d where
  bytes_lt b hb := by
    rw [Bool.or_eq_true, beq_iff_eq] at hb
    rcases hb with hb | rfl
    · exact h.bytes_lt b hb
    · rw [toNat_byte hd]
      exact hd
  chars_lt c hc := by
    rw [Bool.or_eq_true, beq_iff_eq] at hc
    rcases hc with hc | rfl
    · exact h.chars_lt c hc
    · exact hd
  agree n hn := by
    have heq : Char.ofNat n = d ↔ UInt8.ofNat n = UInt8.ofNat d.toNat := by
      rw [← UInt8.toNat_inj, toNat_byte hd, ← Char.toNat_inj, toNat_ofByte hn,
        UInt8.toNat_ofNat', Nat.mod_eq_of_lt (by omega)]
    rw [h.agree n hn, Bool.eq_iff_iff]
    simp [heq]

theorem AsciiClass.char_of_byte (h : AsciiClass q p) {b : UInt8} (hb : q b) :
    p (Char.ofNat b.toNat) := by
  rw [h.agree _ (h.bytes_lt b hb), UInt8.ofNat_toNat]
  exact hb

theorem AsciiClass.byte_of_char (h : AsciiClass q p) {c : Char} (hc : p c) :
    q (UInt8.ofNat c.toNat) := by
  rw [← h.agree _ (h.chars_lt c hc), Char.ofNat_toNat]
  exact hc

/-- The byte of an ASCII character is no part of another character. -/
theorem ascii_mem_encode {c : Char} (hd : d.toNat < 128) :
    UInt8.ofNat d.toNat ∈ String.utf8EncodeChar c ↔ c = d := by
  constructor
  · intro hm
    by_cases hc : c.toNat < 128
    · rw [encode_of_ascii hc, List.mem_singleton, ← UInt8.toNat_inj, toNat_byte hd,
        toNat_byte hc] at hm
      exact Char.toNat_inj.mp hm.symm
    · have hge := encode_of_not_ascii hc _ hm
      rw [toNat_byte hd] at hge
      omega
  · rintro rfl
    rw [encode_of_ascii hd]
    exact List.mem_singleton_self _

theorem ascii_mem_bytes (hd : d.toNat < 128) :
    UInt8.ofNat d.toNat ∈ bytes s ↔ d ∈ s.toList := by
  simp only [bytes_toList, List.mem_flatMap, ascii_mem_encode hd, exists_eq_right]

/-- Cutting the bytes at an ASCII character cuts the string there. -/
theorem splitOn_bytes (hd : d.toNat < 128) : (bytes s).splitOn (UInt8.ofNat d.toNat) =
    (s.toList.splitOn d).map (List.flatMap String.utf8EncodeChar) := by
  have hjoin : bytes s = [UInt8.ofNat d.toNat].intercalate
      ((s.toList.splitOn d).map (List.flatMap String.utf8EncodeChar)) := by
    rw [← encode_of_ascii hd, ← flatMap_intercalate, List.intercalate_splitOn, bytes_toList]
  rw [hjoin]
  refine List.splitOn_intercalate _ ?_ ?_
  · rw [List.forall_mem_map]
    intro part hpart hm
    obtain ⟨c, hc, hm⟩ := List.mem_flatMap.mp hm
    exact (mem_part hpart hc).2 ((ascii_mem_encode hd).mp hm)
  · rw [Ne, List.map_eq_nil_iff]
    exact List.splitOn_ne_nil _ _

/-- The parts of a class between separators, as characters and as bytes. -/
theorem AsciiClass.splitOn_iff (h : AsciiClass q p) (hd : d.toNat < 128) (hpd : p d = false)
    {parts : List (List Char)} (hne : parts ≠ []) (hparts : ∀ part ∈ parts, ∀ c ∈ part, p c) :
    (bytes s).splitOn (UInt8.ofNat d.toNat) =
        parts.map (List.map fun c => UInt8.ofNat c.toNat) ↔
      s.toList = [d].intercalate parts := by
  have hbytes : parts.map (List.map fun c => UInt8.ofNat c.toNat) =
      parts.map (List.flatMap String.utf8EncodeChar) :=
    List.map_congr_left fun part hpart =>
      (flatMap_encode_of_ascii fun c hc => h.chars_lt c (hparts part hpart c hc)).symm
  have hd' : ∀ part ∈ parts, d ∉ part := by
    intro part hpart hmem
    have := hparts part hpart d hmem
    rw [hpd] at this
    cases this
  rw [hbytes, splitOn_bytes hd, (List.map_injective_iff.mpr flatMap_encode_injective).eq_iff]
  constructor
  · rintro rfl
    exact (List.intercalate_splitOn d).symm
  · intro hs
    rw [hs]
    exact List.splitOn_intercalate d hd' hne

/-- Bytes of a class are the bytes of characters. -/
theorem AsciiClass.exists_parts (h : AsciiClass q p) {l : List (List UInt8)}
    (hl : ∀ part ∈ l, ∀ b ∈ part, q b) :
    ∃ parts : List (List Char), l = parts.map (List.map fun c => UInt8.ofNat c.toNat) ∧
      ∀ part ∈ parts, ∀ c ∈ part, p c := by
  refine ⟨l.map (List.map fun b => Char.ofNat b.toNat), ?_, ?_⟩
  · rw [List.map_map]
    refine (List.map_id _).symm.trans (List.map_congr_left fun part hpart => ?_)
    rw [Function.comp_apply, List.map_map]
    refine (List.map_id _).symm.trans (List.map_congr_left fun b hb => ?_)
    rw [Function.comp_apply, toNat_ofByte (h.bytes_lt b (hl part hpart b hb)), UInt8.ofNat_toNat,
      id]
  · rw [List.forall_mem_map]
    intro part hpart
    rw [List.forall_mem_map]
    exact fun b hb => h.char_of_byte (hl part hpart b hb)

/-- Parts of a class between separators, with no part empty. -/
theorem AsciiClass.separated_iff (h : AsciiClass q p) (hd : d.toNat < 128) (hpd : p d = false) :
    (∀ part ∈ (bytes s).splitOn (UInt8.ofNat d.toNat), part ≠ [] ∧ ∀ b ∈ part, q b) ↔
      s.toList ∈
        (seq (plus (chars p)) (star (seq (chars (· == d)) (plus (chars p))))).language := by
  rw [mem_separated]
  simp only [mem_plus_chars]
  constructor
  · intro hall
    obtain ⟨parts, hsplit, hp⟩ := h.exists_parts fun part hpart => (hall part hpart).2
    have hne : parts ≠ [] := by
      rintro rfl
      exact List.splitOn_ne_nil _ _ hsplit
    refine ⟨parts, hne, fun part hpart => ⟨?_, hp part hpart⟩,
      (h.splitOn_iff hd hpd hne hp).mp hsplit⟩
    rintro rfl
    exact (hall [] (hsplit ▸ List.mem_map.mpr ⟨[], hpart, rfl⟩)).1 rfl
  · rintro ⟨parts, hne, hparts, hs⟩
    rw [(h.splitOn_iff hd hpd hne fun part hpart => (hparts part hpart).2).mpr hs,
      List.forall_mem_map]
    intro part hpart
    rw [Ne, List.map_eq_nil_iff, List.forall_mem_map]
    exact ⟨(hparts part hpart).1, fun c hc => h.byte_of_char ((hparts part hpart).2 c hc)⟩

/-- A string of parts has as many bytes as characters, and not none. -/
theorem AsciiClass.length_of_separated (h : AsciiClass q p) (hd : d.toNat < 128)
    (hs : s.toList ∈
      (seq (plus (chars p)) (star (seq (chars (· == d)) (plus (chars p))))).language) :
    (bytes s).length = s.length ∧ bytes s ≠ [] := by
  obtain ⟨parts, hne, hparts, hw⟩ := mem_separated.mp hs
  have hchars : ∀ c ∈ s.toList, p c || c == d := by
    intro c hc
    rw [hw] at hc
    rcases mem_intercalate hc with rfl | ⟨part, hpart, hc⟩
    · simp
    · simp [(mem_plus_chars.mp (hparts part hpart)).2 c hc]
  refine ⟨(h.insert hd).length_eq hchars, ?_⟩
  rw [Ne, bytes_eq_nil, ← String.toList_eq_nil_iff, hw]
  obtain ⟨part, parts, rfl⟩ := List.exists_cons_of_ne_nil hne
  have hpart := (mem_plus_chars.mp (hparts part List.mem_cons_self)).1
  intro hnil
  cases parts with
  | nil => exact hpart (by simpa using hnil)
  | cons part' parts =>
    rw [List.intercalate_cons_cons, List.append_eq_nil_iff, List.append_eq_nil_iff] at hnil
    exact hpart hnil.1.1

end Separated

/-! ## The validators of strings -/

theorem validateNonemptyBounded_eq_ok {field value : String} {max : Nat} :
    validateNonemptyBounded field value max = .ok () ↔
      bytes value ≠ [] ∧ (bytes value).length ≤ max := by
  simp only [validateNonemptyBounded, unit_bind_eq_ok, check_eq_ok]

/-- A bound in bytes is a bound in characters. -/
theorem length_of_bounded {field value : String} {max : Nat}
    (h : validateNonemptyBounded field value max = .ok ()) :
    1 ≤ value.length ∧ value.length ≤ max := by
  rw [validateNonemptyBounded_eq_ok, Ne, bytes_eq_nil] at h
  have hlen := length_le_bytes (s := value)
  refine ⟨?_, by omega⟩
  by_contra h0
  exact h.1 (String.length_eq_zero_iff.mp (by omega))

/-- `[!#-\[\]-~]`. -/
def identifierClass : Char → Bool := inRanges [('!', '!'), ('#', '['), (']', '~')]

theorem identifierClass_ascii :
    AsciiClass (fun byte => isAsciiGraphic byte && !(byte == 0x22 || byte == 0x5C))
      identifierClass := by
  refine .of_ranges (by decide) fun b => ?_
  rw [Bool.eq_iff_iff]
  simp [codeIn, isAsciiGraphic, UInt8.le_iff_toNat_le, ← UInt8.toNat_inj]
  omega

def identifierPattern : Regex := plus (chars identifierClass)

theorem validateIdentifier_iff {value : String} :
    validateIdentifier value = .ok () ↔
      value.toList ∈ identifierPattern.language ∧ value.length ≤ 256 := by
  simp only [validateIdentifier, unit_bind_eq_ok, check_eq_ok, List.all_eq_true]
  exact identifierClass_ascii.plus_iff

/-- `[0-9a-f]`. -/
def hexClass : Char → Bool := inRanges [('0', '9'), ('a', 'f')]

theorem hexClass_ascii :
    AsciiClass (fun byte => isAsciiDigit byte || (0x61 ≤ byte && byte ≤ 0x66)) hexClass := by
  refine .of_ranges (by decide) fun b => ?_
  rw [Bool.eq_iff_iff]
  simp [codeIn, isAsciiDigit, UInt8.le_iff_toNat_le]

def sha256Pattern : Regex := times (chars hexClass) 64

theorem validateSha256_iff {value : String} :
    validateSha256 value = .ok () ↔ value.toList ∈ sha256Pattern.language := by
  simp only [validateSha256, unit_bind_eq_ok, check_eq_ok, List.all_eq_true]
  exact hexClass_ascii.times_iff

/-- `[A-Za-z0-9._:-]`. -/
def opaqueClass : Char → Bool :=
  inRanges [('A', 'Z'), ('a', 'z'), ('0', '9'), ('.', '.'), ('_', '_'), (':', ':'), ('-', '-')]

theorem opaqueClass_ascii : AsciiClass isOpaqueIdByte opaqueClass := by
  refine .of_ranges (by decide) fun b => ?_
  rw [Bool.eq_iff_iff]
  simp [codeIn, isOpaqueIdByte, isAsciiLowercase, isAsciiDigit, UInt8.le_iff_toNat_le,
    ← UInt8.toNat_inj]
  omega

def opaquePattern : Regex := plus (chars opaqueClass)

theorem isOpaqueId_iff {value : String} :
    IsOpaqueId value ↔ value.toList ∈ opaquePattern.language ∧ value.length ≤ 256 :=
  opaqueClass_ascii.plus_iff

/-- `[a-z0-9_]`. -/
def wordClass : Char → Bool := inRanges [('a', 'z'), ('0', '9'), ('_', '_')]

theorem wordClass_ascii :
    AsciiClass (fun byte => isAsciiLowercase byte || isAsciiDigit byte || byte == 0x5F)
      wordClass := by
  refine .of_ranges (by decide) fun b => ?_
  rw [Bool.eq_iff_iff]
  simp [codeIn, isAsciiLowercase, isAsciiDigit, UInt8.le_iff_toNat_le, ← UInt8.toNat_inj]
  omega

/-- `[a-z0-9_]+(?:\.[a-z0-9_]+)*`. -/
def codePattern : Regex :=
  seq (plus (chars wordClass)) (star (seq (chars (· == '.')) (plus (chars wordClass))))

theorem validateCode_iff {code : String} :
    validateCode code = .ok () ↔ code.toList ∈ codePattern.language ∧ code.length ≤ 128 := by
  have hparts := wordClass_ascii.separated_iff (s := code) (d := '.') (by decide) (by decide)
  rw [codePattern, ← hparts]
  simp only [validateCode, unit_bind_eq_ok, check_eq_ok, validateNonemptyBounded_eq_ok,
    List.all_eq_true, Bool.and_eq_true, decide_eq_true_eq]
  constructor
  · rintro ⟨⟨-, hlen⟩, hcode⟩
    have h := wordClass_ascii.length_of_separated (d := '.') (by decide) (hparts.mp hcode)
    exact ⟨hcode, h.1 ▸ hlen⟩
  · rintro ⟨hcode, hlen⟩
    have h := wordClass_ascii.length_of_separated (d := '.') (by decide) (hparts.mp hcode)
    exact ⟨⟨h.2, h.1.symm ▸ hlen⟩, hcode⟩

def limitPattern : Regex := plus (chars wordClass)

theorem isLimitKey_iff {key : String} :
    isLimitKey key ↔ key.toList ∈ limitPattern.language ∧ key.length ≤ 128 := by
  rw [limitPattern, ← wordClass_ascii.plus_iff]
  simp [isLimitKey, and_assoc]

end Contracts
end Platform
