import PlatformContracts.Contracts.Grammar
import PlatformContracts.Vertical.Text

/-!
# The grammars of the strings of a fixture

The validators of `Text.lean` and the patterns of the schemas.

* `validateSafeId_iff`, `validateGitCommit_iff`, `validateRepositoryId_iff`,
  `validateEnvironmentName_iff`: the validator accepts what its pattern does.
* `validateRelativePath_pattern`: a path that is accepted matches its pattern, which says less.
* `validateText_length`, `validateArgument_length`: a bound in bytes is one in characters.
* `grammars_exact`: each validator with a pattern, and the bounds in characters.
-/

namespace Platform
namespace Vertical

open Contracts Regex

section Strings

variable {field value : String}

theorem validateSafeId_iff : validateSafeId field value = .ok () ↔
    value.toList ∈ identifierPattern.language ∧ value.length ≤ 256 := by
  simp only [validateSafeId, unit_bind_eq_ok, check_eq_ok, List.all_eq_true, maxIdBytes]
  exact identifierClass_ascii.plus_iff

def gitCommitPattern : Regex := times (chars hexClass) 40

theorem validateGitCommit_iff :
    validateGitCommit field value = .ok () ↔ value.toList ∈ gitCommitPattern.language := by
  simp only [validateGitCommit, check_eq_ok, List.all_eq_true]
  exact hexClass_ascii.times_iff

theorem length_of_bytes {max : Nat} (hne : bytes value ≠ []) (hlen : (bytes value).length ≤ max) :
    1 ≤ value.length ∧ value.length ≤ max :=
  have h : validateNonemptyBounded "" value max = .ok () :=
    validateNonemptyBounded_eq_ok.mpr ⟨hne, hlen⟩
  length_of_bounded h

theorem validateText_length (h : validateText field value = .ok ()) :
    1 ≤ value.length ∧ value.length ≤ 4096 := by
  simp only [validateText, unit_bind_eq_ok, check_eq_ok] at h
  exact length_of_bytes h.1 h.2.1

theorem validateArgument_length (h : validateArgument value = .ok ()) :
    1 ≤ value.length ∧ value.length ≤ 4096 := by
  simp only [validateArgument, check_eq_ok, not_or, not_lt] at h
  exact length_of_bytes h.1 h.2.1

/-! ## Repositories -/

/-- `[A-Za-z0-9_.-]`. -/
def repositoryClass : Char → Bool :=
  inRanges [('A', 'Z'), ('a', 'z'), ('0', '9'), ('_', '_'), ('.', '.'), ('-', '-')]

theorem repositoryClass_ascii :
    AsciiClass (fun byte => isAsciiAlphanumeric byte ||
      (byte == 0x2E || byte == 0x5F || byte == 0x2D)) repositoryClass := by
  refine .of_ranges (by decide) fun b => ?_
  rw [Bool.eq_iff_iff]
  simp [codeIn, isAsciiAlphanumeric, isAsciiDigit, isAsciiUppercase, isAsciiLowercase,
    UInt8.le_iff_toNat_le, ← UInt8.toNat_inj]
  omega

/-- `[A-Za-z0-9_.-]+/[A-Za-z0-9_.-]+`. -/
def repositoryPattern : Regex :=
  seq (plus (chars repositoryClass)) (seq (chars (· == '/')) (plus (chars repositoryClass)))

theorem mem_repositoryPattern {w : List Char} : w ∈ repositoryPattern.language ↔
    ∃ owner repository, owner ≠ [] ∧ repository ≠ [] ∧
      (∀ part ∈ [owner, repository], ∀ c ∈ part, repositoryClass c) ∧
      w = ['/'].intercalate [owner, repository] := by
  simp only [repositoryPattern, mem_seq, mem_plus_chars, mem_chars, beq_iff_eq,
    List.forall_mem_cons]
  constructor
  · rintro ⟨owner, ⟨ho, hoc⟩, _, ⟨_, ⟨_, rfl, rfl⟩, repository, ⟨hr, hrc⟩, rfl⟩, rfl⟩
    exact ⟨owner, repository, ho, hr, ⟨hoc, hrc, List.forall_mem_nil _⟩, by simp⟩
  · rintro ⟨owner, repository, ho, hr, ⟨hoc, hrc, -⟩, rfl⟩
    exact ⟨owner, ⟨ho, hoc⟩, _, ⟨_, ⟨'/', rfl, rfl⟩, repository, ⟨hr, hrc⟩, rfl⟩, by simp⟩

theorem isOwnerAndRepository_map {f : Char → UInt8} {parts : List (List Char)} :
    isOwnerAndRepository (parts.map (List.map f)) = true ↔
      ∃ owner repository, parts = [owner, repository] ∧ owner ≠ [] ∧ repository ≠ [] := by
  constructor
  · intro h
    match parts, h with
    | [owner, repository], h =>
      exact ⟨owner, repository, rfl, by simpa [isOwnerAndRepository] using h⟩
  · rintro ⟨owner, repository, rfl, ho, hr⟩
    simp [isOwnerAndRepository, ho, hr]

/-- The characters of a repository, with the separator, are characters of an identifier. -/
theorem identifierClass_of_repository {c : Char} (h : repositoryClass c || c == '/') :
    identifierClass c := by
  rw [Bool.or_eq_true, repositoryClass, inRanges_eq, beq_iff_eq, ← Char.toNat_inj] at h
  rw [identifierClass, inRanges_eq]
  simp [codeIn] at h ⊢
  omega

theorem validateRepositoryId_iff : validateRepositoryId value = .ok () ↔
    value.toList ∈ repositoryPattern.language ∧ value.length ≤ 256 := by
  have hsep : repositoryClass '/' = false := by decide
  rw [validateRepositoryId, unit_bind_eq_ok, check_eq_ok, validateSafeId_iff, List.all_eq_true,
    mem_repositoryPattern]
  constructor
  · rintro ⟨⟨-, hlen⟩, hparts, hall⟩
    have hclass : ∀ part ∈ (bytes value).splitOn 0x2F, ∀ b ∈ part, isAsciiAlphanumeric b ||
        (b == 0x2E || b == 0x5F || b == 0x2D) := by
      intro part hpart b hb
      obtain ⟨hmem, hne⟩ := mem_part hpart hb
      simpa [hne] using hall b hmem
    obtain ⟨parts, hsplit, hp⟩ := repositoryClass_ascii.exists_parts hclass
    rw [hsplit] at hparts
    obtain ⟨owner, repository, rfl, ho, hr⟩ := isOwnerAndRepository_map.mp hparts
    refine ⟨⟨owner, repository, ho, hr, hp, ?_⟩, hlen⟩
    exact (repositoryClass_ascii.splitOn_iff (by decide) hsep (by simp) hp).mp hsplit
  · rintro ⟨⟨owner, repository, ho, hr, hp, hvalue⟩, hlen⟩
    have hchars : ∀ c ∈ value.toList, repositoryClass c || c == '/' := by
      intro c hc
      rw [hvalue] at hc
      rcases mem_intercalate hc with rfl | ⟨part, hpart, hc⟩
      · simp
      · simp [hp part hpart c hc]
    have hsplit := (repositoryClass_ascii.splitOn_iff (by decide) hsep (by simp) hp).mpr hvalue
    refine ⟨⟨?_, hlen⟩, ?_, fun b hb => ?_⟩
    · refine mem_plus_chars.mpr ⟨?_, fun c hc => identifierClass_of_repository (hchars c hc)⟩
      rw [hvalue]
      simp
    · exact hsplit ▸ isOwnerAndRepository_map.mpr ⟨owner, repository, rfl, ho, hr⟩
    · have := (repositoryClass_ascii.insert (d := '/') (by decide)).all_iff.mpr hchars b hb
      have hslash : UInt8.ofNat '/'.toNat = 0x2F := rfl
      simpa only [Bool.or_assoc, hslash] using this

/-! ## Environments -/

/-- `[A-Z_]`. -/
def environmentStart : Char → Bool := inRanges [('A', 'Z'), ('_', '_')]

/-- `[A-Z0-9_]`. -/
def environmentClass : Char → Bool := inRanges [('A', 'Z'), ('0', '9'), ('_', '_')]

theorem environmentStart_ascii :
    AsciiClass (fun byte => isAsciiUppercase byte || byte == 0x5F) environmentStart := by
  refine .of_ranges (by decide) fun b => ?_
  rw [Bool.eq_iff_iff]
  simp [codeIn, isAsciiUppercase, UInt8.le_iff_toNat_le, ← UInt8.toNat_inj]
  omega

theorem environmentClass_ascii :
    AsciiClass (fun byte => isAsciiUppercase byte || isAsciiDigit byte || byte == 0x5F)
      environmentClass := by
  refine .of_ranges (by decide) fun b => ?_
  rw [Bool.eq_iff_iff]
  simp [codeIn, isAsciiUppercase, isAsciiDigit, UInt8.le_iff_toNat_le, ← UInt8.toNat_inj]
  omega

/-- `[A-Z_][A-Z0-9_]{0,127}`. -/
def environmentPattern : Regex :=
  seq (chars environmentStart) (upTo (chars environmentClass) 127)

theorem mem_environmentPattern {c : Char} {w : List Char} :
    c :: w ∈ environmentPattern.language ↔
      environmentStart c ∧ w.length ≤ 127 ∧ ∀ d ∈ w, environmentClass d := by
  rw [environmentPattern, cons_mem_seq, ← mem_upTo_chars]
  simp

/-- The first byte is one of the class as well. -/
theorem validateEnvironmentName_class (h : validateEnvironmentName value = .ok ()) :
    ∀ c ∈ value.toList, environmentClass c := by
  refine environmentClass_ascii.all_iff.mp ?_
  unfold validateEnvironmentName at h
  split at h
  · cases h
  · next first rest hb =>
    simp only [check_eq_ok, not_or, not_not, List.all_eq_true] at h
    obtain ⟨-, hfirst, hrest⟩ := h
    rw [hb, List.forall_mem_cons]
    refine ⟨?_, hrest⟩
    rcases Bool.or_eq_true_iff.mp hfirst with hfirst | hfirst <;> simp [hfirst]

theorem environmentClass_of_start {c : Char} (h : environmentStart c) : environmentClass c := by
  simp only [environmentStart, environmentClass, inRanges, List.any_cons, List.any_nil,
    Bool.or_false, Bool.or_eq_true] at h ⊢
  rcases h with h | h
  · exact .inl h
  · exact .inr (.inr h)

theorem validateEnvironmentName_iff :
    validateEnvironmentName value = .ok () ↔ value.toList ∈ environmentPattern.language := by
  have hclass : value.toList ∈ environmentPattern.language →
      ∀ c ∈ value.toList, environmentClass c := by
    cases value.toList with
    | nil => simp
    | cons c w =>
      rw [mem_environmentPattern, List.forall_mem_cons]
      exact fun h => ⟨environmentClass_of_start h.1, h.2.2⟩
  suffices h : (∀ c ∈ value.toList, environmentClass c) →
      (validateEnvironmentName value = .ok () ↔ value.toList ∈ environmentPattern.language) from
    ⟨fun hok => (h (validateEnvironmentName_class hok)).mp hok, fun hm => (h (hclass hm)).mpr hm⟩
  intro hall
  have hlt := fun c hc => environmentClass_ascii.chars_lt c (hall c hc)
  have hbytes := bytes_of_ascii hlt
  cases hv : value.toList with
  | nil =>
    rw [hv, List.map_nil] at hbytes
    simp [validateEnvironmentName, hbytes, environmentPattern, mem_seq]
  | cons c w =>
    rw [hv, List.forall_mem_cons] at hlt hall
    rw [hv, List.map_cons] at hbytes
    have hstart := environmentStart_ascii.agree c.toNat hlt.1
    rw [Char.ofNat_toNat] at hstart
    rw [mem_environmentPattern, hstart]
    have hrest : ∀ b ∈ w.map fun c => UInt8.ofNat c.toNat,
        isAsciiUppercase b || isAsciiDigit b || b == 0x5F := by
      rw [List.forall_mem_map]
      exact fun d hd => environmentClass_ascii.byte_of_char (hall.2 d hd)
    simp only [validateEnvironmentName, hbytes, check_eq_ok, not_or, not_not, List.all_eq_true,
      List.length_cons, List.length_map, not_lt, Nat.succ_le_succ_iff]
    constructor
    · rintro ⟨hlen, hfirst, -⟩
      exact ⟨hfirst, hlen, hall.2⟩
    · rintro ⟨hfirst, hlen, -⟩
      exact ⟨hlen, hfirst, hrest⟩

/-! ## Paths -/

/-- Printable ASCII without the backslash. -/
def pathClass : Char → Bool := inRanges [('!', '['), (']', '~')]

theorem pathClass_ascii :
    AsciiClass (fun byte => isAsciiGraphic byte && !(byte == 0x5C)) pathClass := by
  refine .of_ranges (by decide) fun b => ?_
  rw [Bool.eq_iff_iff]
  simp [codeIn, isAsciiGraphic, UInt8.le_iff_toNat_le, ← UInt8.toNat_inj]
  omega

/-- `[^\]`. -/
def noBackslash (c : Char) : Bool := c != '\\'

/-- `[^/\]`. -/
def noSeparator (c : Char) : Bool := c != '/' && c != '\\'

/-- `[^/\](?:[^\]*[^/\])?`. -/
def relativePathPattern : Regex :=
  seq (chars noSeparator) (opt (seq (star (chars noBackslash)) (chars noSeparator)))

/-- What is neither first nor last may be a slash. -/
theorem mem_relativePathPattern {w : List Char} (hne : w ≠ []) (hclass : ∀ c ∈ w, noBackslash c)
    (hhead : ∀ c ∈ w.head?, c ≠ '/') (hlast : ∀ c ∈ w.getLast?, c ≠ '/') :
    w ∈ relativePathPattern.language := by
  have hsep : ∀ {c}, noBackslash c → c ≠ '/' → noSeparator c := by
    intro c hc hs
    simpa [noSeparator, noBackslash, hs] using hc
  obtain ⟨c, w, rfl⟩ := List.exists_cons_of_ne_nil hne
  rw [List.forall_mem_cons] at hclass
  rw [relativePathPattern, opt, mem_seq]
  refine ⟨[c], ⟨c, hsep hclass.1 (hhead c rfl), rfl⟩, w, ?_, rfl⟩
  rcases List.eq_nil_or_concat w with rfl | ⟨v, d, rfl⟩
  · exact .inl rfl
  · rw [List.concat_eq_append] at hclass hlast ⊢
    rw [List.forall_mem_append, List.forall_mem_singleton] at hclass
    refine .inr (mem_seq.mpr ⟨v, mem_star_chars.mpr hclass.2.1, [d], ⟨d, ?_, rfl⟩, rfl⟩)
    refine hsep hclass.2.2 (hlast d ?_)
    rw [← List.cons_append, List.getLast?_concat]
    rfl

theorem validateRelativePath_pattern (h : validateRelativePath value = .ok ()) :
    value.toList ∈ relativePathPattern.language ∧ 1 ≤ value.length ∧ value.length ≤ 1024 := by
  simp only [validateRelativePath, check_eq_ok, not_or, not_not, not_lt, List.all_eq_true] at h
  obtain ⟨hne, hlen, hhead, hlast, hback, hgraphic, -⟩ := h
  have hchars : ∀ c ∈ value.toList, pathClass c := by
    refine pathClass_ascii.all_iff.mp fun b hb => ?_
    have : b ≠ 0x5C := fun e => hback (e ▸ hb)
    simpa [this] using hgraphic b hb
  have hbytes := bytes_of_ascii fun c hc => pathClass_ascii.chars_lt c (hchars c hc)
  rw [hbytes, List.head?_map] at hhead
  rw [hbytes, List.getLast?_map] at hlast
  refine ⟨mem_relativePathPattern ?_ (fun c hc => ?_) ?_ ?_, length_of_bytes hne hlen⟩
  · rwa [Ne, String.toList_eq_nil_iff, ← bytes_eq_nil]
  · rw [noBackslash, bne_iff_ne]
    rintro rfl
    exact absurd (hchars _ hc) (by decide)
  · rintro c hc rfl
    rw [Option.mem_def.mp hc] at hhead
    exact hhead rfl
  · rintro c hc rfl
    rw [Option.mem_def.mp hc] at hlast
    exact hlast rfl

/-! ## The published grammars -/

/-- The string matches as a whole, and has a length within the bounds. -/
def Matches (pattern : Regex) (min max : Nat) (value : String) : Prop :=
  value.toList ∈ pattern.language ∧ min ≤ value.length ∧ value.length ≤ max

/-- What repeats a class once or more has a character. -/
theorem matches_plus {p : Char → Bool} {max : Nat} : Matches (plus (chars p)) 1 max value ↔
    value.toList ∈ (plus (chars p)).language ∧ value.length ≤ max := by
  refine and_congr_right fun h => and_iff_right ?_
  rw [← String.length_toList, Nat.one_le_iff_ne_zero, Ne, List.length_eq_zero_iff]
  exact (mem_plus_chars.mp h).1

/-- Two parts and the separator. -/
theorem matches_repository {max : Nat} : Matches repositoryPattern 3 max value ↔
    value.toList ∈ repositoryPattern.language ∧ value.length ≤ max := by
  refine and_congr_right fun h => and_iff_right ?_
  obtain ⟨owner, repository, ho, hr, -, hvalue⟩ := mem_repositoryPattern.mp h
  have howner := List.length_pos_iff.mpr ho
  have hrepository := List.length_pos_iff.mpr hr
  have hlen : value.length = owner.length + 1 + repository.length := by
    rw [← String.length_toList, hvalue]
    simp
    omega
  omega

/-- Each validator accepts the strings of its grammar, with the lengths in characters. -/
theorem grammars_exact (value : String) :
    (validateIdentifier value = .ok () ↔ Matches identifierPattern 1 256 value) ∧
      (∀ field, validateSafeId field value = .ok () ↔ Matches identifierPattern 1 256 value) ∧
      (∀ field, validateOpaqueId field value = .ok () ↔ Matches opaquePattern 1 256 value) ∧
      (validateCode value = .ok () ↔
        value.toList ∈ codePattern.language ∧ value.length ≤ 128) ∧
      (validateSha256 value = .ok () ↔ value.toList ∈ sha256Pattern.language) ∧
      (∀ field, validateGitCommit field value = .ok () ↔
        value.toList ∈ gitCommitPattern.language) ∧
      (validateRepositoryId value = .ok () ↔ Matches repositoryPattern 3 256 value) ∧
      (validateEnvironmentName value = .ok () ↔
        value.toList ∈ environmentPattern.language) := by
  refine ⟨?_, fun field => ?_, fun field => ?_, validateCode_iff, validateSha256_iff,
    fun field => validateGitCommit_iff, ?_, validateEnvironmentName_iff⟩
  · rw [identifierPattern, matches_plus]
    exact validateIdentifier_iff
  · rw [identifierPattern, matches_plus]
    exact validateSafeId_iff
  · rw [opaquePattern, matches_plus, validateOpaqueId_eq_ok]
    exact isOpaqueId_iff
  · rw [matches_repository]
    exact validateRepositoryId_iff

end Strings

end Vertical
end Platform
