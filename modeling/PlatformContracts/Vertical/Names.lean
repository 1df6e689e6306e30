import PlatformContracts.Vertical.Candidate

/-!
# Names that look like secrets

`reject_authority_name` looks at the parts of a name between underscores. That is every part of an
environment name; a prerequisite ID may have other separators.

* `MaximalRun p run l`: a run of elements with `p`, and none with `p` next to it;
  `MaximalRun.mem_splitOn`: cutting at the one separator finds it.
* `SecretRun value`: a run of letters and digits is one of the five words.
  `SecretRunBeside value`: and it is next to a separator that is no underscore.
* `secret_names_iff`: in an accepted manifest no name has a secret run exactly when no
  prerequisite ID has one next to another separator. `vault_accepted`: `vault.token` passes.
-/

namespace Platform
namespace Vertical

open Contracts

section Runs

variable {α β : Type}

/-- A run of elements with `p` in `l`, and none with `p` on either side. -/
def MaximalRun (p : α → Bool) (run l : List α) : Prop :=
  ∃ before after, l = before ++ run ++ after ∧ (∀ a ∈ run, p a = true) ∧
    (∀ a ∈ before.getLast?, p a = false) ∧ ∀ a ∈ after.head?, p a = false

theorem MaximalRun.map {p : α → Bool} {q : β → Bool} {f : α → β} (hf : ∀ a, q (f a) = p a)
    {run l : List α} (h : MaximalRun p run l) : MaximalRun q (run.map f) (l.map f) := by
  obtain ⟨before, after, rfl, hrun, hbefore, hafter⟩ := h
  refine ⟨before.map f, after.map f, by simp, ?_, ?_, ?_⟩
  · simpa [hf] using hrun
  · simpa [hf] using hbefore
  · simpa [hf] using hafter

/-- Cutting at the only element without `p` finds the runs. -/
theorem MaximalRun.mem_splitOn [DecidableEq α] {d : α} {run l : List α}
    (h : MaximalRun (· ≠ d) run l) : run ∈ l.splitOn d := by
  obtain ⟨before, after, rfl, hrun, hbefore, hafter⟩ := h
  have hd : d ∉ run := fun hm => by simpa using hrun d hm
  have htail : run ∈ (run ++ after).splitOn d := by
    cases after with
    | nil => rw [List.append_nil, List.splitOn_eq_singleton hd]; exact List.mem_singleton_self run
    | cons a after =>
      obtain rfl : a = d := by simpa using hafter
      rw [List.splitOn_append_cons_self_of_not_mem hd]
      exact List.mem_cons_self
  rcases List.eq_nil_or_concat before with rfl | ⟨init, a, rfl⟩
  · exact htail
  · obtain rfl : a = d := by simpa using hbefore
    rw [List.append_assoc, List.concat_eq_append, List.append_assoc, List.singleton_append,
      List.splitOn_append_cons_self]
    exact List.mem_append_right _ htail

end Runs

/-! ## Names -/

def secretWords : List (List UInt8) :=
  ["KEY", "TOKEN", "SECRET", "PASSWORD", "CREDENTIAL"].map bytes

/-- A run of ASCII letters and digits is a secret word, in some case. -/
def SecretRun (value : String) : Prop :=
  ∃ run, MaximalRun isAsciiAlphanumeric run (bytes value) ∧
    run.map toAsciiUppercase ∈ secretWords

/-- A secret word with no letter or digit on either side, and on one side a byte that is not an
underscore either. -/
def SecretRunBeside (value : String) : Prop :=
  ∃ before run after, bytes value = before ++ run ++ after ∧
    run.map toAsciiUppercase ∈ secretWords ∧
    (∀ b ∈ before.getLast?, isAsciiAlphanumeric b = false) ∧
    (∀ b ∈ after.head?, isAsciiAlphanumeric b = false) ∧
    ∃ b, (b ∈ before.getLast? ∨ b ∈ after.head?) ∧ b ≠ 0x5F

theorem toAsciiUppercase_underscore (b : UInt8) : toAsciiUppercase b = 0x5F ↔ b = 0x5F := by
  unfold toAsciiUppercase isAsciiLowercase
  split
  · rename_i h
    simp only [Bool.and_eq_true, decide_eq_true_eq, UInt8.le_iff_toNat_le] at h
    rw [← UInt8.toNat_inj, ← UInt8.toNat_inj, UInt8.toNat_sub]
    simp only [UInt8.reduceToNat] at h ⊢
    omega
  · rfl

theorem isAsciiAlphanumeric_of_secret {run : List UInt8}
    (h : run.map toAsciiUppercase ∈ secretWords) : ∀ b ∈ run, isAsciiAlphanumeric b = true := by
  intro b hb
  have hupper : ∀ word ∈ secretWords, ∀ c ∈ word, isAsciiUppercase c = true := by
    decide +kernel
  have hb := hupper _ h _ (List.mem_map.mpr ⟨b, hb, rfl⟩)
  unfold toAsciiUppercase at hb
  unfold isAsciiAlphanumeric
  split at hb
  · rename_i hlower
    simp [hlower]
  · simp [hb]

/-- A name that is not rejected has no secret word between underscores. -/
theorem rejectAuthorityName_run {field value : String}
    (h : rejectAuthorityName field value = .ok ()) {run : List UInt8}
    (hrun : MaximalRun (· ≠ 0x5F) run (bytes value)) :
    run.map toAsciiUppercase ∉ secretWords := by
  simp only [rejectAuthorityName, check_eq_ok, List.any_eq_true, not_exists, not_and,
    decide_eq_true_eq] at h
  refine h.1 _ (MaximalRun.mem_splitOn (hrun.map fun b => ?_))
  simp only [toAsciiUppercase_underscore, ne_eq]

/-- The separator is the only byte of an environment name that is no letter or digit. -/
theorem validateEnvironmentName_bytes {value : String}
    (h : validateEnvironmentName value = .ok ()) {b : UInt8} (hb : b ∈ bytes value) :
    isAsciiAlphanumeric b = decide (b ≠ 0x5F) := by
  have hclass : isAsciiUppercase b || isAsciiDigit b || b == 0x5F := by
    unfold validateEnvironmentName at h
    split at h
    · cases h
    · rename_i first rest hvalue
      rw [check_eq_ok] at h
      push Not at h
      obtain ⟨-, hfirst, hrest⟩ := h
      rw [hvalue] at hb
      rcases List.mem_cons.mp hb with rfl | hb
      · simp only [Bool.or_eq_true] at hfirst ⊢
        exact hfirst.imp .inl id
      · exact List.all_eq_true.mp hrest b hb
  by_cases hd : b = 0x5F
  · subst hd
    decide
  · simp only [Bool.or_eq_true, beq_iff_eq, hd, or_false] at hclass
    unfold isAsciiAlphanumeric
    rcases hclass with hclass | hclass <;> simp [hclass, hd]

/-- The runs of a list, by a predicate that agrees on it. -/
theorem MaximalRun.congr {α : Type} {p q : α → Bool} {run l : List α} (h : MaximalRun p run l)
    (hpq : ∀ a ∈ l, p a = q a) : MaximalRun q run l := by
  obtain ⟨before, after, rfl, hrun, hbefore, hafter⟩ := h
  refine ⟨before, after, rfl, fun a ha => ?_, fun a ha => ?_, fun a ha => ?_⟩
  · rw [← hpq a (by simp [ha])]
    exact hrun a ha
  · rw [← hpq a (by simp [List.mem_of_getLast? ha])]
    exact hbefore a ha
  · rw [← hpq a (by simp [List.mem_of_head? ha])]
    exact hafter a ha

/-- No environment name of an accepted recipe has a secret run. -/
theorem validateReplay_secretRun {replay : ReplayRecipeV0} (h : validateReplay replay = .ok ())
    {name : String} (hn : name ∈ replay.requiredEnvironment) : ¬SecretRun name := by
  simp only [validateReplay, unit_bind_eq_ok, checkUnique_eq_ok] at h
  obtain ⟨hname, hreject⟩ := h.2.2.2.1 name hn
  rintro ⟨run, hrun, hsecret⟩
  exact rejectAuthorityName_run hreject
    (hrun.congr fun b hb => validateEnvironmentName_bytes hname hb) hsecret

/-- A prerequisite ID that is accepted has no secret run but beside another separator. -/
theorem rejectAuthorityName_secretRun {field value : String}
    (h : rejectAuthorityName field value = .ok ()) :
    SecretRun value ↔ SecretRunBeside value := by
  constructor
  · rintro ⟨run, ⟨before, after, hvalue, hrun, hbefore, hafter⟩, hsecret⟩
    refine ⟨before, run, after, hvalue, hsecret, hbefore, hafter, ?_⟩
    by_contra hno
    push Not at hno
    -- Otherwise the run is a part between underscores.
    have hmaximal : MaximalRun (· ≠ 0x5F) run (bytes value) → False :=
      fun hmax => rejectAuthorityName_run h hmax hsecret
    refine hmaximal ⟨before, after, hvalue, fun b hb => ?_, fun b hb => ?_, fun b hb => ?_⟩
    · have hb := hrun b hb
      simp only [ne_eq, decide_eq_true_eq]
      rintro rfl
      exact absurd hb (by decide)
    · simp [hno b (.inl hb)]
    · simp [hno b (.inr hb)]
  · rintro ⟨before, run, after, hvalue, hsecret, hbefore, hafter, -⟩
    exact ⟨run, ⟨before, after, hvalue, isAsciiAlphanumeric_of_secret hsecret, hbefore, hafter⟩,
      hsecret⟩

/-! ## Manifests -/

/-- No environment name and no prerequisite ID of the manifest has a secret run. -/
def VerticalFixtureManifestV0.Unsecret (manifest : VerticalFixtureManifestV0) : Prop :=
  ∀ case ∈ manifest.cases,
    (∀ replay ∈ case.replay, ∀ name ∈ replay.requiredEnvironment, ¬SecretRun name) ∧
    ∀ prerequisite ∈ case.prerequisites, ¬SecretRun prerequisite.prerequisiteId

/-- In an accepted manifest no name has a secret run exactly when no prerequisite ID has one
beside a separator that is no underscore. -/
theorem secret_names_iff (manifest : VerticalFixtureManifestV0)
    (h : validateManifest manifest = .ok ()) :
    manifest.Unsecret ↔ ∀ case ∈ manifest.cases, ∀ prerequisite ∈ case.prerequisites,
      ¬SecretRunBeside prerequisite.prerequisiteId := by
  have hcase : ∀ case ∈ manifest.cases, (∀ replay ∈ case.replay,
      validateReplay replay = .ok ()) ∧ ∀ prerequisite ∈ case.prerequisites,
      rejectAuthorityName "prerequisite_id" prerequisite.prerequisiteId = .ok () := by
    intro case hc
    have hvalid := (validateManifest_eq_ok.mp h).cases case hc
    refine ⟨hvalid.replay, fun prerequisite hp => ?_⟩
    have hprerequisite := hvalid.prerequisites prerequisite hp
    simp only [validatePrerequisite, unit_bind_eq_ok] at hprerequisite
    exact hprerequisite.2.2
  constructor
  · intro hclean case hc prerequisite hp hbeside
    exact (hclean case hc).2 prerequisite hp
      ((rejectAuthorityName_secretRun ((hcase case hc).2 prerequisite hp)).mpr hbeside)
  · intro hbeside case hc
    refine ⟨fun replay hr name hn => validateReplay_secretRun ((hcase case hc).1 replay hr) hn,
      fun prerequisite hp hsecret => hbeside case hc prerequisite hp ?_⟩
    exact (rejectAuthorityName_secretRun ((hcase case hc).2 prerequisite hp)).mp hsecret

/-- `relaunchManifest` with another ID for its prerequisite. -/
def namedManifest (prerequisiteId : String) : VerticalFixtureManifestV0 :=
  { relaunchManifest .quitRelaunchFakeOwners [profileState] with
    cases := [{ relaunchCase [profileState] with
      prerequisites := [{ relaunchPrerequisite with prerequisiteId }] }] }

/-- A part between a dot and the end of the ID is a secret word. -/
theorem vault_accepted : validateManifest (namedManifest "vault.token") = .ok () ∧
    ¬(namedManifest "vault.token").Unsecret := by
  refine ⟨by decide +kernel, fun hclean => ?_⟩
  refine (hclean _ List.mem_cons_self).2 _ List.mem_cons_self ⟨bytes "token", ?_, by decide +kernel⟩
  exact ⟨bytes "vault.", [], by decide +kernel, by decide +kernel, by decide +kernel, by simp⟩

theorem secret_names_model : (namedManifest "model.fake").Unsecret ↔
    ∀ case ∈ (namedManifest "model.fake").cases, ∀ prerequisite ∈ case.prerequisites,
      ¬SecretRunBeside prerequisite.prerequisiteId :=
  secret_names_iff (namedManifest "model.fake") (by decide +kernel)

end Vertical
end Platform
