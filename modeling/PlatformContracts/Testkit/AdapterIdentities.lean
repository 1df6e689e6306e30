import PlatformContracts.Testkit.AdapterShutdown

/-!
# The identities that the reference adapter hands out

* `mintIdentity_inj`: the attempt ID, the caller's string and then `#` and the sequence, gives both
  back: a numeral has no `#`, so the last `#` ends the string, whatever is in it.
* `issued es`: the identities of the successful `reserve`s of a run, in order. `Issued`: what they
  are at the state that the run reached (`issued_run`).
* `identities_unique`: they are never used again, and the last sequence ends admission.
-/

namespace Platform
namespace Testkit

variable {first : UInt64} {s s' : ReferenceState} {c : Section} {reply : Reply}

/-! ## Attempt IDs -/

/-- Two lists with the same last separator. -/
theorem append_cons_inj {α : Type} {a : α} {l₁ l₂ r₁ r₂ : List α} (h₁ : a ∉ r₁) (h₂ : a ∉ r₂)
    (h : l₁ ++ a :: r₁ = l₂ ++ a :: r₂) : l₁ = l₂ ∧ r₁ = r₂ := by
  -- The longer of the two first parts has nothing more: it would put the separator in a last part.
  have longer : ∀ {m r r' : List α}, a ∉ r → a :: r = m ++ a :: r' → m = [] ∧ r = r' := by
    intro m r r' hr he
    cases m with
    | nil => exact ⟨rfl, (List.cons.inj he).2⟩
    | cons b m =>
      refine absurd ?_ hr
      rw [(List.cons.inj he).2]
      exact List.mem_append_right m List.mem_cons_self
  rcases List.append_eq_append_iff.mp h with ⟨m, rfl, he⟩ | ⟨m, rfl, he⟩
  · obtain ⟨rfl, hr⟩ := longer h₁ he
    exact ⟨(List.append_nil _).symm, hr⟩
  · obtain ⟨rfl, hr⟩ := longer h₂ he
    exact ⟨List.append_nil _, hr.symm⟩

theorem hash_notMem_toString (n : Nat) : '#' ∉ (toString n).toList := by
  rw [Nat.toString_eq_repr, Nat.toList_repr]
  intro h
  exact absurd (Nat.isDigit_of_mem_toDigits (by decide) (by decide) h) (by decide)

theorem toString_toList_inj {m n : Nat} (h : (toString m).toList = (toString n).toList) :
    m = n := by
  rw [Nat.toString_eq_repr, Nat.toString_eq_repr, Nat.toList_repr, Nat.toList_repr] at h
  have hparsed := congrArg (fun digits => Nat.ofDigitChars 10 digits 0) h
  simpa using hparsed

/-- An attempt ID was minted for one public ID and one sequence. -/
theorem mintIdentity_inj {id id' : String} {k k' : UInt64}
    (h : (mintIdentity id k).attemptId = (mintIdentity id' k').attemptId) :
    id = id' ∧ k = k' := by
  have hlist := congrArg String.toList h
  simp only [mintIdentity, String.toList_append] at hlist
  have hsep : "#".toList = ['#'] := rfl
  rw [hsep, List.append_assoc, List.append_assoc, List.singleton_append,
    List.singleton_append] at hlist
  obtain ⟨hid, hk⟩ :=
    append_cons_inj (hash_notMem_toString _) (hash_notMem_toString _) hlist
  exact ⟨String.toList_injective hid, UInt64.toNat_inj.mp (toString_toList_inj hk)⟩

/-! ## The identities of a run -/

/-- The identity that a `reserve` returned, if the event is one that succeeded. -/
def Event.issued? (e : Event) : Option AttemptIdentity :=
  match e.reply with
  | .ok (.reserved r) => some r.lease.identity
  | _ => none

def issued (es : List (Event × World)) : List AttemptIdentity := es.filterMap fun p => p.1.issued?

/-- What the identities handed out so far are: minted for their sequences, which increase from the
first one to the next. -/
structure Issued (first : UInt64) (identities : List AttemptIdentity) (next : UInt64) : Prop where
  minted : ∀ identity ∈ identities,
    identity = mintIdentity identity.operationId identity.sequence
  below : ∀ identity ∈ identities, identity.sequence < next
  increasing : identities.Pairwise fun a b => a.sequence < b.sequence
  next : next.toNat = first.toNat + identities.length

theorem Issued.snoc {identities : List AttemptIdentity} {id : String} {k next : UInt64}
    (h : Issued first identities k) (hn : next.toNat = k.toNat + 1) :
    Issued first (identities ++ [mintIdentity id k]) next where
  minted := by
    intro identity hm
    rcases List.mem_append.mp hm with hm | hm
    · exact h.minted identity hm
    · obtain rfl := List.mem_singleton.mp hm
      rfl
  below := by
    intro identity hm
    rw [UInt64.lt_iff_toNat_lt]
    rcases List.mem_append.mp hm with hm | hm
    · have hlt := UInt64.lt_iff_toNat_lt.mp (h.below identity hm)
      omega
    · obtain rfl := List.mem_singleton.mp hm
      show k.toNat < next.toNat
      omega
  increasing := by
    refine List.pairwise_append.mpr ⟨h.increasing, List.pairwise_singleton _ _, ?_⟩
    intro a ha b hb
    obtain rfl := List.mem_singleton.mp hb
    exact h.below a ha
  next := by
    have := h.next
    rw [List.length_append, List.length_singleton]
    omega

/-- A section hands out the next sequence, or keeps it and hands out nothing. -/
theorem Effect.issues (he : Effect s c reply s') {t : Nat} :
    (∃ id, Event.issued? ⟨t, c, reply⟩ = some (mintIdentity id s.nextSequence) ∧
      s'.nextSequence.toNat = s.nextSequence.toNat + 1) ∨
    Event.issued? ⟨t, c, reply⟩ = none ∧ s'.nextSequence = s.nextSequence := by
  cases he with
  | admitted _ _ hn => exact .inl ⟨_, rfl, hn⟩
  | _ => exact .inr ⟨rfl, rfl⟩

/-- With the last sequence handed out, a `reserve` fails and does nothing. -/
theorem reserve_exhausted (h : s.nextSequence.toNat = 2 ^ 64 - 1) (id : String) :
    ∃ e, (Section.reserve id).on s = (.error (.err e), s) := by
  have hn : checkedAdd s.nextSequence 1 = none := by
    rw [checkedAdd_eq_none, UInt64.toNat_one]
    omega
  simp only [Section.on, Section.run, Section.answer_on, reserve_on, hn]
  by_cases hl : s.lifecycle = .running
  · by_cases hc : s.active.contains id = true
    · exact ⟨.duplicateOperation, by simp only [hl, hc]; rfl⟩
    · exact ⟨.sequenceExhausted, by simp only [hl, hc]; rfl⟩
  · exact ⟨.admissionClosed, by simp only [ne_eq, hl, not_false_eq_true, if_true]; rfl⟩

section Run

variable {config : TestConfig} {w₀ w w' : World} {es : List (Event × World)}

theorem issued_run (h₀ : (adapterSys config).init w₀) (h : (adapterSys config).Run w₀ es w) :
    Issued config.nextSequence (issued es) w.state.nextSequence := by
  have hI := adapterSys_inductive config
  induction h with
  | nil =>
    rw [deterministic_eq_ok h₀.1]
    exact ⟨by simp [issued], by simp [issued], .nil, rfl⟩
  | @snoc es w w' e h hs ih =>
    have he := (hI.run h (hI.init h₀)).effect hs
    have hsnoc : issued (es ++ [(e, w')]) = issued es ++ e.issued?.toList := by
      rw [issued, List.filterMap_append]
      cases hi : e.issued? <;> simp [issued, hi]
    rw [hsnoc]
    rcases he.issues (t := e.thread) with ⟨id, hi, hn⟩ | ⟨hi, hn⟩
    · have hi' : e.issued? = _ := hi
      rw [hi']
      exact ih.snoc hn
    · have hi' : e.issued? = none := hi
      rw [hi', hn]
      simpa using ih

/-- The last sequence stays the next one. -/
theorem exhausted_run (h : (adapterSys config).Run w es w') (hi : w.Ok config)
    (hn : w.state.nextSequence.toNat = 2 ^ 64 - 1) :
    w'.state.nextSequence = w.state.nextSequence := by
  refine (h.keeps (adapterSys_inductive config)
    (J := fun w' => w'.state.nextSequence = w.state.nextSequence) ?_ hi rfl).2
  intro w₁ e w₂ hi₁ hw hs
  rcases (hi₁.effect hs).issues (t := e.thread) with ⟨_, -, hnext⟩ | ⟨-, hnext⟩
  · have hlt := w₂.state.nextSequence.toNat_lt
    rw [hw, hn] at hnext
    omega
  · rw [hnext, hw]

/-- **Identities.** Over a run from the start, with any first sequence and any public IDs: the
sequences that the successful `reserve`s returned increase, their attempt IDs are distinct and
each gives its sequence back; the next sequence is the first one and the number of them, without a
wrap; and once it is the last word, every later `reserve` fails and leaves the state. -/
theorem identities_unique (h₀ : (adapterSys config).init w₀)
    (h : (adapterSys config).Run w₀ es w) :
    (issued es).Pairwise (fun a b => a.sequence < b.sequence ∧ a.attemptId ≠ b.attemptId) ∧
    (∀ a ∈ issued es, ∀ (id : String) (k : UInt64),
      a.attemptId = (mintIdentity id k).attemptId → a.operationId = id ∧ a.sequence = k) ∧
    w.state.nextSequence.toNat = config.nextSequence.toNat + (issued es).length ∧
    (w.state.nextSequence.toNat = 2 ^ 64 - 1 → ∀ (es' : List (Event × World)) (w' : World),
      (adapterSys config).Run w es' w' →
      ∀ id, ∃ e, (Section.reserve id).on w'.state = (.error (.err e), w'.state)) := by
  have hissued := issued_run h₀ h
  have hback : ∀ a ∈ issued es, ∀ (id : String) (k : UInt64),
      a.attemptId = (mintIdentity id k).attemptId → a.operationId = id ∧ a.sequence = k := by
    intro a ha id k he
    rw [hissued.minted a ha] at he
    exact mintIdentity_inj he
  refine ⟨?_, hback, hissued.next, fun hn es' w' hr id => ?_⟩
  · refine hissued.increasing.imp_of_mem fun {a b} ha hb hlt => ⟨hlt, fun he => ?_⟩
    rw [hissued.minted b hb] at he
    have hseq := (hback a ha _ _ he).2
    rw [hseq] at hlt
    exact UInt64.lt_irrefl _ hlt
  · have hI := adapterSys_inductive config
    apply reserve_exhausted
    rw [exhausted_run hr (hI.run h (hI.init h₀)) hn, hn]

/-- The adapter that has one sequence left, and the `reserve` that takes it. -/
def lastConfig : TestConfig := { nextSequence := 18446744073709551614 }

def lastStart : World where
  state := ⟨.running, 18446744073709551614, 4, ∅, ∅, 0, 0⟩
  pc _ := .idle

def lastWorld : World where
  state := stateAfter lastStart.state [.reserve "a#1"]
  pc _ := .idle

theorem identities_unique_last :
    (issued (callEvents lastStart [.reserve "a#1"])).length = 1 ∧
      lastWorld.state.nextSequence.toNat = 18446744073709551614 + 1 ∧
      ∃ e, (Section.reserve "b").on lastWorld.state = (.error (.err e), lastWorld.state) := by
  have hinit : (adapterSys lastConfig).init lastStart := ⟨rfl, fun _ => rfl⟩
  have hrun : (adapterSys lastConfig).Run lastStart (callEvents lastStart [.reserve "a#1"])
      lastWorld := run_callEvents lastConfig (by simp) fun _ => rfl
  obtain ⟨-, -, hnext, hlast⟩ := identities_unique hinit hrun
  have hlength : (issued (callEvents lastStart [.reserve "a#1"])).length = 1 := by decide
  rw [hlength] at hnext
  exact ⟨hlength, hnext, hlast (by rw [hnext]; rfl) [] lastWorld .nil "b"⟩

end Run

end Testkit
end Platform
