import Mathlib

/-!
# Labelled systems, their runs and what holds along them

A system has initial states and labelled steps; a label records what happened (who did what, and
the answer). A run lists the labels in order, each with the state after it, so that a statement
can be about every state that a run visits and about every answer that it gave.

* `Sys.Run s es s'`, `Sys.Reach`; `Run.trans`, `Run.split`, `Run.split_cons`, `Run.of_mem`: runs
  compose, and an event of a run happened between two runs; `Run.map`: a run of one system is one
  of another.
* `Sys.Inductive`: an inductive invariant; `Run.keeps`: a property that steps keep under an
  invariant; `Run.rel`: a preorder that every step respects.
* `Along P s es`: every step of the run satisfies `P`; `Run.keeps_along`: a property that such
  steps keep; `Run.along_iff`: conditions that agree on every step agree on every run.
* `Run.length_le_measure`, `exists_run_of_measure`: steps that lower a measure come to an end.
* `Run.of_exec`, `Run.exec`: the run of a list of labels, for steps that are computed.
* `Run.count`: a number of the state that the steps with some labels raise by one counts them.
* `destutter_prefix`: values that stay or move to a successor, with their repetitions removed,
  are a prefix of the order from the first one.
-/

namespace Platform

/-- Initial states and labelled steps. -/
structure Sys (σ ℓ : Type) where
  init : σ → Prop
  step : σ → ℓ → σ → Prop

namespace Sys

variable {σ ℓ : Type} (S : Sys σ ℓ)

/-- From `s` the events `es` (each with the state after it) lead to the last state. -/
inductive Run (s : σ) : List (ℓ × σ) → σ → Prop
  | nil : Run s [] s
  | snoc {es : List (ℓ × σ)} {s₁ s₂ : σ} {e : ℓ} :
      Run s es s₁ → S.step s₁ e s₂ → Run s (es ++ [(e, s₂)]) s₂

/-- The states that a run from an initial state reaches. -/
def Reach (s : σ) : Prop := ∃ s₀ es, S.init s₀ ∧ S.Run s₀ es s

/-- An inductive invariant. -/
structure Inductive (I : σ → Prop) : Prop where
  init : ∀ {s}, S.init s → I s
  step : ∀ {s e s'}, I s → S.step s e s' → I s'

/-- The states that a run visits, in order. -/
def states (s : σ) (es : List (ℓ × σ)) : List σ := s :: es.map (·.2)

variable {S} {s s' s'' : σ} {es es' : List (ℓ × σ)} {I : σ → Prop}

theorem states_concat {p : ℓ × σ} : states s (es ++ [p]) = states s es ++ [p.2] := by
  simp [states]

theorem Run.one {e : ℓ} (h : S.step s e s') : S.Run s [(e, s')] s' := .snoc .nil h

theorem Run.trans (h : S.Run s es s') (h' : S.Run s' es' s'') : S.Run s (es ++ es') s'' := by
  induction h' with
  | nil => rwa [List.append_nil]
  | snoc _ hs ih => rw [← List.append_assoc]; exact .snoc ih hs

theorem Run.of_snoc {p : ℓ × σ} (h : S.Run s (es ++ [p]) s'') :
    ∃ s', S.Run s es s' ∧ S.step s' p.1 s'' ∧ p.2 = s'' := by
  generalize hl : es ++ [p] = l at h
  cases h with
  | nil => simp at hl
  | snoc h hs =>
    obtain ⟨rfl, rfl⟩ := List.append_inj' hl rfl |>.imp_right (by simpa using ·)
    exact ⟨_, h, hs, rfl⟩

/-- A run over two lists of events stops over between them. -/
theorem Run.split (h : S.Run s (es ++ es') s'') : ∃ s', S.Run s es s' ∧ S.Run s' es' s'' := by
  induction es' using List.reverseRecOn generalizing s'' with
  | nil => exact ⟨s'', by rwa [List.append_nil] at h, .nil⟩
  | append_singleton l p ih =>
    rw [← List.append_assoc] at h
    obtain ⟨s₁, h₁, hs, rfl⟩ := h.of_snoc
    obtain ⟨s', h₂, h₃⟩ := ih h₁
    exact ⟨s', h₂, .snoc h₃ hs⟩

/-- An event of a run is a step between two parts of the run. -/
theorem Run.split_cons {p : ℓ × σ} (h : S.Run s (es ++ p :: es') s'') :
    ∃ s₁, S.Run s es s₁ ∧ S.step s₁ p.1 p.2 ∧ S.Run p.2 es' s'' := by
  rw [← List.singleton_append, ← List.append_assoc] at h
  obtain ⟨s₂, h₁, h₂⟩ := h.split
  obtain ⟨s₁, h₃, hs, rfl⟩ := h₁.of_snoc
  exact ⟨s₁, h₃, hs, h₂⟩

theorem Run.of_mem {p : ℓ × σ} (h : S.Run s es s'') (hp : p ∈ es) :
    ∃ es₁ es₂ s₁, es = es₁ ++ p :: es₂ ∧ S.Run s es₁ s₁ ∧ S.step s₁ p.1 p.2 ∧
      S.Run p.2 es₂ s'' := by
  obtain ⟨es₁, es₂, rfl⟩ := List.append_of_mem hp
  obtain ⟨s₁, h₁, hs, h₂⟩ := h.split_cons
  exact ⟨es₁, es₂, s₁, rfl, h₁, hs, h₂⟩

/-- A run seen through a map that takes steps to steps. -/
theorem Run.map {τ : Type} {T : Sys τ ℓ} {f : σ → τ}
    (hf : ∀ {s e s'}, S.step s e s' → T.step (f s) e (f s')) (h : S.Run s es s') :
    T.Run (f s) (es.map fun p => (p.1, f p.2)) (f s') := by
  induction h with
  | nil => exact .nil
  | snoc _ hs ih =>
    rw [List.map_append]
    exact .snoc ih (hf hs)

theorem Reach.init (h : S.init s) : S.Reach s := ⟨s, [], h, .nil⟩

theorem Reach.run (h : S.Reach s) (hr : S.Run s es s') : S.Reach s' := by
  obtain ⟨s₀, es₀, hi, h₀⟩ := h
  exact ⟨s₀, es₀ ++ es, hi, h₀.trans hr⟩

theorem Reach.next {e : ℓ} (h : S.Reach s) (hs : S.step s e s') : S.Reach s' := h.run (.one hs)

/-! ## Invariants -/

/-- A property that steps from states with the invariant keep holds after every run. -/
theorem Run.keeps {J : σ → Prop} (hI : S.Inductive I)
    (hJ : ∀ {s e s'}, I s → J s → S.step s e s' → J s') (h : S.Run s es s') (hi : I s)
    (hj : J s) : I s' ∧ J s' := by
  induction h with
  | nil => exact ⟨hi, hj⟩
  | snoc _ hs ih => exact ⟨hI.step ih.1 hs, hJ ih.1 ih.2 hs⟩

theorem Inductive.run (hI : S.Inductive I) (h : S.Run s es s') (hi : I s) : I s' :=
  (h.keeps (J := fun _ => True) hI (fun _ _ _ => trivial) hi trivial).1

theorem Inductive.reach (hI : S.Inductive I) (h : S.Reach s) : I s := by
  obtain ⟨s₀, es, hi, hr⟩ := h
  exact hI.run hr (hI.init hi)

/-- Every step from a state with the invariant respects a preorder, so every run does. -/
theorem Run.rel {R : σ → σ → Prop} (hI : S.Inductive I) (hrefl : ∀ s, R s s)
    (htrans : ∀ {a b c}, R a b → R b c → R a c) (hR : ∀ {s e s'}, I s → S.step s e s' → R s s')
    (h : S.Run s es s') (hi : I s) : R s s' := by
  refine (h.keeps hI (J := R s) (fun hi hj hs => htrans hj (hR hi hs)) hi (hrefl s)).2

/-- A number of the state that a step raises by one for some labels: it counts these labels. -/
theorem Run.count {f : σ → Nat} {c : ℓ → Bool} (hI : S.Inductive I)
    (hc : ∀ {s e s'}, I s → S.step s e s' → f s' = f s + (c e).toNat) (h : S.Run s es s')
    (hi : I s) : f s' = f s + es.countP fun p => c p.1 := by
  induction h with
  | nil => simp
  | @snoc es s₁ s₂ e h hs ih =>
    rw [hc (hI.run h hi) hs, ih, List.countP_append, List.countP_singleton, Nat.add_assoc]
    cases c e <;> rfl

/-- The states of a run are linked by steps. -/
theorem Run.chain {T : σ → σ → Prop} (hI : S.Inductive I)
    (hT : ∀ {s e s'}, I s → S.step s e s' → T s s') (h : S.Run s es s') (hi : I s) :
    (states s es).IsChain T ∧ (states s es).getLast? = some s' := by
  induction h with
  | nil => simp [states]
  | @snoc es s₁ s₂ e h hs ih =>
    obtain ⟨hc, hl⟩ := ih
    rw [states_concat]
    refine ⟨List.IsChain.append hc (.singleton _) fun a ha b hb => ?_, by simp⟩
    rw [hl] at ha
    obtain rfl : s₁ = a := by simpa using ha
    obtain rfl : s₂ = b := by simpa using hb
    exact hT (hI.run h hi) hs

/-! ## Runs whose steps meet a condition -/

/-- Every step of the run satisfies `P`: of the state before it, its label and the state after. -/
def Along (P : σ → ℓ → σ → Prop) : σ → List (ℓ × σ) → Prop
  | _, [] => True
  | s, (e, s') :: es => P s e s' ∧ Along P s' es

variable {P Q : σ → ℓ → σ → Prop}

theorem Run.along_snoc {e : ℓ} (h : S.Run s es s') :
    Along P s (es ++ [(e, s'')]) ↔ Along P s es ∧ P s' e s'' := by
  have key : ∀ (l : List (ℓ × σ)) (a : σ), ((states a l).getLast? = some s') →
      (Along P a (l ++ [(e, s'')]) ↔ Along P a l ∧ P s' e s'') := by
    intro l
    induction l with
    | nil =>
      intro a ha
      obtain rfl : a = s' := by simpa [states] using ha
      simp [Along]
    | cons p l ih =>
      intro a ha
      have hp : (states p.2 l).getLast? = some s' := by
        simpa [states, List.getLast?_cons_cons] using ha
      simp only [List.cons_append, Along, ih p.2 hp, and_assoc]
  refine key es s ?_
  cases h with
  | nil => simp [states]
  | snoc h hs => rw [states_concat, List.getLast?_concat]

/-- A property that the steps of the run keep under an invariant. -/
theorem Run.keeps_along {J : σ → Prop} (hI : S.Inductive I)
    (hJ : ∀ {s e s'}, I s → J s → S.step s e s' → P s e s' → J s') (h : S.Run s es s')
    (hp : Along P s es) (hi : I s) (hj : J s) : I s' ∧ J s' := by
  induction h with
  | nil => exact ⟨hi, hj⟩
  | snoc h hs ih =>
    obtain ⟨hp, he⟩ := h.along_snoc.mp hp
    obtain ⟨hi', hj'⟩ := ih hp
    exact ⟨hI.step hi' hs, hJ hi' hj' hs he⟩

theorem Run.along_iff (hI : S.Inductive I)
    (hpq : ∀ {s e s'}, I s → S.step s e s' → (P s e s' ↔ Q s e s')) (h : S.Run s es s')
    (hi : I s) : Along P s es ↔ Along Q s es := by
  induction h with
  | nil => exact Iff.rfl
  | snoc h hs ih => rw [h.along_snoc, h.along_snoc, ih, hpq (hI.run h hi) hs]

/-- A list of labels that can be executed is a run, and its steps are what the execution checks. -/
theorem Run.of_exec {exec : σ → ℓ → Option σ} (hI : S.Inductive I)
    (hexec : ∀ {s e s'}, I s → exec s e = some s' → S.step s e s' ∧ P s e s') {ls : List ℓ}
    (h : ls.foldlM exec s = some s') (hi : I s) :
    ∃ es, S.Run s es s' ∧ Along P s es ∧ es.map (·.1) = ls := by
  induction ls generalizing s with
  | nil =>
    obtain rfl := Option.some.inj h
    exact ⟨[], .nil, trivial, rfl⟩
  | cons e ls ih =>
    rw [List.foldlM_cons, Option.bind_eq_bind, Option.bind_eq_some_iff] at h
    obtain ⟨s₁, hs, h⟩ := h
    obtain ⟨hstep, hp⟩ := hexec hi hs
    obtain ⟨es, hr, ha, he⟩ := ih h (hI.step hi hstep)
    exact ⟨(e, s₁) :: es, (Run.one hstep).trans hr, ⟨hp, ha⟩, by rw [List.map_cons, he]⟩

theorem Run.exec {exec : σ → ℓ → Option σ}
    (hexec : ∀ {s e s'}, exec s e = some s' → S.step s e s') {ls : List ℓ}
    (h : ls.foldlM exec s = some s') : ∃ es, S.Run s es s' ∧ es.map (·.1) = ls := by
  have hI : S.Inductive fun _ => True := ⟨fun _ => trivial, fun _ _ => trivial⟩
  obtain ⟨es, hr, -, he⟩ :=
    Run.of_exec (P := fun _ _ _ => True) hI (fun _ hs => ⟨hexec hs, trivial⟩) h trivial
  exact ⟨es, hr, he⟩

theorem Run.exec_isSome {exec : σ → ℓ → Option σ}
    (hexec : ∀ {s e s'}, exec s e = some s' → S.step s e s') {ls : List ℓ}
    (h : (ls.foldlM exec s).isSome = true) : ∃ es s', S.Run s es s' ∧ es.map (·.1) = ls := by
  obtain ⟨s', hs⟩ := Option.isSome_iff_exists.mp h
  obtain ⟨es, hr, he⟩ := Run.exec hexec hs
  exact ⟨es, s', hr, he⟩

/-! ## Steps that come to an end -/

section Ending

variable {J : σ → Prop} {μ : σ → Nat}

/-- Steps that keep `J` and lower a measure: a run of them is at most as long as the measure. -/
theorem Run.length_le_measure
    (hJ : ∀ {s e s'}, J s → S.step s e s' → P s e s' → J s' ∧ μ s' < μ s)
    (h : S.Run s es s') (hp : Along P s es) (hj : J s) : J s' ∧ es.length + μ s' ≤ μ s := by
  induction h with
  | nil => exact ⟨hj, by simp⟩
  | snoc h hs ih =>
    obtain ⟨hp, he⟩ := h.along_snoc.mp hp
    obtain ⟨hj', hle⟩ := ih hp
    obtain ⟨hj'', hlt⟩ := hJ hj' hs he
    refine ⟨hj'', ?_⟩
    rw [List.length_append, List.length_singleton]
    omega

/-- Where such a step is possible until `D` holds, a run of them leads to `D`. -/
theorem exists_run_of_measure {D : σ → Prop}
    (hJ : ∀ {s e s'}, J s → S.step s e s' → P s e s' → J s' ∧ μ s' < μ s)
    (hD : ∀ {s}, J s → ¬D s → ∃ e s', S.step s e s' ∧ P s e s') (hj : J s) :
    ∃ es s', S.Run s es s' ∧ Along P s es ∧ D s' := by
  induction hn : μ s using Nat.strong_induction_on generalizing s with
  | _ n ih =>
    by_cases hd : D s
    · exact ⟨[], s, .nil, trivial, hd⟩
    · obtain ⟨e, s₁, hs, hp⟩ := hD hj hd
      obtain ⟨hj₁, hlt⟩ := hJ hj hs hp
      obtain ⟨es, s', hr, ha, hd'⟩ := ih (μ s₁) (hn ▸ hlt) hj₁ rfl
      exact ⟨(e, s₁) :: es, s', (Run.one hs).trans hr, ⟨hp, ha⟩, hd'⟩

end Ending

end Sys

/-! ## Values that move along an order -/

section Order

variable {σ α : Type} [DecidableEq α] {next : α → α → Prop} {order : α → List α}

/-- The values stay or move to a successor: without repetitions they are a prefix of the order
from the first value. -/
theorem destutter_prefix (hhead : ∀ a, ∃ l, order a = a :: l)
    (hnext : ∀ {a b}, next a b → a ≠ b ∧ order a = a :: order b) {a : α} {l : List α}
    (h : (a :: l).IsChain fun a b => b = a ∨ next a b) :
    (a :: l).destutter (· ≠ ·) <+: order a := by
  induction l generalizing a with
  | nil =>
    obtain ⟨l, hl⟩ := hhead a
    rw [hl]
    exact ⟨l, rfl⟩
  | cons b l ih =>
    rw [List.isChain_cons_cons] at h
    obtain ⟨hab, hl⟩ := h
    rw [List.destutter_cons']
    rcases hab with rfl | hab
    · rw [List.destutter'_cons_neg _ (by simp)]
      exact ih hl
    · obtain ⟨hne, ho⟩ := hnext hab
      rw [List.destutter'_cons_pos _ hne, ho, List.cons_prefix_cons]
      exact ⟨rfl, ih hl⟩

/-- A value that appears as `first`, and then stays or moves to a successor. -/
def Advances (next : α → α → Prop) (first : α) : Option α → Option α → Prop
  | none, b => b = none ∨ b = some first
  | some a, b => ∃ b', b = some b' ∧ (b' = a ∨ next a b')

/-- `destutter_prefix` for a value that appears at some state of a chain. -/
theorem destutter_filterMap_prefix (hhead : ∀ a, ∃ l, order a = a :: l)
    (hnext : ∀ {a b}, next a b → a ≠ b ∧ order a = a :: order b) {f : σ → Option α} {first : α}
    {ss : List σ} (h : ss.IsChain fun s s' => Advances next first (f s) (f s'))
    (h₀ : ∀ s ∈ ss.head?, f s = none ∨ f s = some first) :
    (ss.filterMap f).destutter (· ≠ ·) <+: order first := by
  have key : ∀ (ss : List σ) (a : α) (s : σ), f s = some a →
      (s :: ss).IsChain (fun s s' => Advances next first (f s) (f s')) →
      (a :: ss.filterMap f).IsChain fun a b => b = a ∨ next a b := by
    intro ss
    induction ss with
    | nil => intro a s _ _; simp
    | cons t ss ih =>
      intro a s ha hc
      rw [List.isChain_cons_cons] at hc
      obtain ⟨ht, hc⟩ := hc
      rw [ha] at ht
      obtain ⟨b, hb, hab⟩ := ht
      rw [List.filterMap_cons_some hb, List.isChain_cons_cons]
      exact ⟨hab, ih b t hb hc⟩
  induction ss with
  | nil => simp
  | cons s ss ih =>
    rcases h₀ s rfl with hs | hs
    · rw [List.filterMap_cons_none hs]
      refine ih (List.IsChain.tail h) fun t ht => ?_
      cases ss with
      | nil => simp at ht
      | cons t' ss =>
        obtain rfl : t' = t := by simpa using ht
        have := (List.isChain_cons_cons.mp h).1
        rwa [hs] at this
    · rw [List.filterMap_cons_some hs]
      exact destutter_prefix hhead hnext (key ss first s hs h)

end Order

end Platform
