import PlatformContracts.Lib.Exec

/-!
# Two threads, and code that follows other code

* `Thread σ ε α`: a thread is one section after the other; `Thread.run`: with nothing between them.
* `race schedule p q`: two threads under a schedule that says whose section is next. A thread that
  panics stops there, and the other one goes on; a join sees what became of it.
* `race_ends`: what every section of the two threads keeps holds at their end.
* `Thread.AtMost`, `race_take`: short threads have few schedules.
* `Exec.Follows R V m m'`: from related states, where `m'` ends with a value so does `m`, with a
  related value in a related state. It is kept by sequences, and by races of threads whose
  sections follow each other (`Thread.Follows`, `race_follows`).
-/

namespace Platform

variable {σ τ ε ε' : Type}

/-! ## Threads -/

inductive Thread (σ ε α : Type) : Type 1 where
  | ret (a : α)
  | step {β : Type} (m : Exec σ ε β) (next : β → Thread σ ε α)

/-- The thread, alone. -/
def Thread.run {α : Type} : Thread σ ε α → Exec σ ε α
  | .ret a => pure a
  | .step m next => m >>= fun b => (next b).run

section Race

variable {α β : Type}

/-- What became of the two threads, and the state after them. Where the schedule ends, or names a
thread that is over, the left thread goes on and then the right one. -/
def race : List Bool → Thread σ ε α → Thread σ ε β → σ →
    (Except (Stop ε) α × Except (Stop ε) β) × σ
  | true :: schedule, .step m next, q, s => match m.on s with
    | (.ok b, s) => race schedule (next b) q s
    | (.error e, s) => ((.error e, (q.run.on s).1), (q.run.on s).2)
  | false :: schedule, p, .step m next, s => match m.on s with
    | (.ok b, s) => race schedule p (next b) s
    | (.error e, s) => (((p.run.on s).1, .error e), (p.run.on s).2)
  | _, p, q, s => (((p.run.on s).1, (q.run.on (p.run.on s).2).1), (q.run.on (p.run.on s).2).2)

/-- The threads are spawned, and joined in this order. -/
def raceJoin (schedule : List Bool) (p : Thread σ ε α) (q : Thread σ ε β)
    (leftPanic rightPanic : String) : Exec σ ε (α × β) := do
  let (left, right) ← (ExceptT.mk fun s => (.ok (race schedule p q s).1, (race schedule p q s).2) :
    Exec σ ε (Except (Stop ε) α × Except (Stop ε) β))
  let left ← Exec.expectOk left leftPanic
  let right ← Exec.expectOk right rightPanic
  pure (left, right)

theorem raceJoin_on {schedule : List Bool} {p : Thread σ ε α} {q : Thread σ ε β}
    {leftPanic rightPanic : String} {s s' : σ} {a : α} {b : β} :
    (raceJoin schedule p q leftPanic rightPanic).on s = (.ok (a, b), s') ↔
      race schedule p q s = ((.ok a, .ok b), s') := by
  unfold raceJoin
  rw [Exec.bind_on_ok]
  constructor
  · rintro ⟨⟨left, right⟩, s₁, hrace, hjoin⟩
    obtain ⟨a', hleft, hjoin⟩ := Exec.expectOk_bind_ok.mp hjoin
    obtain ⟨b', hright, hjoin⟩ := Exec.expectOk_bind_ok.mp hjoin
    obtain ⟨hab, rfl⟩ := Prod.mk.inj hjoin
    obtain ⟨rfl, rfl⟩ := Prod.mk.inj (Except.ok.inj hab)
    subst hleft hright
    obtain ⟨hresults, hstate⟩ := Prod.mk.inj hrace
    exact Prod.ext (Except.ok.inj hresults) hstate
  · intro hrace
    refine ⟨(.ok a, .ok b), s', ?_, rfl⟩
    show (Except.ok (race schedule p q s).1, (race schedule p q s).2) = _
    rw [hrace]

/-! ## What the sections keep -/

/-- A thread whose sections end with a value, and keep a property of what is left of it. -/
theorem Thread.run_ends {I : Thread σ ε α → σ → Prop} {p : Thread σ ε α} {s : σ}
    (hstep : ∀ {γ : Type} {m : Exec σ ε γ} {next : γ → Thread σ ε α} {s : σ},
      I (.step m next) s → m.Ends s fun c s' => I (next c) s')
    (h : I p s) : p.run.Ends s fun a s' => I (.ret a) s' := by
  induction p generalizing s with
  | ret a => exact .pure h
  | step m next ih => exact (hstep h).bind fun c s' hc => ih c hc

/-- Two threads whose sections end with a value, and keep a property of what is left of them. -/
theorem race_ends {I : Thread σ ε α → Thread σ ε β → σ → Prop} (schedule : List Bool)
    {p : Thread σ ε α} {q : Thread σ ε β} {s : σ}
    (hleft : ∀ {γ : Type} {m : Exec σ ε γ} {next : γ → Thread σ ε α} {q : Thread σ ε β} {s : σ},
      I (.step m next) q s → m.Ends s fun c s' => I (next c) q s')
    (hright : ∀ {γ : Type} {m : Exec σ ε γ} {next : γ → Thread σ ε β} {p : Thread σ ε α} {s : σ},
      I p (.step m next) s → m.Ends s fun c s' => I p (next c) s')
    (h : I p q s) :
    ∃ a b s', race schedule p q s = ((.ok a, .ok b), s') ∧ I (.ret a) (.ret b) s' := by
  -- Where the schedule says no more.
  have alone : ∀ {p : Thread σ ε α} {q : Thread σ ε β} {s : σ}, I p q s → ∃ a b s',
      (((p.run.on s).1, (q.run.on (p.run.on s).2).1), (q.run.on (p.run.on s).2).2) =
        ((.ok a, .ok b), s') ∧ I (.ret a) (.ret b) s' := by
    intro p q s h
    obtain ⟨a, s₁, hp, h⟩ := Thread.run_ends (I := fun p s => I p q s) hleft h
    obtain ⟨b, s₂, hq, h⟩ := Thread.run_ends (I := fun q s => I (.ret a) q s) hright h
    exact ⟨a, b, s₂, by rw [hp, hq], h⟩
  induction schedule generalizing p q s with
  | nil => exact alone h
  | cons first schedule ih =>
    cases first with
    | true =>
      cases p with
      | ret a => exact alone h
      | step m next =>
        obtain ⟨c, s₁, hm, h⟩ := hleft h
        obtain ⟨a, b, s', hrace, h⟩ := ih h
        exact ⟨a, b, s', by simp only [race, hm, hrace], h⟩
    | false =>
      cases q with
      | ret b => exact alone h
      | step m next =>
        obtain ⟨c, s₁, hm, h⟩ := hright h
        obtain ⟨a, b, s', hrace, h⟩ := ih h
        exact ⟨a, b, s', by simp only [race, hm, hrace], h⟩

/-! ## Short threads -/

/-- The thread has at most so many sections. -/
inductive Thread.AtMost : Nat → Thread σ ε α → Prop
  | ret {n : Nat} {a : α} : AtMost n (.ret a)
  | step {n : Nat} {γ : Type} {m : Exec σ ε γ} {next : γ → Thread σ ε α} :
      (∀ c, AtMost n (next c)) → AtMost (n + 1) (.step m next)

/-- A schedule of short threads matters as far as they go. -/
theorem race_take {schedule : List Bool} {p : Thread σ ε α} {q : Thread σ ε β} {i j : Nat}
    (hp : p.AtMost i) (hq : q.AtMost j) (s : σ) :
    race schedule p q s = race (schedule.take (i + j)) p q s := by
  induction schedule generalizing p q i j s with
  | nil => rw [List.take_nil]
  | cons first schedule ih =>
    cases first with
    | true =>
      cases hp with
      | ret => cases i + j <;> rfl
      | @step i _ m next hnext =>
        rw [Nat.add_right_comm, List.take_succ_cons]
        rcases hm : m.on s with ⟨_ | c, s₁⟩
        · simp only [race, hm]
        · simp only [race, hm, ih (hnext c) hq]
    | false =>
      cases hq with
      | ret => cases i + j <;> rfl
      | @step j _ m next hnext =>
        rw [← Nat.add_assoc, List.take_succ_cons]
        rcases hm : m.on s with ⟨_ | c, s₁⟩
        · simp only [race, hm]
        · simp only [race, hm, ih hp (hnext c)]

theorem raceJoin_take (schedule : List Bool) {p : Thread σ ε α} {q : Thread σ ε β} {i j : Nat}
    (hp : p.AtMost i) (hq : q.AtMost j) (leftPanic rightPanic : String) :
    raceJoin schedule p q leftPanic rightPanic =
      raceJoin (schedule.take (i + j)) p q leftPanic rightPanic := by
  have hrace : race schedule p q = race (schedule.take (i + j)) p q := funext (race_take hp hq)
  rw [raceJoin, raceJoin, hrace]

/-- The schedules of at most `n` sections. -/
def shortSchedules : Nat → List (List Bool)
  | 0 => [[]]
  | n + 1 => [] :: (shortSchedules n).flatMap fun schedule => [true :: schedule, false :: schedule]

theorem mem_shortSchedules {n : Nat} {schedule : List Bool} (h : schedule.length ≤ n) :
    schedule ∈ shortSchedules n := by
  induction n generalizing schedule with
  | zero =>
    rw [List.length_eq_zero_iff.mp (Nat.le_zero.mp h)]
    exact List.mem_singleton.mpr rfl
  | succ n ih =>
    cases schedule with
    | nil => exact List.mem_cons_self
    | cons first schedule =>
      refine List.mem_cons_of_mem _ (List.mem_flatMap.mpr
        ⟨schedule, ih (Nat.le_of_succ_le_succ h), ?_⟩)
      cases first <;> simp

end Race

/-! ## Following -/

namespace Exec

section Follows

variable {α β α' β' : Type} {R : σ → τ → Prop} {V : α → α' → Prop} {W : β → β' → Prop}

/-- Where `m'` ends with a value, `m` does (module doc). -/
def Follows (R : σ → τ → Prop) (V : α → α' → Prop) (m : Exec σ ε α) (m' : Exec τ ε' α') : Prop :=
  ∀ s t, R s t → ∀ a' t', m'.on t = (.ok a', t') → m.Ends s fun a s' => V a a' ∧ R s' t'

/-- Results that are both values, related by `V`, or both errors. -/
inductive Answers {E E' : Type} (V : α → α' → Prop) : Except E α → Except E' α' → Prop
  | ok {a : α} {a' : α'} : V a a' → Answers V (.ok a) (.ok a')
  | error {e : E} {e' : E'} : Answers V (.error e) (.error e')

theorem Answers.refl {E : Type} {V : α → α → Prop} (hv : ∀ a, V a a) (r : Except E α) :
    Answers V r r := by
  cases r with
  | ok a => exact .ok (hv a)
  | error => exact .error

theorem Follows.refl {V : α → α → Prop} (hv : ∀ a, V a a) (m : Exec σ ε α) :
    Follows (· = ·) V m m := by
  rintro s _ rfl a s' hm
  exact .of_on hm ⟨hv a, rfl⟩

theorem Follows.pure {a : α} {a' : α'} (h : V a a') :
    Follows R V (pure a : Exec σ ε α) (pure a' : Exec τ ε' α') := by
  intro s t hr b t' hb
  obtain ⟨hvalue, rfl⟩ := Prod.mk.inj hb
  obtain rfl := Except.ok.inj hvalue
  exact .pure ⟨h, hr⟩

/-- What ends with no value is followed by anything. -/
theorem Follows.throw (m : Exec σ ε α) (e : Stop ε') :
    Follows R V m (throw e : Exec τ ε' α') := by
  intro s t _ b t' hb
  cases (Prod.mk.inj hb).1

theorem Follows.bind {m : Exec σ ε α} {m' : Exec τ ε' α'} {f : α → Exec σ ε β}
    {f' : α' → Exec τ ε' β'} (h : Follows R V m m')
    (hf : ∀ a a', V a a' → Follows R W (f a) (f' a')) : Follows R W (m >>= f) (m' >>= f') := by
  intro s t hr b' t' hb
  obtain ⟨a', t₁, hm, hrest⟩ := bind_on_ok.mp hb
  exact (h s t hr a' t₁ hm).bind fun a s' hv => hf a a' hv.1 s' t₁ hv.2 b' t' hrest

/-- A statement, and what follows it. -/
theorem Follows.seq {m : Exec σ ε Unit} {m' : Exec τ ε' Unit} {f : Exec σ ε β}
    {f' : Exec τ ε' β'} (h : Follows R (· = ·) m m') (hf : Follows R W f f') :
    Follows R W (m >>= fun _ => f) (m' >>= fun _ => f') :=
  h.bind fun _ _ _ => hf

theorem Follows.assert {p p' : Prop} [Decidable p] [Decidable p'] (h : p' → p)
    (message : String) :
    Follows R (· = ·) (assert p message : Exec σ ε Unit) (assert p' message : Exec τ ε' Unit) := by
  unfold Exec.assert
  by_cases hp : p'
  · rw [if_pos hp, if_pos (h hp)]
    exact .pure rfl
  · rw [if_neg hp]
    exact .throw _ _

theorem Follows.expect {o : Option α} {o' : Option α'} (h : ∀ a', o' = some a' → ∃ a, o = some a ∧
    V a a') (message : String) :
    Follows R V (expect o message : Exec σ ε α) (expect o' message : Exec τ ε' α') := by
  unfold Exec.expect
  cases o' with
  | none => exact .throw _ _
  | some a' =>
    obtain ⟨a, rfl, hv⟩ := h a' rfl
    exact .pure hv

theorem Follows.expectOk {E E' : Type} {r : Except E α} {r' : Except E' α'} (h : Answers V r r')
    (message : String) :
    Follows R V (expectOk r message : Exec σ ε α) (expectOk r' message : Exec τ ε' α') := by
  cases h with
  | ok hv => exact .pure hv
  | error => exact .throw _ _

end Follows

end Exec

section ThreadFollows

variable {α β α' β' : Type} {R : σ → τ → Prop} {V : α → α' → Prop} {W : β → β' → Prop}

/-- Threads whose sections follow each other. -/
inductive Thread.Follows (R : σ → τ → Prop) (V : α → α' → Prop) :
    Thread σ ε α → Thread τ ε' α' → Prop
  | ret {a : α} {a' : α'} : V a a' → Follows R V (.ret a) (.ret a')
  | step {γ γ' : Type} {U : γ → γ' → Prop} {m : Exec σ ε γ} {m' : Exec τ ε' γ'}
      {next : γ → Thread σ ε α} {next' : γ' → Thread τ ε' α'} :
      m.Follows R U m' → (∀ c c', U c c' → Follows R V (next c) (next' c')) →
      Follows R V (.step m next) (.step m' next')

theorem Thread.Follows.run {p : Thread σ ε α} {p' : Thread τ ε' α'} (h : p.Follows R V p') :
    p.run.Follows R V p'.run := by
  induction h with
  | ret hv => exact .pure hv
  | step hm _ ih => exact hm.bind ih

theorem race_follows {schedule : List Bool} {p : Thread σ ε α} {p' : Thread τ ε' α'}
    {q : Thread σ ε β} {q' : Thread τ ε' β'} {s : σ} {t t' : τ} {a' : α'} {b' : β'}
    (hp : p.Follows R V p') (hq : q.Follows R W q') (hr : R s t)
    (h : race schedule p' q' t = ((.ok a', .ok b'), t')) :
    ∃ a b s', race schedule p q s = ((.ok a, .ok b), s') ∧ V a a' ∧ W b b' ∧ R s' t' := by
  have alone : ∀ {p : Thread σ ε α} {p' : Thread τ ε' α'} {q : Thread σ ε β}
      {q' : Thread τ ε' β'} {s : σ} {t : τ}, p.Follows R V p' → q.Follows R W q' → R s t →
      (((p'.run.on t).1, (q'.run.on (p'.run.on t).2).1), (q'.run.on (p'.run.on t).2).2) =
        ((.ok a', .ok b'), t') →
      ∃ a b s', (((p.run.on s).1, (q.run.on (p.run.on s).2).1), (q.run.on (p.run.on s).2).2) =
        ((.ok a, .ok b), s') ∧ V a a' ∧ W b b' ∧ R s' t' := by
    intro p p' q q' s t hp hq hr h
    obtain ⟨hab, ht'⟩ := Prod.mk.inj h
    obtain ⟨ha, hb⟩ := Prod.mk.inj hab
    obtain ⟨a, s₁, hpon, hv, hr₁⟩ := hp.run s t hr a' _ (Prod.ext ha rfl)
    obtain ⟨b, s₂, hqon, hw, hr₂⟩ := hq.run s₁ _ hr₁ b' t' (Prod.ext hb ht')
    exact ⟨a, b, s₂, by rw [hpon, hqon], hv, hw, hr₂⟩
  induction schedule generalizing p p' q q' s t with
  | nil => exact alone hp hq hr h
  | cons first schedule ih =>
    cases first with
    | true =>
      cases hp with
      | ret hv => exact alone (.ret hv) hq hr h
      | step hm hnext =>
        rename_i m m' next next'
        rcases hon : m'.on t with ⟨e | c', t₁⟩ <;> simp only [race, hon] at h
        · cases (Prod.mk.inj (Prod.mk.inj h).1).1
        · obtain ⟨c, s₁, hc, hu, hr₁⟩ := hm s t hr c' t₁ hon
          obtain ⟨a, b, s', hrace, hrest⟩ := ih (hnext c c' hu) hq hr₁ h
          exact ⟨a, b, s', by simp only [race, hc, hrace], hrest⟩
    | false =>
      cases hq with
      | ret hw => exact alone hp (.ret hw) hr h
      | step hm hnext =>
        rename_i m m' next next'
        rcases hon : m'.on t with ⟨e | c', t₁⟩ <;> simp only [race, hon] at h
        · cases (Prod.mk.inj (Prod.mk.inj h).1).2
        · obtain ⟨c, s₁, hc, hu, hr₁⟩ := hm s t hr c' t₁ hon
          obtain ⟨a, b, s', hrace, hrest⟩ := ih hp (hnext c c' hu) hr₁ h
          exact ⟨a, b, s', by simp only [race, hc, hrace], hrest⟩

theorem raceJoin_follows {schedule : List Bool} {p : Thread σ ε α} {p' : Thread τ ε' α'}
    {q : Thread σ ε β} {q' : Thread τ ε' β'} (leftPanic rightPanic : String)
    (hp : p.Follows R V p') (hq : q.Follows R W q') :
    (raceJoin schedule p q leftPanic rightPanic).Follows R
      (fun x x' => V x.1 x'.1 ∧ W x.2 x'.2) (raceJoin schedule p' q' leftPanic rightPanic) := by
  intro s t hr x' t' h
  obtain ⟨a, b, s', hrace, hv, hw, hr'⟩ := race_follows hp hq hr (raceJoin_on.mp h)
  exact ⟨(a, b), s', raceJoin_on.mpr hrace, ⟨hv, hw⟩, hr'⟩

end ThreadFollows

end Platform
