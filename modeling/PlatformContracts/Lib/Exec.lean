import Mathlib

/-!
# Critical sections

A section runs on a state and ends with a value, with an error value, or with a panic. However it
ends, the state is the one that it reached: an error return does not roll anything back, and a
panic leaves what was written before it (a poisoned lock is recovered, not reset).

* `Exec σ ε α`: a section on `σ` with errors `ε`; `Exec.on m s` is its result and its last state.
* `Exec.ensure`, `Exec.ofResult`: the early returns (`if … return Err`, `?`); `Exec.expect`,
  `Exec.expectOk`, `Exec.assert`: what panics.
* `Exec.result`: a `Result` as a value, for a caller that looks at its error.
* `checkedAdd`, `checkedSub`, `saturatingAdd`: fixed-width arithmetic that reports overflow, or
  stops at the bound.
* `Exec.Safe`: a section that does not panic from a state; `Exec.Ends m s Q`: it ends with a value
  and `Q` holds.
* `Exec.onPart`: a section on a part of a larger state.
* `Exec.Sim`: two sections that do the same from related states; `Exec.record`: a section with a
  log of its calls, and that the log changes nothing else.
-/

namespace Platform

variable {σ ε α β : Type}

/-- How a section stops before its end. -/
inductive Stop (ε : Type) where
  | err (e : ε)
  | panic (message : String)
  deriving DecidableEq, Repr

/-- A section on a state `σ`, with error values `ε` (module doc). -/
abbrev Exec (σ ε : Type) := ExceptT (Stop ε) (StateM σ)

namespace Exec

/-- The result of `m` from `s`, and the state that it reached. -/
def on (m : Exec σ ε α) (s : σ) : Except (Stop ε) α × σ :=
  Id.run (StateT.run (ExceptT.run m) s)

/-- `if !p { return Err(e) }`. -/
def ensure (p : Prop) [Decidable p] (e : ε) : Exec σ ε Unit :=
  if p then pure () else throw (.err e)

/-- `r?`: the value, or an early return of the error. -/
def ofResult (r : Except ε α) : Exec σ ε α :=
  match r with
  | .ok a => pure a
  | .error e => throw (.err e)

/-- `o.ok_or(e)`. -/
def okOr (o : Option α) (e : ε) : Except ε α :=
  match o with
  | some a => .ok a
  | none => .error e

theorem okOr_eq_ok {o : Option α} {e : ε} {a : α} : okOr o e = .ok a ↔ o = some a := by
  cases o <;> simp [okOr]

theorem okOr_bind_eq_ok {o : Option α} {e : ε} {f : α → Except ε β} {b : β} :
    okOr o e >>= f = .ok b ↔ ∃ a, o = some a ∧ f a = .ok b := by
  cases o <;> simp [okOr, bind, Except.bind]

/-- `o.expect(message)`. -/
def expect (o : Option α) (message : String) : Exec σ ε α :=
  match o with
  | some a => pure a
  | none => throw (.panic message)

/-- `r.expect(message)` of a `Result`. The message of the panic goes on with the error. -/
def expectOk {ε' : Type} (r : Except ε' α) (message : String) : Exec σ ε α :=
  match r with
  | .ok a => pure a
  | .error _ => throw (.panic message)

/-- `assert!(p, message)`. -/
def assert (p : Prop) [Decidable p] (message : String) : Exec σ ε Unit :=
  if p then pure () else throw (.panic message)

/-- What a caller sees of a section that returns a `Result`: its value or error. A panic goes on. -/
def result {ε' : Type} (m : Exec σ ε α) : Exec σ ε' (Except ε α) :=
  ExceptT.mk fun s => match m.on s with
    | (.ok a, s') => (.ok (.ok a), s')
    | (.error (.err e), s') => (.ok (.error e), s')
    | (.error (.panic message), s') => (.error (.panic message), s')

section On

variable (s : σ)

theorem result_on {ε' : Type} (m : Exec σ ε α) :
    (result m : Exec σ ε' (Except ε α)).on s = match m.on s with
      | (.ok a, s') => (.ok (.ok a), s')
      | (.error (.err e), s') => (.ok (.error e), s')
      | (.error (.panic message), s') => (.error (.panic message), s') := rfl

@[simp] theorem on_pure (a : α) : (pure a : Exec σ ε α).on s = (.ok a, s) := rfl

@[simp] theorem on_throw (e : Stop ε) : (throw e : Exec σ ε α).on s = (.error e, s) := rfl

@[simp] theorem on_get : (get : Exec σ ε σ).on s = (.ok s, s) := rfl

@[simp] theorem on_modify (f : σ → σ) : (modify f : Exec σ ε Unit).on s = (.ok (), f s) := rfl

/-- A sequence goes on from the state and the value of its first part, or stops with it. -/
theorem on_bind (m : Exec σ ε α) (f : α → Exec σ ε β) :
    (m >>= f).on s = match m.on s with
      | (.ok a, s') => (f a).on s'
      | (.error e, s') => (.error e, s') := by
  unfold on
  simp only [ExceptT.run_bind, StateT.run_bind]
  rcases h : StateT.run (ExceptT.run m) s with ⟨_ | _, _⟩ <;> rfl

theorem on_bind_of_ok {s s' : σ} {m : Exec σ ε α} {a : α} {f : α → Exec σ ε β}
    (h : m.on s = (.ok a, s')) : (m >>= f).on s = (f a).on s' := by rw [on_bind, h]

/-- A sequence that ends with a pure value. -/
theorem on_bind_pure (m : Exec σ ε α) (f : α → β) :
    (m >>= fun a => pure (f a)).on s = ((m.on s).1.map f, (m.on s).2) := by
  rw [on_bind]
  rcases m.on s with ⟨_ | _, _⟩ <;> rfl

@[simp] theorem on_get_bind (f : σ → Exec σ ε β) : (get >>= f).on s = (f s).on s := by
  rw [on_bind, on_get]

@[simp] theorem on_set_bind (s' : σ) (f : PUnit → Exec σ ε β) :
    ((set s' : Exec σ ε PUnit) >>= f).on s = (f ⟨⟩).on s' := by
  rw [on_bind]
  rfl

@[simp] theorem on_modify_bind (g : σ → σ) (f : Unit → Exec σ ε β) :
    ((modify g : Exec σ ε Unit) >>= f).on s = (f ()).on (g s) := by
  rw [on_bind, on_modify]

@[simp] theorem on_ensure_bind (p : Prop) [Decidable p] (e : ε) (f : Unit → Exec σ ε β) :
    (ensure p e >>= f).on s = if p then (f ()).on s else (.error (.err e), s) := by
  unfold ensure
  split
  · rw [on_bind, on_pure]
  · rw [on_bind, on_throw]

@[simp] theorem on_ofResult_bind (r : Except ε α) (f : α → Exec σ ε β) :
    (ofResult r >>= f).on s = match r with
      | .ok a => (f a).on s
      | .error e => (.error (.err e), s) := by
  unfold ofResult
  cases r
  · rw [on_bind, on_throw]
  · rw [on_bind, on_pure]

@[simp] theorem on_expect_bind (o : Option α) (message : String) (f : α → Exec σ ε β) :
    (expect o message >>= f).on s = match o with
      | some a => (f a).on s
      | none => (.error (.panic message), s) := by
  unfold expect
  cases o
  · rw [on_bind, on_throw]
  · rw [on_bind, on_pure]

@[simp] theorem on_expectOk_bind {ε' : Type} (r : Except ε' α) (message : String)
    (f : α → Exec σ ε β) :
    (expectOk r message >>= f).on s = match r with
      | .ok a => (f a).on s
      | .error _ => (.error (.panic message), s) := by
  unfold expectOk
  cases r
  · rw [on_bind, on_throw]
  · rw [on_bind, on_pure]

@[simp] theorem on_assert_bind (p : Prop) [Decidable p] (message : String)
    (f : Unit → Exec σ ε β) :
    (assert p message >>= f).on s =
      if p then (f ()).on s else (.error (.panic message), s) := by
  unfold assert
  split
  · rw [on_bind, on_pure]
  · rw [on_bind, on_throw]

end On

section Ok

variable {s s' : σ} {b : β}

/-- A sequence ends with a value when its parts do. -/
theorem bind_on_ok {m : Exec σ ε α} {f : α → Exec σ ε β} :
    (m >>= f).on s = (.ok b, s') ↔
      ∃ a s₁, m.on s = (.ok a, s₁) ∧ (f a).on s₁ = (.ok b, s') := by
  rw [on_bind]
  rcases m.on s with ⟨_ | a, s₁⟩
  · simp
  · simp

theorem on_eq_ok_of_toBool {m : Exec σ ε α} (h : (m.on s).1.toBool = true) :
    ∃ a s', m.on s = (.ok a, s') := by
  rcases hm : m.on s with ⟨_ | a, s'⟩
  · rw [hm] at h; cases h
  · exact ⟨a, s', rfl⟩

theorem assert_bind_ok {p : Prop} [Decidable p] {message : String} {f : Unit → Exec σ ε β} :
    (assert p message >>= f).on s = (.ok b, s') ↔ p ∧ (f ()).on s = (.ok b, s') := by
  rw [on_assert_bind]
  split <;> simp [*]

theorem expect_bind_ok {o : Option α} {message : String} {f : α → Exec σ ε β} :
    (expect o message >>= f).on s = (.ok b, s') ↔
      ∃ a, o = some a ∧ (f a).on s = (.ok b, s') := by
  rw [on_expect_bind]
  cases o <;> simp

theorem expectOk_bind_ok {ε' : Type} {r : Except ε' α} {message : String}
    {f : α → Exec σ ε β} :
    (expectOk r message >>= f).on s = (.ok b, s') ↔
      ∃ a, r = .ok a ∧ (f a).on s = (.ok b, s') := by
  rw [on_expectOk_bind]
  cases r <;> simp

end Ok

/-- `m` does not panic from `s`. -/
def Safe (m : Exec σ ε α) (s : σ) : Prop := ∀ message, (m.on s).1 ≠ .error (.panic message)

/-! ## Sections that end -/

section Ends

variable {s : σ} {Q Q' : α → σ → Prop} {P : β → σ → Prop}

/-- From `s` the section ends with a value, and `Q` holds of the value and the last state. -/
def Ends (m : Exec σ ε α) (s : σ) (Q : α → σ → Prop) : Prop :=
  ∃ a s', m.on s = (.ok a, s') ∧ Q a s'

theorem Ends.of_on {m : Exec σ ε α} {a : α} {s' : σ} (h : m.on s = (.ok a, s')) (hq : Q a s') :
    Ends m s Q := ⟨a, s', h, hq⟩

theorem Ends.mono {m : Exec σ ε α} (h : Ends m s Q) (hq : ∀ a s', Q a s' → Q' a s') :
    Ends m s Q' := by
  obtain ⟨a, s', hm, h⟩ := h
  exact ⟨a, s', hm, hq a s' h⟩

/-- The section ends in one way, so what holds at its end holds there. -/
theorem Ends.post {m : Exec σ ε α} {a : α} {s' : σ} (h : Ends m s Q)
    (hm : m.on s = (.ok a, s')) : Q a s' := by
  obtain ⟨b, s₁, hb, hq⟩ := h
  rw [hm] at hb
  obtain ⟨⟨⟩, ⟨⟩⟩ := Prod.mk.inj hb
  exact hq

theorem Ends.pure {a : α} (h : Q a s) : Ends (pure a : Exec σ ε α) s Q := ⟨a, s, rfl, h⟩

/-- A sequence ends when its rest ends from every state that its first part can end in. -/
theorem Ends.bind {m : Exec σ ε α} {f : α → Exec σ ε β} (h : Ends m s Q)
    (hf : ∀ a s', Q a s' → Ends (f a) s' P) : Ends (m >>= f) s P := by
  obtain ⟨a, s', hm, hq⟩ := h
  obtain ⟨b, s'', hb, hp⟩ := hf a s' hq
  exact ⟨b, s'', by rw [on_bind, hm]; exact hb, hp⟩

theorem Ends.assert_bind {p : Prop} [Decidable p] {message : String} {f : Unit → Exec σ ε β}
    (hp : p) (h : Ends (f ()) s P) : Ends (assert p message >>= f) s P := by
  obtain ⟨b, s', hb, hq⟩ := h
  exact ⟨b, s', assert_bind_ok.mpr ⟨hp, hb⟩, hq⟩

theorem Ends.expect_bind {o : Option α} {a : α} {message : String} {f : α → Exec σ ε β}
    (ho : o = some a) (h : Ends (f a) s P) : Ends (expect o message >>= f) s P := by
  obtain ⟨b, s', hb, hq⟩ := h
  exact ⟨b, s', expect_bind_ok.mpr ⟨a, ho, hb⟩, hq⟩

theorem Ends.expectOk_bind {ε' : Type} {r : Except ε' α} {a : α} {message : String}
    {f : α → Exec σ ε β} (hr : r = .ok a) (h : Ends (f a) s P) :
    Ends (expectOk r message >>= f) s P := by
  obtain ⟨b, s', hb, hq⟩ := h
  exact ⟨b, s', expectOk_bind_ok.mpr ⟨a, hr, hb⟩, hq⟩

theorem Ends.of_result_ok {ε' : Type} {m : Exec σ ε α} {a : α} {s' : σ}
    {Q : Except ε α → σ → Prop} (h : m.on s = (.ok a, s')) (hq : Q (.ok a) s') :
    Ends (result m : Exec σ ε' (Except ε α)) s Q :=
  .of_on (by rw [result_on, h]) hq

theorem Ends.of_result_err {ε' : Type} {m : Exec σ ε α} {e : ε} {s' : σ}
    {Q : Except ε α → σ → Prop} (h : m.on s = (.error (.err e), s')) (hq : Q (.error e) s') :
    Ends (result m : Exec σ ε' (Except ε α)) s Q :=
  .of_on (by rw [result_on, h]) hq

theorem Ends.result_congr {ε' : Type} {m : Exec σ ε α} (m' : Exec σ ε α)
    {Q : Except ε α → σ → Prop} (h : m.on s = m'.on s)
    (hm : Ends (result m' : Exec σ ε' (Except ε α)) s Q) :
    Ends (result m : Exec σ ε' (Except ε α)) s Q := by
  obtain ⟨r, s', hon, hq⟩ := hm
  exact ⟨r, s', by rw [result_on, h, ← result_on]; exact hon, hq⟩

/-- A method whose first part ends, for a caller that looks at the result: it returns the error
of its first part, or goes on. -/
theorem Ends.result_bind {ε' : Type} {m : Exec σ ε α} {f : α → Exec σ ε β}
    {Q : Except ε α → σ → Prop} {P : Except ε β → σ → Prop}
    (h : Ends (result m : Exec σ ε' (Except ε α)) s Q)
    (hok : ∀ a s', Q (.ok a) s' → Ends (result (f a) : Exec σ ε' (Except ε β)) s' P)
    (herr : ∀ e s', Q (.error e) s' → P (.error e) s') :
    Ends (result (m >>= f) : Exec σ ε' (Except ε β)) s P := by
  obtain ⟨r, s', hm, hq⟩ := h
  unfold Ends
  rw [result_on] at hm ⊢
  rw [on_bind]
  rcases hr : m.on s with ⟨(e | message) | a, s₁⟩ <;> rw [hr] at hm
  · simp only [Prod.mk.injEq, Except.ok.injEq] at hm
    obtain ⟨rfl, rfl⟩ := hm
    exact ⟨_, _, rfl, herr e s₁ hq⟩
  · simp at hm
  · simp only [Prod.mk.injEq, Except.ok.injEq] at hm
    obtain ⟨rfl, rfl⟩ := hm
    exact hok a s₁ hq

end Ends

/-! ## Simulation -/

section Sim

variable {τ : Type} {R : σ → τ → Prop}

/-- From related states the two sections end alike, in related states. -/
def Sim (R : σ → τ → Prop) (m : Exec σ ε α) (m' : Exec τ ε α) : Prop :=
  ∀ s t, R s t → (m.on s).1 = (m'.on t).1 ∧ R (m.on s).2 (m'.on t).2

theorem Sim.pure (a : α) : Sim R (pure a : Exec σ ε α) (pure a) := fun _ _ h => ⟨rfl, h⟩

theorem Sim.throw (e : Stop ε) : Sim R (throw e : Exec σ ε α) (throw e) := fun _ _ h => ⟨rfl, h⟩

theorem Sim.bind {m : Exec σ ε α} {m' : Exec τ ε α} {f : α → Exec σ ε β} {f' : α → Exec τ ε β}
    (h : Sim R m m') (hf : ∀ a, Sim R (f a) (f' a)) : Sim R (m >>= f) (m' >>= f') := by
  intro s t hr
  obtain ⟨he, hr'⟩ := h s t hr
  rw [on_bind, on_bind]
  revert he hr'
  rcases m.on s with ⟨_ | a, s₁⟩ <;> rcases m'.on t with ⟨_ | b, t₁⟩ <;> intro he hr' <;>
    simp only [reduceCtorEq, Except.ok.injEq, Except.error.injEq] at he <;> subst he
  · exact ⟨rfl, hr'⟩
  · exact hf a s₁ t₁ hr'

theorem Sim.assert (p : Prop) [Decidable p] (message : String) :
    Sim R (assert p message : Exec σ ε Unit) (assert p message) := by
  unfold Exec.assert
  split
  · exact .pure ()
  · exact .throw _

theorem Sim.expect (o : Option α) (message : String) :
    Sim R (expect o message : Exec σ ε α) (expect o message) := by
  unfold Exec.expect
  cases o
  · exact .throw _
  · exact .pure _

theorem Sim.expectOk {ε' : Type} (r : Except ε' α) (message : String) :
    Sim R (expectOk r message : Exec σ ε α) (expectOk r message) := by
  unfold Exec.expectOk
  cases r
  · exact .throw _
  · exact .pure _

end Sim

/-! ## A part of the state -/

section Part

variable {τ : Type} {get' : τ → σ} {set' : σ → τ → τ}

/-- The section, on a part of the state. -/
def onPart (get' : τ → σ) (set' : σ → τ → τ) (m : Exec σ ε α) : Exec τ ε α :=
  ExceptT.mk fun t => ((m.on (get' t)).1, set' (m.on (get' t)).2 t)

theorem onPart_on (m : Exec σ ε α) (t : τ) :
    (onPart get' set' m).on t = ((m.on (get' t)).1, set' (m.on (get' t)).2 t) := rfl

theorem Ends.part {m : Exec σ ε α} {t : τ} {Q : α → σ → Prop} (h : Ends m (get' t) Q) :
    Ends (onPart get' set' m) t fun a t' => ∃ s', Q a s' ∧ t' = set' s' t := by
  obtain ⟨a, s', hm, hq⟩ := h
  exact ⟨a, set' s' t, by rw [onPart_on, hm], s', hq, rfl⟩

end Part

/-! ## A log of the calls -/

section Record

variable {κ : Type}

/-- The section, that also appends what `call` makes of its value to a log. -/
def record (m : Exec σ ε α) (call : α → κ) : Exec (σ × List κ) ε α :=
  ExceptT.mk fun p => match m.on p.1 with
    | (.ok a, s) => (.ok a, (s, p.2 ++ [call a]))
    | (.error e, s) => (.error e, (s, p.2))

theorem record_on (m : Exec σ ε α) (call : α → κ) (p : σ × List κ) :
    (record m call).on p = match m.on p.1 with
      | (.ok a, s) => (.ok a, (s, p.2 ++ [call a]))
      | (.error e, s) => (.error e, (s, p.2)) := rfl

/-- The log does not change the section. -/
theorem record_sim (m : Exec σ ε α) (call : α → κ) :
    Sim (fun (p : σ × List κ) s => p.1 = s) (record m call) m := by
  rintro p s rfl
  rw [record_on]
  rcases m.on p.1 with ⟨_ | _, _⟩ <;> exact ⟨rfl, rfl⟩

/-- A recorded section before the rest. -/
theorem record_bind_ok {m : Exec σ ε α} {call : α → κ} {f : α → Exec (σ × List κ) ε β}
    {p p' : σ × List κ} {b : β} (h : (record m call >>= f).on p = (.ok b, p')) :
    ∃ a s, (f a).on (s, p.2 ++ [call a]) = (.ok b, p') := by
  obtain ⟨a, p₁, hm, hf⟩ := bind_on_ok.mp h
  rw [record_on] at hm
  rcases hr : m.on p.1 with ⟨_ | a', s₁⟩ <;> rw [hr] at hm
  · simp at hm
  · simp only [Prod.mk.injEq, Except.ok.injEq] at hm
    obtain ⟨rfl, rfl⟩ := hm
    exact ⟨a', s₁, hf⟩

/-- A list has one split at an element with a property that no other element has. -/
theorem split_unique {p : κ → Bool} {l₁ l₂ l₁' l₂' : List κ} {a b : κ} (hb : p b = true)
    (h₁ : ∀ c ∈ l₁, p c = false) (h₂ : ∀ c ∈ l₂, p c = false)
    (h : l₁ ++ a :: l₂ = l₁' ++ b :: l₂') : l₁ = l₁' ∧ a = b ∧ l₂ = l₂' := by
  induction l₁ generalizing l₁' with
  | nil =>
    cases l₁' with
    | nil =>
      obtain ⟨rfl, rfl⟩ := List.cons.inj h
      exact ⟨rfl, rfl, rfl⟩
    | cons c l =>
      obtain ⟨rfl, rfl⟩ := List.cons.inj h
      have := h₂ b (by simp)
      rw [hb] at this
      cases this
  | cons c l ih =>
    cases l₁' with
    | nil =>
      obtain ⟨rfl, -⟩ := List.cons.inj h
      have := h₁ c List.mem_cons_self
      rw [hb] at this
      cases this
    | cons c' l' =>
      obtain ⟨rfl, ht⟩ := List.cons.inj h
      obtain ⟨rfl, hab, hl⟩ := ih (fun d hd => h₁ d (List.mem_cons_of_mem _ hd)) ht
      exact ⟨rfl, hab, hl⟩

end Record

end Exec

/-! ## Fixed-width arithmetic -/

/-- `a.checked_add(b)`. -/
def checkedAdd (a b : UInt64) : Option UInt64 :=
  if a.toNat + b.toNat < 2 ^ 64 then some (a + b) else none

/-- `a.checked_sub(b)`. -/
def checkedSub (a b : UInt64) : Option UInt64 :=
  if b ≤ a then some (a - b) else none

/-- `a.saturating_add(b)`. -/
def saturatingAdd (a b : UInt64) : UInt64 :=
  if a.toNat + b.toNat < 2 ^ 64 then a + b else UInt64.ofNat (2 ^ 64 - 1)

theorem saturatingAdd_one_eq_self {a : UInt64} :
    saturatingAdd a 1 = a ↔ a.toNat = 2 ^ 64 - 1 := by
  have ha := a.toNat_lt
  unfold saturatingAdd
  rw [← UInt64.toNat_inj, UInt64.toNat_one]
  split
  · rename_i h
    rw [UInt64.toNat_add, UInt64.toNat_one, Nat.mod_eq_of_lt h]
    omega
  · rw [UInt64.toNat_ofNat_of_lt' (by decide)]
    omega

theorem checkedAdd_eq_some {a b c : UInt64} :
    checkedAdd a b = some c ↔ c.toNat = a.toNat + b.toNat := by
  have hc := c.toNat_lt
  unfold checkedAdd
  split
  · rename_i h
    rw [Option.some_inj, ← UInt64.toNat_inj, UInt64.toNat_add, Nat.mod_eq_of_lt h]
    exact eq_comm
  · simp only [reduceCtorEq, false_iff]
    omega

theorem checkedAdd_of_lt {a b : UInt64} (h : a.toNat + b.toNat < 2 ^ 64) :
    checkedAdd a b = some (a + b) := if_pos h

theorem checkedAdd_eq_none {a b : UInt64} :
    checkedAdd a b = none ↔ 2 ^ 64 ≤ a.toNat + b.toNat := by
  unfold checkedAdd
  split <;> simp only [reduceCtorEq, false_iff, true_iff] <;> omega

theorem checkedSub_eq_some {a b c : UInt64} :
    checkedSub a b = some c ↔ c.toNat + b.toNat = a.toNat := by
  unfold checkedSub
  split
  · rename_i h
    have hle := UInt64.le_iff_toNat_le.mp h
    rw [Option.some_inj, ← UInt64.toNat_inj, UInt64.toNat_sub_of_le _ _ h]
    omega
  · rename_i h
    rw [UInt64.le_iff_toNat_le] at h
    simp only [reduceCtorEq, false_iff]
    omega

theorem checkedSub_eq_none {a b : UInt64} : checkedSub a b = none ↔ a.toNat < b.toNat := by
  unfold checkedSub
  split <;> rename_i h <;> rw [UInt64.le_iff_toNat_le] at h <;>
    simp only [reduceCtorEq, false_iff, true_iff] <;> omega

end Platform
