import PlatformContracts.Lib.Client

/-!
# What a client knows of a system

A client that makes its requests one after the other knows something of the system, and the steps
of the system's own threads do not change it.

* `View H τ`: what may be known, `τ`, and of which states. The steps of the system keep it, and
  lower a rank.
* `Answers W v request Q`: the request is answered from every state of which `v` is known, maybe
  after some steps of the system, and `Q` holds of the reply and of what is known then.
* `Meets W v p Q`: so is a whole client, under every order of the steps. There is a rule for each
  way to build one: `ret`, `then`, `request`, `both`, and `expectOk` and `assert` for what a test
  does with a reply.
* `Gives W v p a v'`: the client returns `a`, and knows `v'`.
-/

namespace Platform
namespace Client

variable {σ q : Type} {r : q → Type} {α β γ : Type} {H : Host σ q r}

structure View (H : Host σ q r) (τ : Type) where
  sees : σ → τ → Prop
  rank : σ → Nat
  env : ∀ {s s' : σ} {v : τ}, sees s v → H.env s s' → sees s' v ∧ rank s' < rank s

namespace View

variable {τ : Type} (W : View H τ)

structure Answers (v : τ) (request : q) (Q : r request → τ → Prop) : Prop where
  go : ∀ {s}, W.sees s v → (∃ s', H.env s s') ∨ ∃ reply s', H.answer s request reply s'
  after : ∀ {s reply s'}, W.sees s v → H.answer s request reply s' →
    ∃ v', Q reply v' ∧ W.sees s' v'

def Meets (v : τ) (p : Client q r α) (Q : Except String α → τ → Prop) : Prop :=
  ∀ s, W.sees s v → Ends H (fun x s' => ∃ v', Q x v' ∧ W.sees s' v') (p, s)

def Gives (v : τ) (p : Client q r α) (a : α) (v' : τ) : Prop :=
  W.Meets v p (Returns fun a₁ v₁ => a₁ = a ∧ v₁ = v')

variable {W} {v v' : τ} {p : Client q r α} {f : α → Client q r β}

theorem Answers.mono {request : q} {P Q : r request → τ → Prop} (h : W.Answers v request P)
    (hpq : ∀ reply v', P reply v' → Q reply v') : W.Answers v request Q where
  go := h.go
  after hs ha := by
    obtain ⟨v', hp, hs'⟩ := h.after hs ha
    exact ⟨v', hpq _ _ hp, hs'⟩

/-! ## Clients -/

section Meets

variable {Q R : Except String α → τ → Prop}

theorem Meets.ret {a : α} (h : Q (.ok a) v) : W.Meets v (.ret a) Q :=
  fun _ hs => .ret ⟨v, h, hs⟩

theorem Meets.panic {message : String} (h : Q (.error message) v) :
    W.Meets v (.panic message) Q :=
  fun _ hs => .panic ⟨v, h, hs⟩

theorem Meets.mono (h : W.Meets v p Q) (hqr : ∀ x v, Q x v → R x v) : W.Meets v p R := by
  intro s hs
  refine (h s hs).mono fun x s' h' => ?_
  obtain ⟨v', hq, hs'⟩ := h'
  exact ⟨v', hqr x v' hq, hs'⟩

theorem Meets.completes {R : Except String α → Prop} (h : W.Meets v p fun x _ => R x) {s : σ}
    (hs : W.sees s v) : Completes H (fun x _ => R x) p s := by
  refine ((h s hs).mono fun x s' h' => ?_).completes
  obtain ⟨v', hr, -⟩ := h'
  exact hr

/-- What is true of every state of which `v` is known. -/
theorem Meets.seen (h : ∀ s, W.sees s v → W.Meets v p Q) : W.Meets v p Q :=
  fun s hs => h s hs s hs

end Meets

section Sequence

variable {P : α → τ → Prop} {Q : Except String β → τ → Prop}

theorem Meets.bind {R : Except String α → τ → Prop} (h : W.Meets v p R)
    (hok : ∀ a v', R (.ok a) v' → W.Meets v' (f a) Q)
    (herror : ∀ message v', R (.error message) v' → Q (.error message) v') :
    W.Meets v (p >>= f) Q := by
  intro s hs
  refine (h s hs).bind (fun a s' h' => ?_) fun message s' h' => ?_
  · obtain ⟨v', hr, hs'⟩ := h'
    exact hok a v' hr s' hs'
  · obtain ⟨v', hr, hs'⟩ := h'
    exact ⟨v', herror message v' hr, hs'⟩

theorem Meets.then (h : W.Meets v p (Returns P)) (hf : ∀ a v', P a v' → W.Meets v' (f a) Q) :
    W.Meets v (p >>= f) Q :=
  h.bind hf fun _ _ h' => h'.elim

theorem Meets.done {p : Client q r Unit} {P : Unit → τ → Prop} (h : W.Meets v p (Returns P)) :
    W.Meets v p fun x _ => x = .ok () := by
  refine h.mono fun x v' h' => ?_
  cases x with
  | ok => rfl
  | error => exact h'.elim

theorem Meets.next {a : α} (h : W.Meets v p fun x _ => x = .ok a)
    (hf : ∀ v', W.Meets v' (f a) Q) : W.Meets v (p >>= f) Q := by
  refine h.bind (fun a' v' h' => ?_) fun message v' h' => ?_
  · rw [Except.ok.inj h']
    exact hf v'
  · cases h'

/-- A panic ends the client. -/
theorem Meets.fails {message : String} (h : W.Meets v p fun x _ => x = .error message) :
    W.Meets v (p >>= f) fun x _ => x = .error message := by
  refine h.bind (fun a v' h' => ?_) fun message' v' h' => ?_
  · cases h'
  · rw [Except.error.inj h']

theorem Meets.request {request : q} {P : r request → τ → Prop} (h : W.Answers v request P) :
    W.Meets v (.request request) (Returns P) := by
  intro s hs
  refine Ends.call (fun s => W.sees s v) W.rank hs W.env h.go fun hs ha => ?_
  obtain ⟨v', hp, hs'⟩ := h.after hs ha
  exact .ret ⟨v', hp, hs'⟩

theorem Meets.assert {P : Prop} [Decidable P] {message : String} {f : Unit → Client q r β}
    (hp : P) (h : W.Meets v (f ()) Q) : W.Meets v (assert P message >>= f) Q := by
  rw [assert_pos hp]
  exact h

/-- A reply that is `Ok`, and what follows its `expect`. -/
theorem Meets.expectOk {ε : Type} {p : Client q r (Except ε α)} {message : String}
    (h : W.Meets v p (Returns fun x v' => ∃ a, x = .ok a ∧ P a v'))
    (hf : ∀ a v', P a v' → W.Meets v' (f a) Q) :
    W.Meets v (p >>= fun x => Client.expectOk x message >>= f) Q := by
  refine h.then fun x v' h' => ?_
  obtain ⟨a, rfl, hp⟩ := h'
  exact hf a v' hp

theorem Meets.andThen {ε : Type} {p : Client q r (Except ε α)}
    {f : α → Client q r (Except ε β)} {Q : Except String (Except ε β) → τ → Prop}
    (h : W.Meets v p (Returns fun x v' => ∃ a, x = .ok a ∧ P a v'))
    (hf : ∀ a v', P a v' → W.Meets v' (f a) Q) : W.Meets v (Client.andThen p f) Q := by
  refine Meets.then h fun x v' h' => ?_
  obtain ⟨a, rfl, hp⟩ := h'
  exact hf a v' hp

end Sequence

/-! ## Clients of which the end is known -/

section Gives

variable {a : α} {b : β} {Q : Except String β → τ → Prop}

theorem Gives.ret : W.Gives v (.ret a) a v := Meets.ret ⟨rfl, rfl⟩

theorem Gives.request {request : q} {reply : r request}
    (h : W.Answers v request fun reply' v₁ => reply' = reply ∧ v₁ = v') :
    W.Gives v (.request request) reply v' := Meets.request h

theorem Gives.meets {Q : α → τ → Prop} (h : W.Gives v p a v') (hq : Q a v') :
    W.Meets v p (Returns Q) := by
  refine h.mono fun x v₁ h' => h'.mono fun a' h' => ?_
  obtain ⟨rfl, rfl⟩ := h'
  exact hq

theorem Gives.assert {P : Prop} [Decidable P] {message : String} (hp : P) :
    W.Gives v (Client.assert P message) () v := by
  rw [assert_pos hp]
  exact .ret

theorem Gives.then (h : W.Gives v p a v') (hf : W.Meets v' (f a) Q) : W.Meets v (p >>= f) Q := by
  refine Meets.then h fun a' v₁ h' => ?_
  obtain ⟨rfl, rfl⟩ := h'
  exact hf

theorem Gives.expectOk {ε : Type} {p : Client q r (Except ε α)} {message : String}
    (h : W.Gives v p (.ok a) v') (hf : W.Meets v' (f a) Q) :
    W.Meets v (p >>= fun x => Client.expectOk x message >>= f) Q :=
  Gives.then h hf

theorem Gives.andThen {ε : Type} {p : Client q r (Except ε α)}
    {f : α → Client q r (Except ε β)} {Q : Except String (Except ε β) → τ → Prop}
    (h : W.Gives v p (.ok a) v') (hf : W.Meets v' (f a) Q) :
    W.Meets v (Client.andThen p f) Q :=
  Gives.then h hf

end Gives

/-! ## Two threads -/

variable (W) in
/-- The thread has ended, or makes a request after which `K` holds of what is left of it. -/
def Goes (v : τ) (p : Client q r α) (K : Client q r α → τ → Prop) : Prop :=
  (∃ x, p.result? = some x) ∨ ∃ request next Q, p = .call request next ∧
    W.Answers v request Q ∧ ∀ reply v', Q reply v' → K (next reply) v'

theorem Goes.after {K : Client q r α → τ → Prop} {p' : Client q r α} {s s' : σ}
    (h : W.Goes v p K) (hs : W.sees s v) (hg : Go H p s p' s') :
    ∃ v', K p' v' ∧ W.sees s' v' := by
  rcases h with ⟨x, hx⟩ | ⟨request, next, Q, rfl, ha, hk⟩
  · rw [hg.result?_eq_none] at hx
    cases hx
  · cases hg with
    | call hr =>
      obtain ⟨v', hq, hs'⟩ := ha.after hs hr
      exact ⟨v', hk _ _ hq, hs'⟩

/-- What is left of two threads and what is known, which their requests keep. -/
theorem Meets.both {J : Client q r β → Client q r γ → τ → Prop} {left : Client q r β}
    {right : Client q r γ} {next : Except String β → Except String γ → Client q r α}
    {Q : Except String α → τ → Prop} (h : J left right v)
    (hleft : ∀ {left right v}, J left right v → W.Goes v left fun left' => J left' right)
    (hright : ∀ {left right v}, J left right v → W.Goes v right fun right' => J left right')
    (hnext : ∀ {left right v x y}, J left right v → left.result? = some x →
      right.result? = some y → W.Meets v (next x y) Q) :
    W.Meets v (.both left right next) Q := by
  intro s hs
  refine Ends.both (fun left right s => ∃ v, J left right v ∧ W.sees s v) W.rank ⟨v, h, hs⟩
    ?_ ?_ ?_ ?_ ?_
  · rintro left right s s' ⟨v, h, hs⟩ he
    obtain ⟨hs', hlt⟩ := W.env hs he
    exact ⟨⟨v, h, hs'⟩, hlt⟩
  · rintro left right s left' s' ⟨v, h, hs⟩ hg
    exact (hleft h).after hs hg
  · rintro left right s right' s' ⟨v, h, hs⟩ hg
    exact (hright h).after hs hg
  · rintro left right s ⟨v, h, hs⟩
    rcases hleft h with ⟨x, hx⟩ | ⟨request, next, Q, rfl, ha, -⟩
    · rcases hright h with ⟨y, hy⟩ | ⟨request, next, Q, rfl, ha, -⟩
      · exact .inr (.inr (.inr ⟨x, y, hx, hy⟩))
      · rcases ha.go hs with henv | ⟨reply, s', ha⟩
        · exact .inl henv
        · exact .inr (.inr (.inl ⟨_, s', .call ha⟩))
    · rcases ha.go hs with henv | ⟨reply, s', ha⟩
      · exact .inl henv
      · exact .inr (.inl ⟨_, s', .call ha⟩)
  · rintro left right s x y ⟨v, h, hs⟩ hx hy
    exact hnext h hx hy s hs

end View
end Client
end Platform
