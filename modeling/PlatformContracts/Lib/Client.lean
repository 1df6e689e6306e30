import Mathlib

/-!
# Clients of a concurrent system

A client calls a system whose own threads go on between its calls.

* `Client q r α`: a program that makes requests `q`, gets replies of type `r q` and ends with a
  value or a panic. `both`: two threads of the client, and what follows their join.
* `Host σ q r`: the steps `env` of the system's threads, and the answers of the requests.
  `Step`: one thread goes on, of the client or of the system; a client that has ended goes no
  further.
* `Completes H Q p s`: whatever the order of the steps, `p` from `s` is never stuck and does not go
  on for ever, and where it ends `Q` holds. `Ends`: the same by induction, with a rule for each way
  to build a client: `call` (an assertion that the system's steps keep, and a measure that they
  lower), `bind`, `both`.
-/

namespace Platform

inductive Client (q : Type) (r : q → Type) : Type → Type 1 where
  | ret {α : Type} (a : α) : Client q r α
  | panic {α : Type} (message : String) : Client q r α
  | call {α : Type} (request : q) (next : r request → Client q r α) : Client q r α
  | both {α β γ : Type} (left : Client q r β) (right : Client q r γ)
      (next : Except String β → Except String γ → Client q r α) : Client q r α

/-- What answers the requests. -/
structure Host (σ q : Type) (r : q → Type) where
  env : σ → σ → Prop
  answer : σ → (request : q) → r request → σ → Prop

namespace Client

variable {σ q : Type} {r : q → Type} {α β γ : Type}

/-! ## Programs -/

def bind : Client q r α → (α → Client q r β) → Client q r β
  | .ret a, f => f a
  | .panic message, _ => .panic message
  | .call request next, f => .call request fun reply => (next reply).bind f
  | .both left right next, f => .both left right fun x y => (next x y).bind f

instance : Monad (Client q r) where
  pure := .ret
  bind := .bind

/-- How the client ended, if it did. -/
def result? : Client q r α → Option (Except String α)
  | .ret a => some (.ok a)
  | .panic message => some (.error message)
  | .call .. => none
  | .both .. => none

/-- One request. -/
def request (request : q) : Client q r (r request) := .call request .ret

/-- `result.expect(message)`. -/
def expectOk {ε : Type} (result : Except ε α) (message : String) : Client q r α :=
  match result with
  | .ok a => .ret a
  | .error _ => .panic message

/-- `value.expect(message)`. -/
def expect (value : Option α) (message : String) : Client q r α :=
  match value with
  | some a => .ret a
  | none => .panic message

/-- `assert!(p, message)`. -/
def assert (p : Prop) [Decidable p] (message : String) : Client q r Unit :=
  if p then .ret () else .panic message

/-- `p?`, and what follows it. -/
def andThen {ε : Type} (p : Client q r (Except ε α)) (f : α → Client q r (Except ε β)) :
    Client q r (Except ε β) :=
  p.bind fun result => match result with
    | .ok a => f a
    | .error e => .ret (.error e)

/-- Two threads that are spawned, and joined in this order. -/
def spawnJoin (left : Client q r α) (right : Client q r β) (leftPanic rightPanic : String) :
    Client q r (α × β) :=
  .both left right fun x y =>
    (expectOk x leftPanic).bind fun a => (expectOk y rightPanic).bind fun b => .ret (a, b)

@[simp] theorem expect_some (a : α) (message : String) :
    (expect (some a) message : Client q r α) = .ret a := rfl

theorem assert_pos {p : Prop} [Decidable p] (h : p) (message : String) :
    (assert p message : Client q r Unit) = .ret () := if_pos h

theorem assert_neg {p : Prop} [Decidable p] (h : ¬p) (message : String) :
    (assert p message : Client q r Unit) = .panic message := if_neg h

@[simp] theorem ret_bind (a : α) (f : α → Client q r β) : (.ret a >>= f) = f a := rfl

@[simp] theorem panic_bind (message : String) (f : α → Client q r β) :
    ((.panic message : Client q r α) >>= f) = .panic message := rfl

/-! ## Steps -/

/-- A step of a thread of the client. -/
inductive Go (H : Host σ q r) : {α : Type} → Client q r α → σ → Client q r α → σ → Prop
  | call {α : Type} {request : q} {next : r request → Client q r α} {s s' : σ}
      {reply : r request} :
      H.answer s request reply s' → Go H (.call request next) s (next reply) s'
  | left {α β γ : Type} {left left' : Client q r β} {right : Client q r γ}
      {next : Except String β → Except String γ → Client q r α} {s s' : σ} :
      Go H left s left' s' → Go H (.both left right next) s (.both left' right next) s'
  | right {α β γ : Type} {left : Client q r β} {right right' : Client q r γ}
      {next : Except String β → Except String γ → Client q r α} {s s' : σ} :
      Go H right s right' s' → Go H (.both left right next) s (.both left right' next) s'
  | join {α β γ : Type} {left : Client q r β} {right : Client q r γ}
      {next : Except String β → Except String γ → Client q r α} {s : σ} {x : Except String β}
      {y : Except String γ} :
      left.result? = some x → right.result? = some y →
      Go H (.both left right next) s (next x y) s

/-- A step of the client, or of the system while the client goes on. -/
inductive Step (H : Host σ q r) : Client q r α × σ → Client q r α × σ → Prop
  | go {p p' : Client q r α} {s s' : σ} : Go H p s p' s' → Step H (p, s) (p', s')
  | env {p : Client q r α} {s s' : σ} :
      p.result? = none → H.env s s' → Step H (p, s) (p, s')

/-- `p` from `s` comes to an end under every order of the steps, with `Q` (module doc). -/
structure Completes (H : Host σ q r) (Q : Except String α → σ → Prop) (p : Client q r α) (s : σ) :
    Prop where
  /-- Each state that is reached is the end, or has a next one. -/
  next : ∀ p' s', Relation.ReflTransGen (Step H) (p, s) (p', s') →
    (∃ x, p'.result? = some x ∧ Q x s') ∨ p'.result? = none ∧ ∃ t, Step H (p', s') t
  finite : ¬∃ run : Nat → Client q r α × σ, run 0 = (p, s) ∧ ∀ n, Step H (run n) (run (n + 1))

inductive Ends (H : Host σ q r) (Q : Except String α → σ → Prop) : Client q r α × σ → Prop
  | result {p : Client q r α} {s : σ} {x : Except String α} :
      p.result? = some x → Q x s → Ends H Q (p, s)
  | step {p : Client q r α} {s : σ} :
      p.result? = none → (∃ t, Step H (p, s) t) → (∀ t, Step H (p, s) t → Ends H Q t) →
      Ends H Q (p, s)

variable {H : Host σ q r}

theorem Go.result?_eq_none {p p' : Client q r α} {s s' : σ} (h : Go H p s p' s') :
    p.result? = none := by
  cases h <;> rfl

theorem Step.result?_eq_none {p : Client q r α} {s : σ} {t : Client q r α × σ}
    (h : Step H (p, s) t) : p.result? = none := by
  cases h with
  | go h => exact h.result?_eq_none
  | env h => exact h

/-! ## Completion -/

section Completes

variable {Q R : Except String α → σ → Prop} {p : Client q r α} {s : σ}

theorem Ends.of_step {t t' : Client q r α × σ} (h : Ends H Q t) (hs : Step H t t') :
    Ends H Q t' := by
  cases h with
  | result hx =>
    rw [hs.result?_eq_none] at hx
    cases hx
  | step _ _ hall => exact hall _ hs

theorem Ends.acc {t : Client q r α × σ} (h : Ends H Q t) :
    Acc (fun t' t => Step H t t') t := by
  induction h with
  | result hx =>
    refine ⟨_, fun t hs => ?_⟩
    rw [hs.result?_eq_none] at hx
    cases hx
  | step _ _ _ ih => exact ⟨_, ih⟩

theorem Ends.completes (h : Ends H Q (p, s)) : Completes H Q p s := by
  constructor
  · intro p' s' hr
    have h' : Ends H Q (p', s') := by
      generalize (p', s') = t at hr
      induction hr with
      | refl => exact h
      | tail _ hs ih => exact ih.of_step hs
    cases h' with
    | result hx hq => exact .inl ⟨_, hx, hq⟩
    | step hn hstep => exact .inr ⟨hn, hstep⟩
  · rintro ⟨run, h₀, hrun⟩
    -- No state from which steps come to an end is on a run that does not.
    have hnot : ∀ t, Acc (fun t' t => Step H t t') t → ∀ n, run n ≠ t := by
      intro t hacc
      induction hacc with
      | intro t _ ih =>
        rintro n rfl
        exact ih _ (hrun n) (n + 1) rfl
    exact hnot _ h.acc 0 h₀

theorem Ends.mono {t : Client q r α × σ} (h : Ends H Q t) (hqr : ∀ x s, Q x s → R x s) :
    Ends H R t := by
  induction h with
  | result hx hq => exact .result hx (hqr _ _ hq)
  | step hn hstep _ ih => exact .step hn hstep ih

theorem Ends.ret {a : α} (h : Q (.ok a) s) : Ends H Q (.ret a, s) := .result rfl h

theorem Ends.panic {message : String} (h : Q (.error message) s) :
    Ends H Q (.panic message, s) := .result rfl h

end Completes

/-! ## Sequences -/

section Bind

variable {f : α → Client q r β}

theorem Go.bind {p p' : Client q r α} {s s' : σ} (h : Go H p s p' s') :
    Go H (p.bind f) s (p'.bind f) s' := by
  cases h with
  | call h => exact .call h
  | left h => exact .left h
  | right h => exact .right h
  | join hx hy => exact .join hx hy

theorem Go.of_bind {p : Client q r α} (hp : p.result? = none) {p' : Client q r β} {s s' : σ}
    (h : Go H (p.bind f) s p' s') : ∃ p₁, p' = p₁.bind f ∧ Go H p s p₁ s' := by
  cases p with
  | ret a => cases hp
  | panic message => cases hp
  | call request next =>
    cases h with
    | call h => exact ⟨_, rfl, .call h⟩
  | both left right next =>
    cases h with
    | left h => exact ⟨.both _ right next, rfl, .left h⟩
    | right h => exact ⟨.both left _ next, rfl, .right h⟩
    | join hx hy => exact ⟨_, rfl, .join hx hy⟩

theorem bind_result? {p : Client q r α} (hp : p.result? = none) : (p.bind f).result? = none := by
  cases p <;> first | rfl | cases hp

/-- What the first part ends with is what the second part starts from; a panic goes on. -/
theorem Ends.bind {Q : Except String α → σ → Prop} {R : Except String β → σ → Prop}
    {p : Client q r α} {s : σ} (h : Ends H Q (p, s)) (hok : ∀ a s, Q (.ok a) s → Ends H R (f a, s))
    (herror : ∀ message s, Q (.error message) s → R (.error message) s) :
    Ends H R (p.bind f, s) := by
  generalize ht : (p, s) = t at h
  induction h generalizing p s with
  | @result p₁ s₁ x hx hq =>
    obtain ⟨rfl, rfl⟩ := Prod.mk.inj ht
    cases p with
    | ret a =>
      obtain rfl := Option.some.inj hx
      exact hok a s hq
    | panic message =>
      obtain rfl := Option.some.inj hx
      exact .panic (herror message s hq)
    | call => cases hx
    | both => cases hx
  | @step p₁ s₁ hn hstep _ ih =>
    obtain ⟨rfl, rfl⟩ := Prod.mk.inj ht
    refine .step (bind_result? hn) ?_ fun t hs => ?_
    · obtain ⟨t, hs⟩ := hstep
      cases hs with
      | go h => exact ⟨_, .go h.bind⟩
      | env _ h => exact ⟨_, .env (bind_result? hn) h⟩
    · cases hs with
      | go h =>
        obtain ⟨p₁, rfl, h₁⟩ := h.of_bind hn
        exact ih _ (.go h₁) rfl
      | env _ h => exact ih _ (.env hn h) rfl

/-- The client ends with a value, and `Q`. -/
def Returns (Q : α → σ → Prop) : Except String α → σ → Prop
  | .ok a => Q a
  | .error _ => fun _ => False

theorem Returns.mono {Q R : α → σ → Prop} {x : Except String α} {s : σ} (h : Returns Q x s)
    (hqr : ∀ a, Q a s → R a s) : Returns R x s := by
  cases x with
  | ok a => exact hqr a h
  | error => exact h

end Bind

/-! ## Requests -/

/-- An assertion that the steps of the system keep while they lower a measure, that lets the
request be answered where the system is done, and that is enough for what follows. -/
theorem Ends.call {Q : Except String α → σ → Prop} (P : σ → Prop) (μ : σ → Nat) {request : q}
    {next : r request → Client q r α} {s : σ} (h : P s)
    (henv : ∀ {s s'}, P s → H.env s s' → P s' ∧ μ s' < μ s)
    (hgo : ∀ {s}, P s → (∃ s', H.env s s') ∨ ∃ reply s', H.answer s request reply s')
    (hnext : ∀ {s reply s'}, P s → H.answer s request reply s' → Ends H Q (next reply, s')) :
    Ends H Q (.call request next, s) := by
  induction hn : μ s using Nat.strong_induction_on generalizing s with
  | _ n ih =>
    refine .step rfl ?_ fun t hs => ?_
    · rcases hgo h with ⟨s', he⟩ | ⟨reply, s', ha⟩
      · exact ⟨_, .env rfl he⟩
      · exact ⟨_, .go (.call ha)⟩
    · cases hs with
      | go hg =>
        cases hg with
        | call ha => exact hnext h ha
      | env _ he =>
        obtain ⟨h', hlt⟩ := henv h he
        exact ih _ (hn ▸ hlt) h' rfl

/-! ## Two threads -/

/-- The client's own steps come to an end. -/
theorem acc_go (H : Host σ q r) (p : Client q r α) :
    Acc (fun p' p : Client q r α => ∃ s s', Go H p s p' s') p := by
  induction p with
  | ret a =>
    constructor
    rintro p' ⟨s, s', h⟩
    cases h
  | panic message =>
    constructor
    rintro p' ⟨s, s', h⟩
    cases h
  | call request next ih =>
    constructor
    rintro p' ⟨s, s', h⟩
    cases h with
    | call => exact ih _
  | both left right next ihl ihr ih =>
    induction ihl generalizing right with
    | intro left _ ihl =>
      induction ihr with
      | intro right hr ihr =>
        constructor
        rintro p' ⟨s, s', h⟩
        cases h with
        | left h => exact ihl _ ⟨s, s', h⟩ right ⟨right, hr⟩
        | right h => exact ihr _ ⟨s, s', h⟩
        | join => exact ih _ _

/-- A property of what is left of two threads and of the state, which every step keeps, those of
the system while they lower a measure. -/
theorem Ends.both {Q : Except String α → σ → Prop}
    (J : Client q r β → Client q r γ → σ → Prop) (μ : σ → Nat) {left : Client q r β}
    {right : Client q r γ} {next : Except String β → Except String γ → Client q r α} {s : σ}
    (h : J left right s)
    (henv : ∀ {left right s s'}, J left right s → H.env s s' → J left right s' ∧ μ s' < μ s)
    (hleft : ∀ {left right s left' s'}, J left right s → Go H left s left' s' →
      J left' right s')
    (hright : ∀ {left right s right' s'}, J left right s → Go H right s right' s' →
      J left right' s')
    (hgo : ∀ {left right s}, J left right s → (∃ s', H.env s s') ∨
      (∃ left' s', Go H left s left' s') ∨ (∃ right' s', Go H right s right' s') ∨
      ∃ x y, left.result? = some x ∧ right.result? = some y)
    (hnext : ∀ {left right s x y}, J left right s → left.result? = some x →
      right.result? = some y → Ends H Q (next x y, s)) :
    Ends H Q (.both left right next, s) := by
  induction acc_go H left generalizing right s with
  | intro left hl ihl =>
    induction acc_go H right generalizing s with
    | intro right hr ihr =>
      induction hn : μ s using Nat.strong_induction_on generalizing s with
      | _ n ih =>
        refine .step rfl ?_ fun t hs => ?_
        · rcases hgo h with ⟨s', he⟩ | ⟨left', s', hg⟩ | ⟨right', s', hg⟩ | ⟨x, y, hx, hy⟩
          · exact ⟨_, .env rfl he⟩
          · exact ⟨_, .go (.left hg)⟩
          · exact ⟨_, .go (.right hg)⟩
          · exact ⟨_, .go (.join hx hy)⟩
        · cases hs with
          | go hg =>
            cases hg with
            | left hg => exact ihl _ ⟨_, _, hg⟩ (hleft h hg)
            | right hg => exact ihr _ ⟨_, _, hg⟩ (hright h hg)
            | join hx hy => exact hnext h hx hy
          | env _ he =>
            obtain ⟨h', hlt⟩ := henv h he
            exact ih _ (hn ▸ hlt) h' rfl

end Client

end Platform
