import PlatformContracts.Testkit.AdapterEffect
import PlatformContracts.Testkit.Coverage
import PlatformContracts.Testkit.LifecycleSuite

/-!
# The transition-chain suite (`platform-contract-testkit/src/compositional_lifecycle.rs`)

* `TransitionChainAdapter`: the callbacks of the trait; `OperationModelAdapter.transitionChain`: its
  implementation for `ReferenceAdapter`, on the methods of any adapter.
* `minting`: a suite, from its statements and what it mints.
* `runTransitionChainSuite`: the suite. What it drops at its end, after the last assertion, is left
  out.
* `PhaseTable`: for each phase and call, the next phase or a refusal; `exactChain`: the normative
  one. `Driven`: an adapter that answers the calls of an operation by a table.
* `transition_chain_exact`: the suite mints its evidence exactly for `exactChain`.
* `lifecycle_chain_exact`: the test of the lifecycle suite passes also for tables that differ from
  it where `untried` says.
-/

namespace Platform
namespace Testkit

open Exec

structure TransitionChainAdapter (σ Error Operation : Type) where
  deterministic : Callback Unit σ
  reserve : String → Callback σ (Except Error Operation)
  phase : Operation → Callback σ (Option OperationPhase)
  queue : Operation → Callback σ (Except Error Unit)
  start : Operation → Callback σ (Except Error Unit)
  terminal : Operation → TerminalClass → Callback σ (Except Error Unit)
  release : Operation → Callback σ (Except Error Unit)

/-- `impl TransitionChainAdapter for ReferenceAdapter`, on the methods of any adapter. -/
def OperationModelAdapter.transitionChain {σ Error Ticket Lease : Type}
    (adapter : OperationModelAdapter σ Error Ticket Lease) :
    TransitionChainAdapter σ Error (Ticket × Lease) where
  deterministic := adapter.deterministic {}
  reserve operationId := adapter.reserve operationId
  phase operation := do
    let snapshot ← adapter.leaseSnapshot operation.2
    pure (snapshot.map (·.phase))
  queue operation := adapter.queue operation.2
  start operation := adapter.start operation.2
  terminal operation termClass := adapter.terminal operation.2 termClass
  release operation := adapter.release operation.2

/-- A suite: its statements, then its evidence. -/
def minting {lifecycle : LifecycleImplementation} (statements : Callback Unit Unit)
    (component suite : String) (invariants : List LifecycleInvariant) :
    Callback Unit (CoverageEvidence lifecycle) := do
  statements
  match CoverageEvidence.passed component suite invariants with
  | .ok evidence => pure evidence
  | .error stop => throw stop

theorem minting_on {lifecycle : LifecycleImplementation} {statements : Callback Unit Unit}
    (h : statements.on () = (.ok (), ())) (component suite : String)
    (invariants : List LifecycleInvariant) :
    (minting statements component suite invariants :
      Callback Unit (CoverageEvidence lifecycle)).on () =
      (CoverageEvidence.passed component suite invariants, ()) := by
  unfold minting
  rw [on_bind_of_ok h]
  generalize CoverageEvidence.passed component suite invariants = minted
  cases minted <;> rfl

namespace TransitionChain

open PublicationSuite (assertEq scenario)
open LifecycleSuite (expectCall assertErr)

/-! ## The suite -/

section Suite

variable {σ Error Operation : Type} (adapter : TransitionChainAdapter σ Error Operation)

/-- `assert_eq!(adapter.phase(&operation), Some(phase))`. -/
def assertPhase (operation : Operation) (phase : OperationPhase) : Callback σ Unit := do
  let found ← adapter.phase operation
  assertEq found (some phase)

def transitionChain : Callback Unit Unit :=
  scenario adapter.deterministic do
    let operation ← expectCall (adapter.reserve "transitions") "reserve"
    assertPhase adapter operation .reserved
    assertErr (adapter.start operation) "assertion failed: adapter.start(&operation).is_err()"
    assertErr (adapter.release operation) "assertion failed: adapter.release(&operation).is_err()"
    assertErr (adapter.terminal operation .completed)
      "assertion failed: adapter.terminal(&operation, TerminalClass::Completed).is_err()"
    expectCall (adapter.queue operation) "Reserved -> Queued"
    assertPhase adapter operation .queued
    assertErr (adapter.queue operation) "Queued -> Queued is invalid"
    assertErr (adapter.release operation) "Queued -> Released is invalid"
    assertErr (adapter.terminal operation .completed) "Queued -> Terminal is invalid"
    expectCall (adapter.start operation) "Queued -> Running"
    assertPhase adapter operation .running
    assertErr (adapter.start operation) "Running -> Running is invalid"
    assertErr (adapter.queue operation) "Running -> Queued is invalid"
    assertErr (adapter.release operation) "Running -> Released is invalid"
    expectCall (adapter.terminal operation .completed) "Running -> Terminal"
    assertPhase adapter operation .terminal
    assertErr (adapter.terminal operation .failed) "a terminal operation is immutable"
    assertErr (adapter.queue operation) "Terminal -> Queued is invalid"
    assertErr (adapter.start operation) "Terminal -> Running is invalid"
    expectCall (adapter.release operation) "Terminal -> Released"
    assertPhase adapter operation .released
    assertErr (adapter.release operation) "assertion failed: adapter.release(&operation).is_err()"
    assertErr (adapter.queue operation) "assertion failed: adapter.queue(&operation).is_err()"
    assertErr (adapter.start operation) "assertion failed: adapter.start(&operation).is_err()"
    assertErr (adapter.terminal operation .failed)
      "assertion failed: adapter.terminal(&operation, TerminalClass::Failed).is_err()"

def runTransitionChainSuite (lifecycle : LifecycleImplementation) (component : String) :
    Callback Unit (CoverageEvidence lifecycle) :=
  minting (transitionChain adapter) component "transition-chain" [.exactTransitionChain]

end Suite

/-! ## Adapters that answer by a table -/

/-- A call that may move an operation on. -/
inductive ChainCall where
  | queue
  | start
  | terminal
  | release
  deriving DecidableEq, Repr

/-- The next phase of a call that is accepted in a phase. -/
abbrev PhaseTable := OperationPhase → ChainCall → Option OperationPhase

/-- Each phase has the one call that moves it on. -/
def exactChain : PhaseTable
  | .reserved, .queue => some .queued
  | .queued, .start => some .running
  | .running, .terminal => some .terminal
  | .terminal, .release => some .released
  | _, _ => none

section Driven

variable {σ Error Operation : Type} (adapter : TransitionChainAdapter σ Error Operation)

/-- The call on the operation; a terminal has this class. -/
def call (operation : Operation) (termClass : TerminalClass) :
    ChainCall → Callback σ (Except Error Unit)
  | .queue => adapter.queue operation
  | .start => adapter.start operation
  | .terminal => adapter.terminal operation termClass
  | .release => adapter.release operation

/-- What the caller of an operation in `phase` gets, and where the operation is then. -/
def Answered (At : Operation → OperationPhase → σ → Prop) (operation : Operation)
    (phase : OperationPhase) (next : Option OperationPhase) (r : Except Error Unit) (s : σ) :
    Prop :=
  match next with
  | some phase' => r = .ok () ∧ At operation phase' s
  | none => (∃ e, r = .error e) ∧ At operation phase s

/-- The operation that the suite reserves begins in the phase `first`, and each call on it is
accepted or refused by its phase alone. -/
structure Driven (first : OperationPhase) (table : PhaseTable)
    (At : Operation → OperationPhase → σ → Prop) : Prop where
  reserve : adapter.deterministic.Ends () fun s _ => (adapter.reserve "transitions").Ends s
    fun r s' => ∃ operation, r = .ok operation ∧ At operation first s'
  phase : ∀ {operation phase s}, At operation phase s → (adapter.phase operation).Ends s
    fun o s' => o = some phase ∧ At operation phase s'
  answers : ∀ {operation phase s}, At operation phase s → ∀ c termClass,
    (call adapter operation termClass c).Ends s (Answered At operation phase (table phase c))

end Driven

/-! ## The reference adapter -/

/-- The reference adapter has the operation in this phase, and no other operation. -/
structure Held (operation : ReferenceTicket × ReferenceLease) (phase : OperationPhase)
    (s : ReferenceState) : Prop where
  attempt : ∃ op : ReferenceOperation, s.attempts[operation.2.identity.sequence]? = some op ∧
    op.identity = operation.2.identity ∧ op.phase = phase
  live : phase ≠ .released →
    s.active[operation.2.identity.operationId]? = some operation.2.identity.sequence ∧
      s.retainedTasks = 1 ∧ s.joinedWorkers = 0

section Reference

variable {operation : ReferenceTicket × ReferenceLease} {phase : OperationPhase}
  {s : ReferenceState}

theorem Held.found (h : Held operation phase s) {op : ReferenceOperation}
    (hop : operationMut s operation.2.identity = .ok op) : op.phase = phase := by
  obtain ⟨op', hop', -, hp⟩ := h.attempt
  obtain ⟨hfound, -⟩ := operationMut_eq_ok.mp hop
  rw [hfound] at hop'
  rw [Option.some.inj hop', hp]

theorem Held.advance_refused (h : Held operation phase s) {expected : OperationPhase}
    (he : phase ≠ expected) (update : ReferenceOperation → ReferenceOperation) :
    ∃ e, (advance operation.2 expected update).on s = (.error (.err e), s) := by
  rw [advance_on]
  cases hop : operationMut s operation.2.identity with
  | error e => exact ⟨e, rfl⟩
  | ok op => exact ⟨_, if_neg ((h.found hop).trans_ne he)⟩

/-- A lease operation that moves a record from `expected` to `next`. -/
theorem Held.advance (h : Held operation phase s) (expected next : OperationPhase)
    (update : ReferenceOperation → ReferenceOperation) (hexpected : expected ≠ .released)
    (hid : ∀ op, (update op).identity = op.identity) (hnext : ∀ op, (update op).phase = next) :
    (Exec.result (advance operation.2 expected update) : Callback _ _).Ends s
      (Answered Held operation phase (if phase = expected then some next else none)) := by
  obtain ⟨op, hop, hid', hp⟩ := h.attempt
  by_cases he : phase = expected
  · rw [if_pos he]
    refine .of_result_ok (advance_ok hop hid' (hp.trans he) hexpected) ⟨rfl, ?_, fun _ => ?_⟩
    · exact ⟨update op, lookup_insert.trans (if_pos rfl), (hid op).trans hid', hnext op⟩
    · exact h.live (he ▸ hexpected)
  · rw [if_neg he]
    obtain ⟨e, hon⟩ := h.advance_refused he update
    exact .of_result_err hon ⟨⟨e, rfl⟩, h⟩

theorem Held.release (h : Held operation phase s) :
    (referenceAdapter.release operation.2).Ends s
      (Answered Held operation phase (exactChain phase .release)) := by
  obtain ⟨op, hop, hid, hp⟩ := h.attempt
  by_cases he : phase = .terminal
  · subst he
    obtain ⟨hkey, hretained, hjoined⟩ := h.live (by decide)
    have hmut : operationMut s operation.2.identity = .ok op :=
      operationMut_eq_ok.mpr ⟨hop, hid, by rw [hp]; decide⟩
    have hsub : checkedSub s.retainedTasks 1 = some 0 := by rw [hretained]; decide
    have hadd : checkedAdd s.joinedWorkers 1 = some 1 := by rw [hjoined]; decide
    have hon : (Testkit.release operation.2).on s =
        (.ok (), s.retire operation.2.identity op 0 1) := by
      rw [release_on, hmut]
      simp only [hp, hkey, hsub, hadd, ne_eq, not_true_eq_false, if_false]
    refine .of_result_ok hon ⟨rfl, ?_, fun hlive => absurd rfl hlive⟩
    exact ⟨_, lookup_insert.trans (if_pos rfl), hid, rfl⟩
  · have hnone : exactChain phase .release = none := by cases phase <;> first | rfl | contradiction
    obtain ⟨e, hadvance⟩ := h.advance_refused he fun op => { op with phase := .released }
    have hon : (Testkit.release operation.2).on s = (.error (.err e), s) := by
      unfold Testkit.release
      rw [on_bind, hadvance]
    rw [hnone]
    exact .of_result_err hon ⟨⟨e, rfl⟩, h⟩

theorem Held.leaseSnapshot (h : Held operation phase s) :
    (referenceAdapter.transitionChain.phase operation).Ends s fun o s' =>
      o = some phase ∧ Held operation phase s' := by
  obtain ⟨op, hop, hid, hp⟩ := h.attempt
  have hsnap : Testkit.leaseSnapshot s operation.2 = some (snapshot op) := by
    rw [Testkit.leaseSnapshot, hop, Option.filter_some, if_pos (decide_eq_true hid)]
    rfl
  refine ⟨_, s, rfl, ?_, h⟩
  show (Testkit.leaseSnapshot s operation.2).map (·.phase) = some phase
  rw [hsnap, ← hp]
  rfl

/-- The state of `deterministic` for the suite. -/
def chainStart : ReferenceState where
  lifecycle := .running
  nextSequence := 1
  progressCapacity := 4
  active := ∅
  attempts := ∅
  retainedTasks := 0
  joinedWorkers := 0

theorem held_reserve : (referenceAdapter.reserve "transitions").Ends chainStart fun r s =>
    ∃ operation, r = .ok operation ∧ Held operation .reserved s := by
  let identity := mintIdentity "transitions" 1
  have hr : ((referenceAdapter.reserve "transitions").on chainStart).1 =
      .ok (.ok (⟨identity⟩, ⟨identity⟩)) := by decide +kernel
  refine ⟨_, _, Prod.ext hr rfl, _, rfl, ⟨newOperation identity, ?_, rfl, rfl⟩, fun _ => ?_⟩ <;>
    decide +kernel

theorem reference_driven :
    Driven referenceAdapter.transitionChain .reserved exactChain Held where
  reserve := ⟨chainStart, (), rfl, held_reserve⟩
  phase := Held.leaseSnapshot
  answers {operation phase s} h c termClass := by
    cases c with
    | queue =>
      have hq := h.advance .reserved .queued (fun op => { op with phase := .queued })
        (by decide) (fun _ => rfl) fun _ => rfl
      cases phase <;> exact hq
    | start =>
      have hq := h.advance .queued .running (fun op => { op with phase := .running })
        (by decide) (fun _ => rfl) fun _ => rfl
      cases phase <;> exact hq
    | terminal =>
      have hq := h.advance .running .terminal (fun op => { op with
          terminal := some ⟨termClass, operation.2.identity.sequence⟩
          phase := .terminal })
        (by decide) (fun _ => rfl) fun _ => rfl
      cases phase <;> exact hq
    | release => exact h.release

/-- The reference adapter, but for a terminal that overwrites the one recorded before. -/
def overwriting :
    OperationModelAdapter ReferenceState AdapterError ReferenceTicket ReferenceLease :=
  { referenceAdapter with
    terminal := fun lease termClass => do
      match ← referenceAdapter.terminal lease termClass with
      | .ok () => pure (.ok ())
      | .error _ => Exec.result <| advance lease .terminal fun op =>
          { op with terminal := some ⟨termClass, lease.identity.sequence⟩, phase := .terminal } }

def overwritingChain : PhaseTable := fun phase c =>
  if phase = .terminal ∧ c = .terminal then some .terminal else exactChain phase c

theorem overwritingChain_of_ne {c : ChainCall} (hc : c ≠ .terminal) :
    overwritingChain phase c = exactChain phase c := if_neg fun h => hc h.2

theorem overwriting_driven :
    Driven overwriting.transitionChain .reserved overwritingChain Held where
  reserve := ⟨chainStart, (), rfl, held_reserve⟩
  phase := Held.leaseSnapshot
  answers {operation phase s} h c termClass := by
    have hreference := reference_driven.answers h c termClass
    cases c with
    | queue | start | release =>
      rw [overwritingChain_of_ne (by decide)]
      exact hreference
    | terminal =>
      refine hreference.bind fun r s' hr => ?_
      by_cases hp : phase = .running
      · subst hp
        obtain ⟨rfl, hs'⟩ := hr
        exact .pure ⟨rfl, hs'⟩
      · have hrefused : exactChain phase .terminal = none := by
          cases phase <;> first | rfl | contradiction
        rw [hrefused] at hr
        obtain ⟨⟨e, rfl⟩, hs'⟩ := hr
        have hagain := hs'.advance .terminal .terminal (fun op => { op with
            terminal := some ⟨termClass, operation.2.identity.sequence⟩
            phase := .terminal })
          (by decide) (fun _ => rfl) fun _ => rfl
        cases phase <;> first | exact hagain | contradiction

end Reference

/-! ## What each statement tells -/

section Statements

variable {σ Error Operation α β : Type} {s : σ} {P : Prop}

/-- The statements end without a panic. -/
def Passes (m : Callback σ α) (s : σ) : Prop := m.Ends s fun _ _ => True

theorem passes_bind {m : Callback σ α} {f : α → Callback σ β} {Q : α → σ → Prop}
    (hm : m.Ends s Q) (hf : ∀ a s', Q a s' → (Passes (f a) s' ↔ P)) :
    Passes (m >>= f) s ↔ P := by
  obtain ⟨a, s', hon, hq⟩ := hm
  rw [← hf a s' hq]
  unfold Passes Ends
  rw [on_bind_of_ok hon]

theorem passes_assert {p : Prop} [Decidable p] {message : String} {f : Unit → Callback σ β} :
    Passes (Exec.assert p message >>= f) s ↔ p ∧ Passes (f ()) s := by
  unfold Passes Ends
  rw [on_assert_bind]
  split <;> simp [*]

variable {adapter : TransitionChainAdapter σ Error Operation} {first phase : OperationPhase}
  {table : PhaseTable} {At : Operation → OperationPhase → σ → Prop} {operation : Operation}

/-- `assert!(….is_err())` says that the table refuses the call. -/
theorem Driven.refused (h : Driven adapter first table At) (hs : At operation phase s)
    (c : ChainCall) (termClass : TerminalClass) {message : String} {f : Unit → Callback σ β}
    (hf : ∀ s', At operation phase s' → (Passes (f ()) s' ↔ P)) :
    Passes (assertErr (call adapter operation termClass c) message >>= f) s ↔
      table phase c = none ∧ P := by
  unfold assertErr
  rw [bind_assoc]
  refine passes_bind (h.answers hs c termClass) fun r s' hr => ?_
  rw [passes_assert]
  cases hn : table phase c with
  | some phase' =>
    rw [hn] at hr
    obtain ⟨rfl, -⟩ := hr
    simp [Except.toBool]
  | none =>
    rw [hn] at hr
    obtain ⟨⟨e, rfl⟩, hs'⟩ := hr
    simp [Except.toBool, hf s' hs']

theorem Driven.refused_last (h : Driven adapter first table At) (hs : At operation phase s)
    (c : ChainCall) (termClass : TerminalClass) {message : String} :
    Passes (assertErr (call adapter operation termClass c) message) s ↔
      table phase c = none := by
  rw [← bind_pure (assertErr _ _), ← and_true (table phase c = none)]
  exact h.refused hs c termClass fun s' _ => iff_of_true ⟨(), s', rfl, trivial⟩ trivial

/-- `….expect(message)` says that the table accepts the call. -/
theorem Driven.moved (h : Driven adapter first table At) (hs : At operation phase s)
    (c : ChainCall) (termClass : TerminalClass) {message : String} {f : Unit → Callback σ β}
    {next : OperationPhase}
    (hf : ∀ phase' s', At operation phase' s' → (Passes (f ()) s' ↔ phase' = next ∧ P)) :
    Passes (expectCall (call adapter operation termClass c) message >>= f) s ↔
      table phase c = some next ∧ P := by
  unfold expectCall
  rw [bind_assoc]
  refine passes_bind (h.answers hs c termClass) fun r s' hr => ?_
  unfold Passes Ends
  rw [on_expectOk_bind]
  cases hn : table phase c with
  | some phase' =>
    rw [hn] at hr
    obtain ⟨rfl, hs'⟩ := hr
    rw [Option.some.injEq]
    exact hf phase' s' hs'
  | none =>
    rw [hn] at hr
    obtain ⟨⟨e, rfl⟩, -⟩ := hr
    simp

/-- `assert_eq!(adapter.phase(&operation), Some(expected))`. -/
theorem Driven.checked (h : Driven adapter first table At) (hs : At operation phase s)
    {expected : OperationPhase} {f : Unit → Callback σ β}
    (hf : ∀ s', At operation expected s' → (Passes (f ()) s' ↔ P)) :
    Passes (assertPhase adapter operation expected >>= f) s ↔ phase = expected ∧ P := by
  unfold assertPhase
  rw [bind_assoc]
  refine passes_bind (h.phase hs) fun o s' ho => ?_
  obtain ⟨rfl, hs'⟩ := ho
  unfold assertEq
  rw [passes_assert, Option.some.injEq]
  refine and_congr_right fun hp => ?_
  exact hf s' (hp ▸ hs')

/-- The statements go on with an operation in its first phase. -/
theorem Driven.reserved (h : Driven adapter first table At)
    {statements : Operation → Callback σ Unit}
    (hf : ∀ operation s, At operation first s → (Passes (statements operation) s ↔ P)) :
    Passes (scenario adapter.deterministic do
      let operation ← expectCall (adapter.reserve "transitions") "reserve"
      statements operation) () ↔ P := by
  unfold scenario
  refine passes_bind h.reserve fun s _ hs => ?_
  obtain ⟨r, s', hon, operation, rfl, hs'⟩ := hs
  rw [← hf operation s' hs']
  unfold expectCall
  rw [bind_assoc, on_bind_of_ok hon, on_expectOk_bind]
  dsimp only
  unfold Passes Ends
  generalize (statements operation).on s' = last
  rcases last with ⟨_ | _, _⟩ <;> simp

end Statements

/-! ## The tables that pass -/

section Exact

variable {σ Error Operation : Type} {adapter : TransitionChainAdapter σ Error Operation}
  {first : OperationPhase} {table : PhaseTable} {At : Operation → OperationPhase → σ → Prop}

theorem passes_transitionChain (h : Driven adapter first table At) :
    Passes (transitionChain adapter) () ↔ first = .reserved ∧ table = exactChain := by
  unfold transitionChain
  -- Statement by statement: each tells one entry of the table.
  refine (h.reserved fun op s hs => h.checked hs fun s hs =>
    h.refused hs .start .completed fun s hs => h.refused hs .release .completed fun s hs =>
    h.refused hs .terminal .completed fun s hs =>
    h.moved hs .queue .completed fun p s hs => h.checked hs fun s hs =>
    h.refused hs .queue .completed fun s hs => h.refused hs .release .completed fun s hs =>
    h.refused hs .terminal .completed fun s hs =>
    h.moved hs .start .completed fun p s hs => h.checked hs fun s hs =>
    h.refused hs .start .completed fun s hs => h.refused hs .queue .completed fun s hs =>
    h.refused hs .release .completed fun s hs =>
    h.moved hs .terminal .completed fun p s hs => h.checked hs fun s hs =>
    h.refused hs .terminal .failed fun s hs => h.refused hs .queue .completed fun s hs =>
    h.refused hs .start .completed fun s hs =>
    h.moved hs .release .completed fun p s hs => h.checked hs fun s hs =>
    h.refused hs .release .completed fun s hs => h.refused hs .queue .completed fun s hs =>
    h.refused hs .start .completed fun s hs => h.refused_last hs .terminal .failed).trans ?_
  refine and_congr_right fun _ => ⟨fun ht => ?_, ?_⟩
  · funext p c
    cases p <;> cases c <;> simp only [exactChain, ht]
  · rintro rfl
    decide

end Exact

/-! ## The test of the lifecycle suite -/

section LifecycleTest

variable {σ Error Ticket Lease β : Type} {adapter : OperationModelAdapter σ Error Ticket Lease}
  {first phase : OperationPhase} {table : PhaseTable}
  {At : Ticket × Lease → OperationPhase → σ → Prop} {operation : Ticket × Lease} {s : σ} {P : Prop}

theorem Driven.checkedLease (h : Driven adapter.transitionChain first table At)
    (hs : At operation phase s) {message : String} {expected : OperationPhase}
    {f : Unit → Callback σ β}
    (hf : ∀ s', At operation expected s' → (Passes (f ()) s' ↔ P)) :
    Passes (LifecycleSuite.assertPhase adapter operation.2 message expected >>= f) s ↔
      phase = expected ∧ P := by
  obtain ⟨o, s', hon, rfl, hs'⟩ := h.phase hs
  obtain ⟨found, s₁, hfound, hpure⟩ := bind_on_ok.mp hon
  rw [on_pure] at hpure
  obtain ⟨hmap, rfl⟩ := Prod.mk.inj hpure
  obtain ⟨snapshot, rfl, rfl⟩ := Option.map_eq_some_iff.mp (Except.ok.inj hmap)
  unfold LifecycleSuite.assertPhase LifecycleSuite.expectSome
  rw [bind_assoc, bind_assoc]
  refine passes_bind (.of_on hfound ⟨rfl, rfl⟩ :
    Ends _ s fun o s'' => o = some snapshot ∧ s'' = s₁) fun o s'' ho => ?_
  obtain ⟨rfl, rfl⟩ := ho
  refine (passes_assert).trans (and_congr_right fun hp => hf _ (hp ▸ hs'))

/-- The calls that `assert_exact_transition_chain` does not try. -/
def untried : List (OperationPhase × ChainCall) := [
  (.running, .release),
  (.terminal, .terminal),
  (.released, .queue),
  (.released, .start),
  (.released, .terminal)]

/-- The transition test of the lifecycle suite passes for the tables that are the exact chain but
for the calls that it does not try. -/
theorem lifecycle_chain_exact (h : Driven adapter.transitionChain first table At)
    (hdrop : ∀ ticket s, (adapter.dropTicket ticket).Ends s fun _ _ => True) :
    (LifecycleSuite.assertExactTransitionChain adapter).on () = (.ok (), ()) ↔
      first = .reserved ∧ ∀ p c, (p, c) ∉ untried → table p c = exactChain p c := by
  have hpasses : (LifecycleSuite.assertExactTransitionChain adapter).on () = (.ok (), ()) ↔
      Passes (LifecycleSuite.assertExactTransitionChain adapter) () :=
    ⟨fun hon => ⟨(), (), hon, trivial⟩, fun ⟨_, _, hon, _⟩ => hon⟩
  rw [hpasses]
  unfold LifecycleSuite.assertExactTransitionChain
  refine (h.reserved fun op s hs => h.checkedLease hs fun s hs =>
    h.refused hs .start .completed fun s hs => h.refused hs .release .completed fun s hs =>
    h.refused hs .terminal .completed fun s hs =>
    h.moved hs .queue .completed fun p s hs => h.checkedLease hs fun s hs =>
    h.refused hs .queue .completed fun s hs => h.refused hs .release .completed fun s hs =>
    h.refused hs .terminal .completed fun s hs =>
    h.moved hs .start .completed fun p s hs => h.checkedLease hs fun s hs =>
    h.refused hs .start .completed fun s hs => h.refused hs .queue .completed fun s hs =>
    h.moved hs .terminal .completed fun p s hs => h.checkedLease hs fun s hs =>
    h.refused hs .queue .completed fun s hs => h.refused hs .start .completed fun s hs =>
    h.moved hs .release .completed fun p s hs => h.checkedLease hs fun s hs =>
    h.refused hs .release .completed fun s hs => by
      exact iff_of_true (hdrop op.1 s) trivial).trans ?_
  refine and_congr_right fun _ => ⟨fun ht p c hn => ?_, fun ht => ?_⟩
  · cases p <;> cases c <;>
      first
        | exact absurd (by decide) hn
        | simp only [exactChain, ht]
  · simp only [and_true]
    refine ⟨?_, ?_, ?_, ?_, ?_, ?_, ?_, ?_, ?_, ?_, ?_, ?_, ?_, ?_, ?_⟩ <;>
      exact ht _ _ (by decide)

theorem lifecycle_chain_exact_overwriting :
    (LifecycleSuite.assertExactTransitionChain overwriting).on () = (.ok (), ()) ∧
      ¬Passes (transitionChain overwriting.transitionChain) () := by
  refine ⟨(lifecycle_chain_exact overwriting_driven fun ticket s => ?_).mpr ⟨rfl, ?_⟩, fun h => ?_⟩
  · exact ⟨(), _, rfl, trivial⟩
  · intro p c hn
    refine if_neg ?_
    rintro ⟨rfl, rfl⟩
    exact hn (by decide)
  · have hchain := ((passes_transitionChain overwriting_driven).mp h).2
    exact absurd (congrFun (congrFun hchain .terminal) .terminal) (by decide)

end LifecycleTest

end TransitionChain
end Testkit
end Platform
