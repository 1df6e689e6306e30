import PlatformContracts.Testkit.AdapterEffect
import PlatformContracts.Testkit.LifecycleFollows

/-!
# Conforming adapters pass the lifecycle suite

* `Passes`: a test that ends without a panic.
* `reference_cancelCompleteRace`, `reference_admitQuiesceRace`: races of two sections or three.
* `Racing`, `RacePoint`: the state of the race of progress and terminal, and where its threads are;
  `reference_progressTerminalRace`.
* `suite_conforms`: the reference adapter passes under every schedule of the races, and so does
  every adapter that follows it.
-/

namespace Platform
namespace Testkit

open Exec

namespace LifecycleSuite

open PublicationSuite (assertEq assert_on scenario)

/-- The test ends without a panic. -/
def Passes (test : Callback Unit Unit) : Prop := (test.on ()).1.toBool = true

instance (test : Callback Unit Unit) : Decidable (Passes test) :=
  inferInstanceAs (Decidable (_ = _))

theorem passes_iff {test : Callback Unit Unit} : Passes test ↔ test.on () = (.ok (), ()) := by
  unfold Passes
  rcases test.on () with ⟨_ | _, _⟩ <;> simp [Except.toBool]

theorem Passes.seq {test : Callback Unit Unit} {rest : Callback Unit Unit} (h : Passes test)
    (hr : Passes rest) : Passes (test >>= fun _ => rest) := by
  rw [passes_iff] at h hr ⊢
  rw [on_bind, h]
  exact hr

theorem passes_scenario {σ : Type} {factory : Callback Unit σ} {statements : Callback σ Unit}
    {s : σ} {Q : Unit → σ → Prop} (hf : factory = pure s) (hs : statements.Ends s Q) :
    Passes (scenario factory statements) := by
  obtain ⟨a, s', hon, -⟩ := hs
  rw [passes_iff, hf, scenario, on_bind, on_pure]
  dsimp only
  rw [hon]
  rfl

/-! ## Races of two sections or three -/

section ShortRaces

variable {σ Error Ticket Lease : Type} (adapter : OperationModelAdapter σ Error Ticket Lease)

theorem terminalThread_atMost (lease : Lease) (termClass : TerminalClass) :
    (terminalThread adapter lease termClass).AtMost 1 := .step fun _ => .ret

theorem admitThread_atMost : (admitThread adapter).AtMost 2 := by
  refine .step fun r => ?_
  cases r with
  | ok => exact .step fun _ => .ret
  | error => exact .ret

theorem quiesceThread_atMost : (quiesceThread adapter).AtMost 1 := .step fun _ => .ret

theorem cancelCompleteRace_take (schedule : List Bool) :
    assertCancelCompleteRaceHasOneTerminal adapter schedule =
      assertCancelCompleteRaceHasOneTerminal adapter (schedule.take 2) := by
  have h := fun lease => raceJoin_take schedule (terminalThread_atMost adapter lease .cancelled)
    (terminalThread_atMost adapter lease .completed) "cancel racer" "complete racer"
  unfold assertCancelCompleteRaceHasOneTerminal
  simp only [h]

theorem admitQuiesceRace_take (schedule : List Bool) :
    assertAdmitQuiesceRaceIsLinearizable adapter schedule =
      assertAdmitQuiesceRaceIsLinearizable adapter (schedule.take 3) := by
  have h := raceJoin_take schedule (admitThread_atMost adapter)
    (quiesceThread_atMost adapter) "admission racer" "quiesce racer"
  unfold assertAdmitQuiesceRaceIsLinearizable
  rw [h]

end ShortRaces

theorem reference_cancelCompleteRace (schedule : List Bool) :
    Passes (assertCancelCompleteRaceHasOneTerminal referenceAdapter schedule) := by
  have h : ∀ schedule ∈ shortSchedules 2,
      Passes (assertCancelCompleteRaceHasOneTerminal referenceAdapter schedule) := by
    decide +kernel
  rw [cancelCompleteRace_take]
  exact h _ (mem_shortSchedules (List.length_take_le 2 schedule))

theorem reference_admitQuiesceRace (schedule : List Bool) :
    Passes (assertAdmitQuiesceRaceIsLinearizable referenceAdapter schedule) := by
  have h : ∀ schedule ∈ shortSchedules 3,
      Passes (assertAdmitQuiesceRaceIsLinearizable referenceAdapter schedule) := by
    decide +kernel
  rw [admitQuiesceRace_take]
  exact h _ (mem_shortSchedules (List.length_take_le 3 schedule))

/-! ## The race of progress and terminal -/

open Std

/-- The state of the race, with the attempt in the phase: its progress may be any. -/
structure Racing (lease : ReferenceLease) (phase : OperationPhase) (s : ReferenceState) :
    Prop where
  attempt : ∃ op : ReferenceOperation, s.attempts[lease.identity.sequence]? = some op ∧
    op.identity = lease.identity ∧ op.phase = phase
  active : s.active = (∅ : ExtTreeMap String UInt64).insert lease.identity.operationId
    lease.identity.sequence
  retained : s.retainedTasks = 1
  joined : s.joinedWorkers = 0

/-- Nothing is active. -/
structure Drained (s : ReferenceState) : Prop where
  active : s.active = ∅
  retained : s.retainedTasks = 0
  joined : s.joinedWorkers = 1

section Racing

variable {s : ReferenceState} {lease : ReferenceLease} {phase phase' : OperationPhase}

theorem Racing.set (h : Racing lease phase s) {op : ReferenceOperation}
    (hid : op.identity = lease.identity) (hp : op.phase = phase') :
    Racing lease phase' (s.setAttempt lease.identity.sequence op) where
  attempt := ⟨op, lookup_insert.trans (if_pos rfl), hid, hp⟩
  active := h.active
  retained := h.retained
  joined := h.joined

theorem Racing.publish (h : Racing lease .running s) (sequence : UInt64) :
    (referenceAdapter.publishProgress lease sequence).Ends s fun r s' =>
      r = .ok () ∧ Racing lease .running s' := by
  obtain ⟨op, hop, hid, hp⟩ := h.attempt
  have hon := @advance_ok s lease .running (fun operation => { operation with
    progress := pushProgress s.progressCapacity operation.progress sequence }) op hop hid hp
    (by decide)
  exact .result_congr _ (by rw [publishProgress, on_get_bind])
    (.of_result_ok hon ⟨rfl, h.set hid hp⟩)

/-- Progress after the terminal is refused, and changes nothing. -/
theorem Racing.refuse (h : Racing lease .terminal s) (sequence : UInt64) :
    (referenceAdapter.publishProgress lease sequence).Ends s fun r s' =>
      (∃ e, r = .error e) ∧ Racing lease .terminal s' := by
  obtain ⟨op, hop, hid, hp⟩ := h.attempt
  have hmut : operationMut s lease.identity = .ok op :=
    operationMut_eq_ok.mpr ⟨hop, hid, by rw [hp]; decide⟩
  have hon : (publishProgress lease sequence).on s = (.error (.err .invalidTransition), s) := by
    unfold publishProgress
    rw [on_get_bind, advance_on, hmut]
    exact if_neg (by rw [hp]; decide)
  exact .of_result_err hon ⟨⟨_, rfl⟩, h⟩

theorem Racing.terminal (h : Racing lease .running s) (termClass : TerminalClass) :
    (referenceAdapter.terminal lease termClass).Ends s fun r s' =>
      r = .ok () ∧ Racing lease .terminal s' := by
  obtain ⟨op, hop, hid, hp⟩ := h.attempt
  exact .of_result_ok (advance_ok hop hid hp (by decide)) ⟨rfl, h.set hid rfl⟩

/-- Where the two threads are in the race. -/
def RacePoint (lease : ReferenceLease) (p : Thread ReferenceState Empty Unit)
    (q : Thread ReferenceState Empty Bool) (s : ReferenceState) : Prop :=
  (∃ sequences, p = progressThread referenceAdapter lease sequences) ∧
    (q = terminalThread referenceAdapter lease .completed ∧ Racing lease .running s ∨
      q = .ret true ∧ Racing lease .terminal s)

theorem RacePoint.left {γ : Type} {m : Callback ReferenceState γ}
    {next : γ → Thread ReferenceState Empty Unit} {q : Thread ReferenceState Empty Bool}
    (h : RacePoint lease (.step m next) q s) :
    m.Ends s fun c s' => RacePoint lease (next c) q s' := by
  obtain ⟨⟨sequences, hp⟩, hq⟩ := h
  cases sequences with
  | nil => cases hp
  | cons sequence sequences =>
    cases hp
    rcases hq with ⟨rfl, hs⟩ | ⟨rfl, hs⟩
    · refine (hs.publish sequence).mono ?_
      rintro _ s' ⟨rfl, hs'⟩
      exact ⟨⟨sequences, rfl⟩, .inl ⟨rfl, hs'⟩⟩
    · refine (hs.refuse sequence).mono ?_
      rintro _ s' ⟨⟨e, rfl⟩, hs'⟩
      exact ⟨⟨[], rfl⟩, .inr ⟨rfl, hs'⟩⟩

theorem RacePoint.right {γ : Type} {m : Callback ReferenceState γ}
    {next : γ → Thread ReferenceState Empty Bool} {p : Thread ReferenceState Empty Unit}
    (h : RacePoint lease p (.step m next) s) :
    m.Ends s fun c s' => RacePoint lease p (next c) s' := by
  obtain ⟨hp, ⟨hq, hs⟩ | ⟨hq, -⟩⟩ := h
  · cases hq
    refine (hs.terminal .completed).mono ?_
    rintro _ s' ⟨rfl, hs'⟩
    exact ⟨hp, .inr ⟨rfl, hs'⟩⟩
  · cases hq

/-- Whatever the order, the terminal is recorded. -/
theorem Racing.race (h : Racing lease .running s) (schedule : List Bool)
    (sequences : List UInt64) :
    (raceJoin schedule (progressThread referenceAdapter lease sequences)
      (terminalThread referenceAdapter lease .completed)
      "progress producer" "terminal producer").Ends s fun x s' =>
        x.2 = true ∧ Racing lease .terminal s' := by
  obtain ⟨a, b, s', hrace, -, ⟨hq, -⟩ | ⟨hq, hs'⟩⟩ := race_ends (I := RacePoint lease)
    schedule RacePoint.left RacePoint.right ⟨⟨sequences, rfl⟩, .inl ⟨rfl, h⟩⟩
  · cases hq
  · cases hq
    exact ⟨(a, true), s', raceJoin_on.mpr hrace, rfl, hs'⟩

theorem Racing.snapshot (h : Racing lease phase s) (message : String) :
    (assertPhase referenceAdapter lease message phase).Ends s fun _ s' => s' = s := by
  obtain ⟨op, hop, hid, hp⟩ := h.attempt
  have hsnap : leaseSnapshot s lease = some (Testkit.snapshot op) := by
    rw [leaseSnapshot, hop, Option.filter_some, if_pos (decide_eq_true hid)]
    rfl
  have hread : (referenceAdapter.leaseSnapshot lease).Ends s fun o s' =>
      o = some (Testkit.snapshot op) ∧ s' = s := ⟨_, s, rfl, hsnap, rfl⟩
  refine (hread.bind ?_ : Ends (expectSome _ message) s fun o s' =>
    o = Testkit.snapshot op ∧ s' = s).bind ?_
  · rintro _ _ ⟨rfl, rfl⟩
    exact .pure ⟨rfl, rfl⟩
  · rintro _ _ ⟨rfl, rfl⟩
    exact ⟨(), _, assert_on hp, rfl⟩

theorem Racing.release (h : Racing lease .terminal s) :
    (referenceAdapter.release lease).Ends s fun r s' => r = .ok () ∧ Drained s' := by
  obtain ⟨op, hop, hid, hp⟩ := h.attempt
  have hmut : operationMut s lease.identity = .ok op :=
    operationMut_eq_ok.mpr ⟨hop, hid, by rw [hp]; decide⟩
  have hkey : s.active[lease.identity.operationId]? = some lease.identity.sequence := by
    rw [h.active]
    exact lookup_insert.trans (if_pos rfl)
  have hsub : checkedSub s.retainedTasks 1 = some 0 := by rw [h.retained]; decide
  have hadd : checkedAdd s.joinedWorkers 1 = some 1 := by rw [h.joined]; decide
  have hon : (Testkit.release lease).on s = (.ok (), s.retire lease.identity op 0 1) := by
    rw [release_on, hmut]
    simp only [hp, hkey, hsub, hadd, ne_eq, not_true_eq_false, if_false]
  refine .of_result_ok hon ⟨rfl, ?_, rfl, rfl⟩
  show s.active.erase _ = ∅
  rw [h.active, erase_insert]
  exact erase_of_none ExtTreeMap.getElem?_empty

theorem Drained.dropTicket (h : Drained s) (ticket : ReferenceTicket) :
    (referenceAdapter.dropTicket ticket).Ends s fun _ s' => Drained s' := by
  have hon : (Testkit.dropTicket ticket).on s = (.ok (), _) := rfl
  refine (Ends.of_result_ok (Q := fun r s' => r = .ok () ∧ Drained s') hon ⟨rfl, ?_⟩).bind ?_
  · dsimp only
    split
    · exact h
    · split
      · exact ⟨h.active, h.retained, h.joined⟩
      · exact h
  · rintro _ s' ⟨rfl, hs'⟩
    exact .pure hs'

theorem Drained.shutdown (h : Drained s) :
    (referenceAdapter.shutdown).Ends s fun facts _ => facts = ⟨.closed, 0, 0, 1, 1⟩ := by
  obtain ⟨s₁, hquiesce, h₁⟩ : ∃ s₁, quiesce.on s = (.ok (), s₁) ∧ Drained s₁ := by
    refine ⟨_, rfl, ?_⟩
    dsimp only
    split
    · exact ⟨h.active, h.retained, h.joined⟩
    · exact h
  have hclose : shutdownClose.on s₁ =
      (.ok ⟨.closed, 0, 0, 1, 1⟩, { s₁ with lifecycle := .closed }) := by
    rw [shutdownClose_on]
    simp only [ReferenceState.facts, h₁.active, h₁.retained, h₁.joined]
    rfl
  have hshutdown : Ends (Exec.result Testkit.shutdown : Callback _ _) s fun r _ =>
      r = .ok ⟨.closed, 0, 0, 1, 1⟩ := .of_result_ok ((on_bind_of_ok hquiesce).trans hclose) rfl
  refine hshutdown.bind ?_
  rintro _ s' rfl
  exact .pure rfl

end Racing

/-- The state of `deterministic` for the race. -/
def racingStart : ReferenceState where
  lifecycle := .running
  nextSequence := 1
  progressCapacity := 2
  active := ∅
  attempts := ∅
  retainedTasks := 0
  joinedWorkers := 0

theorem reserveRunning_racing :
    (reserveRunning referenceAdapter "progress-terminal-race").Ends racingStart fun x s =>
      Racing x.2 .running s := by
  have hok : ((reserveRunning referenceAdapter "progress-terminal-race").on
      racingStart).1.toBool = true := by decide +kernel
  obtain ⟨x, s, hon⟩ := on_eq_ok_of_toBool hok
  have hlease : ((reserveRunning referenceAdapter "progress-terminal-race").on
      racingStart).1.toOption.map (·.2) = some ⟨mintIdentity "progress-terminal-race" 1⟩ := by
    decide +kernel
  have hs : s = ((reserveRunning referenceAdapter "progress-terminal-race").on racingStart).2 := by
    rw [hon]
  rw [hon] at hlease
  have hlease : x.2 = ⟨mintIdentity "progress-terminal-race" 1⟩ := Option.some.inj hlease
  refine .of_on hon ?_
  rw [hlease, hs]
  refine ⟨⟨⟨mintIdentity "progress-terminal-race" 1, .running, false, none, []⟩, ?_, rfl, rfl⟩,
    ?_, ?_, ?_⟩ <;> decide +kernel

theorem reference_progressTerminalRace (schedule : List Bool) :
    Passes (assertProgressTerminalInterleavingCannotStarveTerminal referenceAdapter schedule) := by
  refine passes_scenario (s := racingStart) (Q := fun _ _ => True) rfl ?_
  refine reserveRunning_racing.bind ?_
  rintro ⟨ticket, lease⟩ s hs
  refine (hs.race schedule (sequences 1024)).bind ?_
  rintro ⟨⟨⟩, terminal⟩ s ⟨rfl, hs⟩
  refine .assert_bind rfl ((hs.snapshot "terminal").bind ?_)
  rintro _ _ rfl
  refine (hs.release.bind ?_ : Ends (expectCall _ "release") _ fun _ s' => Drained s').bind ?_
  · rintro _ s' ⟨rfl, hs'⟩
    exact .pure hs'
  · rintro _ s' hs'
    refine (hs'.dropTicket ticket).bind fun _ s'' hs'' => hs''.shutdown.bind ?_
    rintro _ s₃ rfl
    exact .of_on rfl trivial

/-! ## The suite -/

/-- The reference adapter passes, under every schedule of the races. -/
theorem reference_passes (schedules : List Bool × List Bool × List Bool) :
    Passes (runLifecycleSuite referenceAdapter schedules) := by
  have alone : Passes (assertExactTransitionChain referenceAdapter) ∧
      Passes (assertTicketDropCancelsWhileLeaseRetainsIdentity referenceAdapter) ∧
      Passes (assertExplicitConsumerDropRequestsCancellation referenceAdapter) ∧
      Passes (assertOneAuthoritativeTerminalAndProjections referenceAdapter) ∧
      Passes (assertWaiterTimeoutIsObservationalAndRetainsControl referenceAdapter) ∧
      Passes (assertUnreadProgressCannotBlockTerminalReleaseOrShutdown referenceAdapter) ∧
      Passes (assertDuplicateIdsFailWithoutPartialAdmission referenceAdapter) ∧
      Passes (assertSequenceExhaustionFailsWithoutPartialAdmission referenceAdapter) ∧
      Passes (assertStaleReleaseCannotRemoveReusedId referenceAdapter) ∧
      Passes (assertQuiesceRejectsAdmissionAndShutdownWaitsForRelease referenceAdapter) ∧
      Passes (assertExecutorPanicRecordsTerminalAndReleases referenceAdapter) ∧
      Passes (assertRepeatedShutdownIsStableAndEmpty referenceAdapter) := by
    decide +kernel
  obtain ⟨h₁, h₂, h₃, h₄, h₅, h₆, h₇, h₈, h₉, h₁₀, h₁₁, h₁₂⟩ := alone
  exact h₁.seq <| h₂.seq <| h₃.seq <| h₄.seq <| h₅.seq <| h₆.seq <| h₇.seq <| h₈.seq <|
    h₉.seq <| h₁₀.seq <| h₁₁.seq <| h₁₂.seq <| (reference_cancelCompleteRace _).seq <|
    (reference_admitQuiesceRace _).seq <| reference_progressTerminalRace _

/-- Every adapter follows itself. -/
theorem follows_refl {σ Error Ticket Lease : Type}
    (adapter : OperationModelAdapter σ Error Ticket Lease) :
    adapter.Follows (· = ·) (· = ·) (· = ·) adapter := by
  have value : ∀ {α : Type} (m : Callback σ α), m.Follows (· = ·) (· = ·) m :=
    fun m => .refl (fun _ => rfl) m
  have answer : ∀ {α : Type} {V : α → α → Prop}, (∀ a, V a a) → ∀ m : Callback σ (Except Error α),
      m.Follows (· = ·) (Answers V) m := fun hv m => .refl (Answers.refl hv) m
  constructor
  case deterministic => exact fun config => .refl (fun _ => rfl) _
  case reserve => exact fun operationId => answer (fun _ => ⟨rfl, rfl⟩) _
  case currentSnapshot => exact fun operationId => value _
  case publishProgress | terminal =>
    rintro lease _ rfl _
    exact answer (fun _ => rfl) _
  case ticketIdentity | leaseIdentity | leaseSnapshot | dropTicket =>
    rintro handle _ rfl
    exact value _
  case queue | start | requestCancel | consumerDrop | waiterTimeout | recordExecutorPanic
      | release =>
    rintro handle _ rfl
    exact answer (fun _ => rfl) _
  all_goals exact value _

/-- An adapter whose callbacks do what those of the reference adapter do, up to a relation of the
states and the handles, passes the lifecycle suite, in whatever order the sections of the racing
threads run. -/
theorem suite_conforms {σ Error Ticket Lease : Type} {R : σ → ReferenceState → Prop}
    {T : Ticket → ReferenceTicket → Prop} {L : Lease → ReferenceLease → Prop}
    {adapter : OperationModelAdapter σ Error Ticket Lease}
    (h : adapter.Follows R T L referenceAdapter)
    (schedules : List Bool × List Bool × List Bool) :
    (runLifecycleSuite adapter schedules).on () = (.ok (), ()) := by
  obtain ⟨⟨⟩, ⟨⟩, hon, -⟩ := runLifecycleSuite_follows h schedules () () rfl () ()
    (passes_iff.mp (reference_passes schedules))
  exact hon

/-- Cancellation before completion, quiescence between the reservation and the drop of its ticket,
and the terminal after two values. -/
theorem suite_conforms_reference :
    (runLifecycleSuite referenceAdapter ([true], [true, false], [true, true, false])).on () =
      (.ok (), ()) :=
  suite_conforms (follows_refl referenceAdapter) _

end LifecycleSuite

end Testkit
end Platform
