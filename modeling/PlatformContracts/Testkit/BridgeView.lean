import PlatformContracts.Lib.View
import PlatformContracts.Testkit.BridgeSuite
import PlatformContracts.Testkit.Progress
import PlatformContracts.Testkit.SupervisorOrder

/-!
# What a suite knows of the bridge

Between two requests of a suite, workers and shutdown tasks go on. What the suite knows is what
they do not change.

* `Known`: the operations that the suite admitted, with the stage of each, and the shutdowns that
  it began. A stage (`Stage`, `TaskStage`) is up to the steps of the worker or the task.
* `Sound`: the invariants of the supervisor under careful callers. `Sees w v`: they hold of `w`,
  and `v` is what is there.
* `Sees.env`: the steps of workers and tasks keep what is known, and lower the rank. So `Sees` is a
  `View`, `bridgeView`.
-/

namespace Platform
namespace Testkit
namespace Supervisor
namespace BridgeSuite

open Std Client

/-! ## Stages -/

inductive Stage where
  | spawning
  | inserting
  | ready
  /-- The command was sent; the worker may have released. -/
  | told (command : ReferenceWorkerCommand)
  /-- The release was received. -/
  | released (command : ReferenceWorkerCommand)
  | exited (command : ReferenceWorkerCommand)
  deriving DecidableEq, Repr

namespace Stage

def call : Stage → ReserveCall
  | spawning => .spawning
  | inserting => .inserting
  | ready | told _ | released _ | exited _ => .returned

/-- Where the worker may be. -/
def Allows : Stage → Worker → Prop
  | spawning, worker => worker = .unspawned
  | inserting, worker | ready, worker => worker = .receiving
  | told command, worker => worker = .commanded command ∨ worker = .notifying
  | released _, worker => worker = .exiting
  | exited _, worker => worker = .exited

def command? : Stage → Option ReferenceWorkerCommand
  | spawning | inserting | ready => none
  | told command | released command | exited command => some command

end Stage

inductive TaskStage where
  /-- Before the start was received. -/
  | begun
  /-- Before the result was received. -/
  | started
  | returned (outcome : ShutdownOutcome)
  deriving DecidableEq, Repr

/-- Where the task may be. -/
def TaskStage.Allows : TaskStage → ShutdownPc → Prop
  | begun, pc => pc = .quiescing ∨ pc = .starting
  | started, pc => pc = .waiting ∨ (∃ todo joined, pc = .joining todo joined) ∨
    ∃ outcome, pc = .sending outcome
  | returned outcome, pc => pc = .returned outcome

structure KnownOp where
  operationId : String
  stage : Stage
  handle : OperationHandle
  deriving DecidableEq, Repr

structure KnownTask where
  stage : TaskStage
  started : ReceiverEnd
  deriving DecidableEq, Repr

/-- What is known of admission. -/
inductive Admission where
  | running
  /-- A shutdown was begun. -/
  | unknown
  | closed
  deriving DecidableEq, Repr

structure Known where
  ops : UInt64 → Option KnownOp
  tasks : Nat → Option KnownTask
  nextSequence : UInt64
  admission : Admission
  capacity : Usize

namespace Known

variable (v : Known)

def setOp (k : UInt64) (known : KnownOp) : Known :=
  { v with ops := Function.update v.ops k (some known) }

def setTask (t : Nat) (known : KnownTask) : Known :=
  { v with tasks := Function.update v.tasks t (some known) }

/-- An operation that was admitted, and is at this stage. -/
def admitted (operationId : String) (stage : Stage) : Known :=
  { v with
    ops := Function.update v.ops v.nextSequence (some ⟨operationId, stage, .new⟩)
    nextSequence := v.nextSequence + 1 }

/-- A shutdown that was begun. -/
def begin (t : Nat) : Known :=
  { v with
    tasks := Function.update v.tasks t (some ⟨.begun, .held⟩)
    admission := if v.admission = .running then .unknown else v.admission }

def close : Known := { v with admission := .closed }

/-- The bridge of `deterministic(capacity)`. -/
def new (capacity : Usize) : Known where
  ops _ := none
  tasks _ := none
  nextSequence := 1
  admission := .running
  capacity := capacity

variable {v}

@[simp] theorem setOp_ops {k : UInt64} {known : KnownOp} :
    (v.setOp k known).ops = Function.update v.ops k (some known) := rfl

@[simp] theorem setTask_ops {t : Nat} {known : KnownTask} :
    (v.setTask t known).ops = v.ops := rfl

@[simp] theorem setTask_tasks {t : Nat} {known : KnownTask} :
    (v.setTask t known).tasks = Function.update v.tasks t (some known) := rfl

@[simp] theorem close_tasks : v.close.tasks = v.tasks := rfl

end Known

/-! ## Soundness of the supervisor -/

/-- The suites begin at most two shutdowns of a bridge. -/
def taskBound : Nat := 2

/-- The invariants of the supervisor under careful callers. -/
structure Sound (capacity : Usize) (w : World) : Prop where
  steady : Steady taskBound w
  cancelled : Cancelled w.state
  ordered : Ordered w
  progress : ∃ accepted, Newest capacity w.state accepted

section Sound

variable {capacity : Usize} {w w' : World} {e : Event}

theorem Sound.inv (h : Sound capacity w) : Inv w := h.steady.inv

theorem Sound.start (capacity : Usize) : Sound capacity (startWorld capacity) where
  steady := by
    refine ⟨inv_init capacity, healthy_start capacity, ?_, ?_, ?_⟩
    · exact ((joins_inductive capacity).init rfl).2
    · intro k op hk
      cases hk
    · intro t d hd
      cases hd
  cancelled := ((cancelled_inductive capacity).init rfl).2
  ordered := ((ordered_inductive capacity).init rfl).2
  progress := ((shown_inductive capacity).init rfl).2

theorem Sound.step (h : Sound capacity w) (hs : Step w e w') (hc : Careful w e w')
    (hb : ∀ t, e = .beginShutdown t → t < taskBound) : Sound capacity w' where
  steady := by
    refine ⟨h.inv.step hs, h.steady.healthy.step h.inv hs hc.1 hc.2.1 hc.2.2,
      h.steady.joins.step h.inv hs, whole_step h.steady.whole hs, fun {t d} hd => ?_⟩
    by_cases hbegin : ∃ t', e = .beginShutdown t'
    · obtain ⟨t', rfl⟩ := hbegin
      cases hs with
      | beginShutdown =>
        rcases update_eq_some.mp hd with ⟨rfl, -⟩ | ⟨-, hd⟩
        · exact hb _ rfl
        · exact h.steady.finite hd
    · exact finite_step h.steady.finite hs (fun t ht => hbegin ⟨t, ht⟩) hd
  cancelled := h.cancelled.step h.inv hs
  ordered := h.ordered.step h.inv hs
  progress := ⟨_, h.progress.choose_spec.step h.inv hs⟩

end Sound

/-! ## What is known -/

/-- The record of the ID is that of a worker that released with this class. -/
def Recorded (s : ReferenceSupervisorState) (operationId : String) (k : UInt64)
    (termClass : TerminalClass) : Prop :=
  ∃ r, s.records[operationId]? = some r ∧ r.phase = .released ∧
    r.authoritativeTerminal = some { termClass, sequence := k } ∧
    r.finalProjection = some { termClass, sequence := k }

/-- The operation is as known. -/
structure KnownOp.Shows (known : KnownOp) (s : ReferenceSupervisorState) (k : UInt64)
    (op : Operation) : Prop where
  identity : op.identity = mintIdentity known.operationId k
  call : op.call = known.stage.call
  worker : known.stage.Allows op.worker
  handle : op.handle = known.handle
  record : ∀ command, known.stage.command? = some command → op.worker.active = false →
    Recorded s known.operationId k command.termClass

theorem KnownOp.Shows.operationId {known : KnownOp} {s : ReferenceSupervisorState} {k : UInt64}
    {op : Operation} (h : known.Shows s k op) : op.identity.operationId = known.operationId := by
  rw [h.identity]
  rfl

structure KnownTask.Shows (known : KnownTask) (d : ShutdownTask) : Prop where
  pc : known.stage.Allows d.pc
  started : d.started = known.started
  result : d.result = true

/-- The task has nothing more to do. -/
def KnownTask.Over (known : KnownTask) : Prop := ∃ outcome, known.stage = .returned outcome

structure Sees (w : World) (v : Known) : Prop where
  sound : Sound v.capacity w
  op : ∀ {k known}, v.ops k = some known → ∃ op, w.ops k = some op ∧ known.Shows w.state k op
  noOp : ∀ {k}, v.ops k = none → w.ops k = none
  distinct : ∀ {k k' known known'}, v.ops k = some known → v.ops k' = some known' →
    known.operationId = known'.operationId → k = k'
  task : ∀ {t known}, v.tasks t = some known → ∃ d, w.shutdowns t = some d ∧ known.Shows d
  noTask : ∀ {t}, v.tasks t = none → w.shutdowns t = none
  /-- A suite waits for a shutdown before it begins another one. -/
  alone : ∀ {t t' known known'}, v.tasks t = some known → v.tasks t' = some known' →
    ¬known.Over → ¬known'.Over → t = t'
  next : w.state.nextSequence = v.nextSequence
  running : v.admission = .running → w.state.lifecycle = .running ∧ ∀ t, v.tasks t = none
  closed : v.admission = .closed → w.state.lifecycle ≠ .running
  unclosed : (∀ t, v.tasks t = none) → w.state.lifecycle ≠ .closed

/-! ## Steps of one operation or one task -/

section Update

variable {w w' : World} {v : Known} {s : ReferenceSupervisorState}

theorem Known.setOp_self {k : UInt64} {known : KnownOp} (h : v.ops k = some known) :
    v.setOp k known = v := by
  unfold Known.setOp
  rw [Function.update_eq_self_iff.mpr h.symm]

theorem Known.setTask_self {t : Nat} {known : KnownTask} (h : v.tasks t = some known) :
    v.setTask t known = v := by
  unfold Known.setTask
  rw [Function.update_eq_self_iff.mpr h.symm]

/-- Records with the same phase and the same terminals. -/
theorem Recorded.congr {s s' : ReferenceSupervisorState} {id : String} {k : UInt64}
    {termClass : TerminalClass} (h : Recorded s id k termClass)
    (hr : ∀ r, s.records[id]? = some r → ∃ r', s'.records[id]? = some r' ∧ r'.phase = r.phase ∧
      r'.authoritativeTerminal = r.authoritativeTerminal ∧
      r'.finalProjection = r.finalProjection) : Recorded s' id k termClass := by
  obtain ⟨r, hr₀, hp, ha, hf⟩ := h
  obtain ⟨r', hr', hp', ha', hf'⟩ := hr r hr₀
  exact ⟨r', hr', hp'.trans hp, ha'.trans ha, hf'.trans hf⟩

theorem KnownOp.Shows.congr {known : KnownOp} {k : UInt64} {op : Operation}
    {s s' : ReferenceSupervisorState} (h : known.Shows s k op)
    (hr : ∀ {k termClass}, Recorded s known.operationId k termClass →
      Recorded s' known.operationId k termClass) : known.Shows s' k op :=
  ⟨h.identity, h.call, h.worker, h.handle, fun command hc ha => hr (h.record command hc ha)⟩

/-- A step of one operation, which leaves the records of other IDs. -/
theorem Sees.setOp (h : Sees w v) {k : UInt64} {known known' : KnownOp} {op : Operation}
    (hv : v.ops k = some known)
    (hs : Sound v.capacity (World.setOp { w with state := s } k op))
    (hid : known'.operationId = known.operationId) (hop : known'.Shows s k op)
    (hr : ∀ {id k termClass}, id ≠ known.operationId → Recorded w.state id k termClass →
      Recorded s id k termClass)
    (hn : s.nextSequence = w.state.nextSequence) (hl : s.lifecycle = w.state.lifecycle) :
    Sees (World.setOp { w with state := s } k op) (v.setOp k known') := by
  have hlookup : ∀ {k₁ known₁}, (v.setOp k known').ops k₁ = some known₁ →
      ∃ known₂, v.ops k₁ = some known₂ ∧ known₂.operationId = known₁.operationId := by
    intro k₁ known₁ h₁
    rcases update_eq_some.mp h₁ with ⟨rfl, rfl⟩ | ⟨-, h₁⟩
    · exact ⟨known, hv, hid.symm⟩
    · exact ⟨known₁, h₁, rfl⟩
  constructor
  case sound => exact hs
  case op =>
    intro k₁ known₁ h₁
    rcases update_eq_some.mp h₁ with ⟨rfl, rfl⟩ | ⟨hne, h₁⟩
    · exact ⟨op, Function.update_self .., hop⟩
    · obtain ⟨op₁, hop₁, hshows⟩ := h.op h₁
      refine ⟨op₁, update_eq_some.mpr (.inr ⟨hne, hop₁⟩), hshows.congr fun hrec => hr ?_ hrec⟩
      exact fun he => hne (h.distinct h₁ hv he)
  case noOp =>
    intro k₁ h₁
    by_cases hk : k₁ = k
    · subst hk
      rw [Known.setOp_ops, Function.update_self] at h₁
      cases h₁
    · rw [Known.setOp_ops, Function.update_of_ne hk] at h₁
      exact (Function.update_of_ne hk ..).trans (h.noOp h₁)
  case distinct =>
    intro k₁ k₂ known₁ known₂ h₁ h₂ he
    obtain ⟨_, h₁', he₁⟩ := hlookup h₁
    obtain ⟨_, h₂', he₂⟩ := hlookup h₂
    exact h.distinct h₁' h₂' (he₁.trans (he.trans he₂.symm))
  case task => exact h.task
  case noTask => exact h.noTask
  case alone => exact h.alone
  case next => exact hn.trans h.next
  case running => exact fun ha => ⟨hl.trans (h.running ha).1, (h.running ha).2⟩
  case closed => exact fun ha he => h.closed ha (hl.symm.trans he)
  case unclosed => exact fun hn he => h.unclosed hn (hl.symm.trans he)

/-- A step of one task. -/
theorem Sees.setTask (h : Sees w v) {t : Nat} {known known' : KnownTask} {d : ShutdownTask}
    (hv : v.tasks t = some known)
    (hs : Sound v.capacity (World.setShutdown { w with state := s } t d))
    (hd : known'.Shows d) (ho : known.Over → known'.Over)
    (hr : ∀ {id k termClass}, Recorded w.state id k termClass → Recorded s id k termClass)
    (hn : s.nextSequence = w.state.nextSequence)
    (hl : w.state.lifecycle ≠ .running → s.lifecycle ≠ .running) :
    Sees (World.setShutdown { w with state := s } t d) (v.setTask t known') := by
  have hlookup : ∀ {t₁ known₁}, (v.setTask t known').tasks t₁ = some known₁ →
      ∃ known₂, v.tasks t₁ = some known₂ ∧ (known₂.Over → known₁.Over) := by
    intro t₁ known₁ h₁
    rcases update_eq_some.mp h₁ with ⟨rfl, rfl⟩ | ⟨-, h₁⟩
    · exact ⟨known, hv, ho⟩
    · exact ⟨known₁, h₁, id⟩
  constructor
  case sound => exact hs
  case op =>
    intro k known₁ h₁
    obtain ⟨op, hop, hshows⟩ := h.op h₁
    exact ⟨op, hop, hshows.congr hr⟩
  case noOp => exact h.noOp
  case distinct => exact h.distinct
  case task =>
    intro t₁ known₁ h₁
    rcases update_eq_some.mp h₁ with ⟨rfl, rfl⟩ | ⟨hne, h₁⟩
    · exact ⟨d, Function.update_self .., hd⟩
    · obtain ⟨d₁, hd₁, hshows⟩ := h.task h₁
      exact ⟨d₁, update_eq_some.mpr (.inr ⟨hne, hd₁⟩), hshows⟩
  case noTask =>
    intro t₁ h₁
    by_cases ht : t₁ = t
    · subst ht
      rw [Known.setTask_tasks, Function.update_self] at h₁
      cases h₁
    · rw [Known.setTask_tasks, Function.update_of_ne ht] at h₁
      exact (Function.update_of_ne ht ..).trans (h.noTask h₁)
  case alone =>
    intro t₁ t₂ known₁ known₂ h₁ h₂ ho₁ ho₂
    obtain ⟨_, h₁', hover₁⟩ := hlookup h₁
    obtain ⟨_, h₂', hover₂⟩ := hlookup h₂
    exact h.alone h₁' h₂' (fun ho => ho₁ (hover₁ ho)) fun ho => ho₂ (hover₂ ho)
  case next => exact hn.trans h.next
  case running =>
    intro ha
    have hnone := (h.running ha).2 t
    rw [hv] at hnone
    cases hnone
  case closed => exact fun ha => hl (h.closed ha)
  case unclosed =>
    intro hnone
    have ht := hnone t
    rw [Known.setTask_tasks, Function.update_self] at ht
    cases ht

end Update

/-! ## Steps of workers and tasks -/

section Env

variable {w w' : World} {v : Known} {e : Event}

theorem Sees.known_task (h : Sees w v) {t : Nat} {d : ShutdownTask}
    (hd : w.shutdowns t = some d) : ∃ known, v.tasks t = some known ∧ known.Shows d := by
  cases hv : v.tasks t with
  | none =>
    rw [h.noTask hv] at hd
    cases hd
  | some known =>
    obtain ⟨d', hd', hshows⟩ := h.task hv
    obtain rfl := Option.some.inj (hd.symm.trans hd')
    exact ⟨known, rfl, hshows⟩

theorem Sees.known_op (h : Sees w v) {k : UInt64} {op : Operation} (hk : w.ops k = some op) :
    ∃ known, v.ops k = some known ∧ known.Shows w.state k op := by
  cases hv : v.ops k with
  | none =>
    rw [h.noOp hv] at hk
    cases hk
  | some known =>
    obtain ⟨op', hk', hshows⟩ := h.op hv
    obtain rfl := Option.some.inj (hk.symm.trans hk')
    exact ⟨known, rfl, hshows⟩

/-- A task that took handles has not returned. -/
theorem KnownTask.Shows.not_over {known : KnownTask} {d : ShutdownTask} (h : known.Shows d)
    (hd : ∀ outcome, d.pc ≠ .returned outcome) : ¬known.Over := by
  rintro ⟨outcome, ho⟩
  have hpc := h.pc
  rw [ho] at hpc
  exact hd outcome hpc

/-- Only one task is not over, so it takes its handles alone. -/
theorem Sees.careful (h : Sees w v) (hi : e.internal = true) (hs : Step w e w') :
    Careful w e w' := by
  refine ⟨?_, ?_, ?_⟩
  · cases e with
    | handle k e => cases e <;> simp_all [Event.internal, Kept]
    | witness t e => cases e <;> simp_all [Event.internal, Kept]
    | _ => trivial
  · cases e with
    | handle k e => cases e <;> simp_all [Event.internal, Unhurried]
    | witness t e => cases e <;> simp_all [Event.internal, Unhurried]
    | _ => trivial
  · cases e with
    | takeTasks t reply =>
      have hwaiting : ∃ d, w.shutdowns t = some d ∧ d.pc = .waiting := by
        cases hs with
        | takeTasks hd hpc | takeTasksFailed hd hpc => exact ⟨_, hd, hpc⟩
      obtain ⟨d, hd, hpc⟩ := hwaiting
      intro t' d' ids hne hd' hb
      obtain ⟨known, hv, hshows⟩ := h.known_task hd
      obtain ⟨known', hv', hshows'⟩ := h.known_task hd'
      refine absurd (h.alone hv' hv (hshows'.not_over ?_) (hshows.not_over ?_)) hne
      · intro outcome ho
        rw [ho] at hb
        cases hb
      · simp [hpc]
    | _ => trivial

theorem internal_drains (hi : e.internal = true) : e.drains = true := by
  cases e with
  | handle k e => cases e <;> simp_all [Event.internal, Event.drains]
  | witness t e => cases e <;> simp_all [Event.internal, Event.drains]
  | _ => simp_all [Event.internal, Event.drains]

/-- A worker that was told its command has released. -/
theorem KnownOp.Shows.release {known : KnownOp} {s : ReferenceSupervisorState} {k : UInt64}
    {op : Operation} {command : ReferenceWorkerCommand} {r : OperationSnapshot}
    (h : known.Shows s k op) (hw : op.worker = .commanded command)
    (hr : r.identity = op.identity) :
    known.Shows (released s op.identity.operationId command.termClass r) k
      { op with worker := .notifying } := by
  have hworker := h.worker
  rw [hw] at hworker
  obtain ⟨id, stage, handle⟩ := known
  cases stage with
  | told command' =>
    rcases hworker with hcommand | hnotifying
    · obtain rfl := Worker.commanded.inj hcommand
      refine ⟨h.identity, h.call, .inr rfl, h.handle, fun command' hc _ => ?_⟩
      obtain rfl := Option.some.inj hc
      refine ⟨releaseRecord command.termClass r, ?_, rfl, ?_, ?_⟩
      · simp [released, h.identity, mintIdentity]
      all_goals simp [releaseRecord, hr, h.identity, mintIdentity]
    · cases hnotifying
  | _ => cases hworker

/-- A task goes on within its stage. -/
theorem Sees.goes_on (h : Sees w v) {t : Nat} {d : ShutdownTask} {pc : ShutdownPc}
    {s : ReferenceSupervisorState} (hd : w.shutdowns t = some d)
    (hs : Sound v.capacity (World.setShutdown { w with state := s } t { d with pc := pc }))
    (hpc : ∀ stage : TaskStage, stage.Allows d.pc → stage.Allows pc)
    (hr : ∀ {id k termClass}, Recorded w.state id k termClass → Recorded s id k termClass)
    (hn : s.nextSequence = w.state.nextSequence)
    (hl : w.state.lifecycle ≠ .running → s.lifecycle ≠ .running) :
    Sees (World.setShutdown { w with state := s } t { d with pc := pc }) v := by
  obtain ⟨known, hv, hshows⟩ := h.known_task hd
  have hd' : known.Shows { d with pc := pc } := ⟨hpc _ hshows.pc, hshows.started, hshows.result⟩
  have hkey := h.setTask hv hs hd' id hr hn hl
  rwa [Known.setTask_self hv] at hkey

theorem quiesced_recorded {s : ReferenceSupervisorState} {id : String} {k : UInt64}
    {termClass : TerminalClass} (h : Recorded s id k termClass) :
    Recorded (quiesced s) id k termClass := by
  refine h.congr fun r hr => ?_
  rw [quiesced_record]
  split
  · exact ⟨cancelRecord r, by rw [hr]; rfl, rfl, rfl, rfl⟩
  · exact ⟨r, hr, rfl, rfl, rfl⟩

/-- Workers and tasks that go on keep what is known, and have less left to do. -/
theorem Sees.env (h : Sees w v) (he : bridgeHost.env w w') :
    Sees w' v ∧ w'.rank taskBound < w.rank taskBound := by
  obtain ⟨e, hi, hs⟩ := he
  have hc := h.careful hi hs
  have hsound := h.sound.step hs hc fun t ht => by rw [ht] at hi; cases hi
  refine ⟨?_, h.sound.steady.rank_lt hs ⟨internal_drains hi, hc⟩⟩
  have hhealthy := hsound.steady.healthy
  cases hs with
  | @workerRelease k op command s hk hw hon =>
    obtain ⟨known, hv, hshows⟩ := h.known_op hk
    obtain ⟨r, hr, hid, -⟩ := h.sound.inv.record hk (by rw [hw]; rfl)
    rw [workerRelease_of_record hr] at hon
    obtain rfl := (Prod.mk.inj hon).2
    have hkey := h.setOp hv hsound rfl (hshows.release hw hid) ?_ rfl rfl
    · rwa [Known.setOp_self hv] at hkey
    · intro id k' termClass hne hrec
      refine hrec.congr fun r' hr' => ⟨r', ?_, rfl, rfl, rfl⟩
      rw [← hshows.operationId] at hne
      simp [released, lookup_insert, hne, hr']
  | workerPanic hk hw hon =>
    obtain ⟨r, hr, -, -⟩ := h.sound.inv.record hk (by rw [hw]; rfl)
    rw [workerRelease_of_record hr] at hon
    cases (Prod.mk.inj hon).1
  | handle hk hstep =>
    -- A worker that lost its channel would not be healthy.
    have hop := hhealthy.op (Function.update_self ..)
    cases hstep <;> first | exact False.elim hop | cases hi
  | witness hd hstep =>
    have htask := hhealthy.task (Function.update_self ..)
    cases hstep <;> first | exact False.elim htask | cases hi
  | quiesceShutdown hd hpc hon =>
    obtain rfl := (Prod.mk.inj hon).2
    refine h.goes_on hd hsound ?_ quiesced_recorded ?_ fun _ => quiesced_lifecycle
    · intro stage hstage
      rw [hpc] at hstage
      cases stage <;> simp_all [TaskStage.Allows]
    · show (quiesced w.state).nextSequence = _
      rw [quiesced_frame]
  | takeTasks hd hpc _ hon =>
    obtain ⟨-, rfl⟩ := takeTasks_ok hon
    refine h.goes_on hd hsound ?_ (fun hr => hr) rfl fun hl => hl
    intro stage hstage
    rw [hpc] at hstage
    cases stage <;> simp_all [TaskStage.Allows]
  | takeTasksFailed | joinFailed =>
    exact False.elim (hhealthy.task (Function.update_self ..))
  | join hd hpc =>
    refine h.goes_on hd hsound ?_ (fun hr => hr) rfl fun hl => hl
    intro stage hstage
    rw [hpc] at hstage
    cases stage <;> simp_all [TaskStage.Allows]
  | closeShutdown hd hpc hon =>
    rw [closeShutdown_on] at hon
    obtain ⟨-, rfl⟩ := Prod.mk.inj hon
    refine h.goes_on hd hsound ?_ (fun hr => hr) rfl fun _ => by simp [Supervisor.closed]
    intro stage hstage
    rw [hpc] at hstage
    cases stage <;> simp_all [TaskStage.Allows]
  | _ => cases hi

end Env

def bridgeView : View bridgeHost Known where
  sees := Sees
  rank := World.rank taskBound
  env := Sees.env

end BridgeSuite
end Supervisor
end Testkit
end Platform
