import PlatformContracts.Testkit.BridgeView
import PlatformContracts.Testkit.SupervisorHandles

/-!
# What the requests of a suite answer

One rule for each request (`answers_…`), and for each method of the bridge (`gives_…`,
`meets_…`), from what a suite knows. A wait is answered under every order of the steps of workers
and tasks.
-/

namespace Platform
namespace Testkit
namespace Supervisor
namespace BridgeSuite

open Std Client Client.View

variable {w w' : World} {v : Known}

/-! ## States -/

theorem Sees.start (capacity : Usize) : Sees (startWorld capacity) (.new capacity) where
  sound := .start capacity
  op h := by cases h
  noOp _ := rfl
  distinct h := by cases h
  task h := by cases h
  noTask _ := rfl
  alone h := by cases h
  next := rfl
  running _ := ⟨rfl, fun _ => rfl⟩
  closed h := by cases h
  unclosed _ := nofun

/-- A step of the state, which keeps the records of the workers that released. -/
theorem Sees.setState (h : Sees w v) {s : ReferenceSupervisorState} {admission : Admission}
    (hs : Sound v.capacity { w with state := s })
    (hr : ∀ {id k termClass}, Recorded w.state id k termClass → Recorded s id k termClass)
    (hn : s.nextSequence = w.state.nextSequence)
    (hrunning : admission = .running → s.lifecycle = .running ∧ ∀ t, v.tasks t = none)
    (hclosed : admission = .closed → s.lifecycle ≠ .running)
    (hl : s.lifecycle = .closed → w.state.lifecycle = .closed) :
    Sees { w with state := s } { v with admission := admission } where
  sound := hs
  op hv := by
    obtain ⟨op, hk, hshows⟩ := h.op hv
    exact ⟨op, hk, hshows.congr hr⟩
  noOp := h.noOp
  distinct := h.distinct
  task := h.task
  noTask := h.noTask
  alone := h.alone
  next := hn.trans h.next
  running := hrunning
  closed := hclosed
  unclosed hnone hc := h.unclosed hnone (hl hc)

theorem Sees.shows (h : Sees w v) {k : UInt64} {known : KnownOp} {op : Operation}
    (hv : v.ops k = some known) (hk : w.ops k = some op) : known.Shows w.state k op := by
  obtain ⟨op', hk', hshows⟩ := h.op hv
  rwa [Option.some.inj (hk.symm.trans hk')] at *

theorem Sees.shows_task (h : Sees w v) {t : Nat} {known : KnownTask} {d : ShutdownTask}
    (hv : v.tasks t = some known) (hd : w.shutdowns t = some d) : known.Shows d := by
  obtain ⟨d', hd', hshows⟩ := h.task hv
  rwa [Option.some.inj (hd.symm.trans hd')] at *

theorem KnownOp.Shows.held {known : KnownOp} {s : ReferenceSupervisorState} {k : UInt64}
    {op : Operation} (h : known.Shows s k op) (hc : known.stage.call = .returned)
    (hh : known.handle.held = true) : op.Held :=
  ⟨h.call.trans hc, by rw [h.handle]; exact hh⟩

theorem KnownOp.Shows.not_ended {known : KnownOp} {s : ReferenceSupervisorState} {k : UInt64}
    {op : Operation} (h : known.Shows s k op) (hn : ∀ command, known.stage ≠ .exited command) :
    ¬op.worker.Ended := by
  have hworker := h.worker
  obtain ⟨id, stage, handle⟩ := known
  cases stage with
  | exited command => exact absurd rfl (hn command)
  | told => rcases hworker with he | he <;> simp [Worker.Ended, he]
  | _ => simp [Worker.Ended, show op.worker = _ from hworker]

/-- A step of a handle that the suite has. -/
theorem Sees.handle (h : Sees w v) {k : UInt64} {known known' : KnownOp} {op op' : Operation}
    {e : HandleEvent} (hv : v.ops k = some known) (hk : w.ops k = some op) (hs : op.Step e op')
    (hc : Careful w (.handle k e) (w.setOp k op'))
    (hid : known'.operationId = known.operationId) (hshows : known'.Shows w.state k op') :
    Sees (w.setOp k op') (v.setOp k known') :=
  h.setOp (s := w.state) hv (h.sound.step (.handle hk hs) hc nofun) hid hshows (fun _ hr => hr)
    rfl rfl

/-! ## The start -/

theorem answers_deterministic (capacity : Usize) :
    bridgeView.Answers v (.deterministic capacity) fun reply v' =>
      reply = () ∧ v' = .new capacity where
  go _ := .inr ⟨(), _, rfl⟩
  after := by
    rintro w reply w' - rfl
    exact ⟨_, ⟨rfl, rfl⟩, .start capacity⟩

/-! ## Handles -/

section Handles

variable {k : UInt64} {id : String} {handle : OperationHandle} {command : ReferenceWorkerCommand}

theorem answers_send (hv : v.ops k = some ⟨id, .ready, handle⟩) (hh : handle.held = true)
    (hc : handle.command = true) (command : ReferenceWorkerCommand) :
    bridgeView.Answers v (.send k command) fun reply v' => reply = .ok () ∧
      v' = v.setOp k ⟨id, .told command, { handle with command := false }⟩ where
  go {w} hw := by
    obtain ⟨op, hk, hshows⟩ := Sees.op hw hv
    have hcommand : op.handle.command = true := by rw [hshows.handle]; exact hc
    exact .inr ⟨.ok (), _, .inl ⟨.handle hk (.command command (hshows.held rfl hh) hcommand
      hshows.worker), rfl⟩⟩
  after {w reply w'} hw ha := by
    rcases ha with ⟨hs, rfl⟩ | ⟨op, ⟨hk, -⟩, ha⟩
    · cases hs with
      | @handle _ op _ _ hk hs =>
        have hshows := Sees.shows hw hv hk
        cases hs with
        | command =>
          refine ⟨_, ⟨rfl, rfl⟩, Sees.handle hw hv hk (.command command ‹_› ‹_› ‹_›)
            ⟨trivial, trivial, trivial⟩ rfl ?_⟩
          refine ⟨hshows.identity, hshows.call, .inl rfl, ?_, fun _ _ hactive => ?_⟩
          · show { op.handle with command := false } = _
            rw [hshows.handle]
          · cases hactive
    · have hshows := Sees.shows hw hv hk
      rcases ha with ⟨hn, -⟩ | ⟨-, hended, -⟩
      · rw [hshows.handle, hc] at hn
        cases hn
      · exact absurd hended (hshows.not_ended nofun)

theorem answers_takeReleased (hv : v.ops k = some ⟨id, .told command, handle⟩)
    (hh : handle.held = true) (hr : handle.released = .held) :
    bridgeView.Answers v (.takeReleased k) fun reply v' => reply = .ok () ∧
      v' = v.setOp k ⟨id, .told command, { handle with released := .waiting }⟩ where
  go {w} hw := by
    obtain ⟨op, hk, hshows⟩ := Sees.op hw hv
    have hreleased : op.handle.released = .held := by rw [hshows.handle]; exact hr
    exact .inr ⟨.ok (), _, .inl ⟨.handle hk (.waitReleased (hshows.held rfl hh) hreleased), rfl⟩⟩
  after {w reply w'} hw ha := by
    rcases ha with ⟨hs, rfl⟩ | ⟨op, ⟨hk, -⟩, hn, -⟩
    · cases hs with
      | @handle _ op _ _ hk hs =>
        have hshows := Sees.shows hw hv hk
        cases hs with
        | waitReleased =>
          refine ⟨_, ⟨rfl, rfl⟩, Sees.handle hw hv hk (.waitReleased ‹_› ‹_›)
            ⟨trivial, trivial, trivial⟩ rfl ?_⟩
          refine ⟨hshows.identity, hshows.call, hshows.worker, ?_, hshows.record⟩
          show { op.handle with released := .waiting } = _
          rw [hshows.handle]
    · exact absurd (by rw [(Sees.shows hw hv hk).handle]; exact hr) hn

/-- The worker that was told its command releases, and then notifies. -/
theorem answers_receiveReleased (hv : v.ops k = some ⟨id, .told command, handle⟩)
    (hr : handle.released = .waiting) :
    bridgeView.Answers v (.receiveReleased k) fun reply v' => reply = .ok () ∧
      v' = v.setOp k ⟨id, .released command, { handle with released := .received }⟩ where
  go {w} hw := by
    obtain ⟨op, hk, hshows⟩ := Sees.op hw hv
    rcases hshows.worker with hcommand | hnotifying
    · obtain ⟨r, hrecord, -, -⟩ := hw.sound.inv.record hk (by rw [hcommand]; rfl)
      exact .inl ⟨_, _, rfl, .workerRelease hk hcommand (workerRelease_of_record hrecord)⟩
    · have hreleased : op.handle.released = .waiting := by rw [hshows.handle]; exact hr
      exact .inr ⟨.ok (), _, .inl ⟨.handle hk (.released hreleased hnotifying), rfl⟩⟩
  after {w reply w'} hw ha := by
    rcases ha with ⟨hs, rfl⟩ | ⟨⟨op, hk, hended⟩, -⟩
    · cases hs with
      | @handle _ op _ _ hk hs =>
        have hshows := Sees.shows hw hv hk
        cases hs with
        | released _ hworker =>
          refine ⟨_, ⟨rfl, rfl⟩, Sees.handle hw hv hk (.released ‹_› hworker)
            ⟨trivial, trivial, trivial⟩ rfl ?_⟩
          refine ⟨hshows.identity, hshows.call, rfl, ?_, fun command' hcommand _ => ?_⟩
          · show { op.handle with released := .received } = _
            rw [hshows.handle]
          · exact hshows.record command' hcommand (by rw [hworker]; rfl)
    · exact absurd hended ((Sees.shows hw hv hk).not_ended nofun)

/-- The record of a worker that released. -/
structure Releases (r : OperationSnapshot) (k : UInt64) (termClass : TerminalClass) : Prop where
  phase : r.phase = .released
  terminal : r.authoritativeTerminal = some { termClass, sequence := k }
  final : r.finalProjection = some { termClass, sequence := k }

theorem answers_readReleased (hv : v.ops k = some ⟨id, .released command, handle⟩)
    (hr : handle.released = .received) :
    bridgeView.Answers v (.readReleased k) fun reply v' =>
      ∃ r, reply = .ok r ∧ Releases r k command.termClass ∧
        v' = v.setOp k ⟨id, .released command, { handle with released := .gone }⟩ where
  go {w} hw := by
    obtain ⟨op, hk, hshows⟩ := Sees.op hw hv
    exact .inr ⟨_, _, .readReleased hk (by rw [hshows.handle]; exact hr)⟩
  after {w reply w'} hw ha := by
    cases ha with
    | @readReleased _ op hk hreceived =>
      have hshows := Sees.shows hw hv hk
      have hworker : op.worker = .exiting := hshows.worker
      obtain ⟨r, hrecord, hphase, hterminal, hfinal⟩ :=
        hshows.record command rfl (by rw [hworker]; rfl)
      refine ⟨_, ⟨r, ?_, ⟨hphase, hterminal, hfinal⟩, rfl⟩, ?_⟩
      · rw [readReleased, hshows.operationId, hrecord]
        rfl
      · refine Sees.setOp (s := w.state) hw hv (hw.sound.step (.readReleased hk hreceived)
          ⟨trivial, trivial, trivial⟩ nofun) rfl ?_ (fun _ hrec => hrec) rfl rfl
        refine ⟨hshows.identity, hshows.call, hshows.worker, ?_, hshows.record⟩
        show { op.handle with released := .gone } = _
        rw [hshows.handle]

theorem answers_allowExit (hv : v.ops k = some ⟨id, .released command, handle⟩)
    (hh : handle.held = true) (he : handle.allowExit = true) :
    bridgeView.Answers v (.allowExit k) fun reply v' => reply = .ok () ∧
      v' = v.setOp k ⟨id, .exited command, { handle with allowExit := false }⟩ where
  go {w} hw := by
    obtain ⟨op, hk, hshows⟩ := Sees.op hw hv
    have hexit : op.handle.allowExit = true := by rw [hshows.handle]; exact he
    exact .inr ⟨.ok (), _, .inl ⟨.handle hk (.allowExit (hshows.held rfl hh) hexit
      hshows.worker), rfl⟩⟩
  after {w reply w'} hw ha := by
    rcases ha with ⟨hs, rfl⟩ | ⟨op, ⟨hk, -⟩, ha⟩
    · cases hs with
      | @handle _ op _ _ hk hs =>
        have hshows := Sees.shows hw hv hk
        cases hs with
        | allowExit _ _ hworker =>
          refine ⟨_, ⟨rfl, rfl⟩, Sees.handle hw hv hk (.allowExit ‹_› ‹_› hworker)
            ⟨trivial, trivial, trivial⟩ rfl ?_⟩
          refine ⟨hshows.identity, hshows.call, rfl, ?_, fun command' hcommand _ => ?_⟩
          · show { op.handle with allowExit := false } = _
            rw [hshows.handle]
          · exact hshows.record command' hcommand (by rw [hworker]; rfl)
    · have hshows := Sees.shows hw hv hk
      rcases ha with ⟨hn, -⟩ | ⟨-, hended, -⟩
      · rw [hshows.handle, he] at hn
        cases hn
      · exact absurd hended (hshows.not_ended nofun)

theorem answers_dropHandle (hv : v.ops k = some ⟨id, .exited command, handle⟩)
    (hh : handle.held = true) (hr : handle.released = .gone) :
    bridgeView.Answers v (.dropHandle k) fun reply v' => reply = () ∧
      v' = v.setOp k ⟨id, .exited command, .dropped⟩ where
  go {w} hw := by
    obtain ⟨op, hk, hshows⟩ := Sees.op hw hv
    refine .inr ⟨(), _, .handle hk (.drop (hshows.held rfl hh) ?_ ?_)⟩ <;>
      rw [hshows.handle, hr] <;> nofun
  after {w reply w'} hw ha := by
    cases ha with
    | @handle _ op _ _ hk hs =>
      have hshows := Sees.shows hw hv hk
      have hworker : op.worker = .exited := hshows.worker
      cases hs with
      | drop =>
        refine ⟨_, ⟨rfl, rfl⟩, Sees.handle hw hv hk (.drop ‹_› ‹_› ‹_›)
          ⟨fun op' hk' => ?_, trivial, trivial⟩ rfl ?_⟩
        · rw [Option.some.inj (hk'.symm.trans hk)]
          exact .inl hworker
        · exact ⟨hshows.identity, hshows.call, hshows.worker, rfl, hshows.record⟩

/-- The record of a worker that released no terminal yet is its own. -/
theorem Sees.record (h : Sees w v) (hv : v.ops k = some ⟨id, .ready, handle⟩) :
    ∃ r, w.state.records[id]? = some r ∧ r.phase = .running := by
  obtain ⟨op, hk, hshows⟩ := h.op hv
  have hworker : op.worker = .receiving := hshows.worker
  obtain ⟨r, hr, -, hp⟩ := h.sound.inv.record hk (by rw [hworker]; rfl)
  rw [hshows.operationId] at hr
  exact ⟨r, hr, hp⟩

theorem Sees.capacity (h : Sees w v) : w.state.progressCapacity = v.capacity :=
  h.sound.progress.choose_spec.bound

theorem answers_snapshot (hv : v.ops k = some ⟨id, .ready, handle⟩) (hh : handle.held = true) :
    bridgeView.Answers v (.snapshot k) fun reply v' => v' = v ∧
      ∃ r, reply = some r ∧ r.progressProjection.length ≤ v.capacity.toNat where
  go {w} hw := by
    obtain ⟨op, hk, hshows⟩ := Sees.op hw hv
    exact .inr ⟨_, _, .snapshot hk (hshows.held rfl hh)⟩
  after {w reply w'} hw ha := by
    cases ha with
    | @snapshot _ op hk =>
      have hshows := Sees.shows hw hv hk
      obtain ⟨r, hr, -⟩ := Sees.record hw hv
      obtain ⟨accepted, hnewest⟩ := hw.sound.progress
      refine ⟨v, ⟨rfl, r, ?_, ?_⟩, hw⟩
      · rw [Supervisor.snapshot, hshows.operationId, hr]
      · rw [hnewest.record id r hr, hnewest.bound, List.rtake, List.length_drop]
        omega

theorem published_recorded {s : ReferenceSupervisorState} {id' : String} {k : UInt64}
    {termClass : TerminalClass} {progress : UInt64} {r : OperationSnapshot}
    (hr : s.records[id]? = some r) (h : Recorded s id' k termClass) :
    Recorded (published s id progress r) id' k termClass := by
  refine h.congr fun r' hr' => ?_
  by_cases he : id' = id
  · subst he
    obtain rfl := Option.some.inj (hr.symm.trans hr')
    exact ⟨pushRecord s.progressCapacity progress r, by simp [published], rfl, rfl, rfl⟩
  · exact ⟨r', by simp [published, lookup_insert, he, hr'], rfl, rfl, rfl⟩

/-- A publication panics when the capacity is 0, and is refused at most once the command was
sent. -/
theorem answers_publishProgress {stage : Stage} (hv : v.ops k = some ⟨id, stage, handle⟩)
    (hc : stage.call = .returned) (hh : handle.held = true) (progress : UInt64) :
    bridgeView.Answers v (.publishProgress k progress) fun reply v' => v' = v ∧
      (0 < v.capacity.toNat ∧ reply = .ok () ∨ stage ≠ .ready ∧ (∃ e, reply = .error (.err e)) ∨
        v.capacity.toNat = 0 ∧
          reply = .error (.panic "removal index (is 0) should be < len (is 0)")) where
  go {w} hw := by
    obtain ⟨op, hk, hshows⟩ := Sees.op hw hv
    exact .inr ⟨_, _, .publishProgress hk (hshows.held hc hh) rfl⟩
  after {w reply w'} hw ha := by
    cases ha with
    | @publishProgress _ _ op _ s hk hheld hon =>
      have hsound := hw.sound.step (.publishProgress hk hheld hon) ⟨trivial, trivial, trivial⟩ nofun
      obtain ⟨accepted, hnewest⟩ := hw.sound.progress
      have hpanic := publishProgress_panic hon
      rw [(Sees.shows hw hv hk).operationId] at hon hpanic
      rcases publishProgress_cases hon with ⟨r, hr, hp, rfl, rfl⟩ | ⟨hn, rfl, hne⟩
      · have hsees : Sees { w with state := published w.state id progress r }
            { v with admission := v.admission } :=
          Sees.setState hw hsound (published_recorded hr) rfl hw.running hw.closed fun hl => hl
        have hroom := (hnewest.publishes_iff hr hp.1).mp hp
        rw [Sees.capacity hw] at hroom
        exact ⟨v, ⟨rfl, .inl ⟨hroom, rfl⟩⟩, hsees⟩
      · refine ⟨v, ⟨rfl, .inr ?_⟩, hw⟩
        by_cases hrunning : ∃ r, w.state.records[id]? = some r ∧ r.phase = .running
        · obtain ⟨r, hr, hp⟩ := hrunning
          have hroom := mt (hnewest.publishes_iff hr hp).mpr (hn r hr)
          rw [Sees.capacity hw] at hroom
          rw [publishProgress_full hr hp (hn r hr)] at hon
          exact .inr ⟨by omega, (Prod.mk.inj hon).1.symm⟩
        · refine .inl ⟨?_, ?_⟩
          · rintro rfl
            exact hrunning (Sees.record hw hv)
          · match reply with
            | .ok () => exact absurd rfl hne
            | .error (.err e) => exact ⟨e, rfl⟩
            | .error (.panic message) =>
              obtain ⟨r, hr, hp, -⟩ := hpanic.mp ⟨message, rfl⟩
              exact absurd ⟨r, hr, hp⟩ hrunning

end Handles

/-! ## The state behind the lock -/

theorem answers_lock :
    bridgeView.Answers v .lock fun reply v' => v' = v ∧ ∃ w, Sees w v ∧ w.state = reply where
  go _ := .inr ⟨_, _, rfl, rfl⟩
  after {w reply w'} hw ha := by
    obtain ⟨rfl, rfl⟩ := ha
    exact ⟨v, ⟨rfl, w', hw, rfl⟩, hw⟩

theorem answers_quiesce :
    bridgeView.Answers v .quiesce fun reply v' => reply = () ∧ v' = v.close where
  go _ := .inr ⟨(), _, .quiesce quiesceInner_on⟩
  after {w reply w'} hw ha := by
    cases ha with
    | quiesce hon =>
      have hsound := hw.sound.step (.quiesce hon) ⟨trivial, trivial, trivial⟩ nofun
      obtain rfl := (Prod.mk.inj hon).2
      refine ⟨_, ⟨rfl, rfl⟩, Sees.setState hw hsound quiesced_recorded ?_ nofun
        (fun _ => quiesced_lifecycle) quiesced_closed.mp⟩
      show (quiesced w.state).nextSequence = _
      rw [quiesced_frame]

/-! ## Admission -/

section Admission

variable {id : String}

/-- No operation of the suite has this ID. -/
def Known.Fresh (v : Known) (id : String) : Prop :=
  ∀ k known, v.ops k = some known → known.operationId ≠ id

theorem Sees.admits (h : Sees w v) (hrunning : v.admission = .running) (hfresh : v.Fresh id)
    (hnext : v.nextSequence.toNat + 1 < 2 ^ 64) :
    (reserveAdmission id).on w.state = (.ok (mintIdentity id v.nextSequence),
      admitted w.state id (v.nextSequence + 1)) := by
  have hinactive : ¬w.state.active.contains id = true := by
    rw [ExtTreeMap.contains_iff_mem, ExtTreeMap.mem_iff_isSome_getElem?,
      Option.isSome_iff_exists]
    rintro ⟨k, hk⟩
    obtain ⟨t, ht, -, hid⟩ := h.sound.inv.index.active.mp hk
    obtain ⟨op, hop, rfl⟩ := Option.map_eq_some_iff.mp ht
    obtain ⟨known, hv, hshows⟩ := h.known_op hop
    exact hfresh k known hv (hshows.operationId.symm.trans hid)
  have hadd : checkedAdd v.nextSequence 1 = some (v.nextSequence + 1) := by
    rw [checkedAdd_eq_some, UInt64.toNat_add]
    exact Nat.mod_eq_of_lt hnext
  rw [reserveAdmission_on, if_neg (not_not_intro (h.running hrunning).1), if_neg hinactive,
    h.next, hadd]

theorem admitted_recorded {s : ReferenceSupervisorState} {id' : String} {next k : UInt64}
    {termClass : TerminalClass} (hne : id' ≠ id) (h : Recorded s id' k termClass) :
    Recorded (admitted s id next) id' k termClass := by
  refine h.congr fun r hr => ⟨r, ?_, rfl, rfl, rfl⟩
  simp [admitted, lookup_insert, hne, hr]

/-- A reservation is answered, one way or the other. -/
theorem reserve_goes (w : World) (id : String) :
    ∃ reply w', answer w (.reserveAdmission id) reply w' := by
  rcases hon : (reserveAdmission id).on w.state with ⟨e | identity, s⟩
  · exact ⟨_, _, .refuse hon⟩
  · exact ⟨_, _, .reserve hon⟩

theorem answers_reserve (hrunning : v.admission = .running) (hfresh : v.Fresh id)
    (hnext : v.nextSequence.toNat + 1 < 2 ^ 64) :
    bridgeView.Answers v (.reserveAdmission id) fun reply v' =>
      reply = .ok (mintIdentity id v.nextSequence) ∧ v' = v.admitted id .spawning where
  go {w} _ := .inr (reserve_goes w id)
  after {w reply w'} hw ha := by
    have hadmits := Sees.admits hw hrunning hfresh hnext
    cases ha with
    | refuse hon =>
      rw [hadmits] at hon
      cases (Prod.mk.inj hon).1
    | reserve hon =>
      have hsound := hw.sound.step (.reserve hon) ⟨trivial, trivial, trivial⟩ nofun
      rw [hadmits] at hon
      obtain ⟨hidentity, rfl⟩ := Prod.mk.inj hon
      obtain rfl := Except.ok.inj hidentity
      refine ⟨_, ⟨rfl, rfl⟩, ?_⟩
      constructor
      case sound => exact hsound
      case op =>
        intro k known hv
        rcases update_eq_some.mp hv with ⟨rfl, rfl⟩ | ⟨hne, hv⟩
        · exact ⟨_, Function.update_self .., rfl, rfl, rfl, rfl, nofun⟩
        · obtain ⟨op, hk, hshows⟩ := hw.op hv
          exact ⟨op, update_eq_some.mpr (.inr ⟨hne, hk⟩),
            hshows.congr (admitted_recorded (hfresh k known hv))⟩
      case noOp =>
        intro k hv
        by_cases hk : k = v.nextSequence
        · subst hk
          simp [Known.admitted] at hv
        · simp only [Known.admitted, Function.update_of_ne hk] at hv
          exact (Function.update_of_ne hk ..).trans (hw.noOp hv)
      case distinct =>
        intro k k' known known' hv hv' hid
        rcases update_eq_some.mp hv with ⟨rfl, rfl⟩ | ⟨-, hv⟩
        · rcases update_eq_some.mp hv' with ⟨rfl, -⟩ | ⟨-, hv'⟩
          · rfl
          · exact absurd hid.symm (hfresh k' known' hv')
        · rcases update_eq_some.mp hv' with ⟨rfl, rfl⟩ | ⟨-, hv'⟩
          · exact absurd hid (hfresh k known hv)
          · exact hw.distinct hv hv' hid
      case task => exact hw.task
      case noTask => exact hw.noTask
      case alone => exact hw.alone
      case next => rfl
      case running => exact fun _ => hw.running hrunning
      case closed => exact fun hc => absurd (hrunning.symm.trans hc) nofun
      case unclosed => exact hw.unclosed

theorem answers_refused (hc : v.admission = .closed) :
    bridgeView.Answers v (.reserveAdmission id) fun reply v' =>
      reply = .error (.err .admissionClosed) ∧ v' = v where
  go {w} _ := .inr (reserve_goes w id)
  after {w reply w'} hw ha := by
    have hrefuses : (reserveAdmission id).on w.state =
        (.error (.err .admissionClosed), w.state) := by
      rw [reserveAdmission_on, if_pos (hw.closed hc)]
    cases ha with
    | reserve hon =>
      rw [hrefuses] at hon
      cases (Prod.mk.inj hon).1
    | refuse hon =>
      rw [hrefuses] at hon
      obtain ⟨he, rfl⟩ := Prod.mk.inj hon
      obtain rfl := Except.error.inj he
      exact ⟨v, ⟨rfl, rfl⟩, hw⟩

variable {k : UInt64} {handle : OperationHandle}

theorem answers_spawn (hv : v.ops k = some ⟨id, .spawning, handle⟩) :
    bridgeView.Answers v (.spawn k) fun reply v' => reply = () ∧
      v' = v.setOp k ⟨id, .inserting, handle⟩ where
  go {w} hw := by
    obtain ⟨op, hk, hshows⟩ := Sees.op hw hv
    exact .inr ⟨(), _, .spawn hk hshows.call⟩
  after {w reply w'} hw ha := by
    cases ha with
    | @spawn _ op hk hcall =>
      have hshows := Sees.shows hw hv hk
      exact ⟨_, ⟨rfl, rfl⟩, Sees.setOp (s := w.state) hw hv
        (hw.sound.step (.spawn hk hcall) ⟨trivial, trivial, trivial⟩ nofun) rfl
        ⟨hshows.identity, rfl, rfl, hshows.handle, nofun⟩ (fun _ hrec => hrec) rfl rfl⟩

theorem answers_insertTask (hv : v.ops k = some ⟨id, .inserting, handle⟩) :
    bridgeView.Answers v (.insertTask k) fun reply v' => reply = () ∧
      v' = v.setOp k ⟨id, .ready, handle⟩ where
  go {w} hw := by
    obtain ⟨op, hk, hshows⟩ := Sees.op hw hv
    exact .inr ⟨(), _, .insertTask hk hshows.call rfl⟩
  after {w reply w'} hw ha := by
    cases ha with
    | @insertTask _ op _ hk hcall hon =>
      have hsound := hw.sound.step (.insertTask hk hcall hon) ⟨trivial, trivial, trivial⟩ nofun
      obtain rfl := (Prod.mk.inj hon).2
      have hshows := Sees.shows hw hv hk
      exact ⟨_, ⟨rfl, rfl⟩, Sees.setOp hw hv hsound rfl
        ⟨hshows.identity, rfl, hshows.worker, hshows.handle, nofun⟩ (fun _ hrec => hrec) rfl rfl⟩

theorem gives_reserve (hrunning : v.admission = .running) (hfresh : v.Fresh id)
    (hnext : v.nextSequence.toNat + 1 < 2 ^ 64) :
    bridgeView.Gives v (reserve id) (.ok v.nextSequence) (v.admitted id .ready) := by
  unfold reserve
  refine (Gives.request (answers_reserve hrunning hfresh hnext)).then ?_
  refine (Gives.request (answers_spawn (Function.update_self ..))).then ?_
  refine (Gives.request (answers_insertTask (Function.update_self ..))).then ?_
  have hv : ∀ stage stage', ((v.admitted id .spawning).setOp v.nextSequence ⟨id, stage, .new⟩).setOp
      v.nextSequence ⟨id, stage', .new⟩ = v.admitted id stage' := by
    intro stage stage'
    simp [Known.setOp, Known.admitted]
  rw [← hv .inserting .ready]
  exact .ret ⟨rfl, rfl⟩

theorem gives_refused (hc : v.admission = .closed) :
    bridgeView.Gives v (assertRefused id) () v := by
  unfold assertRefused
  have hreserve : bridgeView.Gives v (reserve id) (.error .admissionClosed) v :=
    (Gives.request (answers_refused hc)).then (.ret ⟨rfl, rfl⟩)
  exact hreserve.then (Gives.assert rfl)

end Admission

/-! ## Shutdowns -/

section Shutdowns

variable {t : Nat} {started : ReceiverEnd}

/-- A step of a witness that the suite has. -/
theorem Sees.witness (h : Sees w v) {known known' : KnownTask} {d d' : ShutdownTask}
    {e : WitnessEvent} (hv : v.tasks t = some known) (hd : w.shutdowns t = some d)
    (hs : d.Step e d') (hc : Careful w (.witness t e) (w.setShutdown t d'))
    (hover : known.Over → known'.Over) (hshows : known'.Shows d') :
    Sees (w.setShutdown t d') (v.setTask t known') :=
  h.setTask (s := w.state) hv (h.sound.step (.witness hd hs) hc nofun) hshows hover
    (fun hrec => hrec) rfl fun hl => hl

theorem Sees.close (h : Sees w v) (hl : w.state.lifecycle ≠ .running) : Sees w v.close where
  sound := h.sound
  op := h.op
  noOp := h.noOp
  distinct := h.distinct
  task := h.task
  noTask := h.noTask
  alone := h.alone
  next := h.next
  running := nofun
  closed _ := hl
  unclosed := h.unclosed

theorem answers_beginShutdown (hv : v.tasks t = none) (ht : t < taskBound)
    (hover : ∀ t' known, v.tasks t' = some known → known.Over) :
    bridgeView.Answers v (.beginShutdown t) fun reply v' => reply = () ∧ v' = v.begin t where
  go {w} hw := .inr ⟨(), _, .beginShutdown (Sees.noTask hw hv)⟩
  after {w reply w'} hw ha := by
    cases ha with
    | beginShutdown hd =>
      have hsound := hw.sound.step (.beginShutdown hd) ⟨trivial, trivial, trivial⟩
        (fun t' he => by obtain rfl := Event.beginShutdown.inj he; exact ht)
      refine ⟨_, ⟨rfl, rfl⟩, ?_⟩
      constructor
      case sound => exact hsound
      case op => exact hw.op
      case noOp => exact hw.noOp
      case distinct => exact hw.distinct
      case task =>
        intro t' known h
        rcases update_eq_some.mp h with ⟨rfl, rfl⟩ | ⟨hne, h⟩
        · exact ⟨_, Function.update_self .., .inl rfl, rfl, rfl⟩
        · obtain ⟨d, hd, hshows⟩ := hw.task h
          exact ⟨d, update_eq_some.mpr (.inr ⟨hne, hd⟩), hshows⟩
      case noTask =>
        intro t' h
        by_cases he : t' = t
        · subst he
          simp [Known.begin] at h
        · simp only [Known.begin, Function.update_of_ne he] at h
          exact (Function.update_of_ne he ..).trans (hw.noTask h)
      case alone =>
        intro t₁ t₂ known₁ known₂ h₁ h₂ ho₁ ho₂
        rcases update_eq_some.mp h₁ with ⟨rfl, -⟩ | ⟨-, h₁⟩
        · rcases update_eq_some.mp h₂ with ⟨rfl, -⟩ | ⟨-, h₂⟩
          · rfl
          · exact absurd (hover t₂ known₂ h₂) ho₂
        · exact absurd (hover t₁ known₁ h₁) ho₁
      case next => exact hw.next
      case running =>
        intro ha
        simp only [Known.begin] at ha
        split at ha
        · cases ha
        · rename_i hn
          exact absurd ha hn
      case closed =>
        intro ha
        simp only [Known.begin] at ha
        split at ha
        · cases ha
        · exact hw.closed ha
      case unclosed =>
        intro hnone
        have h := hnone t
        simp [Known.begin] at h

theorem answers_takeStarted (hv : v.tasks t = some ⟨.begun, .held⟩) :
    bridgeView.Answers v (.takeStarted t) fun reply v' => reply = .ok () ∧
      v' = v.setTask t ⟨.begun, .waiting⟩ where
  go {w} hw := by
    obtain ⟨d, hd, hshows⟩ := Sees.task hw hv
    exact .inr ⟨.ok (), _, .inl ⟨.witness hd (.waitStarted hshows.started), rfl⟩⟩
  after {w reply w'} hw ha := by
    rcases ha with ⟨hs, rfl⟩ | ⟨d, hd, hn, -⟩
    · cases hs with
      | @witness _ d _ _ hd hs =>
        have hshows := Sees.shows_task hw hv hd
        cases hs with
        | waitStarted =>
          exact ⟨_, ⟨rfl, rfl⟩, Sees.witness hw hv hd (.waitStarted ‹_›)
            ⟨trivial, trivial, trivial⟩ nofun ⟨hshows.pc, rfl, hshows.result⟩⟩
    · exact absurd (Sees.shows_task hw hv hd).started hn

/-- The task quiesces the supervisor before it says that it started. -/
theorem answers_receiveStarted (hv : v.tasks t = some ⟨.begun, .waiting⟩) :
    bridgeView.Answers v (.receiveStarted t) fun reply v' => reply = .ok () ∧
      v' = (v.setTask t ⟨.started, .gone⟩).close where
  go {w} hw := by
    obtain ⟨d, hd, hshows⟩ := Sees.task hw hv
    rcases hshows.pc with hpc | hpc
    · exact .inl ⟨_, _, rfl, .quiesceShutdown hd hpc quiesceInner_on⟩
    · exact .inr ⟨.ok (), _, .inl ⟨.witness hd (.started hshows.started hpc), rfl⟩⟩
  after {w reply w'} hw ha := by
    rcases ha with ⟨hs, rfl⟩ | ⟨⟨d, hd, hended⟩, -⟩
    · cases hs with
      | @witness _ d _ _ hd hs =>
        have hshows := Sees.shows_task hw hv hd
        cases hs with
        | started hwaiting hpc =>
          have hl := (hw.sound.inv.closing.task hd).quiesced (by rw [hpc]; nofun)
          refine ⟨_, ⟨rfl, rfl⟩, (Sees.witness hw hv hd (.started hwaiting hpc)
            ⟨trivial, trivial, trivial⟩ nofun ?_).close hl⟩
          exact ⟨.inl rfl, rfl, hshows.result⟩
    · rcases (Sees.shows_task hw hv hd).pc with he | he <;> simp [ShutdownPc.Ended, he] at hended

theorem gives_waitStarted (hv : v.tasks t = some ⟨.begun, .held⟩) :
    bridgeView.Gives v (waitStarted t) (.ok ()) (v.setTask t ⟨.started, .gone⟩).close := by
  unfold waitStarted
  refine (Gives.request (answers_takeStarted hv)).andThen ?_
  have h := Gives.request (answers_receiveStarted (v := v.setTask t ⟨.begun, .waiting⟩)
    (Function.update_self ..))
  have he : (v.setTask t ⟨.begun, .waiting⟩).setTask t ⟨.started, .gone⟩ =
      v.setTask t ⟨.started, .gone⟩ := by
    simp [Known.setTask]
  rwa [he] at h

/-- Some worker did not exit. -/
def Known.Busy (v : Known) : Prop :=
  ∃ k known, v.ops k = some known ∧ ∀ command, known.stage ≠ .exited command

theorem Sees.not_closed (h : Sees w v) (hb : v.Busy) : w.state.lifecycle ≠ .closed := by
  intro hc
  obtain ⟨k, known, hv, hn⟩ := hb
  obtain ⟨op, hk, hshows⟩ := h.op hv
  exact hshows.not_ended hn (.inl (h.sound.steady.joins.closed_exited h.sound.inv hc hk))

/-- A shutdown is pending while some worker did not exit. -/
theorem answers_tryComplete (hv : v.tasks t = some ⟨.started, started⟩) (hb : v.Busy) :
    bridgeView.Answers v (.tryComplete t) fun reply v' => reply = .ok none ∧ v' = v where
  go {w} hw := by
    obtain ⟨d, hd, hshows⟩ := Sees.task hw hv
    refine .inr ⟨.ok none, w, .inr ⟨d, hd, rfl, ?_⟩⟩
    rcases hshows.pc with hpc | ⟨todo, joined, hpc⟩ | ⟨outcome, hpc⟩ <;> simp [hpc]
  after {w reply w'} hw ha := by
    rcases ha with ⟨outcome, hs, rfl⟩ | ⟨d, hd, rfl, ha⟩
    · cases hs with
      | @witness _ d _ _ hd hs =>
        cases hs with
        | result _ hpc =>
          have hc := ((hw.sound.inv.closing.task hd).sent (by rw [hpc]; rfl)).1
          exact absurd hc (Sees.not_closed hw hb)
    · refine ⟨v, ⟨?_, rfl⟩, hw⟩
      rcases (Sees.shows_task hw hv hd).pc with hpc | ⟨todo, joined, hpc⟩ | ⟨outcome, hpc⟩ <;>
        simpa [hpc] using ha

theorem gives_assertPending (hv : v.tasks t = some ⟨.started, started⟩) (hb : v.Busy)
    (message : String) : bridgeView.Gives v (assertPending t message) () v := by
  unfold assertPending
  exact (Gives.request (answers_tryComplete hv hb)).expectOk (Gives.assert rfl)

/-- Every worker exited. -/
def Known.Quiet (v : Known) : Prop :=
  ∀ k known, v.ops k = some known → ∃ command, known.stage = .exited command

theorem Sees.exited (h : Sees w v) (hq : v.Quiet) :
    ∀ k op, w.ops k = some op → op.worker = .exited := by
  intro k op hk
  obtain ⟨known, hv, hshows⟩ := h.known_op hk
  obtain ⟨command, hstage⟩ := hq k known hv
  have hworker := hshows.worker
  rw [hstage] at hworker
  exact hworker

/-- Once every worker exited, a shutdown joins them and ends. -/
theorem answers_receiveResult (hv : v.tasks t = some ⟨.started, started⟩) (hq : v.Quiet) :
    bridgeView.Answers v (.receiveResult t) fun reply v' => ∃ outcome, reply = .ok outcome ∧
      v' = v.setTask t ⟨.returned outcome, started⟩ where
  go {w} hw := by
    obtain ⟨d, hd, hshows⟩ := Sees.task hw hv
    have hexited := Sees.exited hw hq
    rcases hshows.pc with hpc | ⟨todo, joined, hpc⟩ | ⟨outcome, hpc⟩
    · obtain ⟨e, w', hi, hs, -⟩ := hw.sound.steady.next_waiting hexited hd hpc
      exact .inl ⟨w', e, hi, hs⟩
    · obtain ⟨e, w', hi, hs, -⟩ := hw.sound.steady.next_join hexited hd hpc
      exact .inl ⟨w', e, hi, hs⟩
    · exact .inr ⟨.ok outcome, _, .inl ⟨outcome, .witness hd (.result outcome hpc hshows.result),
        rfl⟩⟩
  after {w reply w'} hw ha := by
    rcases ha with ⟨outcome, hs, rfl⟩ | ⟨d, hd, rfl, ha⟩
    · cases hs with
      | @witness _ d _ _ hd hs =>
        have hshows := Sees.shows_task hw hv hd
        cases hs with
        | result _ hpc hr =>
          exact ⟨_, ⟨outcome, rfl, rfl⟩, Sees.witness hw hv hd (.result outcome hpc hr)
            ⟨trivial, trivial, trivial⟩ nofun ⟨rfl, hshows.started, hshows.result⟩⟩
    · rcases (Sees.shows_task hw hv hd).pc with hpc | ⟨todo, joined, hpc⟩ | ⟨outcome, hpc⟩ <;>
        simp [hpc] at ha

/-- The outcome of a shutdown that returned is that of the state. -/
theorem Sees.returned (h : Sees w v) {outcome : ShutdownOutcome}
    (hv : v.tasks t = some ⟨.returned outcome, started⟩) :
    w.state.lifecycle = .closed ∧ outcome = outcomeOf w.state := by
  obtain ⟨d, hd, hshows⟩ := h.task hv
  have hpc : d.pc = .returned outcome := hshows.pc
  exact (h.sound.inv.closing.task hd).sent (by rw [hpc]; rfl)

end Shutdowns

end BridgeSuite
end Supervisor
end Testkit
end Platform
