import PlatformContracts.Testkit.AdapterInv
import PlatformContracts.Testkit.SupervisorInv

/-!
# Progress is bounded, and the newest values are kept

* `pushProgress_rtake`: a queue that drops its oldest value when it is full holds the newest ones.
* `progressOf identity es`: the values that an attempt of the adapter accepted in a run.
  `progress_newest`: what its snapshots show.
* `Supervisor.progressOf operationId es`: the values that the record of a public ID accepted since
  it was admitted. `Supervisor.progress_bounded_iff`: the same for the supervisor, whose capacity
  is not checked; `Supervisor.progress_panics`: a run with the capacity 0.
-/

namespace Platform
namespace Testkit

open Std

/-- A full queue drops its oldest value before it takes the next one: it holds the newest. -/
theorem pushProgress_rtake {capacity : Usize} (hc : 0 < capacity.toNat) (values : List UInt64)
    (sequence : UInt64) :
    pushProgress capacity (values.rtake capacity.toNat) sequence =
      (values ++ [sequence]).rtake capacity.toNat := by
  obtain ⟨m, hm⟩ := Nat.exists_eq_add_of_lt hc
  rw [Nat.zero_add] at hm
  rw [pushProgress, hm, List.rtake_concat_succ]
  congr 1
  unfold List.rtake
  rw [List.length_drop]
  split
  · rw [List.tail_drop]
    congr 1
    omega
  · congr 1
    omega

/-! ## The adapter -/

/-- The value that an event adds to the progress of the attempt. -/
def Event.progress? (identity : AttemptIdentity) (e : Event) : Option UInt64 :=
  match e.sec, e.reply with
  | .publishProgress lease sequence, .ok _ =>
    if lease.identity = identity then some sequence else none
  | _, _ => none

def progressOf (identity : AttemptIdentity) (es : List (Event × World)) : List UInt64 :=
  es.filterMap fun p => p.1.progress? identity

theorem progressOf_snoc (identity : AttemptIdentity) (es : List (Event × World)) (e : Event)
    (w : World) :
    progressOf identity (es ++ [(e, w)]) =
      progressOf identity es ++ (e.progress? identity).toList := by
  rw [progressOf, List.filterMap_append]
  cases h : e.progress? identity <;> simp [progressOf, h]

section Effect

variable {first : UInt64} {s s' : ReferenceState} {c : Section} {reply : Reply} {t : Nat}

theorem progress?_eq_some {identity : AttemptIdentity} {sequence : UInt64} :
    Event.progress? identity ⟨t, c, reply⟩ = some sequence ↔
      c = .publishProgress ⟨identity⟩ sequence ∧ ∃ a, reply = .ok a := by
  unfold Event.progress?
  constructor
  · intro h
    split at h
    · rename_i lease sequence' a hc hr
      rw [Option.ite_none_right_eq_some, Option.some_inj] at h
      obtain ⟨rfl, rfl⟩ := h
      exact ⟨hc, a, hr⟩
    · cases h
  · rintro ⟨rfl, a, rfl⟩
    simp

/-- A publication that is accepted is one on a record. -/
theorem Effect.progress_record (he : Effect s c reply s') {identity : AttemptIdentity}
    {sequence : UInt64} (h : Event.progress? identity ⟨t, c, reply⟩ = some sequence) :
    ∃ op : ReferenceOperation, s.attempts[identity.sequence]? = some op ∧ op.identity = identity ∧
      s' = s.setAttempt identity.sequence
        { op with progress := pushProgress s.progressCapacity op.progress sequence } := by
  obtain ⟨rfl, a, rfl⟩ := progress?_eq_some.mp h
  cases he with
  | moved hm hop hid hp =>
    simp only [Section.move?, Option.some_inj] at hm
    subst hm
    exact ⟨_, hop, hid, rfl⟩
  | cancelled hc => cases hc
  | cancelKept hc => cases hc

theorem Effect.capacity (he : Effect s c reply s') : s'.progressCapacity = s.progressCapacity := by
  cases he <;> rfl

/-- A section that is no accepted publication leaves the progress of a record. -/
theorem Effect.progress_kept (hi : Inv first s) (he : Effect s c reply s') {k : UInt64}
    {op op' : ReferenceOperation} (hk : s.attempts[k]? = some op)
    (hk' : s'.attempts[k]? = some op')
    (h : Event.progress? op.identity ⟨t, c, reply⟩ = none) : op'.progress = op.progress := by
  have write : ∀ {j : UInt64} {old new : ReferenceOperation}, s.attempts[j]? = some old →
      (s.attempts.insert j new)[k]? = some op' → (j = k → new.progress = old.progress) →
      op'.progress = op.progress := by
    intro j old new hj hins hp
    rw [lookup_insert] at hins
    split at hins
    · rename_i hkj
      subst hkj
      obtain rfl := Option.some.inj hins
      obtain rfl := Option.some.inj (hk.symm.trans hj)
      exact hp rfl
    · rw [hk] at hins
      rw [Option.some.inj hins]
  have same : s'.attempts = s.attempts → op'.progress = op.progress := by
    intro hs
    rw [hs, hk] at hk'
    rw [Option.some.inj hk']
  cases he with
  | admitted =>
    have hk'' : (s.attempts.insert s.nextSequence _)[k]? = some op' := hk'
    rw [lookup_insert, if_neg, hk] at hk''
    · rw [Option.some.inj hk'']
    · rintro rfl
      rw [hi.fresh] at hk
      cases hk
  | @moved c m old hm hop hid hp =>
    refine write hop hk' fun hj => ?_
    subst hj
    obtain rfl := Option.some.inj (hop.symm.trans hk)
    cases c <;> simp only [Section.move?, Option.some.injEq, reduceCtorEq] at hm <;> subst hm
    case publishProgress lease sequence =>
      have hsome : Event.progress? old.identity
          ⟨t, .publishProgress lease sequence, .ok .unit⟩ = some sequence := if_pos hid.symm
      rw [hsome] at h
      cases h
    all_goals rfl
  | cancelled _ hop => exact write hop hk' fun _ => rfl
  | released hop => exact write hop hk' fun _ => rfl
  | quiesced =>
    rw [closeAdmission_lookup hi, hk] at hk'
    obtain rfl := Option.some.inj hk'
    dsimp only
    unfold quiesceOperation
    split
    · rfl
    · split <;> rfl
  | _ => exact same rfl

end Effect

section Run

variable {config : TestConfig} {w₀ w : World} {es : List (Event × World)}

/-- Each record shows the newest values that it accepted; an attempt without a record accepted
none. -/
structure Newest (capacity : Usize) (es : List (Event × World)) (s : ReferenceState) : Prop where
  bound : s.progressCapacity = capacity
  record : ∀ {k : UInt64} {op : ReferenceOperation}, s.attempts[k]? = some op →
    op.progress = (progressOf op.identity es).rtake capacity.toNat
  known : ∀ {identity : AttemptIdentity}, progressOf identity es ≠ [] →
    ∃ op : ReferenceOperation, s.attempts[identity.sequence]? = some op ∧ op.identity = identity

section Step

variable {first : UInt64} {capacity : Usize} {w' : World} {e : Event}

/-- The record of an attempt that was just admitted shows nothing. -/
theorem Newest.admitted (hn : Newest capacity es w.state) (hi : Inv first w.state)
    (he : Effect w.state e.sec e.reply w'.state) {k : UInt64} {op' : ReferenceOperation}
    (hk : w.state.attempts[k]? = none) (hk' : w'.state.attempts[k]? = some op') :
    op'.progress = (progressOf op'.identity (es ++ [(e, w')])).rtake capacity.toNat := by
  obtain ⟨id, hc', -, rfl, -⟩ := he.record_new hi hk hk'
  have hnone : e.progress? (newOperation (mintIdentity id k)).identity = none := by
    rw [Event.progress?, hc']
  have hold : progressOf (newOperation (mintIdentity id k)).identity es = [] := by
    by_contra hne
    obtain ⟨op, hop, -⟩ := hn.known hne
    exact absurd (hk.symm.trans hop) (by simp)
  rw [progressOf_snoc, hnone, hold]
  simp [newOperation, List.rtake]

/-- A record takes the value of an accepted publication, and keeps its values otherwise. -/
theorem Newest.written (hn : Newest capacity es w.state) (hi : Inv first w.state)
    (hc : 0 < capacity.toNat) (he : Effect w.state e.sec e.reply w'.state) {k : UInt64}
    {op op' : ReferenceOperation} (hk : w.state.attempts[k]? = some op)
    (hk' : w'.state.attempts[k]? = some op') :
    op'.progress = (progressOf op'.identity (es ++ [(e, w')])).rtake capacity.toNat := by
  have hid : op'.identity = op.identity := by
    obtain ⟨op₁, hop₁, hstep⟩ := he.record hi hk
    obtain rfl := Option.some.inj (hop₁.symm.trans hk')
    rcases hstep with rfl | hstep
    · rfl
    · exact hstep.identity
  rw [progressOf_snoc, hid]
  cases hp : e.progress? op.identity with
  | none =>
    rw [he.progress_kept (t := e.thread) hi hk hk' hp, hn.record hk, Option.toList_none,
      List.append_nil]
  | some sequence =>
    obtain ⟨op₂, hop₂, -, hs'⟩ := he.progress_record (t := e.thread) hp
    rw [(hi.attempt hk).sequence] at hop₂ hs'
    obtain rfl := Option.some.inj (hk.symm.trans hop₂)
    rw [hs'] at hk'
    have hl : (w.state.attempts.insert k _)[k]? = some op' := hk'
    rw [lookup_insert, if_pos rfl] at hl
    rw [← Option.some.inj hl, hn.bound]
    show pushProgress _ op.progress sequence = _
    rw [hn.record hk, pushProgress_rtake hc]
    rfl

theorem Newest.known_step (hn : Newest capacity es w.state) (hi : Inv first w.state)
    (he : Effect w.state e.sec e.reply w'.state) {identity : AttemptIdentity}
    (hne : progressOf identity (es ++ [(e, w')]) ≠ []) :
    ∃ op : ReferenceOperation, w'.state.attempts[identity.sequence]? = some op ∧
      op.identity = identity := by
  rw [progressOf_snoc] at hne
  cases hp : e.progress? identity with
  | none =>
    rw [hp, Option.toList_none, List.append_nil] at hne
    obtain ⟨op, hop, hid⟩ := hn.known hne
    obtain ⟨op', hop', hstep⟩ := he.record hi hop
    refine ⟨op', hop', ?_⟩
    rcases hstep with rfl | hstep
    · exact hid
    · exact hstep.identity.trans hid
  | some sequence =>
    obtain ⟨op, hop, hid, hs'⟩ := he.progress_record (t := e.thread) hp
    refine ⟨{ op with
      progress := pushProgress w.state.progressCapacity op.progress sequence }, ?_, hid⟩
    rw [hs']
    exact lookup_insert.trans (if_pos rfl)

end Step

theorem newest_run (h₀ : (adapterSys config).init w₀) (h : (adapterSys config).Run w₀ es w) :
    Newest config.progressCapacity es w.state := by
  have hI := adapterSys_inductive config
  have hc : 0 < config.progressCapacity.toNat := by
    have h := h₀.1
    unfold deterministic at h
    split at h
    · rename_i hpos; exact UInt64.lt_iff_toNat_lt.mp hpos
    · cases h
  induction h with
  | nil =>
    rw [deterministic_eq_ok h₀.1]
    exact ⟨rfl, by simp, fun h => (h rfl).elim⟩
  | @snoc es w w' e h hs ih =>
    have hi := hI.run h (hI.init h₀)
    have he := hi.effect hs
    refine ⟨he.capacity.trans ih.bound, fun {k op'} hk' => ?_, ih.known_step hi.books he⟩
    cases hk : w.state.attempts[k]? with
    | none => exact ih.admitted hi.books he hk hk'
    | some op => exact ih.written hi.books hc he hk hk'

/-- A list cut at its own length is the whole list. -/
theorem rtake_min (values : List UInt64) (n : Nat) :
    values.rtake (min n values.length) = values.rtake n := by
  rcases Nat.le_total n values.length with h | h
  · rw [Nat.min_eq_left h]
  · rw [Nat.min_eq_right h, List.rtake, List.rtake, Nat.sub_self, Nat.sub_eq_zero_of_le h]

/-- In every run the snapshots of an attempt show the newest values that it accepted, as many as
the capacity holds. -/
theorem progress_newest (h₀ : (adapterSys config).init w₀) (h : (adapterSys config).Run w₀ es w) :
    (∀ (lease : ReferenceLease) (sn : OperationSnapshot), leaseSnapshot w.state lease = some sn →
      sn.identity = lease.identity ∧
      sn.progressProjection = (progressOf lease.identity es).rtake
        (min config.progressCapacity.toNat (progressOf lease.identity es).length)) ∧
    ∀ (id : String) (sn : OperationSnapshot), currentSnapshot w.state id = some sn →
      sn.identity.operationId = id ∧
      sn.progressProjection = (progressOf sn.identity es).rtake
        (min config.progressCapacity.toNat (progressOf sn.identity es).length) := by
  have hI := adapterSys_inductive config
  have hi := (hI.run h (hI.init h₀)).books
  have hn := newest_run h₀ h
  refine ⟨fun lease sn hsn => ?_, fun id sn hsn => ?_⟩
  · obtain ⟨op, hop, rfl⟩ := Option.map_eq_some_iff.mp hsn
    obtain ⟨hk, hid⟩ := Option.filter_eq_some_iff.mp hop
    have hid : op.identity = lease.identity := of_decide_eq_true hid
    refine ⟨hid, ?_⟩
    rw [rtake_min, ← hid]
    exact hn.record hk
  · unfold currentSnapshot at hsn
    split at hsn
    · cases hsn
    · rename_i k hk
      obtain ⟨op, hop, rfl⟩ := Option.map_eq_some_iff.mp hsn
      obtain ⟨op', hop', hid, -⟩ := hi.index.mp hk
      obtain rfl := Option.some.inj (hop.symm.trans hop')
      refine ⟨hid, ?_⟩
      rw [rtake_min]
      exact hn.record hop

/-- Two running attempts publish in turn, the first one more often than the projection holds. -/
def crowdedCalls : List Section :=
  [Section.reserve "a", .reserve "b", .queue (leaseOf "a" 1), .start (leaseOf "a" 1),
    .queue (leaseOf "b" 2), .start (leaseOf "b" 2)] ++
    [1, 2, 3, 4, 5, 6].flatMap fun sequence =>
      [Section.publishProgress (leaseOf "a" 1) sequence,
        .publishProgress (leaseOf "b" sequence) (sequence + 10)]

def crowdedWorld : World where
  state := stateAfter startWorld.state crowdedCalls
  pc _ := .idle

theorem crowdedWorld_run :
    (adapterSys {}).Run startWorld (callEvents startWorld crowdedCalls) crowdedWorld :=
  run_callEvents {} (by simp [crowdedCalls]) fun _ => rfl

theorem progress_newest_crowded :
    (∃ sn, leaseSnapshot crowdedWorld.state (leaseOf "a" 1) = some sn ∧
      sn.progressProjection = [3, 4, 5, 6]) ∧
    ∃ sn, currentSnapshot crowdedWorld.state "b" = some sn ∧ sn.progressProjection = [12] := by
  obtain ⟨hlease, hcurrent⟩ := progress_newest startWorld_init crowdedWorld_run
  have ha : (leaseSnapshot crowdedWorld.state (leaseOf "a" 1)).isSome := by decide +kernel
  have hb : (currentSnapshot crowdedWorld.state "b").map (·.identity) =
      some (mintIdentity "b" 2) := by decide +kernel
  obtain ⟨a, ha⟩ := Option.isSome_iff_exists.mp ha
  obtain ⟨b, hb, hid⟩ := Option.map_eq_some_iff.mp hb
  refine ⟨⟨a, ha, (hlease _ a ha).2.trans ?_⟩, b, hb, (hcurrent _ b hb).2.trans ?_⟩
  · decide +kernel
  · rw [hid]
    decide +kernel

end Run

/-! ## The supervisor -/

namespace Supervisor

/-- The values that the record of a public ID accepted, after one more event: an admission makes
a new record. -/
def progressStep (operationId : String) (accepted : List UInt64) : Event × World → List UInt64
  | (.reserve id (.ok _), _) => if id = operationId then [] else accepted
  | (.publishProgress k sequence (.ok _), w) =>
    match w.ops k with
    | some op => if op.identity.operationId = operationId then accepted ++ [sequence] else accepted
    | none => accepted
  | _ => accepted

def progressOf (operationId : String) (es : List (Event × World)) : List UInt64 :=
  es.foldl (progressStep operationId) []

theorem progressOf_snoc (operationId : String) (es : List (Event × World)) (p : Event × World) :
    progressOf operationId (es ++ [p]) = progressStep operationId (progressOf operationId es) p :=
  List.foldl_concat ..

/-- Each record shows the newest values that it accepted. -/
structure Newest (capacity : Usize) (s : ReferenceSupervisorState)
    (accepted : String → List UInt64) : Prop where
  bound : s.progressCapacity = capacity
  record : ∀ (id : String) (r : OperationSnapshot), s.records[id]? = some r →
    r.progressProjection = (accepted id).rtake s.progressCapacity.toNat

section Newest

variable {capacity : Usize} {w w' : World} {s : ReferenceSupervisorState}
  {accepted : String → List UInt64}

/-- A record that takes a publication has room: the capacity is not 0. -/
theorem Publishes.pos {r : OperationSnapshot} (h : Publishes s r) {values : List UInt64}
    (hr : r.progressProjection = values.rtake s.progressCapacity.toNat) :
    0 < s.progressCapacity.toNat := by
  by_contra hz
  have hz : s.progressCapacity.toNat = 0 := by omega
  have hnil : r.progressProjection = [] := by rw [hr, hz, List.rtake_zero]
  exact h.2 (by rw [hnil, hz]; rfl) hnil

theorem Newest.congr {s' : ReferenceSupervisorState} (hn : Newest capacity s accepted)
    (hr : s'.records = s.records) (hc : s'.progressCapacity = s.progressCapacity) :
    Newest capacity s' accepted := by
  refine ⟨hc.trans hn.bound, fun id r h => ?_⟩
  rw [hr] at h
  rw [hn.record id r h, hc]

/-- One record is written, and the list of its ID alone. -/
theorem Newest.insert {s' : ReferenceSupervisorState} {accepted' : String → List UInt64}
    {id : String} {r : OperationSnapshot} (hn : Newest capacity s accepted)
    (hs : s'.records = s.records.insert id r) (hc : s'.progressCapacity = s.progressCapacity)
    (hr : r.progressProjection = (accepted' id).rtake s.progressCapacity.toNat)
    (ha : ∀ id', id' ≠ id → accepted' id' = accepted id') : Newest capacity s' accepted' := by
  refine ⟨hc.trans hn.bound, fun id' r' h => ?_⟩
  rw [hs, lookup_insert] at h
  rw [hc]
  split at h
  · rename_i he
    subst he
    rw [← Option.some.inj h, hr]
  · rename_i he
    rw [ha id' he, hn.record id' r' h]

theorem Newest.quiesced (hn : Newest capacity s accepted) :
    Newest capacity (quiesced s) accepted := by
  refine ⟨by rw [quiesced_frame]; exact hn.bound, fun id r h => ?_⟩
  rw [quiesced_record] at h
  rw [quiesced_frame]
  split at h
  · obtain ⟨r', hr', rfl⟩ := Option.map_eq_some_iff.mp h
    exact hn.record id r' hr'
  · exact hn.record id r h

theorem Newest.publish (hn : Newest capacity w.state accepted) {k sequence : UInt64}
    {op : Operation} {reply : Except (Stop AdapterError) Unit} (hk : w.ops k = some op)
    (hon : (publishProgress op.identity.operationId sequence).on w.state = (reply, s)) :
    Newest capacity s fun id => progressStep id (accepted id)
      (.publishProgress k sequence reply, { w with state := s }) := by
  rcases publishProgress_cases hon with ⟨r, hr, hp, rfl, rfl⟩ | ⟨-, rfl, hne⟩
  · refine hn.insert rfl rfl ?_ fun id hid => ?_
    · show pushProgress _ r.progressProjection sequence = _
      rw [progressStep, hk, hn.record _ r hr, pushProgress_rtake (hp.pos (hn.record _ r hr))]
      simp
    · rw [progressStep, hk]
      exact if_neg (Ne.symm hid)
  · cases reply with
    | ok u => exact absurd rfl hne
    | error e => exact hn

theorem Newest.step (hi : Inv w) (hn : Newest capacity w.state accepted) {e : Event}
    (hs : Step w e w') :
    Newest capacity w'.state fun id => progressStep id (accepted id) (e, w') := by
  cases hs with
  | reserve hon =>
    obtain ⟨next, -, -, -, rfl, rfl⟩ := reserveAdmission_ok hon
    refine hn.insert rfl rfl ?_ fun id hid => ?_
    · simp [progressStep, newRecord, List.rtake]
    · rw [progressStep, if_neg (Ne.symm hid)]
  | refuse hon =>
    obtain rfl := reserveAdmission_error hon
    exact hn
  | insertTask _ _ hon =>
    obtain rfl := (Prod.mk.inj hon).2
    exact hn.congr rfl rfl
  | workerRelease hk hw hon =>
    obtain ⟨r, hr, -, -⟩ := hi.record hk (by rw [hw]; rfl)
    rw [workerRelease_of_record hr] at hon
    obtain rfl := (Prod.mk.inj hon).2
    exact hn.insert rfl rfl (hn.record _ r hr) fun _ _ => rfl
  | workerPanic hk hw hon =>
    obtain ⟨r, hr, -, -⟩ := hi.record hk (by rw [hw]; rfl)
    rw [workerRelease_of_record hr] at hon
    exact absurd (Prod.mk.inj hon).1 (by simp)
  | publishProgress hk _ hon => exact hn.publish hk hon
  | quiesce hon =>
    obtain rfl := (Prod.mk.inj hon).2
    exact hn.quiesced
  | quiesceShutdown _ _ hon =>
    obtain rfl := (Prod.mk.inj hon).2
    exact hn.quiesced
  | takeTasks _ _ _ hon =>
    obtain ⟨-, rfl⟩ := takeTasks_ok hon
    exact hn.congr rfl rfl
  | takeTasksFailed _ _ _ hon =>
    obtain ⟨-, ids, -, rfl⟩ := takeTasks_error hon
    exact hn.congr rfl rfl
  | closeShutdown _ _ hon =>
    obtain rfl := (Prod.mk.inj hon).2
    exact hn.congr rfl rfl
  | _ => exact hn.congr rfl rfl

theorem newest_run {es : List (Event × World)} {w₀ : World}
    (h₀ : (supervisorSys capacity).init w₀) (h : (supervisorSys capacity).Run w₀ es w) :
    Newest capacity w.state fun id => progressOf id es := by
  have hI := inv_inductive capacity
  induction h with
  | nil =>
    obtain rfl : w₀ = startWorld capacity := h₀
    exact ⟨rfl, fun id r hr => by simp [startWorld, deterministic] at hr⟩
  | snoc h hs ih =>
    have hstep := ih.step (hI.run h (hI.init h₀)) hs
    simpa only [progressOf_snoc] using hstep

end Newest

/-! ### Panics -/

/-- No publication panics. -/
def Calm (_ : World) (e : Event) (_ : World) : Prop :=
  match e with
  | .publishProgress _ _ reply => ∀ message, reply ≠ .error (.panic message)
  | _ => True

/-- A publication on a running record is one with a capacity that is not 0. -/
def Roomy (w : World) (e : Event) (_ : World) : Prop :=
  match e with
  | .publishProgress k _ _ => ∀ op r, w.ops k = some op →
      w.state.records[op.identity.operationId]? = some r → r.phase = .running →
      0 < w.state.progressCapacity.toNat
  | _ => True

section Panic

variable {capacity : Usize} {w w' : World} {s s' : ReferenceSupervisorState}

/-- A publication panics on a running record whose progress is full and empty. -/
theorem publishProgress_panic {operationId : String} {progress : UInt64}
    {reply : Except (Stop AdapterError) Unit}
    (h : (publishProgress operationId progress).on s = (reply, s')) :
    (∃ message, reply = .error (.panic message)) ↔
      ∃ r, s.records[operationId]? = some r ∧ r.phase = .running ∧ ¬Publishes s r := by
  unfold publishProgress at h
  rw [Exec.on_get_bind, Exec.on_ofResult_bind] at h
  cases hr : s.records[operationId]? with
  | none =>
    rw [hr] at h
    obtain ⟨rfl, rfl⟩ := Prod.mk.inj h
    simp
  | some r =>
    rw [hr] at h
    simp only [Exec.okOr, Exec.on_ensure_bind, Exec.on_assert_bind, Exec.on_modify] at h
    by_cases hp : r.phase = .running
    · rw [if_pos hp] at h
      by_cases hc : r.progressProjection.length = s.progressCapacity.toNat →
          r.progressProjection ≠ []
      · rw [if_pos hc] at h
        obtain ⟨rfl, rfl⟩ := Prod.mk.inj h
        have hpub : Publishes s r := ⟨hp, hc⟩
        simp [hpub]
      · rw [if_neg hc] at h
        obtain ⟨rfl, rfl⟩ := Prod.mk.inj h
        have hpub : ¬Publishes s r := fun hs => hc hs.2
        simp [hp, hpub]
    · rw [if_neg hp] at h
      obtain ⟨rfl, rfl⟩ := Prod.mk.inj h
      simp [hp]

theorem Newest.publishes_iff {accepted : String → List UInt64} (hn : Newest capacity s accepted)
    {id : String} {r : OperationSnapshot} (hr : s.records[id]? = some r)
    (hp : r.phase = .running) : Publishes s r ↔ 0 < s.progressCapacity.toNat := by
  constructor
  · intro h
    exact h.pos (hn.record id r hr)
  · intro hc
    refine ⟨hp, fun hlen hnil => ?_⟩
    rw [hnil, List.length_nil] at hlen
    omega

theorem shown_inductive (capacity : Usize) :
    (supervisorSys capacity).Inductive fun w =>
      Inv w ∧ ∃ accepted, Newest capacity w.state accepted where
  init h := ⟨(inv_inductive capacity).init h, _, newest_run h .nil⟩
  step h hs := ⟨(inv_inductive capacity).step h.1 hs, _, h.2.choose_spec.step h.1 hs⟩

theorem Newest.calm_iff {accepted : String → List UInt64} (hn : Newest capacity w.state accepted)
    {e : Event} (hs : Step w e w') : Calm w e w' ↔ Roomy w e w' := by
  cases hs with
  | @publishProgress k sequence op reply s hk _ hon =>
    have hpanic := publishProgress_panic hon
    constructor
    · intro hcalm op' r hk' hr hp
      obtain rfl := Option.some.inj (hk.symm.trans hk')
      by_contra hc
      have hfull : ¬Publishes w.state r := fun h => hc ((hn.publishes_iff hr hp).mp h)
      obtain ⟨message, hm⟩ := hpanic.mpr ⟨r, hr, hp, hfull⟩
      exact hcalm message hm
    · intro hroom message hm
      obtain ⟨r, hr, hp, hfull⟩ := hpanic.mp ⟨message, hm⟩
      exact hfull ((hn.publishes_iff hr hp).mpr (hroom op r hk hr hp))
  | _ => exact Iff.rfl

/-- In every run: no publication panics and the records show the newest values that they
accepted, within the capacity, exactly when no running record meets the capacity 0. -/
theorem progress_bounded_iff {es : List (Event × World)} {w₀ : World}
    (h₀ : (supervisorSys capacity).init w₀) (h : (supervisorSys capacity).Run w₀ es w) :
    (Sys.Along Calm w₀ es ∧ ∀ id r, snapshot id w.state = some r →
      r.progressProjection =
        (progressOf id es).rtake (min capacity.toNat (progressOf id es).length) ∧
      r.progressProjection.length ≤ w.state.progressCapacity.toNat) ↔
    Sys.Along Roomy w₀ es := by
  have hI := shown_inductive capacity
  have halong : Sys.Along Calm w₀ es ↔ Sys.Along Roomy w₀ es :=
    h.along_iff hI (fun hi hs => hi.2.choose_spec.calm_iff hs) (hI.init h₀)
  refine (and_iff_left ?_).trans halong
  intro id r hr
  have hn := newest_run h₀ h
  have hr := hn.record id r hr
  rw [hn.bound] at hr ⊢
  refine ⟨by rw [rtake_min, hr], ?_⟩
  rw [hr, List.rtake, List.length_drop]
  omega

/-- With the capacity 0 the first publication on a running operation panics. -/
def panicEvents : List Event :=
  reserveEvents "a" 1 ++
    [.publishProgress 1 7 (.error (.panic "removal index (is 0) should be < len (is 0)"))]

theorem progress_panics : ∃ es w, (supervisorSys 0).Run (startWorld 0) es w ∧
    es.map (·.1) = panicEvents ∧ ¬Sys.Along Calm (startWorld 0) es := by
  have hexec : (panicEvents.foldlM World.exec (startWorld 0)).isSome = true := by
    decide +kernel
  obtain ⟨es, w, hr, he⟩ := Sys.Run.exec_isSome (S := supervisorSys 0) World.exec_step hexec
  refine ⟨es, w, hr, he, fun hcalm => ?_⟩
  obtain ⟨es₁, es₂, rfl, -, hlast⟩ := List.map_eq_append_iff.mp he
  obtain ⟨p, l, rfl, hp, hnil⟩ := List.map_eq_cons_iff.mp hlast
  obtain rfl := List.map_eq_nil_iff.mp hnil
  obtain ⟨w₁, hr₁, -, -⟩ := Sys.Run.of_snoc hr
  have hlast := (hr₁.along_snoc.mp hcalm).2
  rw [hp] at hlast
  exact hlast _ rfl

/-- With the capacity 2 a third publication drops the first value. -/
def roomyEvents : List Event :=
  reserveEvents "a" 1 ++ [1, 2, 3].map fun sequence => .publishProgress 1 sequence (.ok ())

theorem progress_bounded_roomy : ∃ es w, (supervisorSys 2).Run (startWorld 2) es w ∧
    es.map (·.1) = roomyEvents ∧
    ((Sys.Along Calm (startWorld 2) es ∧ ∀ id r, snapshot id w.state = some r →
      r.progressProjection = (progressOf id es).rtake (min 2 (progressOf id es).length) ∧
      r.progressProjection.length ≤ w.state.progressCapacity.toNat) ↔
    Sys.Along Roomy (startWorld 2) es) := by
  have hexec : (roomyEvents.foldlM World.exec (startWorld 2)).isSome = true := by
    decide +kernel
  obtain ⟨es, w, hr, he⟩ := Sys.Run.exec_isSome (S := supervisorSys 2) World.exec_step hexec
  exact ⟨es, w, hr, he, progress_bounded_iff rfl hr⟩

end Panic

end Supervisor

end Testkit
end Platform
