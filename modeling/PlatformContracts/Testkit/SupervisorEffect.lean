import PlatformContracts.Testkit.SupervisorSys

/-!
# What a section of the supervisor does

The state after each section, one lemma for each.

* `admitted`, `released`, `published`, `taken`, `closed`: the states after the sections.
* `reserveAdmission_ok`, `reserveAdmission_error`, `workerRelease_of_record`,
  `publishProgress_cases`, `quiesceInner_on`, `takeTasks_ok`, `takeTasks_error`,
  `closeShutdown_on`: what the sections answer.
-/

namespace Platform
namespace Testkit
namespace Supervisor

open Std

theorem workerId_inj {k k' : UInt64} : workerId k = workerId k' ↔ k = k' := by
  unfold workerId
  rw [String.append_right_inj, ← UInt64.toNat_inj]
  exact Nat.repr_inj

variable {s s' : ReferenceSupervisorState} {operationId : String}

/-! ## `reserve` -/

/-- The state after an admission. -/
def admitted (s : ReferenceSupervisorState) (operationId : String) (next : UInt64) :
    ReferenceSupervisorState :=
  { s with
    nextSequence := next
    active := s.active.insert operationId s.nextSequence
    records := s.records.insert operationId (newRecord (mintIdentity operationId s.nextSequence))
    expectedWorkerIds := s.expectedWorkerIds ++ [workerId s.nextSequence] }

theorem reserveAdmission_on : (reserveAdmission operationId).on s =
    if s.lifecycle ≠ .running then (.error (.err .admissionClosed), s)
    else if s.active.contains operationId then (.error (.err .duplicateOperation), s)
    else match checkedAdd s.nextSequence 1 with
      | some next => (.ok (mintIdentity operationId s.nextSequence), admitted s operationId next)
      | none => (.error (.err .sequenceExhausted), s) := by
  unfold reserveAdmission
  rw [Exec.on_get_bind, Exec.on_ensure_bind]
  by_cases hl : s.lifecycle = .running
  · rw [if_pos hl, if_neg (not_not_intro hl), Exec.on_ensure_bind]
    by_cases ha : s.active.contains operationId = true
    · rw [if_neg (not_not_intro ha), if_pos ha]
    · rw [if_pos ha, if_neg ha, Exec.on_ofResult_bind]
      cases checkedAdd s.nextSequence 1 <;> rfl
  · rw [if_neg hl, if_pos hl]

theorem reserveAdmission_ok {identity : AttemptIdentity}
    (h : (reserveAdmission operationId).on s = (.ok identity, s')) :
    ∃ next, s.lifecycle = .running ∧ s.active[operationId]? = none ∧
      next.toNat = s.nextSequence.toNat + 1 ∧ identity = mintIdentity operationId s.nextSequence ∧
      s' = admitted s operationId next := by
  rw [reserveAdmission_on] at h
  split at h
  · simp at h
  split at h
  · simp at h
  rename_i hl ha
  rw [ExtTreeMap.contains_iff_mem, ExtTreeMap.mem_iff_isSome_getElem?,
    Option.not_isSome_iff_eq_none] at ha
  cases hn : checkedAdd s.nextSequence 1 with
  | none => simp [hn] at h
  | some next =>
    rw [hn] at h
    obtain ⟨⟨⟩, rfl⟩ := Prod.mk.inj h
    exact ⟨next, not_not.mp hl, ha, checkedAdd_eq_some.mp hn, rfl, rfl⟩

theorem reserveAdmission_error {e : Stop AdapterError}
    (h : (reserveAdmission operationId).on s = (.error e, s')) : s' = s := by
  rw [reserveAdmission_on] at h
  split at h
  · exact (Prod.mk.inj h).2.symm
  split at h
  · exact (Prod.mk.inj h).2.symm
  cases hn : checkedAdd s.nextSequence 1 with
  | none => rw [hn] at h; exact (Prod.mk.inj h).2.symm
  | some next => simp [hn] at h

/-! ## The worker -/

/-- The state after the section of the worker of `operationId`, whose record is `snapshot`. -/
def released (s : ReferenceSupervisorState) (operationId : String) (termClass : TerminalClass)
    (snapshot : OperationSnapshot) : ReferenceSupervisorState :=
  { s with
    records := s.records.insert operationId (releaseRecord termClass snapshot)
    active := s.active.erase operationId }

theorem workerRelease_of_record {snapshot : OperationSnapshot} {termClass : TerminalClass}
    (h : s.records[operationId]? = some snapshot) :
    (workerRelease operationId termClass).on s =
      (.ok (), released s operationId termClass snapshot) := by
  unfold workerRelease
  rw [Exec.on_get_bind, Exec.on_expect_bind, h]
  rfl

/-! ## `publish_progress` -/

/-- The record with one more progress value. -/
def pushRecord (capacity : Usize) (progress : UInt64) (snapshot : OperationSnapshot) :
    OperationSnapshot :=
  { snapshot with progressProjection := pushProgress capacity snapshot.progressProjection progress }

/-- The state after a publication on `operationId`, whose record was `snapshot`. -/
def published (s : ReferenceSupervisorState) (operationId : String) (progress : UInt64)
    (snapshot : OperationSnapshot) : ReferenceSupervisorState :=
  { s with
    records := s.records.insert operationId (pushRecord s.progressCapacity progress snapshot) }

/-- The record takes a publication: it is running, and an empty progress is not full. -/
def Publishes (s : ReferenceSupervisorState) (snapshot : OperationSnapshot) : Prop :=
  snapshot.phase = .running ∧
    (snapshot.progressProjection.length = s.progressCapacity.toNat →
      snapshot.progressProjection ≠ [])

/-- A publication writes the record of the public ID, or changes nothing and fails. -/
theorem publishProgress_cases {progress : UInt64} {reply : Except (Stop AdapterError) Unit}
    (h : (publishProgress operationId progress).on s = (reply, s')) :
    (∃ snapshot, s.records[operationId]? = some snapshot ∧ Publishes s snapshot ∧
      reply = .ok () ∧ s' = published s operationId progress snapshot) ∨
    ((∀ snapshot, s.records[operationId]? = some snapshot → ¬Publishes s snapshot) ∧
      s' = s ∧ reply ≠ .ok ()) := by
  unfold publishProgress at h
  rw [Exec.on_get_bind, Exec.on_ofResult_bind] at h
  cases hr : s.records[operationId]? with
  | none =>
    rw [hr] at h
    obtain ⟨rfl, rfl⟩ := Prod.mk.inj h
    exact .inr ⟨by simp, rfl, by simp⟩
  | some snapshot =>
    rw [hr] at h
    simp only [Exec.okOr, Exec.on_ensure_bind, Exec.on_assert_bind, Exec.on_modify] at h
    by_cases hp : snapshot.phase = .running
    · rw [if_pos hp] at h
      by_cases hc : snapshot.progressProjection.length = s.progressCapacity.toNat →
          snapshot.progressProjection ≠ []
      · rw [if_pos hc] at h
        obtain ⟨rfl, rfl⟩ := Prod.mk.inj h
        exact .inl ⟨snapshot, rfl, ⟨hp, hc⟩, rfl, rfl⟩
      · rw [if_neg hc] at h
        obtain ⟨rfl, rfl⟩ := Prod.mk.inj h
        refine .inr ⟨?_, rfl, by simp⟩
        intro snapshot' he hs
        obtain rfl := Option.some.inj he
        exact hc hs.2
    · rw [if_neg hp] at h
      obtain ⟨rfl, rfl⟩ := Prod.mk.inj h
      refine .inr ⟨?_, rfl, by simp⟩
      intro snapshot' he hs
      obtain rfl := Option.some.inj he
      exact hp hs.1

/-- The queue of a capacity of 0 has no oldest value to drop. -/
theorem publishProgress_full {progress : UInt64} {snapshot : OperationSnapshot}
    (hr : s.records[operationId]? = some snapshot) (hp : snapshot.phase = .running)
    (hfull : ¬Publishes s snapshot) : (publishProgress operationId progress).on s =
      (.error (.panic "removal index (is 0) should be < len (is 0)"), s) := by
  have hassert : ¬(snapshot.progressProjection.length = s.progressCapacity.toNat →
      snapshot.progressProjection ≠ []) := fun h => hfull ⟨hp, h⟩
  unfold publishProgress
  rw [Exec.on_get_bind, Exec.on_ofResult_bind, hr]
  simp only [Exec.okOr, Exec.on_ensure_bind, Exec.on_assert_bind]
  rw [if_pos hp, if_neg hassert]

/-! ## `quiesce_inner` -/

/-- The state after `quiesce_inner`. -/
def quiesced (s : ReferenceSupervisorState) : ReferenceSupervisorState :=
  if s.lifecycle = .running then
    { s with
      lifecycle := .quiescing
      records := (s.active.toList.map (·.1)).foldl
        (fun records operationId => records.modify operationId cancelRecord) s.records }
  else s

theorem quiesceInner_on : quiesceInner.on s = (.ok (), quiesced s) := rfl

theorem quiesced_lifecycle : (quiesced s).lifecycle ≠ .running := by
  unfold quiesced
  split
  · simp
  · assumption

/-- `quiesce_inner` writes the lifecycle and the records, and nothing else. -/
theorem quiesced_frame : quiesced s =
    { s with lifecycle := (quiesced s).lifecycle, records := (quiesced s).records } := by
  unfold quiesced
  split <;> rfl

theorem quiesced_tasks : (quiesced s).tasks = s.tasks := by rw [quiesced_frame]

theorem quiesced_active : (quiesced s).active = s.active := by rw [quiesced_frame]

theorem quiesced_closed : (quiesced s).lifecycle = .closed ↔ s.lifecycle = .closed := by
  unfold quiesced
  split
  · rename_i h; simp [h]
  · rfl

/-- `quiesce_inner` cancels the records of the active operations, once. -/
theorem quiesced_record (id : String) :
    (quiesced s).records[id]? =
      if s.lifecycle = .running ∧ (s.active[id]?).isSome then (s.records[id]?).map cancelRecord
      else s.records[id]? := by
  unfold quiesced
  by_cases hl : s.lifecycle = .running
  · rw [if_pos hl]
    simp only [lookup_foldl_modify (f := cancelRecord) fun _ => rfl, mem_keys, hl, true_and]
  · rw [if_neg hl, if_neg (fun h => hl h.1)]

/-! ## `finish_shutdown` -/

/-- The state after the handles of the listed workers were taken. -/
def taken (s : ReferenceSupervisorState) (workerIds : List String) : ReferenceSupervisorState :=
  { s with tasks := workerIds.foldl (fun tasks workerId => tasks.insert workerId none) s.tasks }

theorem takeHandles_ok {entries : List (String × Option JoinHandle)}
    {todo : List (String × JoinHandle)} (h : (takeHandles entries).on s = (.ok todo, s')) :
    entries = todo.map (fun p => (p.1, some p.2)) ∧ s' = taken s (entries.map (·.1)) := by
  induction entries generalizing s s' todo with
  | nil =>
    obtain ⟨⟨⟩, rfl⟩ := Prod.mk.inj h
    exact ⟨rfl, rfl⟩
  | cons entry entries ih =>
    obtain ⟨workerId, handle⟩ := entry
    unfold takeHandles at h
    rw [Exec.on_modify_bind, Exec.expect_bind_ok] at h
    obtain ⟨handle', rfl, h⟩ := h
    obtain ⟨rest, s₁, hr, hp⟩ := Exec.bind_on_ok.mp h
    obtain ⟨he, rfl⟩ := ih hr
    obtain ⟨⟨⟩, rfl⟩ := Prod.mk.inj hp
    exact ⟨by rw [he]; rfl, rfl⟩

theorem takeHandles_error {entries : List (String × Option JoinHandle)} {e : Stop AdapterError}
    (h : (takeHandles entries).on s = (.error e, s')) :
    (∃ id, (id, none) ∈ entries) ∧ ∃ ids, ids ⊆ entries.map (·.1) ∧ s' = taken s ids := by
  induction entries generalizing s s' e with
  | nil => exact absurd (Prod.mk.inj h).1 (by simp)
  | cons entry entries ih =>
    obtain ⟨workerId, handle⟩ := entry
    unfold takeHandles at h
    rw [Exec.on_modify_bind, Exec.on_expect_bind] at h
    cases handle with
    | none =>
      obtain ⟨-, rfl⟩ := Prod.mk.inj h
      exact ⟨⟨workerId, by simp⟩, [workerId], by simp, rfl⟩
    | some handle =>
      simp only [Exec.on_bind] at h
      rcases hr : (takeHandles entries).on (taken s [workerId]) with ⟨e' | rest, s₁⟩
      · have hr' : (takeHandles entries).on
            { s with tasks := s.tasks.insert workerId none } = (.error e', s₁) := hr
        rw [hr'] at h
        obtain ⟨-, rfl⟩ := Prod.mk.inj h
        obtain ⟨⟨id, hid⟩, ids, hsub, rfl⟩ := ih hr
        refine ⟨⟨id, List.mem_cons_of_mem _ hid⟩, workerId :: ids, ?_, rfl⟩
        exact List.cons_subset_cons _ hsub
      · have hr' : (takeHandles entries).on
            { s with tasks := s.tasks.insert workerId none } = (.ok rest, s₁) := hr
        rw [hr'] at h
        exact absurd (Prod.mk.inj h).1 (by simp)

/-- A successful take finds every handle in the table. -/
theorem takeTasks_ok {todo : List (String × JoinHandle)}
    (h : takeTasks.on s = (.ok todo, s')) :
    s.tasks.toList = todo.map (fun p => (p.1, some p.2)) ∧
      s' = taken s (s.tasks.toList.map (·.1)) := by
  unfold takeTasks at h
  rw [Exec.on_get_bind] at h
  exact takeHandles_ok h

/-- A take that fails found an entry without its handle. -/
theorem takeTasks_error {e : Stop AdapterError} (h : takeTasks.on s = (.error e, s')) :
    (∃ id : String, s.tasks[id]? = some none) ∧
      ∃ ids : List String, (∀ id ∈ ids, (s.tasks[id]?).isSome) ∧ s' = taken s ids := by
  unfold takeTasks at h
  rw [Exec.on_get_bind] at h
  obtain ⟨⟨id, hid⟩, ids, hids, he⟩ := takeHandles_error h
  refine ⟨⟨id, ExtTreeMap.mem_toList_iff_getElem?_eq_some.mp hid⟩, ids, ?_, he⟩
  exact fun id hid => mem_keys.mp (hids hid)

theorem taken_task (ids : List String) (id : String) :
    (taken s ids).tasks[id]? = if id ∈ ids then some none else s.tasks[id]? :=
  lookup_foldl_insert ids

/-- The state after the second section. -/
def closed (s : ReferenceSupervisorState) (joined : List String) : ReferenceSupervisorState :=
  { s with
    tasks := joined.foldl (fun tasks workerId => tasks.erase workerId) s.tasks
    joinedWorkerIds := s.joinedWorkerIds ++ joined
    lifecycle := .closed }

/-- The outcome of a shutdown that ends in this state. -/
def outcomeOf (s : ReferenceSupervisorState) : ShutdownOutcome where
  facts := facts s
  expectedWorkerIds := s.expectedWorkerIds
  joinedWorkerIds := s.joinedWorkerIds

theorem closeShutdown_on (joined : List String) :
    (closeShutdown joined).on s = (.ok (outcomeOf (closed s joined)), closed s joined) := rfl

theorem closed_task (joined : List String) (id : String) :
    (closed s joined).tasks[id]? = if id ∈ joined then none else s.tasks[id]? :=
  lookup_foldl_erase joined

end Supervisor
end Testkit
end Platform
