import PlatformContracts.Lib.Precede
import PlatformContracts.Vertical.Candidate

/-!
# Events, lifecycle rows and retries of an accepted projection

* `event_identity`: the event `i` has the sequence `i`; events and lifecycle rows are about the
  same identities; an attempt has one lifecycle row and one correlation.
* `ShowsRetry`: an attempt was cancelled, and another one of the same correlation completed after
  it. `retry_exact`: this is what `validate_mom_chat_retry_projection` accepts, and the rows and
  events of other identities do not matter.
-/

namespace Platform
namespace Vertical

variable {projection : EquivalenceProjectionV0}

/-! ## Identities -/

/-- What an accepted projection says about its events and lifecycle rows. -/
structure EquivalenceProjectionV0.Identified (projection : EquivalenceProjectionV0) : Prop where
  sequence : ∀ (i : Nat) (event : EventFactV0), projection.orderedEvents[i]? = some event →
    event.sequence.toNat = i
  released : ∀ fact ∈ projection.lifecycle, fact.released = true
  /-- An attempt has one lifecycle row. -/
  attempts : (projection.lifecycle.map fun fact => (fact.operationId, fact.attemptId)).Nodup
  identities : ∀ identity, identity ∈ projection.orderedEvents.map EventFactV0.identity ↔
    identity ∈ projection.lifecycle.map LifecycleFactV0.identity

theorem validateEvents_sequence {events : List EventFactV0} (h : validateEvents events = .ok ())
    {i : Nat} {event : EventFactV0} (hi : events[i]? = some event) : event.sequence.toNat = i := by
  simp only [validateEvents, unit_bind_eq_ok, forM_eq_ok] at h
  have hevent := h.2 (event, i) (List.mem_zipIdx_iff_getElem?.mpr hi)
  simp only [validateEvent, unit_bind_eq_ok, check_eq_ok] at hevent
  exact hevent.1

theorem validateProjection_identified (h : validateProjection projection = .ok ()) :
    projection.Identified := by
  simp only [validateProjection, unit_bind_eq_ok] at h
  obtain ⟨hevents, -, hlifecycle, hbinding, -⟩ := h
  simp only [validateLifecycle, unit_bind_eq_ok, checkUnique_eq_ok, check_eq_ok] at hlifecycle
  obtain ⟨-, hfacts, hunique⟩ := hlifecycle
  refine ⟨fun i event hi => validateEvents_sequence hevents hi,
    fun fact hf => (hfacts fact hf).2.2.2, hunique, fun identity => ?_⟩
  have hsets := check_eq_ok.mp hbinding
  rw [← List.mem_toFinset, hsets, List.mem_toFinset]

namespace EquivalenceProjectionV0.Identified

/-- Rows of the same attempt are one row. -/
theorem row_eq (h : projection.Identified) {fact fact' : LifecycleFactV0}
    (hf : fact ∈ projection.lifecycle) (hf' : fact' ∈ projection.lifecycle)
    (ho : fact.operationId = fact'.operationId) (ha : fact.attemptId = fact'.attemptId) :
    fact = fact' :=
  List.inj_on_of_nodup_map h.attempts hf hf' (Prod.ext ho ha)

/-- An event has one lifecycle row. -/
theorem row_count (h : projection.Identified) {event : EventFactV0}
    (he : event ∈ projection.orderedEvents) :
    projection.lifecycle.countP (·.identity = event.identity) = 1 := by
  have hn : (projection.lifecycle.map LifecycleFactV0.identity).Nodup := by
    refine List.Nodup.of_map (fun identity : FactIdentity => (identity.1, identity.2.1)) ?_
    rw [List.map_map]
    exact h.attempts
  have hmem := (h.identities _).mp (List.mem_map.mpr ⟨event, he, rfl⟩)
  have hcount := List.count_eq_one_of_mem hn hmem
  rw [List.count_eq_countP, List.countP_map] at hcount
  rw [← hcount]
  refine List.countP_congr fun fact _ => ?_
  simp

/-- The identity of a record is the identity of a lifecycle row. -/
theorem exists_row (h : projection.Identified) {identity : FactIdentity}
    (hi : identity ∈ projection.orderedEvents.map EventFactV0.identity ++
      projection.lifecycle.map LifecycleFactV0.identity) :
    ∃ fact ∈ projection.lifecycle, fact.identity = identity := by
  rw [List.mem_append, h.identities, or_self] at hi
  exact List.mem_map.mp hi

end EquivalenceProjectionV0.Identified

/-- Events and lifecycle rows correspond. -/
theorem event_identity (projection : EquivalenceProjectionV0)
    (h : validateProjection projection = .ok ()) :
    (∀ (i : Nat) (event : EventFactV0), projection.orderedEvents[i]? = some event →
      event.sequence.toNat = i) ∧
    (∀ event ∈ projection.orderedEvents,
      projection.lifecycle.countP (·.identity = event.identity) = 1) ∧
    (∀ fact ∈ projection.lifecycle,
      ∃ event ∈ projection.orderedEvents, event.identity = fact.identity) ∧
    (∀ fact ∈ projection.lifecycle, fact.released = true) ∧
    (∀ identity ∈ projection.orderedEvents.map EventFactV0.identity ++
        projection.lifecycle.map LifecycleFactV0.identity,
      ∀ identity' ∈ projection.orderedEvents.map EventFactV0.identity ++
        projection.lifecycle.map LifecycleFactV0.identity,
      identity.1 = identity'.1 → identity.2.1 = identity'.2.1 → identity.2.2 = identity'.2.2) ∧
    ∀ fact ∈ projection.lifecycle, ∀ fact' ∈ projection.lifecycle,
      fact.operationId = fact'.operationId → fact.attemptId = fact'.attemptId → fact = fact' := by
  have hi := validateProjection_identified h
  refine ⟨hi.sequence, fun event he => hi.row_count he, fun fact hf => ?_, hi.released, ?_,
    fun fact hf fact' hf' => hi.row_eq hf hf'⟩
  · exact List.mem_map.mp ((hi.identities _).mpr (List.mem_map.mpr ⟨fact, hf, rfl⟩))
  · intro identity hid identity' hid' ho ha
    obtain ⟨fact, hf, rfl⟩ := hi.exists_row hid
    obtain ⟨fact', hf', rfl⟩ := hi.exists_row hid'
    rw [hi.row_eq hf hf' ho ha]

/-- A chat turn is cancelled, and its retry completes before the cancelled turn is gone. -/
def retryProjection : EquivalenceProjectionV0 :=
  { relaunchProjection with
    orderedEvents := [
      ⟨0, "chat.1", some "attempt.1", some "turn", "started", none⟩,
      ⟨1, "chat.2", some "attempt.2", some "turn", "completed", none⟩,
      ⟨2, "chat.1", some "attempt.1", some "turn", "cancelled", none⟩]
    lifecycle := [
      ⟨"chat.2", some "attempt.2", some "turn", .completed, true⟩,
      ⟨"chat.1", some "attempt.1", some "turn", .cancelled, true⟩] }

theorem retryProjection_ok : validateProjection retryProjection = .ok () := by decide +kernel

theorem event_identity_retry :
    (∀ event ∈ retryProjection.orderedEvents,
      retryProjection.lifecycle.countP (·.identity = event.identity) = 1) ∧
    ∀ fact ∈ retryProjection.lifecycle,
      ∃ event ∈ retryProjection.orderedEvents, event.identity = fact.identity :=
  have h := event_identity retryProjection retryProjection_ok
  ⟨h.2.1, h.2.2.1⟩

/-! ## Retries -/

/-- `cancelled` and `completed` are rows of two operations and attempts of one correlation. -/
structure Retries (cancelled completed : LifecycleFactV0) : Prop where
  wasCancelled : cancelled.terminal = .cancelled
  hasCompleted : completed.terminal = .completed
  operations : cancelled.operationId ≠ completed.operationId
  attempts : ∃ attempt attempt', cancelled.attemptId = some attempt ∧
    completed.attemptId = some attempt' ∧ attempt ≠ attempt'
  correlation : ∃ correlation, cancelled.correlationId = some correlation ∧
    completed.correlationId = some correlation

/-- The rows of a retry, with an event of the cancelled attempt before every event of the
completed one. -/
def ShowsRetry (projection : EquivalenceProjectionV0) : Prop :=
  ∃ cancelled ∈ projection.lifecycle, ∃ completed ∈ projection.lifecycle,
    Retries cancelled completed ∧
    (∃ event ∈ projection.orderedEvents, event.identity = cancelled.identity) ∧
    (∃ event ∈ projection.orderedEvents, event.identity = completed.identity) ∧
    ∃ (i : Nat) (event : EventFactV0), projection.orderedEvents[i]? = some event ∧
      event.identity = cancelled.identity ∧
      ∀ (j : Nat) (event' : EventFactV0), projection.orderedEvents[j]? = some event' →
        event'.identity = completed.identity → i < j

/-- The events of `fact` begin before those of `fact'`. -/
def EquivalenceProjectionV0.Before (projection : EquivalenceProjectionV0)
    (fact fact' : LifecycleFactV0) : Prop :=
  Precedes (fun event : EventFactV0 => event.identity = fact.identity)
    (fun event => event.identity = fact'.identity) projection.orderedEvents

theorem eventPosition_lt {fact fact' : LifecycleFactV0} :
    (∃ i j, eventPosition projection fact = some i ∧ eventPosition projection fact' = some j ∧
      i < j) ↔
    projection.Before fact fact' ∧
      ∃ event ∈ projection.orderedEvents, event.identity = fact'.identity :=
  findIdx?_lt_iff

theorem isCancelRetry_eq_true {cancelled completed : LifecycleFactV0} :
    isCancelRetry projection cancelled completed = true ↔
      completed.terminal = .completed ∧ completed.operationId ≠ cancelled.operationId ∧
      completed.attemptId.isSome = true ∧ completed.attemptId ≠ cancelled.attemptId ∧
      completed.correlationId = cancelled.correlationId ∧
      ∃ i j, eventPosition projection cancelled = some i ∧
        eventPosition projection completed = some j ∧ i < j := by
  unfold isCancelRetry
  cases eventPosition projection cancelled <;> cases eventPosition projection completed <;>
    simp [and_assoc]

theorem isCancelRetry_iff {cancelled completed : LifecycleFactV0} :
    (cancelled.terminal = .cancelled ∧ cancelled.attemptId.isSome = true ∧
      cancelled.correlationId.isSome = true ∧
      isCancelRetry projection cancelled completed = true) ↔
    Retries cancelled completed ∧ projection.Before cancelled completed ∧
      ∃ event ∈ projection.orderedEvents, event.identity = completed.identity := by
  rw [isCancelRetry_eq_true, eventPosition_lt]
  constructor
  · rintro ⟨hcancelled, ha, hc, hcompleted, ho, ha', hne, heq, hbefore⟩
    obtain ⟨attempt, ha⟩ := Option.isSome_iff_exists.mp ha
    obtain ⟨attempt', ha'⟩ := Option.isSome_iff_exists.mp ha'
    obtain ⟨correlation, hc⟩ := Option.isSome_iff_exists.mp hc
    refine ⟨⟨hcancelled, hcompleted, ho.symm, ⟨attempt, attempt', ha, ha', ?_⟩,
      correlation, hc, heq.trans hc⟩, hbefore⟩
    rintro rfl
    exact hne (ha'.trans ha.symm)
  · rintro ⟨⟨hcancelled, hcompleted, ho, ⟨attempt, attempt', ha, ha', hne⟩, correlation, hc, hc'⟩,
      hbefore⟩
    refine ⟨hcancelled, by rw [ha]; rfl, by rw [hc]; rfl, hcompleted, ho.symm,
      by rw [ha']; rfl, ?_, hc'.trans hc.symm, hbefore⟩
    rw [ha, ha']
    exact fun h => hne (Option.some.inj h).symm

theorem validateMomChatRetryProjection_ok :
    validateMomChatRetryProjection projection = .ok () ↔
      ∃ cancelled ∈ projection.lifecycle, ∃ completed ∈ projection.lifecycle,
        Retries cancelled completed ∧ projection.Before cancelled completed ∧
          ∃ event ∈ projection.orderedEvents, event.identity = completed.identity := by
  unfold validateMomChatRetryProjection
  rw [check_eq_ok, List.any_eq_true]
  constructor
  · rintro ⟨cancelled, hm, h⟩
    simp only [Bool.and_eq_true, decide_eq_true_eq, List.any_eq_true] at h
    obtain ⟨⟨⟨hc, ha⟩, hcorr⟩, completed, hm', h⟩ := h
    exact ⟨cancelled, hm, completed, hm', isCancelRetry_iff.mp ⟨hc, ha, hcorr, h⟩⟩
  · rintro ⟨cancelled, hm, completed, hm', h⟩
    obtain ⟨hc, ha, hcorr, h⟩ := isCancelRetry_iff.mpr h
    refine ⟨cancelled, hm, ?_⟩
    simp only [Bool.and_eq_true, decide_eq_true_eq, List.any_eq_true]
    exact ⟨⟨⟨hc, ha⟩, hcorr⟩, completed, hm', h⟩

theorem showsRetry_iff : ShowsRetry projection ↔
    ∃ cancelled ∈ projection.lifecycle, ∃ completed ∈ projection.lifecycle,
      Retries cancelled completed ∧ projection.Before cancelled completed ∧
        ∃ event ∈ projection.orderedEvents, event.identity = completed.identity := by
  unfold ShowsRetry EquivalenceProjectionV0.Before
  simp only [precedes_iff]
  constructor
  · rintro ⟨cancelled, hm, completed, hm', hr, -, hevent, hbefore⟩
    exact ⟨cancelled, hm, completed, hm', hr, hbefore, hevent⟩
  · rintro ⟨cancelled, hm, completed, hm', hr, ⟨i, event, hi, he, hall⟩, hevent⟩
    exact ⟨cancelled, hm, completed, hm', hr, ⟨event, List.mem_of_getElem? hi, he⟩, hevent,
      i, event, hi, he, hall⟩

/-- `extended` has the events and rows of `projection`, the events renumbered, and others of other
identities anywhere in between. -/
structure EquivalenceProjectionV0.Extends (projection extended : EquivalenceProjectionV0) :
    Prop where
  events : Inserts (fun event event' => event' = { event with sequence := event'.sequence })
    (fun event => event.identity ∉ projection.lifecycle.map LifecycleFactV0.identity)
    projection.orderedEvents extended.orderedEvents
  lifecycle : Inserts Eq
    (fun fact => fact.identity ∉ projection.lifecycle.map LifecycleFactV0.identity)
    projection.lifecycle extended.lifecycle

/-- A retry stays one under other traffic. -/
theorem EquivalenceProjectionV0.Extends.retry {extended : EquivalenceProjectionV0}
    (h : projection.Extends extended)
    (hok : validateMomChatRetryProjection projection = .ok ()) :
    validateMomChatRetryProjection extended = .ok () := by
  have same : ∀ {event event' : EventFactV0},
      event' = { event with sequence := event'.sequence } →
      event'.identity = event.identity := by
    intro event event' he
    rw [he]
    rfl
  obtain ⟨cancelled, hm, completed, hm', hr, hbefore, event, hevent, hid⟩ :=
    validateMomChatRetryProjection_ok.mp hok
  obtain ⟨_, hx, rfl⟩ := h.lifecycle.exists_same hm
  obtain ⟨_, hx', rfl⟩ := h.lifecycle.exists_same hm'
  obtain ⟨event', hevent', hsame⟩ := h.events.exists_same hevent
  refine validateMomChatRetryProjection_ok.mpr ⟨cancelled, hx, completed, hx', hr, ?_,
    event', hevent', (same hsame).trans hid⟩
  refine h.events.precedes (fun hs hp => (same hs).trans hp)
    (fun hs hq => (same hs).symm.trans hq) (fun ho hq => ho ?_) hbefore
  rw [hq]
  exact List.mem_map.mpr ⟨completed, hm', rfl⟩

theorem retry_exact (projection : EquivalenceProjectionV0)
    (_ : validateProjection projection = .ok ()) :
    (validateMomChatRetryProjection projection = .ok () ↔ ShowsRetry projection) ∧
    ∀ extended, validateProjection extended = .ok () → projection.Extends extended →
      validateMomChatRetryProjection projection = .ok () →
      validateMomChatRetryProjection extended = .ok () :=
  ⟨validateMomChatRetryProjection_ok.trans showsRetry_iff.symm, fun _ _ h hok => h.retry hok⟩

/-- `retryProjection` under the traffic of another operation. -/
def busyProjection : EquivalenceProjectionV0 :=
  { retryProjection with
    orderedEvents := [
      ⟨0, "owner.1", none, none, "started", none⟩,
      ⟨1, "chat.1", some "attempt.1", some "turn", "started", none⟩,
      ⟨2, "owner.1", none, none, "completed", none⟩,
      ⟨3, "chat.2", some "attempt.2", some "turn", "completed", none⟩,
      ⟨4, "chat.1", some "attempt.1", some "turn", "cancelled", none⟩]
    lifecycle := ⟨"owner.1", none, none, .completed, true⟩ :: retryProjection.lifecycle }

theorem busyProjection_extends : retryProjection.Extends busyProjection where
  events := .insert (by decide) <| .keep rfl <| .insert (by decide) <| .keep rfl <| .keep rfl .nil
  lifecycle := .insert (by decide) <| .keep rfl <| .keep rfl .nil

theorem retry_exact_busy : ShowsRetry retryProjection ∧
    validateMomChatRetryProjection busyProjection = .ok () := by
  have h := retry_exact retryProjection retryProjection_ok
  have hok : validateMomChatRetryProjection retryProjection = .ok () := by decide +kernel
  exact ⟨h.1.mp hok, h.2 busyProjection (by decide +kernel) busyProjection_extends hok⟩

end Vertical
end Platform
