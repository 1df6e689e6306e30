import PlatformContracts.Lib.Exec
import PlatformContracts.Lib.Sys
import PlatformContracts.Testkit.Adapter

/-!
# The barrier of the race suites (`platform-contract-testkit/src/barrier.rs`)

* `arriveAndWait`, `checkReleased`: the section of `arrive_and_wait` up to its wait, and the one
  after a wakeup; `checkAllArrived`: both of `wait_until_all_arrived`; `release`.
* `barrierSys expected`: any number of threads in these calls. A thread that waits may wake up at
  any time; `notified` says that a `notify_all` reached it, so that it will.
* `Counts`: how the counter, the waiting threads and the calls that returned go together.
* `rejected_arrivals_iff`: the runs in which an arrival that panics leaves the state, and in which
  a release lets every participant through. An arrival after the last one adds to the counter
  before it panics.
-/

namespace Platform
namespace Testkit
namespace Barrier

/-! ## The barrier -/

structure State where
  arrived : Usize
  released : Bool
  deriving DecidableEq, Repr

/-- A section of the barrier: it has no error values. -/
abbrev Section := Exec State Empty

/-- `DeterministicBarrier::new`. -/
def new (expected : Usize) : Except (Stop Empty) State :=
  if 0 < expected then .ok ⟨0, false⟩
  else .error (.panic "barrier requires at least one participant")

/-- `arrive_and_wait`, up to its first look at the flag. -/
def arriveAndWait (expected : Usize) : Section Bool := do
  let state ← get
  let arrived ← Exec.expect (checkedAdd state.arrived 1) "barrier participant count exhausted"
  modify fun state => { state with arrived := arrived }
  Exec.assert (arrived ≤ expected) "more participants arrived than declared"
  pure state.released

/-- The condition of the loop in `arrive_and_wait`: the call returns, or waits again. -/
def checkReleased : Section Bool := do
  let state ← get
  pure state.released

/-- The condition of the loop in `wait_until_all_arrived`. -/
def checkAllArrived (expected : Usize) : Section Bool := do
  let state ← get
  pure (state.arrived = expected)

def release (expected : Usize) : Section Unit := do
  let state ← get
  Exec.assert (state.arrived = expected) "release before all arrivals"
  modify fun state => { state with released := true }

section Sections

variable {expected : Usize} {s s' : State}

theorem arriveAndWait_on : (arriveAndWait expected).on s =
    match checkedAdd s.arrived 1 with
    | none => (.error (.panic "barrier participant count exhausted"), s)
    | some arrived =>
      if arrived ≤ expected then (.ok s.released, { s with arrived := arrived })
      else (.error (.panic "more participants arrived than declared"),
        { s with arrived := arrived }) := by
  unfold arriveAndWait
  rw [Exec.on_get_bind, Exec.on_expect_bind]
  cases checkedAdd s.arrived 1 with
  | none => rfl
  | some arrived =>
    simp only [Exec.on_modify_bind, Exec.on_assert_bind]
    rfl

theorem release_on : (release expected).on s =
    if s.arrived = expected then (.ok (), { s with released := true })
    else (.error (.panic "release before all arrivals"), s) := by
  unfold release
  rw [Exec.on_get_bind, Exec.on_assert_bind]
  rfl

/-- An arrival that does not panic. -/
theorem arriveAndWait_ok {released : Bool}
    (h : (arriveAndWait expected).on s = (.ok released, s')) :
    released = s.released ∧ s'.released = s.released ∧
      s'.arrived.toNat = s.arrived.toNat + 1 ∧ s'.arrived ≤ expected := by
  rw [arriveAndWait_on] at h
  cases hn : checkedAdd s.arrived 1 with
  | none => simp [hn] at h
  | some arrived =>
    rw [hn] at h
    dsimp only at h
    split at h
    · obtain ⟨⟨⟩, rfl⟩ := Prod.mk.inj h
      exact ⟨rfl, rfl, checkedAdd_eq_some.mp hn, ‹_›⟩
    · simp at h

/-- An arrival that panics was one too many; it adds to the counter, if there is room. -/
theorem arriveAndWait_error {e : Stop Empty}
    (h : (arriveAndWait expected).on s = (.error e, s')) :
    expected ≤ s.arrived ∧ s'.released = s.released ∧
      (s'.arrived.toNat = s.arrived.toNat + 1 ∨
        s'.arrived = s.arrived ∧ s.arrived.toNat = 2 ^ 64 - 1) := by
  have hlt := s.arrived.toNat_lt
  rw [UInt64.le_iff_toNat_le]
  rw [arriveAndWait_on] at h
  cases hn : checkedAdd s.arrived 1 with
  | none =>
    rw [hn] at h
    obtain ⟨-, rfl⟩ := Prod.mk.inj h
    rw [checkedAdd_eq_none, UInt64.toNat_one] at hn
    have hexpected := expected.toNat_lt
    exact ⟨by omega, rfl, .inr ⟨rfl, by omega⟩⟩
  | some arrived =>
    rw [hn] at h
    dsimp only at h
    split at h
    · simp at h
    · rename_i hle
      obtain ⟨-, rfl⟩ := Prod.mk.inj h
      have hn : arrived.toNat = s.arrived.toNat + 1 := checkedAdd_eq_some.mp hn
      rw [UInt64.le_iff_toNat_le] at hle
      exact ⟨by omega, rfl, .inl hn⟩

end Sections

/-! ## Threads -/

/-- Where a thread is: in no call, or at `changed.wait` of one of the two loops. -/
inductive Pc where
  | idle
  | arriving (notified : Bool)
  | awaiting (notified : Bool)
  deriving DecidableEq, Repr

namespace Pc

/-- `changed.notify_all()` reaches the thread. -/
def notify : Pc → Pc
  | idle => idle
  | arriving _ => arriving true
  | awaiting _ => awaiting true

/-- The thread waits in `arrive_and_wait`. -/
def participates : Pc → Bool
  | arriving _ => true
  | _ => false

@[simp] theorem participates_notify (pc : Pc) : pc.notify.participates = pc.participates := by
  cases pc <;> rfl

/-- After a look at the condition of the loop. -/
def looked (wait : Bool → Pc) (returned : Bool) : Pc := if returned then idle else wait false

@[simp] theorem participates_looked_arriving (returned : Bool) :
    (looked arriving returned).participates = !returned := by
  cases returned <;> rfl

@[simp] theorem participates_looked_awaiting (returned : Bool) :
    (looked awaiting returned).participates = false := by
  cases returned <;> rfl

theorem looked_awaiting_ne {notified : Bool} (returned : Bool) :
    looked awaiting returned ≠ .arriving notified := by
  cases returned <;> simp [looked]

end Pc

structure World where
  state : State
  threads : List Pc
  deriving DecidableEq, Repr

/-- A section of a thread, and what came out of it: whether the call returned, or a panic. -/
inductive Event where
  | arrive (thread : Nat) (reply : Except (Stop Empty) Bool)
  | wakeArrival (thread : Nat) (returned : Bool)
  | await (thread : Nat) (returned : Bool)
  | wakeAwait (thread : Nat) (returned : Bool)
  | release (thread : Nat) (reply : Except (Stop Empty) Unit)
  deriving Repr

/-- The threads after an arrival: a panic comes before the notification. -/
def World.afterArrival (w : World) (thread : Nat) : Except (Stop Empty) Bool → List Pc
  | .ok returned => (w.threads.map Pc.notify).set thread (.looked .arriving returned)
  | .error _ => w.threads

/-- The threads after a release. -/
def World.afterRelease (w : World) : Except (Stop Empty) Unit → List Pc
  | .ok () => w.threads.map Pc.notify
  | .error _ => w.threads

/-- The steps of the threads; a wakeup needs no notification. -/
inductive Step (expected : Usize) (w : World) : Event → World → Prop
  | arrive {thread : Nat} {reply : Except (Stop Empty) Bool} {s : State} :
      w.threads[thread]? = some .idle → (arriveAndWait expected).on w.state = (reply, s) →
      Step expected w (.arrive thread reply) ⟨s, w.afterArrival thread reply⟩
  | wakeArrival {thread : Nat} {notified returned : Bool} {s : State} :
      w.threads[thread]? = some (.arriving notified) →
      checkReleased.on w.state = (.ok returned, s) →
      Step expected w (.wakeArrival thread returned)
        ⟨s, w.threads.set thread (.looked .arriving returned)⟩
  | await {thread : Nat} {returned : Bool} {s : State} :
      w.threads[thread]? = some .idle →
      (checkAllArrived expected).on w.state = (.ok returned, s) →
      Step expected w (.await thread returned)
        ⟨s, w.threads.set thread (.looked .awaiting returned)⟩
  | wakeAwait {thread : Nat} {notified returned : Bool} {s : State} :
      w.threads[thread]? = some (.awaiting notified) →
      (checkAllArrived expected).on w.state = (.ok returned, s) →
      Step expected w (.wakeAwait thread returned)
        ⟨s, w.threads.set thread (.looked .awaiting returned)⟩
  | release {thread : Nat} {reply : Except (Stop Empty) Unit} {s : State} :
      w.threads[thread]? = some .idle → (release expected).on w.state = (reply, s) →
      Step expected w (.release thread reply) ⟨s, w.afterRelease reply⟩

/-- The barrier of `new(expected)` under any number of threads. -/
def barrierSys (expected : Usize) : Sys World Event where
  init w := new expected = .ok w.state ∧ ∀ pc ∈ w.threads, pc = .idle
  step w e w' := Step expected w e w'

/-- The world after the event, if it can happen. -/
def World.exec (expected : Usize) (w : World) : Event → Option World
  | .arrive thread reply =>
    if w.threads[thread]? = some .idle ∧ reply = ((arriveAndWait expected).on w.state).1 then
      some ⟨((arriveAndWait expected).on w.state).2, w.afterArrival thread reply⟩
    else none
  | .wakeArrival thread returned =>
    if (∃ notified, w.threads[thread]? = some (.arriving notified)) ∧
        returned = w.state.released then
      some ⟨w.state, w.threads.set thread (.looked .arriving returned)⟩
    else none
  | .await thread returned =>
    if w.threads[thread]? = some .idle ∧ returned = decide (w.state.arrived = expected) then
      some ⟨w.state, w.threads.set thread (.looked .awaiting returned)⟩
    else none
  | .wakeAwait thread returned =>
    if (∃ notified, w.threads[thread]? = some (.awaiting notified)) ∧
        returned = decide (w.state.arrived = expected) then
      some ⟨w.state, w.threads.set thread (.looked .awaiting returned)⟩
    else none
  | .release thread reply =>
    if w.threads[thread]? = some .idle ∧
        reply = ((Barrier.release expected).on w.state).1 then
      some ⟨((Barrier.release expected).on w.state).2, w.afterRelease reply⟩
    else none

theorem World.exec_step {expected : Usize} {w w' : World} {e : Event}
    (h : w.exec expected e = some w') : Step expected w e w' := by
  cases e <;> simp only [World.exec, Option.ite_none_right_eq_some, Option.some.injEq] at h
  case arrive thread reply =>
    obtain ⟨⟨hidle, rfl⟩, rfl⟩ := h
    exact .arrive hidle rfl
  case wakeArrival thread returned =>
    obtain ⟨⟨⟨notified, hwait⟩, rfl⟩, rfl⟩ := h
    exact .wakeArrival hwait rfl
  case await thread returned =>
    obtain ⟨⟨hidle, rfl⟩, rfl⟩ := h
    exact .await hidle rfl
  case wakeAwait thread returned =>
    obtain ⟨⟨⟨notified, hwait⟩, rfl⟩, rfl⟩ := h
    exact .wakeAwait hwait rfl
  case release thread reply =>
    obtain ⟨⟨hidle, rfl⟩, rfl⟩ := h
    exact .release hidle rfl

/-- What a step does, with the sections run. -/
inductive Effect (expected : Usize) (w : World) : Event → World → Prop
  | arrived {thread : Nat} {arrived : Usize} :
      w.threads[thread]? = some .idle → arrived.toNat = w.state.arrived.toNat + 1 →
      arrived ≤ expected →
      Effect expected w (.arrive thread (.ok w.state.released)) ⟨⟨arrived, w.state.released⟩,
        (w.threads.map Pc.notify).set thread (.looked .arriving w.state.released)⟩
  /-- The counter goes on, unless it is at its bound. -/
  | rejected {thread : Nat} {message : String} {arrived : Usize} :
      expected ≤ w.state.arrived →
      (arrived.toNat = w.state.arrived.toNat + 1 ∨
        arrived = w.state.arrived ∧ w.state.arrived.toNat = 2 ^ 64 - 1) →
      Effect expected w (.arrive thread (.error (.panic message)))
        ⟨⟨arrived, w.state.released⟩, w.threads⟩
  | wakeArrival {thread : Nat} {notified : Bool} :
      w.threads[thread]? = some (.arriving notified) →
      Effect expected w (.wakeArrival thread w.state.released)
        ⟨w.state, w.threads.set thread (.looked .arriving w.state.released)⟩
  | await {thread : Nat} {returned : Bool} :
      w.threads[thread]? = some .idle → returned = decide (w.state.arrived = expected) →
      Effect expected w (.await thread returned)
        ⟨w.state, w.threads.set thread (.looked .awaiting returned)⟩
  | wakeAwait {thread : Nat} {notified returned : Bool} :
      w.threads[thread]? = some (.awaiting notified) →
      returned = decide (w.state.arrived = expected) →
      Effect expected w (.wakeAwait thread returned)
        ⟨w.state, w.threads.set thread (.looked .awaiting returned)⟩
  | released {thread : Nat} : w.state.arrived = expected →
      Effect expected w (.release thread (.ok ()))
        ⟨{ w.state with released := true }, w.threads.map Pc.notify⟩
  | releaseRejected {thread : Nat} {stop : Stop Empty} : w.state.arrived ≠ expected →
      Effect expected w (.release thread (.error stop)) w

theorem effect {expected : Usize} {w w' : World} {e : Event}
    (hs : (barrierSys expected).step w e w') : Effect expected w e w' := by
  cases hs with
  | @arrive thread reply s hidle hon =>
    cases reply with
    | ok returned =>
      obtain ⟨rfl, hrel, harr, hle⟩ := arriveAndWait_ok hon
      obtain ⟨arrived, released⟩ := s
      obtain rfl : released = w.state.released := hrel
      exact .arrived hidle harr hle
    | error stop =>
      obtain ⟨hle, hrel, harr⟩ := arriveAndWait_error hon
      obtain ⟨arrived, released⟩ := s
      obtain rfl : released = w.state.released := hrel
      cases stop with
      | err e => cases e
      | panic message => exact .rejected hle harr
  | wakeArrival hwait hon =>
    obtain ⟨hret, rfl⟩ := Prod.mk.inj hon
    obtain rfl := Except.ok.inj hret
    exact .wakeArrival hwait
  | await hidle hon =>
    obtain ⟨hret, rfl⟩ := Prod.mk.inj hon
    exact .await hidle (Except.ok.inj hret).symm
  | wakeAwait hwait hon =>
    obtain ⟨hret, rfl⟩ := Prod.mk.inj hon
    exact .wakeAwait hwait (Except.ok.inj hret).symm
  | release hidle hon =>
    rw [release_on] at hon
    split at hon <;> obtain ⟨rfl, rfl⟩ := Prod.mk.inj hon
    · exact .released ‹_›
    · exact .releaseRejected ‹_›

/-! ## Counts -/

/-- An arrival that the barrier accepted. -/
def Event.registers : Event → Bool
  | .arrive _ (.ok _) => true
  | _ => false

/-- A call of `arrive_and_wait` that returned. -/
def Event.returns : Event → Bool
  | .arrive _ (.ok returned) | .wakeArrival _ returned => returned
  | _ => false

/-- A call of `wait_until_all_arrived` that returned. -/
def Event.coordinates : Event → Bool
  | .await _ returned | .wakeAwait _ returned => returned
  | _ => false

def registered (es : List (Event × World)) : Nat := es.countP fun p => p.1.registers

def returned (es : List (Event × World)) : Nat := es.countP fun p => p.1.returns

/-- The threads that wait in `arrive_and_wait`. -/
def World.participants (w : World) : Nat := w.threads.countP Pc.participates

section Counts

variable {expected : Usize} {w w' : World} {e : Event} {threads : List Pc}

theorem countP_set {pc : Pc} {thread : Nat} (pc' : Pc) (h : threads[thread]? = some pc) :
    (threads.set thread pc').countP Pc.participates + pc.participates.toNat =
      threads.countP Pc.participates + pc'.participates.toNat := by
  induction threads generalizing thread with
  | nil => simp at h
  | cons a threads ih =>
    cases thread with
    | zero =>
      obtain rfl := Option.some.inj h
      simp only [List.set_cons_zero, List.countP_cons]
      cases a.participates <;> cases pc'.participates <;> simp
    | succ thread =>
      have hrec := ih h
      simp only [List.set_cons_succ, List.countP_cons]
      omega

theorem countP_notify :
    (threads.map Pc.notify).countP Pc.participates = threads.countP Pc.participates := by
  rw [List.countP_map]
  refine List.countP_congr fun pc _ => ?_
  rw [Function.comp_apply, Pc.participates_notify]

theorem arriving_notMem_notify : Pc.arriving false ∉ threads.map Pc.notify := by
  rw [List.mem_map]
  rintro ⟨pc, -, h⟩
  cases pc <;> cases h

theorem arriving_notMem_set (h : Pc.arriving false ∉ threads) {thread : Nat} {pc : Pc}
    (hpc : pc ≠ .arriving false) : Pc.arriving false ∉ threads.set thread pc := fun hm =>
  (List.mem_or_eq_of_mem_set hm).elim h fun he => hpc he.symm

/-- After a release every participant that waits was notified. -/
def World.Awake (w : World) : Prop := w.state.released = true → Pc.arriving false ∉ w.threads

theorem World.Awake.step (h : w.Awake) (hs : (barrierSys expected).step w e w') : w'.Awake := by
  intro hr
  cases effect hs with
  | arrived =>
    have hr : w.state.released = true := hr
    exact arriving_notMem_set arriving_notMem_notify (by rw [hr]; simp [Pc.looked])
  | rejected | releaseRejected => exact h hr
  | wakeArrival =>
    have hr : w.state.released = true := hr
    exact arriving_notMem_set (h hr) (by rw [hr]; simp [Pc.looked])
  | await | wakeAwait => exact arriving_notMem_set (h hr) (Pc.looked_awaiting_ne _)
  | released => exact arriving_notMem_notify

theorem awake_inductive (expected : Usize) : (barrierSys expected).Inductive World.Awake where
  init h _ hm := by cases h.2 _ hm
  step h hs := h.step hs

/-- The barrier before the first of `n` threads arrives. -/
def World.start (n : Nat) : World := ⟨⟨0, false⟩, List.replicate n .idle⟩

theorem init_start (h : 0 < expected) (n : Nat) : (barrierSys expected).init (World.start n) :=
  ⟨if_pos h, fun _ hm => List.eq_of_mem_replicate hm⟩

/-- How the counter, the threads and the history go together. -/
structure Counts (expected : Usize) (es : List (Event × World)) (w : World) : Prop where
  counter : registered es = min w.state.arrived.toNat expected.toNat
  balance : w.participants + returned es = registered es

theorem registered_snoc (es : List (Event × World)) (p : Event × World) :
    registered (es ++ [p]) = registered es + p.1.registers.toNat := by
  rw [registered, List.countP_append, List.countP_singleton]
  cases h : p.1.registers <;> simp [registered]

theorem returned_snoc (es : List (Event × World)) (p : Event × World) :
    returned (es ++ [p]) = returned es + p.1.returns.toNat := by
  rw [returned, List.countP_append, List.countP_singleton]
  cases h : p.1.returns <;> simp [returned]

theorem init_state (h : (barrierSys expected).init w) : w.state = ⟨0, false⟩ := by
  have hnew := h.1
  unfold new at hnew
  split at hnew
  · exact (Except.ok.inj hnew).symm
  · cases hnew

theorem counts_init (h : (barrierSys expected).init w) : Counts expected [] w := by
  refine ⟨by rw [init_state h]; simp [registered], ?_⟩
  show w.threads.countP _ + 0 = 0
  rw [Nat.add_zero, List.countP_eq_zero]
  intro pc hm
  rw [h.2 pc hm]
  simp [Pc.participates]

/-- A thread that looks at the flag waits on, or returns. -/
theorem countP_looked (released : Bool) {pc : Pc} {thread : Nat}
    (h : threads[thread]? = some pc) :
    (threads.set thread (.looked .arriving released)).countP Pc.participates + released.toNat +
      pc.participates.toNat = threads.countP Pc.participates + 1 := by
  have hset := countP_set (.looked .arriving released) h
  rw [Pc.participates_looked_arriving] at hset
  cases released <;> simp only [Bool.not_false, Bool.not_true, Bool.toNat_true,
    Bool.toNat_false] at hset ⊢ <;> omega

/-- A coordinator is no participant. -/
theorem countP_looked_awaiting {returned : Bool} {pc : Pc} {thread : Nat}
    (h : threads[thread]? = some pc) (hpc : pc.participates = false) :
    (threads.set thread (.looked .awaiting returned)).countP Pc.participates =
      threads.countP Pc.participates := by
  have hset := countP_set (.looked .awaiting returned) h
  rw [Pc.participates_looked_awaiting, hpc] at hset
  exact Nat.add_right_cancel hset

theorem Counts.step {es : List (Event × World)} (h : Counts expected es w)
    (hs : (barrierSys expected).step w e w') : Counts expected (es ++ [(e, w')]) w' := by
  have hreg := h.counter
  have hbal : w.threads.countP Pc.participates + returned es = registered es := h.balance
  -- It is enough to follow the two numbers of the world.
  suffices h : registered es + e.registers.toNat = min w'.state.arrived.toNat expected.toNat ∧
      w'.threads.countP Pc.participates + (returned es + e.returns.toNat) =
        registered es + e.registers.toNat by
    exact ⟨by rw [registered_snoc]; exact h.1, by rw [registered_snoc, returned_snoc]; exact h.2⟩
  cases effect hs with
  | @arrived thread arrived hidle harr hle =>
    have hnotified : (w.threads.map Pc.notify)[thread]? = some Pc.idle := by
      rw [List.getElem?_map, hidle]
      rfl
    have hset := countP_looked w.state.released hnotified
    rw [countP_notify] at hset
    rw [UInt64.le_iff_toNat_le] at hle
    dsimp only [Event.registers, Event.returns, Pc.participates, Bool.toNat_true,
      Bool.toNat_false] at hset ⊢
    omega
  | rejected hle harr =>
    rw [UInt64.le_iff_toNat_le] at hle
    dsimp only [Event.registers, Event.returns, Bool.toNat_false]
    -- The counter is past the last arrival before and after.
    rcases harr with harr | ⟨rfl, -⟩ <;> omega
  | wakeArrival hwait =>
    have hset := countP_looked w.state.released hwait
    dsimp only [Event.registers, Event.returns, Pc.participates, Bool.toNat_true,
      Bool.toNat_false] at hset ⊢
    omega
  | await hwait | wakeAwait hwait =>
    rw [countP_looked_awaiting hwait rfl]
    exact ⟨hreg, hbal⟩
  | released =>
    rw [countP_notify]
    exact ⟨hreg, hbal⟩
  | releaseRejected => exact ⟨hreg, hbal⟩

theorem counts_run {w₀ : World} {es : List (Event × World)} (h₀ : (barrierSys expected).init w₀)
    (h : (barrierSys expected).Run w₀ es w) : Counts expected es w := by
  induction h with
  | nil => exact counts_init h₀
  | snoc _ hs ih => exact ih.step hs

end Counts

/-! ## Releases -/

section Releases

variable {expected : Usize} {w w' : World} {e : Event}

theorem released_step (hs : (barrierSys expected).step w e w') (h : w.state.released = true) :
    w'.state.released = true := by
  cases effect hs with
  | released => rfl
  | _ => exact h

/-- Once the flag is set, the participants that wait can return one after the other. -/
theorem drain_run (h : w.state.released = true) :
    ∃ es w', (barrierSys expected).Run w es w' ∧ w'.participants = 0 ∧
      returned es = w.participants := by
  induction hn : w.participants generalizing w with
  | zero => exact ⟨[], w, .nil, hn, rfl⟩
  | succ n ih =>
    have hpos : 0 < w.threads.countP Pc.participates := by
      rw [show w.threads.countP Pc.participates = n + 1 from hn]
      exact Nat.succ_pos n
    obtain ⟨pc, hm, hpc⟩ := List.countP_pos_iff.mp hpos
    obtain ⟨thread, hwait⟩ := List.mem_iff_getElem?.mp hm
    cases pc with
    | arriving notified =>
      have hset := countP_looked true hwait
      let w₁ : World := ⟨w.state, w.threads.set thread (.looked .arriving true)⟩
      have hs : (barrierSys expected).step w (.wakeArrival thread true) w₁ :=
        .wakeArrival hwait (by rw [← h]; rfl)
      have hleft : w₁.participants = n := by
        have hn : w.threads.countP Pc.participates = n + 1 := hn
        have hset : w₁.participants + 1 + 1 = w.threads.countP Pc.participates + 1 := hset
        omega
      obtain ⟨es, w', hrun, hzero, hret⟩ := @ih w₁ h hleft
      refine ⟨_, w', (Sys.Run.one hs).trans hrun, hzero, ?_⟩
      rw [returned, List.countP_append, List.countP_singleton]
      show 1 + returned es = n + 1
      omega
    | idle | awaiting => cases hpc

/-- Every participant that waits returns: it was notified, and its next step returns; and some
order of their steps lets all of them through. -/
structure Drains (expected : Usize) (w : World) : Prop where
  next : ∀ {es w'}, (barrierSys expected).Run w es w' → ∀ {thread notified},
    w'.threads[thread]? = some (.arriving notified) → notified = true ∧
      (∃ w'', (barrierSys expected).step w' (.wakeArrival thread true) w'') ∧
      ∀ {returned w''}, (barrierSys expected).step w' (.wakeArrival thread returned) w'' →
        returned = true
  all : ∃ es w', (barrierSys expected).Run w es w' ∧ w'.participants = 0 ∧
    returned es = w.participants

theorem World.Awake.drains (ha : w.Awake) (h : w.state.released = true) : Drains expected w := by
  refine ⟨fun {es w'} hrun => ?_, drain_run h⟩
  obtain ⟨ha', hr⟩ := hrun.keeps (J := fun w => w.state.released = true)
    (awake_inductive expected) (fun _ hr hs => released_step hs hr) ha h
  intro thread notified hwait
  refine ⟨?_, ⟨_, .wakeArrival hwait (by rw [← hr]; rfl)⟩, fun {returned w''} hs => ?_⟩
  · cases notified with
    | true => rfl
    | false => exact absurd (List.mem_of_getElem? hwait) (ha' hr)
  · cases hs with
    | wakeArrival _ hon => exact (Except.ok.inj (Prod.mk.inj hon).1).symm.trans hr

/-! ## Rejected arrivals -/

/-- An arrival that panics leaves the state. -/
def Intact (w : World) (e : Event) (w' : World) : Prop :=
  ∀ thread message, e = .arrive thread (.error (.panic message)) → w'.state = w.state

/-- No arrival comes after all that were declared, unless the counter is at its bound. -/
def Declared (expected : Usize) (w : World) (e : Event) (_ : World) : Prop :=
  ∀ thread reply, e = .arrive thread reply →
    ¬(expected ≤ w.state.arrived ∧ w.state.arrived.toNat < 2 ^ 64 - 1)

theorem intact_iff (hs : (barrierSys expected).step w e w') :
    Intact w e w' ↔ Declared expected w e w' := by
  cases effect hs with
  | arrived _ harr hle =>
    refine ⟨fun _ thread' reply' _ hsurplus => ?_, fun _ thread' message he => by cases he⟩
    rw [UInt64.le_iff_toNat_le] at hle hsurplus
    omega
  | @rejected thread message arrived hle harr =>
    constructor
    · rintro hintact thread' reply' - ⟨-, hlt⟩
      have hsame : arrived = w.state.arrived :=
        congrArg State.arrived (hintact thread message rfl)
      rw [hsame] at harr
      omega
    · intro hdeclared thread' message' _
      have hlast := hdeclared thread _ rfl
      push Not at hlast
      have hlast := hlast hle
      obtain ⟨rfl, -⟩ := harr.resolve_left fun harr => by
        have hlt := arrived.toNat_lt
        omega
      rfl
  | _ =>
    constructor
    · intro _ thread' reply he
      cases he
    · intro _ thread' message he
      cases he

/-- Once the counter is at the number of participants, it stays there. -/
theorem full_step (hs : (barrierSys expected).step w e w') (hd : Declared expected w e w')
    (h : w.state.arrived = expected) : w'.state.arrived = expected := by
  have hintact := (intact_iff hs).mpr hd
  cases effect hs with
  | arrived _ harr hle =>
    rw [UInt64.le_iff_toNat_le, ← h] at hle
    omega
  | @rejected thread message =>
    rw [hintact thread message rfl]
    exact h
  | _ => exact h

/-- A coordinator returned, and the counter is still where it saw it. -/
theorem coordinated_run {w₀ : World} {es : List (Event × World)}
    (h : (barrierSys expected).Run w₀ es w) (hd : Sys.Along (Declared expected) w₀ es)
    (hc : ∃ p ∈ es, p.1.coordinates = true) : w.state.arrived = expected := by
  induction h with
  | nil =>
    obtain ⟨p, hp, -⟩ := hc
    cases hp
  | @snoc es w w' e h hs ih =>
    obtain ⟨hd, hlast⟩ := h.along_snoc.mp hd
    obtain ⟨p, hp, hcoord⟩ := hc
    rcases List.mem_append.mp hp with hp | hp
    · exact full_step hs hlast (ih hd ⟨p, hp, hcoord⟩)
    · obtain rfl := List.mem_singleton.mp hp
      cases hs with
      | await _ hon | wakeAwait _ hon =>
        obtain ⟨hret, rfl⟩ := Prod.mk.inj hon
        obtain rfl := Except.ok.inj hret
        exact of_decide_eq_true hcoord
      | _ => cases hcoord

/-- In every run: the arrivals that panic leave the state, and after a coordinator returned a
release succeeds and lets all the participants through, exactly when no arrival comes after all
that were declared. -/
theorem rejected_arrivals_iff {w₀ : World} {es : List (Event × World)}
    (h₀ : (barrierSys expected).init w₀) (h : (barrierSys expected).Run w₀ es w) :
    (Sys.Along Intact w₀ es ∧ ((∃ p ∈ es, p.1.coordinates = true) →
      (release expected).on w.state = (.ok (), { w.state with released := true }) ∧
      w.participants + returned es = expected.toNat ∧
      ∀ thread w', (barrierSys expected).step w (.release thread (.ok ())) w' →
        w'.participants = w.participants ∧ Drains expected w')) ↔
    Sys.Along (Declared expected) w₀ es := by
  have halong : Sys.Along Intact w₀ es ↔ Sys.Along (Declared expected) w₀ es :=
    h.along_iff (awake_inductive expected) (fun _ hs => intact_iff hs)
      ((awake_inductive expected).init h₀)
  rw [halong]
  refine and_iff_left_of_imp fun hd hc => ?_
  have hfull := coordinated_run h hd hc
  have hcounts := counts_run h₀ h
  refine ⟨by rw [release_on, if_pos hfull], ?_, fun thread w' hs => ?_⟩
  · rw [hcounts.balance, hcounts.counter, hfull, Nat.min_self]
  · have ha := (awake_inductive expected).run h ((awake_inductive expected).init h₀)
    have ha' := ha.step hs
    cases hs with
    | release _ hon =>
      rw [release_on, if_pos hfull] at hon
      obtain ⟨-, rfl⟩ := Prod.mk.inj hon
      exact ⟨countP_notify, ha'.drains rfl⟩

/-- Two participants, a coordinator that waits for them and releases them. -/
def raceEvents : List Event :=
  [.await 2 false, .arrive 0 (.ok false), .wakeAwait 2 false, .arrive 1 (.ok false),
    .wakeArrival 0 false, .wakeAwait 2 true]

theorem rejected_arrivals_race : ∃ es w, (barrierSys 2).Run (World.start 3) es w ∧
    es.map (·.1) = raceEvents ∧
    ((Sys.Along Intact (World.start 3) es ∧ ((∃ p ∈ es, p.1.coordinates = true) →
      (release 2).on w.state = (.ok (), { w.state with released := true }) ∧
      w.participants + returned es = 2 ∧
      ∀ thread w', (barrierSys 2).step w (.release thread (.ok ())) w' →
        w'.participants = w.participants ∧ Drains 2 w')) ↔
    Sys.Along (Declared 2) (World.start 3) es) := by
  have hexec : (raceEvents.foldlM (World.exec 2) (World.start 3)).isSome = true := by
    decide +kernel
  obtain ⟨es, w, hr, he⟩ := Sys.Run.exec_isSome (S := barrierSys 2) World.exec_step hexec
  exact ⟨es, w, hr, he, rejected_arrivals_iff (init_start (by decide) 3) hr⟩

/-- One participant was declared and waits, and its coordinator has seen it. -/
def fullWorld : World := ⟨⟨1, false⟩, [.arriving false, .idle, .idle]⟩

/-- A surplus arrival panics; the counter keeps it, and the release of the coordinator panics. -/
theorem surplus_arrival_counted : ∃ es w, (barrierSys 1).Run (World.start 3) es w ∧
    (∃ p ∈ es, p.1.coordinates = true) ∧ ¬Sys.Along Intact (World.start 3) es ∧
    (release 1).on w.state = (.error (.panic "release before all arrivals"), w.state) ∧
    w.participants = 1 := by
  have hexec : [Event.arrive 0 (.ok false), .await 1 true].foldlM (World.exec 1)
      (World.start 3) = some fullWorld := by
    decide +kernel
  obtain ⟨es, hr, he⟩ := Sys.Run.exec (S := barrierSys 1) World.exec_step hexec
  have hs : (barrierSys 1).step fullWorld
      (.arrive 2 (.error (.panic "more participants arrived than declared")))
      ⟨⟨2, false⟩, fullWorld.threads⟩ :=
    .arrive rfl (by rw [arriveAndWait_on]; decide)
  obtain ⟨p, hp, hawait⟩ : ∃ p ∈ es, p.1 = .await 1 true :=
    List.mem_map.mp (by rw [he]; simp)
  refine ⟨_, _, hr.snoc hs, ⟨p, List.mem_append_left _ hp, by rw [hawait]; rfl⟩, ?_, ?_, rfl⟩
  · intro hintact
    have hsame := (hr.along_snoc.mp hintact).2 2 _ rfl
    exact absurd hsame (by decide)
  · rw [release_on, if_neg (by decide)]

end Releases

end Barrier
end Testkit
end Platform
