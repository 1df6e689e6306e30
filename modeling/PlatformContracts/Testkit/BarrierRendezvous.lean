import PlatformContracts.Testkit.BarrierPassage

/-!
# A rendezvous at the barrier

The threads of a race: as many participants as the barrier expects, which each call
`arrive_and_wait` once, and coordinators, which call `wait_until_all_arrived` and then `release`.

* `rendezvousSys expected`: these threads under any schedule, with spurious wakeups.
* `Meets`: where each thread is in its program; `meets_inductive`.
* `Rendezvous.rank`: the calls that are left, and the threads that were notified; `rank_lt`: every
  step but a spurious wakeup lowers it.
* `Meets.next`: nobody waits for a notification that went by, so some thread can go on.
* `rendezvous_completes`: so no call panics, and all the participants get through.
-/

namespace Platform
namespace Testkit
namespace Barrier

/-! ## Programs -/

/-- The calls of the barrier. -/
inductive Call where
  | arriveAndWait
  | waitUntilAllArrived
  | release
  deriving DecidableEq, Repr

/-- The thread and the call that the event begins. -/
def Event.call? : Event → Option (Nat × Call)
  | .arrive thread _ => some (thread, .arriveAndWait)
  | .await thread _ => some (thread, .waitUntilAllArrived)
  | .release thread _ => some (thread, .release)
  | .wakeArrival .. | .wakeAwait .. => none

/-- The call panicked. -/
def Event.panics : Event → Bool
  | .arrive _ (.error _) | .release _ (.error _) => true
  | _ => false

/-- The barrier under threads with programs: `todo` holds the calls that each has yet to begin. -/
structure Rendezvous where
  world : World
  todo : List (List Call)
  deriving DecidableEq, Repr

namespace Rendezvous

/-- Each thread makes its calls in order. -/
inductive Step (expected : Usize) (r : Rendezvous) : Event → Rendezvous → Prop
  | call {e : Event} {w : World} {thread : Nat} {call : Call} {rest : List Call} :
      e.call? = some (thread, call) → r.todo[thread]? = some (call :: rest) →
      (barrierSys expected).step r.world e w → Step expected r e ⟨w, r.todo.set thread rest⟩
  | wake {e : Event} {w : World} : e.call? = none → (barrierSys expected).step r.world e w →
      Step expected r e ⟨w, r.todo⟩

def participant : List Call := [.arriveAndWait]

def coordinator : List Call := [.waitUntilAllArrived, .release]

/-- The expected participants and at least one coordinator, before the first call. -/
structure Init (expected : Usize) (r : Rendezvous) : Prop where
  world : (barrierSys expected).init r.world
  length : r.todo.length = r.world.threads.length
  programs : ∀ calls ∈ r.todo, calls = participant ∨ calls = coordinator
  participants : r.todo.count participant = expected.toNat
  coordinated : coordinator ∈ r.todo

/-- All the threads have returned from all their calls. -/
def Done (r : Rendezvous) : Prop :=
  (∀ pc ∈ r.world.threads, pc = .idle) ∧ ∀ calls ∈ r.todo, calls = []

/-- No wakeup without a notification. -/
def Prompted (r : Rendezvous) (e : Event) (_ : Rendezvous) : Prop :=
  match e with
  | .wakeArrival thread _ => r.world.threads[thread]? = some (.arriving true)
  | .wakeAwait thread _ => r.world.threads[thread]? = some (.awaiting true)
  | _ => True

end Rendezvous

def rendezvousSys (expected : Usize) : Sys Rendezvous Event where
  init := Rendezvous.Init expected
  step := Rendezvous.Step expected

/-! ## Where the threads are -/

open Rendezvous

/-- Where a thread is in its program. -/
inductive Stage (expected : Usize) (s : State) : Pc → List Call → Prop
  | before : Stage expected s .idle participant
  | inside (notified : Bool) : Stage expected s (.arriving notified) []
  | after : Stage expected s .idle []
  | coordinates : Stage expected s .idle coordinator
  | awaiting (notified : Bool) : Stage expected s (.awaiting notified) [.release]
  /-- `wait_until_all_arrived` returned. -/
  | ready : s.arrived = expected → Stage expected s .idle [.release]

/-- The threads go through their programs, and the waiting ones will be notified. -/
structure Meets (expected : Usize) (r : Rendezvous) : Prop where
  length : r.todo.length = r.world.threads.length
  stage : ∀ {thread : Nat} {pc calls}, r.world.threads[thread]? = some pc →
    r.todo[thread]? = some calls → Stage expected r.world.state pc calls
  counter : r.world.state.arrived.toNat + r.todo.count participant = expected.toNat
  awake : r.world.Awake
  awaited : r.world.state.arrived = expected → Pc.awaiting false ∉ r.world.threads
  opened : r.world.state.released = true ∨ ∃ calls ∈ r.todo, .release ∈ calls

/-- What a step of a thread with a program does. -/
inductive Rendezvous.Effect (expected : Usize) (r : Rendezvous) : Event → Rendezvous → Prop
  | arrive {thread : Nat} {arrived : Usize} :
      r.world.threads[thread]? = some .idle → r.todo[thread]? = some participant →
      arrived.toNat = r.world.state.arrived.toNat + 1 → r.world.state.arrived ≠ expected →
      Effect expected r (.arrive thread (.ok r.world.state.released))
        ⟨⟨⟨arrived, r.world.state.released⟩, (r.world.threads.map Pc.notify).set thread
          (.looked .arriving r.world.state.released)⟩, r.todo.set thread []⟩
  | await {thread : Nat} {returned : Bool} :
      r.world.threads[thread]? = some .idle → r.todo[thread]? = some coordinator →
      returned = decide (r.world.state.arrived = expected) →
      Effect expected r (.await thread returned)
        ⟨⟨r.world.state, r.world.threads.set thread (.looked .awaiting returned)⟩,
          r.todo.set thread [.release]⟩
  | release {thread : Nat} :
      r.world.threads[thread]? = some .idle → r.todo[thread]? = some [.release] →
      r.world.state.arrived = expected →
      Effect expected r (.release thread (.ok ()))
        ⟨⟨{ r.world.state with released := true }, r.world.threads.map Pc.notify⟩,
          r.todo.set thread []⟩
  | wakeArrival {thread : Nat} {notified : Bool} :
      r.world.threads[thread]? = some (.arriving notified) →
      Effect expected r (.wakeArrival thread r.world.state.released)
        ⟨⟨r.world.state, r.world.threads.set thread
          (.looked .arriving r.world.state.released)⟩, r.todo⟩
  | wakeAwait {thread : Nat} {notified returned : Bool} :
      r.world.threads[thread]? = some (.awaiting notified) →
      returned = decide (r.world.state.arrived = expected) →
      Effect expected r (.wakeAwait thread returned)
        ⟨⟨r.world.state, r.world.threads.set thread (.looked .awaiting returned)⟩, r.todo⟩

section Steps

variable {expected : Usize} {w w' : World} {r r' : Rendezvous} {e : Event}

/-- A thread that begins a call was in none. -/
theorem idle_of_call {thread : Nat} {call : Call} (hs : (barrierSys expected).step w e w')
    (hc : e.call? = some (thread, call)) : w.threads[thread]? = some .idle := by
  cases hs with
  | arrive hidle | await hidle | release hidle =>
    obtain ⟨rfl, -⟩ := Prod.mk.inj (Option.some.inj hc)
    exact hidle
  | wakeArrival | wakeAwait => cases hc

theorem Meets.not_full (h : Meets expected r) (hm : participant ∈ r.todo) :
    r.world.state.arrived.toNat < expected.toNat := by
  have := List.count_pos_iff.mpr hm
  have := h.counter
  omega

theorem Meets.effect (h : Meets expected r) (hs : (rendezvousSys expected).step r e r') :
    r.Effect expected e r' := by
  cases hs with
  | call hc ht hs =>
    have hidle := idle_of_call hs hc
    have hstage := h.stage hidle ht
    cases Barrier.effect hs with
    | arrived _ harr =>
      obtain ⟨rfl, rfl⟩ := Prod.mk.inj (Option.some.inj hc)
      cases hstage
      have hlt := h.not_full (List.mem_of_getElem? ht)
      exact .arrive hidle ht harr fun he => by rw [he] at hlt; exact Nat.lt_irrefl _ hlt
    | rejected hle =>
      obtain ⟨rfl, rfl⟩ := Prod.mk.inj (Option.some.inj hc)
      cases hstage
      exact absurd (UInt64.le_iff_toNat_le.mp hle)
        (Nat.not_le.mpr (h.not_full (List.mem_of_getElem? ht)))
    | await _ hret =>
      obtain ⟨rfl, rfl⟩ := Prod.mk.inj (Option.some.inj hc)
      cases hstage
      exact .await hidle ht hret
    | released hfull =>
      obtain ⟨rfl, rfl⟩ := Prod.mk.inj (Option.some.inj hc)
      cases hstage
      exact .release hidle ht hfull
    | releaseRejected hne =>
      obtain ⟨rfl, rfl⟩ := Prod.mk.inj (Option.some.inj hc)
      cases hstage with
      | ready hfull => exact absurd hfull hne
    | wakeArrival | wakeAwait => cases hc
  | wake hc hs =>
    cases Barrier.effect hs with
    | wakeArrival hwait => exact .wakeArrival hwait
    | wakeAwait hwait hret => exact .wakeAwait hwait hret
    | arrived | rejected | await | released | releaseRejected => cases hc

/-! ## A step keeps the threads together -/

theorem Stage.keep {s s' : State} {pc : Pc} {calls : List Call} (h : Stage expected s pc calls)
    (hs : s.arrived = expected → s'.arrived = expected) : Stage expected s' pc calls := by
  cases h with
  | ready hfull => exact .ready (hs hfull)
  | before => exact .before
  | inside => exact .inside _
  | after => exact .after
  | coordinates => exact .coordinates
  | awaiting => exact .awaiting _

theorem Stage.notify {s : State} {pc : Pc} {calls : List Call} (h : Stage expected s pc calls) :
    Stage expected s pc.notify calls := by
  cases h with
  | inside => exact .inside _
  | awaiting => exact .awaiting _
  | before => exact .before
  | after => exact .after
  | coordinates => exact .coordinates
  | ready hfull => exact .ready hfull

theorem Stage.arrived {s : State} (returned : Bool) :
    Stage expected s (.looked .arriving returned) [] := by
  cases returned with
  | true => exact .after
  | false => exact .inside false

theorem Stage.awaited {s : State} {returned : Bool}
    (h : returned = decide (s.arrived = expected)) :
    Stage expected s (.looked .awaiting returned) [.release] := by
  cases returned with
  | true => exact .ready (of_decide_eq_true h.symm)
  | false => exact .awaiting false

theorem getElem?_set_cases {α : Type} {l : List α} {i j : Nat} {a b : α}
    (h : (l.set i a)[j]? = some b) : (i = j ∧ b = a) ∨ (i ≠ j ∧ l[j]? = some b) := by
  by_cases hij : i = j
  · subst hij
    rw [List.getElem?_set_self'] at h
    obtain ⟨_, -, rfl⟩ := Option.map_eq_some_iff.mp h
    exact .inl ⟨rfl, rfl⟩
  · rw [List.getElem?_set_ne hij] at h
    exact .inr ⟨hij, h⟩

theorem countP_set_add {α : Type} {p : α → Bool} {l : List α} {i : Nat} {a b : α}
    (h : l[i]? = some a) : (l.set i b).countP p + (p a).toNat = l.countP p + (p b).toNat := by
  obtain ⟨hi, rfl⟩ := List.getElem?_eq_some_iff.mp h
  rw [List.countP_set hi]
  cases hp : p l[i] with
  | false => cases p b <;> simp
  | true =>
    have hpos : 0 < l.countP p := List.countP_pos_iff.mpr ⟨_, List.getElem_mem hi, hp⟩
    cases p b <;> simp only [if_true, Bool.false_eq_true, if_false, Bool.toNat_true,
      Bool.toNat_false] <;> omega

/-- A program with no arrival in it becomes another such, or an arrival is made. -/
theorem count_participant_set {todo : List (List Call)} {thread : Nat} {calls : List Call}
    (rest : List Call) (h : todo[thread]? = some calls) (hr : rest ≠ participant) :
    (todo.set thread rest).count participant + (calls == participant).toNat =
      todo.count participant := by
  have hset := countP_set_add (p := (· == participant)) (b := rest) h
  rwa [beq_eq_false_iff_ne.mpr hr, Bool.toNat_false, Nat.add_zero] at hset

theorem exists_release_set {todo : List (List Call)} {thread : Nat} {calls rest : List Call}
    (h : todo[thread]? = some calls) (hr : .release ∈ calls → .release ∈ rest)
    (hex : ∃ calls ∈ todo, Call.release ∈ calls) :
    ∃ calls ∈ todo.set thread rest, Call.release ∈ calls := by
  obtain ⟨calls', hm, hrel⟩ := hex
  obtain ⟨i, hi⟩ := List.mem_iff_getElem?.mp hm
  by_cases hit : thread = i
  · subst hit
    obtain rfl := Option.some.inj (h.symm.trans hi)
    exact ⟨rest, List.mem_set (List.getElem?_eq_some_iff.mp h).1 rest, hr hrel⟩
  · exact ⟨calls', List.mem_of_getElem? ((List.getElem?_set_ne hit).trans hi), hrel⟩

/-- The stages after the place of one thread was set. -/
theorem stage_set {s : State} {threads : List Pc} {todo : List (List Call)} {thread : Nat}
    {pc₀ : Pc}
    (hown : ∀ {calls}, todo[thread]? = some calls → Stage expected s pc₀ calls)
    (hother : ∀ {i : Nat} {pc calls}, thread ≠ i → threads[i]? = some pc →
      todo[i]? = some calls → Stage expected s pc calls)
    {i : Nat} {pc : Pc} {calls : List Call} (hpc : (threads.set thread pc₀)[i]? = some pc)
    (hcalls : todo[i]? = some calls) : Stage expected s pc calls := by
  rcases getElem?_set_cases hpc with ⟨rfl, rfl⟩ | ⟨hne, hpc⟩
  · exact hown hcalls
  · exact hother hne hpc hcalls

theorem awaiting_notMem_notify {threads : List Pc} :
    Pc.awaiting false ∉ threads.map Pc.notify := by
  rw [List.mem_map]
  rintro ⟨pc, -, h⟩
  cases pc <;> cases h

theorem awaiting_notMem_set {threads : List Pc} (h : Pc.awaiting false ∉ threads) {thread : Nat}
    {pc : Pc} (hpc : pc ≠ .awaiting false) : Pc.awaiting false ∉ threads.set thread pc := fun hm =>
  (List.mem_or_eq_of_mem_set hm).elim h fun he => hpc he.symm

theorem looked_arriving_ne {notified : Bool} (returned : Bool) :
    Pc.looked .arriving returned ≠ .awaiting notified := by
  cases returned <;> simp [Pc.looked]

theorem looked_awaiting_true {s : State} {returned : Bool}
    (h : returned = decide (s.arrived = expected)) (hfull : s.arrived = expected) :
    Pc.looked .awaiting returned ≠ .awaiting false := by
  rw [h, decide_eq_true hfull]
  simp [Pc.looked]

theorem Rendezvous.Step.world (hs : (rendezvousSys expected).step r e r') :
    (barrierSys expected).step r.world e r'.world := by
  cases hs with
  | call _ _ hs | wake _ hs => exact hs

theorem Meets.step (h : Meets expected r) (hs : (rendezvousSys expected).step r e r') :
    Meets expected r' := by
  have hawake := h.awake.step (Step.world hs)
  cases h.effect hs with
  | @arrive thread arrived hidle ht harr hne =>
    have hset : (r.todo.set thread [])[thread]? = some [] :=
      List.getElem?_set_self (List.getElem?_eq_some_iff.mp ht).1
    refine ⟨by simp [h.length], stage_set (fun hcalls => ?_) fun hi hpc hcalls => ?_, ?_, hawake,
      fun _ => awaiting_notMem_set awaiting_notMem_notify (looked_arriving_ne _),
      h.opened.imp id (exists_release_set ht (by simp [participant]))⟩
    · obtain rfl := Option.some.inj (hset.symm.trans hcalls)
      exact .arrived _
    · rw [List.getElem?_set_ne hi] at hcalls
      rw [List.getElem?_map] at hpc
      obtain ⟨pc, hwas, rfl⟩ := Option.map_eq_some_iff.mp hpc
      exact (h.stage hwas hcalls).notify.keep fun hfull => absurd hfull hne
    · have hcount := count_participant_set [] ht (by simp [participant])
      have := h.counter
      simp only [beq_self_eq_true, Bool.toNat_true] at hcount
      dsimp only
      omega
  | @await thread returned hidle ht hret =>
    have hset : (r.todo.set thread [.release])[thread]? = some [.release] :=
      List.getElem?_set_self (List.getElem?_eq_some_iff.mp ht).1
    refine ⟨by simp [h.length], stage_set (fun hcalls => ?_) fun hi hpc hcalls => ?_, ?_, hawake,
      fun hfull => awaiting_notMem_set (h.awaited hfull) (looked_awaiting_true hret hfull),
      h.opened.imp id (exists_release_set ht (by simp))⟩
    · obtain rfl := Option.some.inj (hset.symm.trans hcalls)
      exact .awaited hret
    · exact h.stage hpc ((List.getElem?_set_ne hi).symm.trans hcalls)
    · have hcount := count_participant_set [.release] ht (by simp [participant])
      have hcoord : (coordinator == participant) = false := rfl
      rw [hcoord, Bool.toNat_false, Nat.add_zero] at hcount
      rw [hcount]
      exact h.counter
  | @release thread hidle ht hfull =>
    have hset : (r.todo.set thread [])[thread]? = some [] :=
      List.getElem?_set_self (List.getElem?_eq_some_iff.mp ht).1
    refine ⟨by simp [h.length], fun {i pc calls} hpc hcalls => ?_, ?_, hawake,
      fun _ => awaiting_notMem_notify, .inl rfl⟩
    · rw [List.getElem?_map] at hpc
      obtain ⟨pc, hwas, rfl⟩ := Option.map_eq_some_iff.mp hpc
      by_cases hi : thread = i
      · subst hi
        obtain rfl := Option.some.inj (hidle.symm.trans hwas)
        obtain rfl := Option.some.inj (hset.symm.trans hcalls)
        exact .after
      · exact (h.stage hwas ((List.getElem?_set_ne hi).symm.trans hcalls)).notify.keep id
    · have hcount := count_participant_set [] ht (by simp [participant])
      have hrel : ([Call.release] == participant) = false := rfl
      rw [hrel, Bool.toNat_false, Nat.add_zero] at hcount
      rw [hcount]
      exact h.counter
  | @wakeArrival thread notified hwait =>
    refine ⟨by simp [h.length], stage_set (fun hcalls => ?_) fun _ => h.stage, h.counter, hawake,
      fun hfull => awaiting_notMem_set (h.awaited hfull) (looked_arriving_ne _), h.opened⟩
    cases h.stage hwait hcalls
    exact .arrived _
  | @wakeAwait thread notified returned hwait hret =>
    refine ⟨by simp [h.length], stage_set (fun hcalls => ?_) fun _ => h.stage, h.counter, hawake,
      fun hfull => awaiting_notMem_set (h.awaited hfull) (looked_awaiting_true hret hfull),
      h.opened⟩
    cases h.stage hwait hcalls
    exact .awaited hret

theorem meets_init (h : (rendezvousSys expected).init r) : Meets expected r := by
  have hstate := init_state h.world
  refine ⟨h.length, fun hpc hcalls => ?_, ?_, fun hr => ?_, fun _ hm => ?_, .inr ?_⟩
  · obtain rfl := h.world.2 _ (List.mem_of_getElem? hpc)
    rcases h.programs _ (List.mem_of_getElem? hcalls) with rfl | rfl
    · exact .before
    · exact .coordinates
  · rw [hstate, h.participants]
    exact Nat.zero_add _
  · rw [hstate] at hr
    cases hr
  · cases h.world.2 _ hm
  · exact ⟨coordinator, h.coordinated, by simp [coordinator]⟩

theorem meets_inductive (expected : Usize) :
    (rendezvousSys expected).Inductive (Meets expected) where
  init := meets_init
  step := Meets.step

end Steps

/-! ## The way to the end -/

def Pc.notified : Pc → Bool
  | .idle => false
  | .arriving notified | .awaiting notified => notified

/-- The calls that are left, each of which may notify all the threads, and those notified now. -/
def Rendezvous.rank (r : Rendezvous) : Nat :=
  (r.world.threads.length + 1) * r.todo.flatten.length + r.world.threads.countP Pc.notified

section Runs

variable {expected : Usize} {r₀ r r' : Rendezvous} {e : Event} {es : List (Event × Rendezvous)}

theorem length_flatten_set {todo : List (List Call)} {thread : Nat} {call : Call}
    {rest : List Call} (h : todo[thread]? = some (call :: rest)) :
    (todo.set thread rest).flatten.length + 1 = todo.flatten.length := by
  induction todo generalizing thread with
  | nil => cases h
  | cons calls todo ih =>
    cases thread with
    | zero =>
      obtain rfl := Option.some.inj h
      simp only [List.set_cons_zero, List.flatten_cons, List.length_append, List.length_cons]
      omega
    | succ thread =>
      have hrec := ih h
      simp only [List.set_cons_succ, List.flatten_cons, List.length_append]
      omega

/-- A call lowers the rank, whomever it notifies. -/
theorem rank_lt_of_call {w : World} {thread : Nat} {call : Call} {rest : List Call}
    (hlen : w.threads.length = r.world.threads.length)
    (ht : r.todo[thread]? = some (call :: rest)) :
    Rendezvous.rank ⟨w, r.todo.set thread rest⟩ < r.rank := by
  have hcount : w.threads.countP Pc.notified ≤ w.threads.length := List.countP_le_length
  rw [Rendezvous.rank, Rendezvous.rank, ← length_flatten_set ht, Nat.mul_succ, hlen]
  dsimp only
  omega

theorem rank_lt_of_wake {s : State} {thread : Nat} {pc pc' : Pc}
    (h : r.world.threads[thread]? = some pc) (hn : pc.notified = true)
    (hn' : pc'.notified = false) :
    Rendezvous.rank ⟨⟨s, r.world.threads.set thread pc'⟩, r.todo⟩ < r.rank := by
  have hset := countP_set_add (p := Pc.notified) (b := pc') h
  rw [hn, hn', Bool.toNat_true, Bool.toNat_false] at hset
  rw [Rendezvous.rank, Rendezvous.rank, List.length_set]
  dsimp only
  omega

theorem notified_looked (wait : Bool → Pc) (hw : (wait false).notified = false)
    (returned : Bool) : (Pc.looked wait returned).notified = false := by
  cases returned with
  | true => rfl
  | false => exact hw

theorem Meets.rank_lt (h : Meets expected r) (hs : (rendezvousSys expected).step r e r')
    (hp : Prompted r e r') : r'.rank < r.rank := by
  cases h.effect hs with
  | arrive _ ht | await _ ht | release _ ht => exact rank_lt_of_call (by simp) ht
  | wakeArrival => exact rank_lt_of_wake hp rfl (notified_looked _ rfl _)
  | wakeAwait => exact rank_lt_of_wake hp rfl (notified_looked _ rfl _)

theorem Meets.pc {thread : Nat} {calls : List Call} (h : Meets expected r)
    (ht : r.todo[thread]? = some calls) :
    ∃ pc, r.world.threads[thread]? = some pc ∧ Stage expected r.world.state pc calls := by
  have hlt := (List.getElem?_eq_some_iff.mp ht).1
  rw [h.length] at hlt
  exact ⟨_, List.getElem?_eq_getElem hlt, h.stage (List.getElem?_eq_getElem hlt) ht⟩

/-- Until all have returned, a thread can begin a call, or was notified. -/
theorem Meets.next (h : Meets expected r) (hd : ¬r.Done) :
    ∃ e r', (rendezvousSys expected).step r e r' ∧ Prompted r e r' := by
  by_cases harr : participant ∈ r.todo
  · obtain ⟨thread, ht⟩ := List.mem_iff_getElem?.mp harr
    obtain ⟨pc, hpc, hstage⟩ := h.pc ht
    cases hstage
    exact ⟨.arrive thread _, _, .call rfl ht (.arrive hpc rfl), trivial⟩
  have hfull : r.world.state.arrived = expected := by
    have hcounter := h.counter
    rw [List.count_eq_zero.mpr harr, Nat.add_zero] at hcounter
    exact UInt64.toNat_inj.mp hcounter
  by_cases hleft : ∃ calls ∈ r.todo, calls ≠ []
  · obtain ⟨calls, hm, hne⟩ := hleft
    obtain ⟨thread, ht⟩ := List.mem_iff_getElem?.mp hm
    obtain ⟨pc, hpc, hstage⟩ := h.pc ht
    cases hstage with
    | before => exact absurd hm harr
    | inside | after => exact absurd rfl hne
    | coordinates => exact ⟨.await thread _, _, .call rfl ht (.await hpc rfl), trivial⟩
    | awaiting notified =>
      cases notified with
      | true => exact ⟨.wakeAwait thread _, _, .wake rfl (.wakeAwait hpc rfl), hpc⟩
      | false => exact absurd (List.mem_of_getElem? hpc) (h.awaited hfull)
    | ready => exact ⟨.release thread _, _, .call rfl ht (.release hpc rfl), trivial⟩
  · -- The programs are over: the flag is set, and who waits was notified.
    have hnil : ∀ calls ∈ r.todo, calls = [] := by
      simpa using hleft
    have hrel : r.world.state.released = true := h.opened.resolve_right fun ⟨calls, hm, hc⟩ => by
      rw [hnil calls hm] at hc
      cases hc
    have hwait : ∃ pc ∈ r.world.threads, pc ≠ .idle := by
      by_contra hidle
      exact hd ⟨by simpa using hidle, hnil⟩
    obtain ⟨pc, hm, hne⟩ := hwait
    obtain ⟨thread, hpc⟩ := List.mem_iff_getElem?.mp hm
    have hlt := (List.getElem?_eq_some_iff.mp hpc).1
    rw [← h.length] at hlt
    have ht := List.getElem?_eq_getElem hlt
    have hstage := h.stage hpc ht
    rw [hnil _ (List.mem_of_getElem? ht)] at hstage
    cases hstage with
    | after => exact absurd rfl hne
    | inside notified =>
      cases notified with
      | true => exact ⟨.wakeArrival thread _, _, .wake rfl (.wakeArrival hpc rfl), hpc⟩
      | false => exact absurd hm (h.awake hrel)

/-- The events of the barrier in a run of the threads. -/
def barrierEvents (es : List (Event × Rendezvous)) : List (Event × World) :=
  es.map fun p => (p.1, p.2.world)

/-- At the end as many calls of `arrive_and_wait` have returned as were expected. -/
theorem returned_done (h₀ : (rendezvousSys expected).init r₀)
    (h : (rendezvousSys expected).Run r₀ es r) (hd : r.Done) :
    returned (barrierEvents es) = expected.toNat := by
  have hm := (meets_inductive expected).run h (meets_init h₀)
  have hcounts := counts_run h₀.world (h.map (f := Rendezvous.world) Step.world)
  have hwait : r.world.participants = 0 := List.countP_eq_zero.mpr fun pc hpc => by
    rw [hd.1 pc hpc]
    simp [Pc.participates]
  have hall : r.todo.count participant = 0 := List.count_eq_zero.mpr fun hmem => by
    cases hd.2 _ hmem
  have hcounter := hm.counter
  rw [hall, Nat.add_zero] at hcounter
  have hbalance := hcounts.balance
  rw [hwait, Nat.zero_add, hcounts.counter, hcounter, Nat.min_self] at hbalance
  exact hbalance

/-- In every run of the expected participants and their coordinators no call panics. From where
they are, they take boundedly many steps that are not spurious wakeups, some such step is possible
until all have returned from all their calls, and then all participants have passed. -/
theorem rendezvous_completes (h₀ : (rendezvousSys expected).init r₀)
    (h : (rendezvousSys expected).Run r₀ es r) :
    (∀ p ∈ es, p.1.panics = false) ∧
    (∀ es' r', (rendezvousSys expected).Run r es' r' → Sys.Along Prompted r es' →
      es'.length ≤ r.rank) ∧
    (r.Done ∨ ∃ e r', (rendezvousSys expected).step r e r' ∧ Prompted r e r') ∧
    (∃ es' r', (rendezvousSys expected).Run r es' r' ∧ Sys.Along Prompted r es' ∧ r'.Done) ∧
    (r.Done → returned (barrierEvents es) = expected.toNat) := by
  have hI := meets_inductive expected
  have hm := hI.run h (meets_init h₀)
  have hstep : ∀ {r e r'}, Meets expected r → (rendezvousSys expected).step r e r' →
      Prompted r e r' → Meets expected r' ∧ r'.rank < r.rank :=
    fun hm hs hp => ⟨hm.step hs, hm.rank_lt hs hp⟩
  refine ⟨fun ⟨e, r₂⟩ hp => ?_, fun es' r' hr hp => ?_, ?_, ?_, returned_done h₀ h⟩
  · obtain ⟨es₁, es₂, r₁, -, hr, hs, -⟩ := h.of_mem hp
    have hm₁ := hI.run hr (meets_init h₀)
    cases hm₁.effect hs <;> rfl
  · have hle := (hr.length_le_measure hstep hp hm).2
    omega
  · by_cases hd : r.Done
    · exact .inl hd
    · exact .inr (hm.next hd)
  · exact Sys.exists_run_of_measure hstep Meets.next hm

/-- Two participants and a coordinator, before their first calls. -/
def raceStart : Rendezvous := ⟨World.start 3, [participant, participant, coordinator]⟩

theorem init_raceStart : (rendezvousSys 2).init raceStart where
  world := init_start (by decide) 3
  length := rfl
  programs := by decide
  participants := by decide
  coordinated := by decide

theorem rendezvous_completes_race : raceStart.rank = 16 ∧
    (∀ es' r', (rendezvousSys 2).Run raceStart es' r' → Sys.Along Prompted raceStart es' →
      es'.length ≤ raceStart.rank) ∧
    ∃ es' r', (rendezvousSys 2).Run raceStart es' r' ∧ Sys.Along Prompted raceStart es' ∧
      r'.Done :=
  have h := rendezvous_completes init_raceStart .nil
  ⟨by decide, h.2.1, h.2.2.2.1⟩

end Runs

end Barrier
end Testkit
end Platform
