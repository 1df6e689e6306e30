import PlatformContracts.Testkit.BridgeMethods

/-!
# Stable shutdown of any number of operations

The suite starts ten operations, ends them in reverse, and shuts down twice. Here with any number.

* `Started`: what is known once they are started; `Known.mapOps`: the listed ones went on.
* `stableResult`: how the suite ends; `stable_shutdown_exact`: it does, under every order of the
  steps.
-/

namespace Platform
namespace Testkit
namespace Supervisor
namespace BridgeSuite

open Std Client Client.View

variable {v : Known}

theorem workIds_nodup (count : Nat) : (workIds count).Nodup := by
  refine List.Nodup.map (fun i j he => ?_) List.nodup_range
  rw [String.append_right_inj] at he
  exact Nat.succ.inj (Nat.repr_inj.mp he)

/-- What a list of reservations leaves known: the operations `ks` were admitted. -/
structure Started (v v' : Known) (ks : List UInt64) : Prop where
  ready : ∀ k ∈ ks, ∃ id, v'.ops k = some (.at id .ready)
  other : ∀ {k}, k ∉ ks → v'.ops k = v.ops k
  nodup : ks.Nodup
  above : ∀ k ∈ ks, v.nextSequence ≤ k
  next : v'.nextSequence.toNat = v.nextSequence.toNat + ks.length
  tasks : v'.tasks = v.tasks

theorem meets_startAll (ids : List String) (hrunning : v.admission = .running)
    (hnodup : ids.Nodup) (hfresh : ∀ id ∈ ids, v.Fresh id)
    (hnext : v.nextSequence.toNat + ids.length < 2 ^ 64) :
    bridgeView.Meets v (startAll ids)
      (Returns fun ks v' => Started v v' ks ∧ ks.length = ids.length) := by
  induction ids generalizing v with
  | nil =>
    refine .ret ⟨⟨?_, fun _ => rfl, List.nodup_nil, ?_, rfl, rfl⟩, rfl⟩ <;>
      exact fun k hk => absurd hk List.not_mem_nil
  | cons id ids ih =>
    rw [List.length_cons] at hnext
    obtain ⟨hnotin, hnodup⟩ := List.nodup_cons.mp hnodup
    have hone : (v.nextSequence + 1).toNat = v.nextSequence.toNat + 1 := by
      rw [UInt64.toNat_add]
      exact Nat.mod_eq_of_lt (by show v.nextSequence.toNat + 1 < 2 ^ 64; omega)
    refine Gives.expectOk (gives_reserve hrunning (hfresh id List.mem_cons_self) (by omega)) ?_
    refine Meets.then (ih (v := v.admitted id .ready) hrunning hnodup ?_ ?_) fun ks v' h => ?_
    · intro id' hid' k known hv
      rcases update_eq_some.mp hv with ⟨-, rfl⟩ | ⟨-, hv⟩
      · rintro rfl
        exact hnotin hid'
      · exact hfresh id' (List.mem_cons_of_mem id hid') k known hv
    · show (v.nextSequence + 1).toNat + ids.length < 2 ^ 64
      omega
    · obtain ⟨hstarted, hlength⟩ := h
      have hk : v.nextSequence ∉ ks := by
        intro hmem
        have hle : v.nextSequence + 1 ≤ v.nextSequence := hstarted.above _ hmem
        rw [UInt64.le_iff_toNat_le] at hle
        omega
      have hops : ∀ {k}, k ≠ v.nextSequence → (v.admitted id .ready).ops k = v.ops k :=
        fun hne => Function.update_of_ne hne ..
      refine .ret ⟨⟨?_, ?_, List.nodup_cons.mpr ⟨hk, hstarted.nodup⟩, ?_, ?_, hstarted.tasks⟩, ?_⟩
      · intro k hmem
        rcases List.mem_cons.mp hmem with rfl | hmem
        · refine ⟨id, (hstarted.other hk).trans ?_⟩
          exact Function.update_self ..
        · exact hstarted.ready k hmem
      · intro k hmem
        rw [List.mem_cons, not_or] at hmem
        rw [hstarted.other hmem.2, hops hmem.1]
      · intro k hmem
        rcases List.mem_cons.mp hmem with rfl | hmem
        · exact UInt64.le_refl _
        · have hle : v.nextSequence + 1 ≤ k := hstarted.above k hmem
          rw [UInt64.le_iff_toNat_le] at hle ⊢
          omega
      · rw [hstarted.next, List.length_cons]
        show (v.nextSequence + 1).toNat + ks.length = _
        omega
      · rw [List.length_cons, List.length_cons, hlength]

/-- The listed operations went on. -/
def Known.mapOps (v : Known) (ks : List UInt64) (f : KnownOp → KnownOp) : Known :=
  { v with ops := fun k => if k ∈ ks then (v.ops k).map f else v.ops k }

@[simp] theorem mapOps_tasks {ks : List UInt64} {f : KnownOp → KnownOp} :
    (v.mapOps ks f).tasks = v.tasks := rfl

theorem mapOps_nil {f : KnownOp → KnownOp} : v.mapOps [] f = v := by
  simp [Known.mapOps]

theorem mapOps_cons {k : UInt64} {ks : List UInt64} {f : KnownOp → KnownOp} {known : KnownOp}
    (hv : v.ops k = some known) (hk : k ∉ ks) :
    (v.setOp k (f known)).mapOps ks f = v.mapOps (k :: ks) f := by
  unfold Known.mapOps
  congr 1
  funext k'
  by_cases he : k' = k
  · subst he
    simp [hk, hv]
  · simp [he]

theorem setOp_ne {k k' : UInt64} {known : KnownOp} (hne : k' ≠ k) :
    (v.setOp k known).ops k' = v.ops k' := Function.update_of_ne hne ..

/-- The worker was told to finish, released and exited. -/
def KnownOp.exit (known : KnownOp) : KnownOp :=
  .at known.operationId (.exited (.finish .completed))

theorem gives_releaseAll (ks : List UInt64) (hnodup : ks.Nodup)
    (hready : ∀ k ∈ ks, ∃ id, v.ops k = some (.at id .ready)) :
    bridgeView.Gives v (releaseAll ks) () (v.mapOps ks KnownOp.exit) := by
  induction ks generalizing v with
  | nil =>
    rw [mapOps_nil]
    exact .ret
  | cons k ks ih =>
    obtain ⟨hk, hnodup⟩ := List.nodup_cons.mp hnodup
    obtain ⟨id, hv⟩ := hready k List.mem_cons_self
    refine Gives.expectOk (gives_send hv (.finish .completed)) ?_
    refine Meets.expectOk (meets_waitReleased (Function.update_self ..)) fun r v' h => ?_
    obtain ⟨hr, rfl⟩ := h
    rw [setOp_setOp]
    refine .assert hr.phase (Gives.expectOk (gives_allowWorkerExit (Function.update_self ..)) ?_)
    rw [setOp_setOp, ← mapOps_cons (f := KnownOp.exit) hv hk]
    refine ih hnodup fun k' hk' => ?_
    have hne : k' ≠ k := by
      rintro rfl
      exact hk hk'
    rw [setOp_ne hne]
    exact hready k' (List.mem_cons_of_mem k hk')

def KnownOp.drop (known : KnownOp) : KnownOp := { known with handle := .dropped }

theorem gives_dropAll (ks : List UInt64) (hnodup : ks.Nodup)
    (hexited : ∀ k ∈ ks, ∃ id command, v.ops k = some (.at id (.exited command))) :
    bridgeView.Gives v (dropAll ks) () (v.mapOps ks KnownOp.drop) := by
  induction ks generalizing v with
  | nil =>
    rw [mapOps_nil]
    exact .ret
  | cons k ks ih =>
    obtain ⟨hk, hnodup⟩ := List.nodup_cons.mp hnodup
    obtain ⟨id, command, hv⟩ := hexited k List.mem_cons_self
    refine Gives.then (.request (answers_dropHandle hv rfl rfl)) ?_
    rw [← mapOps_cons (f := KnownOp.drop) hv hk]
    refine ih hnodup fun k' hk' => ?_
    have hne : k' ≠ k := by
      rintro rfl
      exact hk hk'
    rw [setOp_ne hne]
    exact hexited k' (List.mem_cons_of_mem k hk')

theorem Started.quiet {ks ks' : List UInt64} {v' : Known} (h : Started v v' ks)
    (hv : ∀ k, v.ops k = none) (hks : ∀ k, k ∈ ks → k ∈ ks') (t : Nat) (known : KnownTask) :
    ((v'.setTask t known).close.mapOps ks' KnownOp.exit).Quiet := by
  intro k known' hk
  simp only [Known.mapOps, Known.close, Known.setTask_ops] at hk
  split at hk
  · obtain ⟨known₀, -, rfl⟩ := Option.map_eq_some_iff.mp hk
    exact ⟨_, rfl⟩
  · rename_i hn
    rw [h.other fun hmem => hn (hks k hmem), hv] at hk
    cases hk

theorem Known.Quiet.drop (h : v.Quiet) (ks : List UInt64) : (v.mapOps ks KnownOp.drop).Quiet := by
  intro k known hk
  simp only [Known.mapOps] at hk
  split at hk
  · obtain ⟨known₀, hv, rfl⟩ := Option.map_eq_some_iff.mp hk
    exact h k known₀ hv
  · exact h k known hk

/-- A second shutdown gives the outcome of the first. -/
theorem meets_secondShutdown {first : ShutdownOutcome} {started : ReceiverEnd} (hq : v.Quiet)
    (hfirst : v.tasks 0 = some ⟨.returned first, started⟩) (hsecond : v.tasks 1 = none)
    (hover : ∀ t known, v.tasks t = some known → known.Over)
    (hn : first.expectedWorkerIds ≠ []) :
    bridgeView.Meets v (do
      beginShutdown 1
      let started ← waitStarted 1
      expectOk started "repeated shutdown starts"
      let joined ← wait 1
      let second ← expectOk joined "repeated shutdown returns canonical outcome"
      assertEq first second
      assertShutdownOutcome second) fun x _ => x = .ok () := by
  refine meets_begin hsecond (by decide) hover ?_
  have htask : (v.setTask 1 ⟨.started, .gone⟩).close.tasks 1 = some ⟨.started, .gone⟩ := by simp
  refine meets_wait htask hq fun second hreports => ?_
  have hsame : first = second := hreports.same (t := 0) hfirst
  rw [← hsame] at hreports ⊢
  refine .assert rfl ((gives_assertShutdownOutcome hreports.canonical hn).mono fun x v' h => ?_)
  cases x with
  | ok => rfl
  | error => exact h.elim

/-- How the suite ends with this number of operations. -/
def stableResult (count : Nat) : Except String Unit :=
  if count = 0 then .error "executed work must identify a worker"
  else if count < 10 then
    .error "ten workers must exercise order-independent worker-set accounting"
  else .ok ()

theorem meets_stableShutdown (count : Nat) (hcount : count + 1 < 2 ^ 64) :
    bridgeView.Meets v (stableShutdown count) fun x _ => x = stableResult count := by
  unfold stableShutdown
  refine Gives.then (.request (answers_deterministic 4)) ?_
  have hlength : (workIds count).length = count := by simp [workIds]
  have hstart := meets_startAll (v := Known.new 4) (workIds count) rfl (workIds_nodup count)
    (fun _ _ => nofun) (by rw [hlength]; show 1 + count < 2 ^ 64; omega)
  refine Meets.then hstart fun ks v' h => ?_
  obtain ⟨hstarted, hks⟩ := h
  have htasks : ∀ t, v'.tasks t = none := fun t => by rw [hstarted.tasks]; rfl
  refine meets_begin (htasks 0) (by decide) (fun t known hv => ?_) ?_
  · rw [htasks] at hv
    cases hv
  refine Gives.then (gives_releaseAll ks.reverse (List.nodup_reverse.mpr hstarted.nodup) ?_) ?_
  · intro k hk
    exact hstarted.ready k (List.mem_reverse.mp hk)
  have hquiet := hstarted.quiet (fun _ => rfl) (fun k hk => List.mem_reverse.mpr hk) 0
    ⟨.started, .gone⟩
  have htask : ((v'.setTask 0 ⟨.started, .gone⟩).close.mapOps ks.reverse KnownOp.exit).tasks 0 =
      some ⟨.started, .gone⟩ := by simp
  refine meets_wait htask hquiet fun first hreports => ?_
  have hexpected : first.expectedWorkerIds = workerIds count := by
    have hnext : v'.nextSequence.toNat = 1 + count := by
      rw [hstarted.next, hks, hlength]
      rfl
    rw [hreports.expected]
    show workerIds (v'.nextSequence.toNat - 1) = _
    rw [hnext, Nat.add_sub_cancel_left]
  have hperm := hreports.canonical.perm
  rw [hexpected] at hperm
  have hdiffer := workerIds_ne_iff hperm hreports.sorted
  rw [← hexpected] at hdiffer
  unfold stableResult
  by_cases hzero : count = 0
  · subst hzero
    rw [if_pos rfl, assertShutdownOutcome_empty hreports.canonical hexpected, panic_bind]
    exact .panic rfl
  have hn : first.expectedWorkerIds ≠ [] := by
    rw [hexpected, ← List.length_pos_iff, workerIds_length]
    omega
  rw [if_neg hzero]
  refine Gives.then (gives_assertShutdownOutcome hreports.canonical hn) ?_
  by_cases hten : count < 10
  · rw [if_pos hten, assert_neg (fun hne => absurd (hdiffer.mp hne) (by omega)), panic_bind]
    exact .panic rfl
  rw [if_neg hten]
  refine .assert (hdiffer.mpr (by omega)) ?_
  refine Gives.then (gives_dropAll ks hstarted.nodup fun k hk => ?_) ?_
  · obtain ⟨id, hv⟩ := hstarted.ready k hk
    refine ⟨id, .finish .completed, ?_⟩
    show (if k ∈ ks.reverse then (v'.ops k).map KnownOp.exit else v'.ops k) = _
    rw [if_pos (List.mem_reverse.mpr hk), hv]
    rfl
  have hfirst : (((v'.setTask 0 ⟨.started, .gone⟩).close.mapOps ks.reverse KnownOp.exit).setTask 0
      ⟨.returned first, .gone⟩).tasks 0 = some ⟨.returned first, .gone⟩ := by simp
  refine meets_secondShutdown (hquiet.drop ks) hfirst ?_ ?_ hn
  · simp [htasks]
  · intro t known hv
    rcases update_eq_some.mp hv with ⟨rfl, rfl⟩ | ⟨hne, hv⟩
    · exact ⟨first, rfl⟩
    · rcases update_eq_some.mp hv with ⟨rfl, -⟩ | ⟨-, hv⟩
      · exact absurd rfl hne
      · rw [htasks] at hv
        cases hv

/-- With any number of operations the suite comes to an end, whatever the order of the steps. Its
assertions hold exactly when there are ten operations or more: the IDs of fewer are in the same
order as strings. -/
theorem stable_shutdown_exact (count : Nat) (hcount : count + 1 < 2 ^ 64) (before : Usize) :
    Completes bridgeHost (fun x _ => x = stableResult count) (stableShutdown count)
      (startWorld before) :=
  (meets_stableShutdown count hcount).completes (Sees.start before)

theorem stable_shutdown_exact_nine :
    Completes bridgeHost
      (fun x _ => x =
        .error "ten workers must exercise order-independent worker-set accounting")
      (stableShutdown 9) (startWorld 4) :=
  stable_shutdown_exact 9 (by decide) 4

end BridgeSuite
end Supervisor
end Testkit
end Platform
