import PlatformContracts.Lib.Greedy
import PlatformContracts.Testkit.ReferencePublication

/-!
# Runs of a fault script

* `hits`: a sequence of calls of `FaultScript::hit`; `fired`, `firedAt`: the points of the calls
  that returned an error, and the positions of these calls.
* `hits_firedAt`, `hits_script`: the calls that fail are the greedy match of the script, and each
  takes its point out of it.
* `faults_greedy`: the fired points are the longest prefix of the script that the calls have as a
  subsequence, each fired as early as it can be.
-/

namespace Platform
namespace Testkit
namespace FaultScript

/-- `FaultScript::new`. -/
def new (points : List FaultPoint) : FaultScript := ⟨points⟩

def remaining (script : FaultScript) : Nat := script.points.length

/-- The answers of the calls, and the script after them. -/
def hits (script : FaultScript) :
    List FaultPoint → List (Except InjectedFault Unit) × FaultScript
  | [] => ([], script)
  | point :: calls =>
    let (answer, script) := script.hit point
    let (answers, script) := script.hits calls
    (answer :: answers, script)

def injected : Except InjectedFault Unit → Option FaultPoint
  | .error fault => some fault.point
  | .ok () => none

/-- The points of the calls that returned an error. -/
def fired (answers : List (Except InjectedFault Unit)) : List FaultPoint :=
  answers.filterMap injected

/-- The positions of the calls that returned an error. -/
def firedAt (answers : List (Except InjectedFault Unit)) : List Nat :=
  answers.findIdxs fun answer => (injected answer).isSome

variable {script : FaultScript} {point : FaultPoint} {calls : List FaultPoint}
  {answers : List (Except InjectedFault Unit)}

theorem firedAt_cons (answer : Except InjectedFault Unit) :
    firedAt (answer :: answers) = if (injected answer).isSome
      then 0 :: (firedAt answers).map (· + 1) else (firedAt answers).map (· + 1) := by
  rw [firedAt, List.findIdxs_cons, List.findIdxs_start (s := 0 + 1)]
  rfl

/-- A call fires the front of the script, or leaves the script. -/
theorem hit_cases (script : FaultScript) (point : FaultPoint) :
    (∃ points, script = ⟨point :: points⟩ ∧
      script.hit point = (.error ⟨point⟩, ⟨points⟩)) ∨
    script.points.head? ≠ some point ∧ script.hit point = (.ok (), script) := by
  by_cases h : script.points.head? = some point
  · obtain ⟨points, hp⟩ := List.head?_eq_some_iff.mp h
    obtain ⟨_⟩ := script
    obtain rfl := hp
    exact .inl ⟨points, rfl, if_pos rfl⟩
  · exact .inr ⟨h, if_neg h⟩

theorem hits_firedAt (script : FaultScript) (calls : List FaultPoint) :
    firedAt (script.hits calls).1 = greedy script.points calls := by
  induction calls generalizing script with
  | nil => rfl
  | cons point calls ih =>
    unfold hits greedy
    obtain ⟨points, rfl, hhit⟩ | ⟨hhead, hhit⟩ := hit_cases script point
    · rw [hhit]
      dsimp only
      have hsome : (injected (.error ⟨point⟩)).isSome = true := rfl
      rw [firedAt_cons, ih, if_pos hsome, List.head?_cons, if_pos rfl]
      rfl
    · rw [hhit]
      dsimp only
      rw [firedAt_cons, ih, if_neg hhead, if_neg (by simp [injected])]

theorem length_hits : (script.hits calls).1.length = calls.length := by
  induction calls generalizing script with
  | nil => rfl
  | cons point calls ih => exact congrArg Nat.succ ih

/-- The points that were fired come first in the script, and the others are left. -/
theorem hits_script (script : FaultScript) (calls : List FaultPoint) :
    fired (script.hits calls).1 ++ (script.hits calls).2.points = script.points := by
  induction calls generalizing script with
  | nil => rfl
  | cons point calls ih =>
    unfold hits
    obtain ⟨points, rfl, hhit⟩ | ⟨-, hhit⟩ := hit_cases script point
    · rw [hhit]
      exact congrArg (point :: ·) (ih ⟨points⟩)
    · rw [hhit]
      exact ih script

theorem length_fired : (fired answers).length = (firedAt answers).length := by
  rw [fired, firedAt, List.length_filterMap_eq_countP, List.length_findIdxs]

theorem hits_fired (script : FaultScript) (calls : List FaultPoint) :
    fired (script.hits calls).1 = script.points.take (greedy script.points calls).length := by
  rw [← hits_firedAt, ← length_fired]
  exact List.prefix_iff_eq_take.mp ⟨_, hits_script script calls⟩

/-- What a sequence of calls did: the script was `points`, and is `script`. -/
structure FiredGreedily (points calls : List FaultPoint)
    (answers : List (Except InjectedFault Unit)) (script : FaultScript) : Prop where
  answered : answers.length = calls.length
  rest : fired answers ++ script.points = points
  subsequence : (fired answers).Sublist calls
  longest : ∀ ps, ps <+: points → ps.Sublist calls → ps <+: fired answers
  /-- The calls that failed are calls of the fired points. -/
  positions : Embeds points calls (firedAt answers) ∧
    (firedAt answers).length = (fired answers).length
  /-- No other positions have a point of the script earlier, or more points. -/
  earliest : ∀ js, Embeds points calls js → NoLater (firedAt answers) js
  count : script.remaining + (fired answers).length = points.length

/-- The calls fire the longest prefix of the script that is a subsequence of theirs, each point at
the earliest call that can have it, and leave the rest of the script. -/
theorem faults_greedy (points calls : List FaultPoint) :
    FiredGreedily points calls ((new points).hits calls).1 ((new points).hits calls).2 := by
  have hfired := hits_fired (new points) calls
  have hfiredAt := hits_firedAt (new points) calls
  have hrest := hits_script (new points) calls
  obtain ⟨hsub, hlongest⟩ := greedy_longest points calls
  constructor
  case answered => exact length_hits
  case rest => exact hrest
  case subsequence =>
    rw [hfired]
    exact hsub
  case longest =>
    rw [hfired]
    exact hlongest
  case positions =>
    rw [hfiredAt]
    exact ⟨embeds_greedy, by rw [length_fired, hfiredAt]⟩
  case earliest =>
    rw [hfiredAt]
    exact fun js => greedy_noLater
  case count =>
    have hlen := congrArg List.length hrest
    rw [List.length_append, Nat.add_comm] at hlen
    exact hlen

example : (new [.afterAdmission, .beforeTerminal]).hits
      [.beforeAdmission, .afterAdmission, .afterAdmission] =
    ([.ok (), .error ⟨.afterAdmission⟩, .ok ()], ⟨[.beforeTerminal]⟩) := rfl

end FaultScript
end Testkit
end Platform
