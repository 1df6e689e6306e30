import PlatformContracts.Testkit.Supervisor

/-!
# The check of the joined workers

`ShutdownOutcome::validate` compares sets and sizes in a fixed order.

* `validate_eq_ok`: it accepts a permutation of distinct worker IDs, with the two sizes.
* `validate_perm`: its answer does not depend on the order of the IDs, an error included.
* `reconciliation_exact`: both, and that no worker is lost, extra or joined twice.
-/

namespace Platform
namespace Testkit
namespace ShutdownOutcome

variable {outcome : ShutdownOutcome}

theorem card_eq_length {l : List String} : l.toFinset.card = l.length ↔ l.Nodup :=
  Multiset.toFinset_card_eq_card_iff_nodup (m := (l : Multiset String))

theorem validate_eq_ok : outcome.validate = .ok () ↔
    outcome.expectedWorkerIds.Nodup ∧ outcome.joinedWorkerIds.Nodup ∧
      outcome.expectedWorkerIds.Perm outcome.joinedWorkerIds ∧
      UInt64.ofNat outcome.expectedWorkerIds.length = outcome.facts.expectedWorkers ∧
      UInt64.ofNat outcome.joinedWorkerIds.length = outcome.facts.joinedWorkers := by
  unfold validate
  simp only [unit_bind_eq_ok, check_eq_ok, not_or, not_not]
  constructor
  · rintro ⟨he, hj, ⟨hexpected, hjoined⟩, hset⟩
    rw [he] at hexpected
    rw [hj] at hjoined
    rw [card_eq_length] at he hj
    exact ⟨he, hj, List.perm_of_nodup_nodup_toFinset_eq he hj hset, hexpected, hjoined⟩
  · rintro ⟨he, hj, hperm, hexpected, hjoined⟩
    rw [← card_eq_length] at he hj
    rw [← he] at hexpected
    rw [← hj] at hjoined
    exact ⟨he, hj, ⟨hexpected, hjoined⟩, List.toFinset_eq_of_perm _ _ hperm⟩

/-- A set and its size are the same for every order. -/
theorem validate_perm {expected joined : List String}
    (he : expected.Perm outcome.expectedWorkerIds) (hj : joined.Perm outcome.joinedWorkerIds) :
    validate ⟨outcome.facts, expected, joined⟩ = outcome.validate := by
  unfold validate
  dsimp only
  rw [List.toFinset_eq_of_perm _ _ he, List.toFinset_eq_of_perm _ _ hj, he.length_eq, hj.length_eq]

/-- An outcome is accepted exactly when its worker IDs are distinct, the joined ones are the
expected ones in some order, and the facts have their numbers (`UInt64.ofNat l.length` is
`l.len()`). -/
theorem reconciliation_exact (outcome : ShutdownOutcome) :
    (outcome.validate = .ok () ↔
      outcome.expectedWorkerIds.Nodup ∧ outcome.joinedWorkerIds.Nodup ∧
        outcome.expectedWorkerIds.Perm outcome.joinedWorkerIds ∧
        UInt64.ofNat outcome.expectedWorkerIds.length = outcome.facts.expectedWorkers ∧
        UInt64.ofNat outcome.joinedWorkerIds.length = outcome.facts.joinedWorkers) ∧
      (∀ expected joined : List String, expected.Perm outcome.expectedWorkerIds →
        joined.Perm outcome.joinedWorkerIds →
          validate ⟨outcome.facts, expected, joined⟩ = outcome.validate) ∧
      (outcome.validate = .ok () →
        (∀ id, outcome.joinedWorkerIds.count id = outcome.expectedWorkerIds.count id ∧
          outcome.joinedWorkerIds.count id ≤ 1) ∧
        (outcome.joinedWorkerIds.length < 2 ^ 64 →
          outcome.facts.expectedWorkers.toNat = outcome.expectedWorkerIds.length ∧
            outcome.facts.joinedWorkers.toNat = outcome.joinedWorkerIds.length)) := by
  refine ⟨validate_eq_ok, fun expected joined => validate_perm, fun h => ?_⟩
  obtain ⟨-, hj, hperm, hexpected, hjoined⟩ := validate_eq_ok.mp h
  refine ⟨fun id => ⟨hperm.symm.count_eq id, List.nodup_iff_count_le_one.mp hj id⟩, fun hfit => ?_⟩
  have hfit' : outcome.expectedWorkerIds.length < 2 ^ 64 := hperm.length_eq ▸ hfit
  rw [← hexpected, ← hjoined]
  exact ⟨UInt64.toNat_ofNat_of_lt' hfit', UInt64.toNat_ofNat_of_lt' hfit⟩

end ShutdownOutcome
end Testkit
end Platform
