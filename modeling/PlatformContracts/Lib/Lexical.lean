import Mathlib

/-!
# Lexical resolution of paths

A place in a tree is the list of the names on the way to it. A path is resolved against a place
without a look at the tree: each of its components pushes a name, pops the last one, or does
nothing.

* `walk root moves`: where the moves lead; `Below root place`: strictly under the root.
* `prefix_walk`: moves that never pop stay under the root; `walk_push`: pushes alone add their
  names, so that they end below the root, each list of names somewhere else.
-/

namespace Platform

/-- What a component of a path does. -/
inductive Move (α : Type) where
  | push (name : α)
  | pop
  | skip
  deriving DecidableEq, Repr

namespace Move

variable {α : Type}

def apply (place : List α) : Move α → List α
  | push name => place ++ [name]
  | pop => place.dropLast
  | skip => place

def walk (root : List α) (moves : List (Move α)) : List α := moves.foldl apply root

/-- A strict descendant. -/
def Below (root place : List α) : Prop := ∃ names, names ≠ [] ∧ place = root ++ names

variable {root place : List α} {moves : List (Move α)} {names names' : List α}

theorem prefix_apply {m : Move α} (h : m ≠ pop) (hp : root <+: place) : root <+: apply place m := by
  cases m with
  | push name => exact hp.trans (List.prefix_append place [name])
  | pop => exact absurd rfl h
  | skip => exact hp

theorem prefix_walk (h : pop ∉ moves) : root <+: walk root moves := by
  suffices hfrom : ∀ place, root <+: place → root <+: moves.foldl apply place from
    hfrom root (List.prefix_refl root)
  induction moves with
  | nil => exact fun place hp => hp
  | cons m moves ih =>
    rw [List.mem_cons, not_or] at h
    intro place hp
    exact ih h.2 (apply place m) (prefix_apply (Ne.symm h.1) hp)

theorem walk_push : walk root (names.map push) = root ++ names := by
  induction names generalizing root with
  | nil => exact (List.append_nil root).symm
  | cons name names ih =>
    have hrec : walk (root ++ [name]) (names.map push) = root ++ [name] ++ names := ih
    rwa [List.append_assoc, List.singleton_append] at hrec

theorem below_walk_push (h : names ≠ []) : Below root (walk root (names.map push)) :=
  ⟨names, h, walk_push⟩

theorem walk_push_inj : walk root (names.map push) = walk root (names'.map push) ↔
    names = names' := by
  rw [walk_push, walk_push, List.append_right_inj]

end Move
end Platform
