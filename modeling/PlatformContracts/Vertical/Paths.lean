import PlatformContracts.Lib.Lexical
import PlatformContracts.Vertical.Grammar

/-!
# Accepted paths stay inside their root

* `components`: a path cut at its slashes; `splitOn_slash`: the validator cuts its bytes in the
  same places. `resolve`: a path against a root, without a look at any file.
* `validateRelativePath_components`: the components of an accepted path are names.
* `relative_paths_confined`: such a path goes down only, and no other leads to the same place.
-/

namespace Platform
namespace Vertical

open Contracts Move

/-- `path.split('/')`. -/
def components (path : String) : List String := (path.toList.splitOn '/').map String.ofList

/-- What a component does when the path is resolved. -/
def componentMove (component : String) : Move String :=
  if component = "" ∨ component = "." then .skip
  else if component = ".." then .pop
  else .push component

def moves (path : String) : List (Move String) := (components path).map componentMove

/-- The place that the path names, from a root. -/
def resolve (root : List String) (path : String) : List String := walk root (moves path)

variable {path : String} {component : String}

theorem splitOn_slash : (bytes path).splitOn 0x2F = (components path).map bytes := by
  have hsplit : (bytes path).splitOn 0x2F =
      (path.toList.splitOn '/').map (List.flatMap String.utf8EncodeChar) :=
    splitOn_bytes (d := '/') (by decide)
  rw [hsplit, components, List.map_map]
  exact List.map_congr_left fun part _ => (bytes_ofList part).symm

theorem components_ne_nil : components path ≠ [] := by
  rw [components, Ne, List.map_eq_nil_iff]
  exact List.splitOn_ne_nil _ _

theorem intercalate_components (path : String) :
    "/".intercalate (components path) = path := by
  have hlist : ((components path).map String.toList) = path.toList.splitOn '/' := by
    rw [components, List.map_map]
    exact (List.map_congr_left fun part _ => String.toList_ofList).trans (List.map_id _)
  rw [← String.toList_inj, String.toList_intercalate, hlist]
  exact List.intercalate_splitOn '/'

/-- A component has no slash, and otherwise the characters of the path. -/
theorem mem_component (h : component ∈ components path) {c : Char} (hc : c ∈ component.toList) :
    c ∈ path.toList ∧ c ≠ '/' := by
  obtain ⟨part, hpart, rfl⟩ := List.mem_map.mp h
  rw [String.toList_ofList] at hc
  exact mem_part hpart hc

/-- A name of a file or of a directory in it. -/
structure IsName (component : String) : Prop where
  nonempty : component ≠ ""
  not_current : component ≠ "."
  not_parent : component ≠ ".."
  no_slash : '/' ∉ component.toList
  no_backslash : '\\' ∉ component.toList

theorem IsName.move (h : IsName component) : componentMove component = .push component := by
  rw [componentMove, if_neg (not_or.mpr ⟨h.nonempty, h.not_current⟩), if_neg h.not_parent]

theorem validateRelativePath_components (h : validateRelativePath path = .ok ()) :
    ∀ component ∈ components path, IsName component := by
  simp only [validateRelativePath, check_eq_ok, not_or, Bool.not_eq_true, splitOn_slash,
    List.any_map, List.any_eq_false, Function.comp_apply, Bool.or_eq_false_iff,
    decide_eq_false_iff_not, bytes_eq_nil, bytes_inj] at h
  obtain ⟨-, -, -, -, hback, -, hparts⟩ := h
  have hback : '\\' ∉ path.toList := mt (ascii_mem_bytes (by decide)).mpr hback
  intro component hc
  obtain ⟨⟨hne, hcurrent⟩, hparent⟩ := hparts component hc
  exact ⟨hne, hcurrent, hparent, fun hm => (mem_component hc hm).2 rfl,
    fun hm => hback (mem_component hc hm).1⟩

theorem moves_of_names (h : ∀ component ∈ components path, IsName component) :
    moves path = (components path).map .push :=
  List.map_congr_left fun component hc => (h component hc).move

/-- An accepted path is the join of its components, which are names. From any root it only goes
down, to a strict descendant, where no other accepted path leads. -/
theorem relative_paths_confined (h : validateRelativePath path = .ok ()) :
    components path ≠ [] ∧ (∀ component ∈ components path, IsName component) ∧
      "/".intercalate (components path) = path ∧
      ∀ root, .pop ∉ moves path ∧ (∀ n, root <+: walk root ((moves path).take n)) ∧
        Below root (resolve root path) ∧
        ∀ path', validateRelativePath path' = .ok () → path' ≠ path →
          resolve root path' ≠ resolve root path := by
  have hnames := validateRelativePath_components h
  have hmoves := moves_of_names hnames
  have hpop : .pop ∉ moves path := by
    rw [hmoves]
    simp
  refine ⟨components_ne_nil, hnames, intercalate_components path, fun root =>
    ⟨hpop, fun n => ?_, ?_, fun path' h' hne heq => hne ?_⟩⟩
  · exact prefix_walk fun hm => hpop (List.mem_of_mem_take hm)
  · rw [resolve, hmoves]
    exact below_walk_push components_ne_nil
  · rw [resolve, resolve, hmoves, moves_of_names (validateRelativePath_components h'),
      walk_push_inj] at heq
    rw [← intercalate_components path', heq, intercalate_components]

theorem relative_paths_confined_script :
    components "scripts/replay.sh" ≠ [] ∧
      (∀ component ∈ components "scripts/replay.sh", IsName component) ∧
      "/".intercalate (components "scripts/replay.sh") = "scripts/replay.sh" ∧
      ∀ root, .pop ∉ moves "scripts/replay.sh" ∧
        (∀ n, root <+: walk root ((moves "scripts/replay.sh").take n)) ∧
        Below root (resolve root "scripts/replay.sh") ∧
        ∀ path', validateRelativePath path' = .ok () → path' ≠ "scripts/replay.sh" →
          resolve root path' ≠ resolve root "scripts/replay.sh" :=
  relative_paths_confined (by decide +kernel)

/-- A path that steps back is not accepted. -/
example : validateRelativePath "scripts/../replay.sh" = .error (.invalid "relative_path") := by
  decide +kernel

end Vertical
end Platform
