import NastyEngine.Rust.Text

/-!
# Paths as `std::path` reads them

Paths are compared part by part: a doubled slash, a slash at the end and a `.` inside do not count.
-/

namespace NastyEngine.Rust

/-- `Path::components`; the root is a part of its own. -/
def components (path : String) : List (List Char) :=
  match path.toList.splitOn '/' with
  | [] => []
  | first :: rest =>
    let parts := rest.filter fun part => part ≠ [] ∧ part ≠ ['.']
    if first ≠ [] then first :: parts else if path = "" then [] else ['/'] :: parts

def pathStartsWith (path base : String) : Bool := (components base).isPrefixOf (components path)

theorem pathStartsWith_dev {path : String} (begins : startsWith path "/dev/" = true) :
    pathStartsWith path "/dev" = true := by
  obtain ⟨rest, text⟩ := List.isPrefixOf_iff_prefix.mp begins
  have full : path ≠ "" := by
    rintro rfl
    exact absurd begins (by decide)
  have split : path.toList.splitOn '/' = [] :: "dev".toList :: rest.splitOn '/' := by
    have shape : path.toList = [] ++ '/' :: ("dev".toList ++ '/' :: rest) := text.symm
    rw [shape, List.splitOn, List.splitOnP_append_cons_of_forall_mem (by simp) '/' (by decide),
      List.splitOnP_append_cons_of_forall_mem (by simp) '/' (by decide)]
    rfl
  have parts : components path =
      ['/'] :: "dev".toList :: (rest.splitOn '/').filter fun part => part ≠ [] ∧ part ≠ ['.'] := by
    rw [components, split]
    dsimp only
    rw [if_neg (by simp), if_neg full, List.filter_cons_of_pos (by decide)]
  have base : components "/dev" = [['/'], "dev".toList] := by decide
  rw [pathStartsWith, parts, base, List.isPrefixOf_iff_prefix]
  exact List.prefix_append [['/'], "dev".toList] _

example : pathStartsWith "/dev/loop3" "/dev" = true ∧ pathStartsWith "/device" "/dev" = false := by decide

end NastyEngine.Rust
