/-! # Paths

The parts of a path that name a file. -/

namespace DebugAdapter.Text

/-- What stands between separators. -/
def between {α : Type} [DecidableEq α] (separator : α) : List α → List (List α)
  | [] => [[]]
  | c :: rest =>
    match between separator rest with
    | [] => []
    | part :: more => if c = separator then [] :: part :: more else (c :: part) :: more

/-- The parts of a path between slashes. -/
def pathParts (path : List Char) : List (List Char) := between '/' path

/-- The last part of a path, without regard to empty parts and to parts that mean the same
directory. A path that ends at a parent directory names no file. -/
def fileName? (path : String) : Option String :=
  match ((pathParts path.toList).filter fun part => part ≠ [] && part ≠ ['.']).getLast? with
  | none => none
  | some part => if part = ['.', '.'] then none else some (String.ofList part)

end DebugAdapter.Text
