/-!
# Paths as written

A path is the pieces between its slashes. A piece is a name, or says where to go
from a directory: an empty piece and `.` stay in it, `..` goes up. With no links to
follow, `location` is the place that a path means once all the directories in it
are there.
-/

namespace DownloadGateway

/-- A place in a tree of files: the names from the root down. -/
abbrev Location := List String

/-- A path as it is written: the pieces between its slashes. -/
structure Path where
  pieces : List String
  deriving Repr, DecidableEq

namespace Path

/-- The path that a text writes. -/
def ofString (text : String) : Path := ⟨(text.toList.splitOn '/').map String.ofList⟩

/-- The text of a path. -/
def text (p : Path) : String := "/".intercalate p.pieces

/-- The path of some names below a directory. A slash at its end is not doubled. -/
def below (p : Path) (names : List String) : Path :=
  ⟨(if p.pieces.getLast? = some "" then p.pieces.dropLast else p.pieces) ++ names⟩

/-- Whether a piece stays where it is. -/
def stays (piece : String) : Bool := piece = "" || piece = "."

/-- What goes up to the directory above. -/
def up : String := ".."

/-- The place a piece leads to. Places are given from the name at their end up. -/
def step (here : List String) (piece : String) : List String :=
  if stays piece then here else if piece = up then here.tail else piece :: here

/-- The place that a path means. -/
def location (p : Path) : Location := (p.pieces.foldl step []).reverse

/-- The path up to its last slash. -/
def dropLast (p : Path) : Path := ⟨p.pieces.dropLast⟩

/-- The path without slashes at its end. -/
def withoutSlash (p : Path) : Path := ⟨(p.pieces.reverse.dropWhile (· = "")).reverse⟩

/-- Whether a path ends in a name, slashes at its end apart, and not in `.` or `..`. -/
def endsInName (p : Path) : Bool :=
  p.withoutSlash.pieces.getLast?.any fun piece => !stays piece && piece ≠ up

/-- The pieces, in reverse, of the path to the directory above. -/
def aboveReversed (p : Path) : List String := (p.pieces.reverse.dropWhile stays).tail

@[simp] theorem pieces_dropLast (p : Path) : p.dropLast.pieces = p.pieces.dropLast := rfl

theorem foldl_step_of_names {names : List String} (h : ∀ n ∈ names, ¬stays n ∧ n ≠ up)
    (here : List String) : names.foldl step here = names.reverse ++ here := by
  induction names generalizing here with
  | nil => simp
  | cons n names ih =>
    obtain ⟨h1, h2⟩ := h n (List.mem_cons_self ..)
    rw [List.foldl_cons, ih fun m hm => h m (List.mem_cons_of_mem _ hm)]
    simp [step, h1, h2]

end Path

end DownloadGateway
