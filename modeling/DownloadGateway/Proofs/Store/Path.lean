import DownloadGateway.Store.Path
import Mathlib.Data.List.TakeWhile
/-!
# Names below a path

Names that are put below a path name a place below the place that the path means. A slash at
the end of the path makes no difference.
-/

namespace DownloadGateway.Path

/-- A piece that is the name of something in a directory. -/
def IsName (piece : String) : Prop := ¬stays piece ∧ piece ≠ up

theorem isName_iff {piece : String} : IsName piece ↔ piece ≠ "" ∧ piece ≠ "." ∧ piece ≠ ".." := by
  rw [IsName, stays, up, Bool.or_eq_true, decide_eq_true_eq, decide_eq_true_eq, not_or, and_assoc]

theorem IsName.step_eq {name : String} (h : IsName name) (here : List String) : step here name = name :: here := by
  rw [step, if_neg h.1, if_neg h.2]

theorem IsName.ne_empty {name : String} (h : IsName name) : name ≠ "" := (isName_iff.1 h).1

theorem reverse_location (p : Path) : p.location.reverse = p.pieces.foldl step [] :=
  List.reverse_reverse _

theorem foldl_step_of_stays {pieces : List String} (h : ∀ piece ∈ pieces, stays piece) (here : List String) :
    pieces.foldl step here = here := by
  induction pieces with
  | nil => rfl
  | cons piece pieces ih =>
    obtain ⟨hpiece, hrest⟩ := List.forall_mem_cons.1 h
    rw [List.foldl_cons, step, if_pos hpiece]
    exact ih hrest

/-- The slashes at the end of a path stay where it leads. -/
theorem pieces_withoutSlash (p : Path) :
    ∃ slashes, p.pieces = p.withoutSlash.pieces ++ slashes ∧ ∀ piece ∈ slashes, stays piece := by
  refine ⟨(p.pieces.reverse.takeWhile (· = "")).reverse, ?_, fun piece h => ?_⟩
  · rw [withoutSlash, ← List.reverse_append, List.takeWhile_append_dropWhile, List.reverse_reverse]
  · rw [List.mem_reverse] at h
    have := List.mem_takeWhile_imp h
    simp_all [stays]

/-- Names are put behind the pieces of a path, a slash at its end apart. -/
theorem pieces_below (p : Path) :
    ∃ front, (p.pieces = front ∨ p.pieces = front ++ [""]) ∧ ∀ names, (p.below names).pieces = front ++ names := by
  by_cases h : p.pieces.getLast? = some ""
  · obtain ⟨front, hfront⟩ := List.getLast?_eq_some_iff.1 h
    refine ⟨front, .inr hfront, fun names => ?_⟩
    rw [below, if_pos h, hfront, List.dropLast_concat]
  · exact ⟨p.pieces, .inl rfl, fun names => by rw [below, if_neg h]⟩

/-- What leads on to a name below a path leads there, or on to the path. -/
theorem of_prefix_below {p : Path} {name : String} {front : List String} (h : front <+: (p.below [name]).pieces) :
    front = (p.below [name]).pieces ∨
      front <+: p.pieces ∧ ∃ rest, ∀ names, (p.below names).pieces = front ++ (rest ++ names) := by
  obtain ⟨whole, hwhole, hbelow⟩ := p.pieces_below
  rw [hbelow, List.prefix_concat_iff] at h
  rcases h with rfl | ⟨rest, rfl⟩
  · exact .inl (hbelow [name]).symm
  · refine .inr ⟨?_, rest, fun names => by rw [hbelow, List.append_assoc]⟩
    rcases hwhole with hwhole | hwhole <;> rw [hwhole]
    · exact List.prefix_append ..
    · exact (List.prefix_append ..).trans (List.prefix_append ..)

theorem location_below (p : Path) {names : List String} (h : ∀ n ∈ names, IsName n) :
    (p.below names).location = p.location ++ names := by
  obtain ⟨front, hfront, hbelow⟩ := p.pieces_below
  have hloc : p.pieces.foldl step [] = front.foldl step [] := by
    rcases hfront with hfront | hfront <;> rw [hfront]
    rw [List.foldl_append, foldl_step_of_stays (by simp [stays])]
  rw [location, location, hbelow, List.foldl_append, foldl_step_of_names h, hloc, List.reverse_append,
    List.reverse_reverse]

/-- Names can be put below a path one behind the other. -/
theorem below_below (p : Path) {name : String} (h : name ≠ "") (names : List String) :
    (p.below [name]).below names = p.below (name :: names) := by
  have hlast : (p.below [name]).pieces.getLast? ≠ some "" := by simpa [below] using h
  rw [below, if_neg hlast]
  simp [below]

/-- A path holds the characters of its pieces, and slashes. -/
theorem any_text {q : Char → Bool} (hslash : q '/' = false) (p : Path) :
    p.text.toList.any q = p.pieces.any (·.toList.any q) := by
  obtain ⟨pieces⟩ := p
  simp only [text]
  induction pieces with
  | nil => rfl
  | cons piece pieces ih =>
    cases pieces with
    | nil => simp
    | cons piece' pieces =>
      rw [String.intercalate_cons_cons, String.toList_append, String.toList_append, List.any_append, List.any_append,
        ih, List.any_cons]
      simp [hslash]

/-- A path begins with the path up to its last slash. -/
theorem text_dropLast (p : Path) : ∃ rest, p.text = p.dropLast.text ++ rest := by
  obtain ⟨pieces⟩ := p
  simp only [text, pieces_dropLast]
  induction pieces with
  | nil => exact ⟨"", rfl⟩
  | cons piece pieces ih =>
    cases pieces with
    | nil => exact ⟨piece, by simp⟩
    | cons piece' pieces =>
      obtain ⟨rest, hrest⟩ := ih
      cases pieces with
      | nil => exact ⟨"/" ++ piece', by simp [String.append_assoc]⟩
      | cons piece'' pieces =>
        simp only [List.dropLast_cons_cons] at hrest ⊢
        refine ⟨rest, ?_⟩
        rw [String.intercalate_cons_cons, hrest, String.intercalate_cons_cons]
        simp only [String.append_assoc]

end DownloadGateway.Path
