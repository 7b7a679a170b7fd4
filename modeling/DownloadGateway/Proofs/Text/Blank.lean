import DownloadGateway.Text.Blank
import Mathlib.Data.List.TakeWhile
/-!
# Trimmed texts

What is left of a text when it is trimmed has no blank space at its ends, and what is taken off
is blank. So blank space around a text makes no difference, and a trimmed text stays as it is.
-/

namespace DownloadGateway.Text

variable {cs front back : List Char} {c : Char}

/-- Nothing but blank space. -/
def AllBlank (cs : List Char) : Prop := ∀ c ∈ cs, isBlank c = true

instance (cs : List Char) : Decidable (AllBlank cs) := List.decidableBAll (fun c => isBlank c = true) cs

/-- No blank space at either end. -/
structure IsTrimmed (cs : List Char) : Prop where
  front : ∀ c, cs.head? = some c → isBlank c = false
  back : ∀ c, cs.getLast? = some c → isBlank c = false

theorem isBlank_of_head?_dropWhile (h : (cs.dropWhile isBlank).head? = some c) : isBlank c = false := by
  have hnot := List.head?_dropWhile_not isBlank cs
  rwa [h] at hnot

/-- What is trimmed off at the end is blank, and stands behind what is left. -/
theorem trim_append (cs : List Char) : ∃ blank, AllBlank blank ∧ trim cs ++ blank = cs.dropWhile isBlank := by
  refine ⟨((cs.dropWhile isBlank).reverse.takeWhile isBlank).reverse, fun c hc => ?_, ?_⟩
  · exact List.mem_takeWhile_imp (List.mem_reverse.1 hc)
  · rw [trim, ← List.reverse_append, List.takeWhile_append_dropWhile, List.reverse_reverse]

theorem isTrimmed_trim (cs : List Char) : IsTrimmed (trim cs) where
  front c h := by
    obtain ⟨blank, -, hblank⟩ := trim_append cs
    refine @isBlank_of_head?_dropWhile cs c ?_
    rw [← hblank, List.head?_append, h]
    rfl
  back c h := by
    rw [trim, List.getLast?_reverse] at h
    exact isBlank_of_head?_dropWhile h

/-- Trimming takes blank space off a text, and nothing else. -/
theorem exists_blanks (cs : List Char) :
    ∃ front back, AllBlank front ∧ AllBlank back ∧ cs = front ++ (trim cs ++ back) := by
  obtain ⟨back, hback, htrim⟩ := trim_append cs
  refine ⟨cs.takeWhile isBlank, back, fun c hc => List.mem_takeWhile_imp hc, hback, ?_⟩
  rw [htrim, List.takeWhile_append_dropWhile]

theorem mem_of_mem_trim (h : c ∈ trim cs) : c ∈ cs := by
  obtain ⟨front, back, -, -, hcs⟩ := exists_blanks cs
  rw [hcs]
  exact List.mem_append_right _ (List.mem_append_left _ h)

theorem trim_of_isTrimmed (h : IsTrimmed cs) : trim cs = cs := by
  have hdrop : ∀ {cs : List Char}, (∀ c, cs.head? = some c → isBlank c = false) → cs.dropWhile isBlank = cs := by
    intro cs hhead
    cases cs with
    | nil => rfl
    | cons c cs => rw [List.dropWhile_cons_of_neg (by simp [hhead c rfl])]
  rw [trim, hdrop h.front, hdrop (by simpa using h.back), List.reverse_reverse]

theorem trim_blank_append (h : AllBlank front) (cs : List Char) : trim (front ++ cs) = trim cs := by
  rw [trim, List.dropWhile_append_of_pos h, trim]

theorem trim_append_blank (h : AllBlank back) (cs : List Char) : trim (cs ++ back) = trim cs := by
  have hreverse : ∀ c ∈ back.reverse, isBlank c = true := fun c hc => h c (List.mem_reverse.1 hc)
  rw [trim, List.dropWhile_append]
  split
  · rename_i hnil
    rw [List.isEmpty_iff] at hnil
    rw [trim, hnil, List.dropWhile_eq_nil_iff.2 h]
  · rw [List.reverse_append, List.dropWhile_append_of_pos hreverse, trim]

theorem trim_eq_of_blanks (hfront : AllBlank front) (h : IsTrimmed cs) (hback : AllBlank back) :
    trim (front ++ cs ++ back) = cs := by
  rw [trim_append_blank hback, trim_blank_append hfront, trim_of_isTrimmed h]

theorem trim_trim (cs : List Char) : trim (trim cs) = trim cs := trim_of_isTrimmed (isTrimmed_trim cs)

theorem trim_eq_nil_iff : trim cs = [] ↔ AllBlank cs := by
  constructor
  · intro h
    obtain ⟨front, back, hfront, hback, hcs⟩ := exists_blanks cs
    rw [hcs, h]
    exact List.forall_mem_append.2 ⟨hfront, hback⟩
  · intro h
    rw [trim, List.dropWhile_eq_nil_iff.2 h]
    rfl

theorem IsTrimmed.append {cs' : List Char} (h : IsTrimmed cs) (hne : cs ≠ []) (h' : IsTrimmed cs') (hne' : cs' ≠ [])
    (between : List Char) : IsTrimmed (cs ++ between ++ cs') where
  front c hc := by
    obtain ⟨first, rest, rfl⟩ := List.exists_cons_of_ne_nil hne
    exact h.front c hc
  back c hc := by
    have hlast : cs'.getLast? = some (cs'.getLast hne') := List.getLast?_eq_some_getLast hne'
    rw [List.getLast?_append, hlast, Option.some_or, ← hlast] at hc
    exact h'.back c hc

end DownloadGateway.Text
