/-!
# Cutting a text at a separator

`cut?` cuts at the first separator, `cutLast?` at the last. Cutting at every
separator is `List.splitOn`.
-/

namespace DownloadGateway.Text

/-- The parts before and after the first `sep`, if there is one. -/
def cut? (sep : Char) : List Char → Option (List Char × List Char)
  | [] => none
  | c :: cs =>
    if c = sep then some ([], cs)
    else (cut? sep cs).map fun (before, after) => (c :: before, after)

/-- The parts before and after the last `sep`, if there is one. -/
def cutLast? (sep : Char) : List Char → Option (List Char × List Char)
  | [] => none
  | c :: cs =>
    match cutLast? sep cs with
    | some (before, after) => some (c :: before, after)
    | none => if c = sep then some ([], cs) else none

/-- What follows `start` in a text, or another list, that begins with it. -/
def after? {α : Type} [DecidableEq α] : (start : List α) → List α → Option (List α)
  | [], cs => some cs
  | _ :: _, [] => none
  | p :: ps, c :: cs => if p = c then after? ps cs else none

theorem cut?_eq_none_iff {sep : Char} {cs : List Char} : cut? sep cs = none ↔ sep ∉ cs := by
  induction cs with
  | nil => simp [cut?]
  | cons c cs ih =>
    by_cases h : c = sep
    · simp [cut?, h]
    · simp [cut?, h, ih, Ne.symm h]

theorem cut?_eq_some_iff {sep : Char} {cs before after : List Char} :
    cut? sep cs = some (before, after) ↔ sep ∉ before ∧ cs = before ++ sep :: after := by
  induction cs generalizing before with
  | nil => simp [cut?]
  | cons c cs ih =>
    by_cases h : c = sep
    · subst h
      cases before with
      | nil => simp [cut?]
      | cons b bs =>
        have : c ∉ b :: bs → c :: cs ≠ b :: bs ++ c :: after := by
          rintro hn e
          simp only [List.cons_append, List.cons.injEq] at e
          exact hn (by simp [e.1])
        simpa [cut?] using this
    · cases before with
      | nil => simp [cut?, h]
      | cons b bs =>
        have key : cut? sep (c :: cs) = (cut? sep cs).map fun (x, y) => (c :: x, y) := by
          simp [cut?, h]
        rw [key, Option.map_eq_some_iff]
        simp only [List.mem_cons, not_or, List.cons_append, List.cons.injEq]
        constructor
        · rintro ⟨⟨x, y⟩, hx, e⟩
          simp only [Prod.mk.injEq, List.cons.injEq] at e
          obtain ⟨⟨rfl, rfl⟩, rfl⟩ := e
          obtain ⟨hn, rfl⟩ := ih.1 hx
          exact ⟨⟨Ne.symm h, hn⟩, rfl, rfl⟩
        · rintro ⟨⟨_, hn⟩, rfl, e⟩
          exact ⟨(bs, after), ih.2 ⟨hn, e⟩, rfl⟩

theorem cutLast?_eq_none_iff {sep : Char} {cs : List Char} : cutLast? sep cs = none ↔ sep ∉ cs := by
  induction cs with
  | nil => simp [cutLast?]
  | cons c cs ih =>
    cases h : cutLast? sep cs with
    | none =>
      by_cases hc : c = sep
      · simp [cutLast?, h, hc]
      · simp [cutLast?, h, hc, ih.1 h, Ne.symm hc]
    | some p =>
      have : sep ∈ cs := by
        refine Decidable.byContradiction fun hn => ?_
        simp [ih.2 hn] at h
      simp [cutLast?, h, this]

theorem cutLast?_eq_some_iff {sep : Char} {cs before after : List Char} :
    cutLast? sep cs = some (before, after) ↔ sep ∉ after ∧ cs = before ++ sep :: after := by
  induction cs generalizing before with
  | nil => simp [cutLast?]
  | cons c cs ih =>
    cases h : cutLast? sep cs with
    | none =>
      have hn := cutLast?_eq_none_iff.1 h
      simp only [cutLast?, h]
      constructor
      · intro e
        split at e <;> cases e
        exact ⟨hn, by simp_all⟩
      · rintro ⟨_, e⟩
        cases before with
        | nil => simp_all
        | cons b bs => simp_all
    | some p =>
      obtain ⟨x, y⟩ := p
      simp only [cutLast?, h, Option.some.injEq, Prod.mk.injEq]
      constructor
      · rintro ⟨rfl, rfl⟩
        obtain ⟨hy, rfl⟩ := ih.1 h
        exact ⟨hy, rfl⟩
      · rintro ⟨ha, e⟩
        cases before with
        | nil =>
          obtain ⟨-, rfl⟩ := List.cons.inj e
          rw [cutLast?_eq_none_iff.2 ha] at h
          cases h
        | cons b bs =>
          obtain ⟨rfl, e'⟩ := List.cons.inj e
          cases h.symm.trans (ih.2 ⟨ha, e'⟩)
          exact ⟨rfl, rfl⟩

/-- No part of a text holds the separator that it was cut at. -/
theorem not_mem_of_mem_splitOn {sep : Char} {cs part : List Char} (h : part ∈ cs.splitOn sep) : sep ∉ part := by
  induction cs generalizing part with
  | nil =>
    rw [List.splitOn_nil, List.mem_singleton] at h
    rw [h]
    exact List.not_mem_nil
  | cons c cs ih =>
    obtain ⟨first, rest, hparts⟩ := List.exists_cons_of_ne_nil (List.splitOn_ne_nil sep cs)
    simp only [hparts, List.mem_cons] at ih
    rw [List.splitOn_cons_eq_if_modifyHead, hparts] at h
    split at h
    · rcases List.mem_cons.1 h with rfl | h
      · exact List.not_mem_nil
      · exact ih (List.mem_cons.1 h)
    · rename_i hc
      rcases List.mem_cons.1 h with rfl | h
      · rw [List.mem_cons, not_or]
        exact ⟨fun e => hc (beq_iff_eq.2 e.symm), ih (.inl rfl)⟩
      · exact ih (.inr h)

theorem after?_eq_some_iff {α : Type} [DecidableEq α] {start cs rest : List α} :
    after? start cs = some rest ↔ cs = start ++ rest := by
  induction start generalizing cs with
  | nil => simp [after?]
  | cons p ps ih =>
    cases cs with
    | nil => simp [after?]
    | cons c cs => by_cases h : p = c <;> simp [after?, h, ih, eq_comm]

end DownloadGateway.Text
