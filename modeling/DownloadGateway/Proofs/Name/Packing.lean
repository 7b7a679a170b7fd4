import DownloadGateway.Name.EncodedWord
/-!
# What greedy cutting makes

Where no element alone is too much for a piece, no piece is, and none is empty unless there is
nothing to cut. And however else a list is cut into pieces that are not too much, there are no fewer
of them (`length_pack_le`): room that is left in a piece is worth one piece at most.
-/

namespace DownloadGateway.EncodedWord

variable {α : Type} {cost : α → Nat} {limit used : Nat} {piece p xs : List α}

/-- What a piece costs. -/
def total (cost : α → Nat) : List α → Nat
  | [] => 0
  | x :: piece => cost x + total cost piece

theorem total_append (cost : α → Nat) (piece piece' : List α) :
    total cost (piece ++ piece') = total cost piece + total cost piece' := by
  induction piece with
  | nil => exact (Nat.zero_add _).symm
  | cons x piece ih => rw [List.cons_append, total, total, ih, Nat.add_assoc]

theorem total_reverse (cost : α → Nat) (piece : List α) : total cost piece.reverse = total cost piece := by
  induction piece with
  | nil => rfl
  | cons x piece ih => rw [List.reverse_cons, total_append, ih, total, total, total, Nat.add_zero, Nat.add_comm]

/-- Where an element costs as much as is written for it, so does a piece. -/
theorem length_flatMap_eq_total {β : Type} (f : α → List β) (piece : List α) :
    (piece.flatMap f).length = total (fun x => (f x).length) piece := by
  induction piece with
  | nil => rfl
  | cons x piece ih => rw [List.flatMap_cons, List.length_append, ih, total]

/-- The piece under way takes elements as long as they fit, and what does not fit begins the next
one: so what both keep is kept by all pieces. -/
theorem packFrom_induction {P : List α → Prop} (hpiece : P piece) (hused : total cost piece = used)
    (hnew : ∀ x ∈ xs, P [x])
    (hfits : ∀ x ∈ xs, ∀ piece, P piece → total cost piece + cost x ≤ limit → P (x :: piece))
    (h : p ∈ packFrom cost limit piece used xs) : P p.reverse := by
  induction xs generalizing piece used with
  | nil =>
    rw [packFrom, List.mem_singleton] at h
    rwa [h, List.reverse_reverse]
  | cons x xs ih =>
    obtain ⟨hx, hxs⟩ := List.forall_mem_cons.1 hnew
    obtain ⟨hfit, hfits⟩ := List.forall_mem_cons.1 hfits
    rw [packFrom] at h
    split at h
    · rcases List.mem_cons.1 h with rfl | h
      · rwa [List.reverse_reverse]
      · exact ih hx rfl hxs hfits h
    · rename_i hroom
      have hle : total cost piece + cost x ≤ limit := hused ▸ Nat.le_of_not_lt hroom
      exact ih (hfit piece hpiece hle) (by rw [total, hused, Nat.add_comm]) hxs hfits h

theorem total_le_of_mem_pack (hcost : ∀ x ∈ xs, cost x ≤ limit) (h : p ∈ pack cost limit xs) :
    total cost p ≤ limit := by
  rw [← total_reverse]
  refine packFrom_induction (P := fun piece => total cost piece ≤ limit) (Nat.zero_le _) rfl hcost ?_ h
  intro x _ piece _ hle
  rwa [total, Nat.add_comm]

/-- The first element fits into the first piece, so no piece is left empty. -/
theorem ne_nil_of_mem_pack (hcost : ∀ x ∈ xs, cost x ≤ limit) (hxs : xs ≠ []) (h : p ∈ pack cost limit xs) :
    p ≠ [] := by
  cases xs with
  | nil => exact absurd rfl hxs
  | cons x xs =>
    have hx : 0 + cost x ≤ limit := (Nat.zero_add _).symm ▸ hcost x List.mem_cons_self
    rw [pack, packFrom, if_neg (Nat.not_lt.2 hx)] at h
    have hreverse : p.reverse ≠ [] := by
      refine packFrom_induction (P := (· ≠ [])) (List.cons_ne_nil x []) ?_ ?_ ?_ h
      · exact Nat.add_comm ..
      · exact fun y _ => List.cons_ne_nil y []
      · exact fun y _ piece _ _ => List.cons_ne_nil y piece
    exact fun hnil => hreverse (List.reverse_eq_nil_iff.2 hnil)

/-! ## As few pieces as can be -/

/-- A list is left whole, or is cut behind some front and the rest is cut on. -/
inductive Cuts {α : Type} : List α → List (List α) → Prop
  | whole (xs : List α) : Cuts xs [xs]
  | cut (front : List α) {back : List α} {pieces : List (List α)} (h : Cuts back pieces) :
    Cuts (front ++ back) (front :: pieces)

/-- So there is at least one piece, and together they are the list. -/
theorem cuts_iff {pieces : List (List α)} : Cuts xs pieces ↔ pieces ≠ [] ∧ pieces.flatten = xs := by
  constructor
  · intro h
    induction h with
    | whole xs => simp
    | cut front _ ih => simp [ih.2]
  · rintro ⟨hne, rfl⟩
    induction pieces with
    | nil => exact absurd rfl hne
    | cons front pieces ih =>
      cases pieces with
      | nil => simpa using Cuts.whole front
      | cons piece pieces => exact .cut front (ih (List.cons_ne_nil _ _))

/-- The number of pieces grows with what is used of the first, and by one at most. -/
theorem length_packFrom_le (piece piece' : List α) (used used' : Nat) (xs : List α) :
    (packFrom cost limit piece used xs).length ≤ (packFrom cost limit piece' used' xs).length + 1 ∧
      (used ≤ used' → (packFrom cost limit piece used xs).length ≤ (packFrom cost limit piece' used' xs).length) := by
  induction xs generalizing piece piece' used used' with
  | nil => exact ⟨Nat.le_succ 1, fun _ => Nat.le_refl 1⟩
  | cons x xs ih =>
    by_cases h : used + cost x > limit
    · by_cases h' : used' + cost x > limit
      · rw [packFrom, if_pos h, packFrom, if_pos h', List.length_cons, List.length_cons]
        exact ⟨Nat.le_succ _, fun _ => Nat.le_refl _⟩
      · -- The piece that is closed early has no less behind it than the other one has still to take.
        have hrest := (ih [x] (x :: piece') (cost x) (used' + cost x)).2 (Nat.le_add_left ..)
        rw [packFrom, if_pos h, packFrom, if_neg h', List.length_cons]
        exact ⟨Nat.succ_le_succ hrest, fun hle => by omega⟩
    · by_cases h' : used' + cost x > limit
      · have hrest := (ih (x :: piece) [x] (used + cost x) (cost x)).1
        rw [packFrom, if_neg h, packFrom, if_pos h', List.length_cons]
        exact ⟨Nat.le_succ_of_le hrest, fun _ => hrest⟩
      · have hrest := ih (x :: piece) (x :: piece') (used + cost x) (used' + cost x)
        rw [packFrom, if_neg h, packFrom, if_neg h']
        exact ⟨hrest.1, fun hle => hrest.2 (Nat.add_le_add_right hle _)⟩

/-- What fits into the piece under way is put into it. -/
theorem packFrom_append (h : used + total cost p ≤ limit) (xs : List α) :
    packFrom cost limit piece used (p ++ xs) = packFrom cost limit (p.reverse ++ piece) (used + total cost p) xs := by
  induction p generalizing piece used with
  | nil => rfl
  | cons x p ih =>
    rw [total, ← Nat.add_assoc] at h
    rw [List.cons_append, packFrom, if_neg (by omega), ih h, total, Nat.add_assoc, List.reverse_cons, List.append_assoc]
    rfl

/-- What fits into one piece is left whole. -/
theorem pack_of_le (h : total cost xs ≤ limit) : pack cost limit xs = [xs] := by
  rw [← Nat.zero_add (total cost xs)] at h
  have hwhole : pack cost limit (xs ++ []) = _ := packFrom_append h []
  rwa [packFrom, List.append_nil, List.append_nil, List.reverse_reverse] at hwhole

/-- No other way to cut makes fewer pieces, if none of them is too much. -/
theorem length_pack_le {pieces : List (List α)} (h : Cuts xs pieces) (hfits : ∀ p ∈ pieces, total cost p ≤ limit) :
    (pack cost limit xs).length ≤ pieces.length := by
  induction h with
  | whole xs =>
    have hone : pack cost limit xs = [xs] := pack_of_le (hfits xs (List.mem_singleton_self xs))
    exact Nat.le_of_eq (congrArg List.length hone)
  | cut front _ ih =>
    obtain ⟨hfront, hback⟩ := List.forall_mem_cons.1 hfits
    rw [← Nat.zero_add (total cost front)] at hfront
    rw [pack, packFrom_append hfront, List.length_cons]
    exact Nat.le_trans (length_packFrom_le _ [] _ 0 _).1 (Nat.succ_le_succ (ih hback))

end DownloadGateway.EncodedWord
