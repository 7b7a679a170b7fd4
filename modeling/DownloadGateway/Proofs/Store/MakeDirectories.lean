import DownloadGateway.Proofs.Store.FileTree
/-!
# Making directories

Making a directory and those above it adds directories where nothing was, on the way that the
path takes, and changes nothing else (`GrownAlong`), whether it succeeds or not. What was
found in the tree before is found there still; what was missing is missing still, or is an
empty directory now.
-/

namespace DownloadGateway.FileTree

variable {t t' t'' : FileTree} {l : Location} {p : Path} {see see' : Location → Option Entry}
  {here pieces : List String} {name : String} {device : Device}

/-! ## Trees that have grown -/

/-- What is new in a tree are directories on the way of a path. -/
def GrownAlong (pieces : List String) (t t' : FileTree) : Prop :=
  ∀ l, t'.get? l = t.get? l ∨
    t.get? l = none ∧ t'.get? l = some .directory ∧ ∃ front, front <+: pieces ∧ l = (front.foldl Path.step []).reverse

theorem GrownAlong.refl (pieces : List String) (t : FileTree) : GrownAlong pieces t t := fun _ => .inl rfl

theorem GrownAlong.trans (h : GrownAlong pieces t t') (h' : GrownAlong pieces t' t'') : GrownAlong pieces t t'' := by
  intro l
  rcases h l with hl | ⟨hnone, hnew, hway⟩ <;> rcases h' l with hl' | ⟨hnone', hnew', hway'⟩
  · exact .inl (hl'.trans hl)
  · exact .inr ⟨hl ▸ hnone', hnew', hway'⟩
  · exact .inr ⟨hnone, hl'.trans hnew, hway⟩
  · rw [hnew] at hnone'
    cases hnone'

theorem GrownAlong.mono {pieces' : List String} (h : GrownAlong pieces t t') (hp : pieces <+: pieces') :
    GrownAlong pieces' t t' := fun l =>
  (h l).imp_right fun ⟨hnone, hnew, front, hfront, hl⟩ => ⟨hnone, hnew, front, hfront.trans hp, hl⟩

theorem GrownAlong.get?_of_some {e : Entry} (h : GrownAlong pieces t t') (hl : t.get? l = some e) :
    t'.get? l = some e := by
  rcases h l with hl' | ⟨hnone, -⟩
  · rw [hl', hl]
  · rw [hl] at hnone
    cases hnone

theorem GrownAlong.new (h : GrownAlong pieces t t') (l : Location) :
    t'.get? l = t.get? l ∨ t.get? l = none ∧ t'.get? l = some .directory :=
  (h l).imp_right fun ⟨hnone, hdir, _⟩ => ⟨hnone, hdir⟩

/-- Below a directory that is there, a name is all that can be new on the way to it. -/
theorem GrownAlong.of_leads (h : GrownAlong (p.below [name]).pieces t t') (hp : t.Leads p) (hname : Path.IsName name) :
    ∀ l, t'.get? l = t.get? l ∨ t.get? l = none ∧ t'.get? l = some .directory ∧ l = p.location ++ [name] := by
  intro l
  refine (h l).imp_right fun ⟨hnone, hnew, front, hfront, hl⟩ => ⟨hnone, hnew, ?_⟩
  rcases Path.of_prefix_below hfront with rfl | ⟨hfront, -⟩
  · rw [hl, ← p.location_below (List.forall_mem_singleton.2 hname)]
    rfl
  · -- Up to its last piece, the way was there before.
    rw [hl, see_of_follow (hp.front hfront)] at hnone
    cases hnone

/-! ## Paths that only lead down -/

/-- From where something is missing on the way of some pieces, they only lead down, by names of
legal length. What comes before may go up as it likes. -/
def DescendsWhereMissing (see : Location → Option Entry) (here pieces : List String) : Prop :=
  ∀ front piece rest, pieces = front ++ piece :: rest → follow see here front = .error .notFound →
    ¬isTooLong piece ∧ piece ≠ Path.up

/-- On the way to a directory no name is too long. -/
theorem Leads.fits (h : t.Leads p) : ∀ piece ∈ p.pieces, ¬isTooLong piece := by
  intro piece hpiece
  obtain ⟨front, rest, hpieces⟩ := List.append_of_mem hpiece
  rw [Leads, hpieces] at h
  rw [follow_append (follow_front (List.cons_ne_nil _ _) h)] at h
  exact (of_follow_cons_eq_ok h).2.1

/-- On the way to a directory nothing is missing. -/
theorem Leads.whereMissing (h : t.Leads p) : DescendsWhereMissing t.get? [] p.pieces := by
  intro front piece rest hpieces hmissing
  rw [Leads, hpieces] at h
  rw [follow_front (List.cons_ne_nil _ _) h] at hmissing
  cases hmissing

theorem DescendsWhereMissing.below {names : List String} (h : DescendsWhereMissing see here p.pieces)
    (hnames : ∀ n ∈ names, ¬isTooLong n ∧ n ≠ Path.up) : DescendsWhereMissing see here (p.below names).pieces := by
  obtain ⟨whole, hwhole, hbelow⟩ := p.pieces_below
  intro front piece rest hpieces hmissing
  rw [hbelow, List.append_eq_append_iff] at hpieces
  rcases hpieces with ⟨middle, rfl, hrest⟩ | ⟨middle, rfl, hrest⟩
  · exact hnames piece (by simp [hrest])
  · cases middle with
    | nil => exact hnames piece (by rw [← List.nil_append names, ← hrest]; exact List.mem_cons_self)
    | cons piece' middle =>
      obtain ⟨rfl, rfl⟩ := List.cons_eq_cons.1 hrest
      rcases hwhole with hwhole | hwhole
      · exact h front piece middle hwhole hmissing
      · exact h front piece (middle ++ [""]) (by simp [hwhole]) hmissing

theorem DescendsWhereMissing.of_cons {piece : String} (h : DescendsWhereMissing see here (piece :: pieces))
    (hhere : see here.reverse = some .directory) (hlong : ¬isTooLong piece) :
    DescendsWhereMissing see (Path.step here piece) pieces := by
  intro front piece' rest hpieces hmissing
  refine h (piece :: front) piece' rest (by rw [hpieces, List.cons_append]) ?_
  rwa [follow_cons hhere, if_neg hlong]

theorem DescendsWhereMissing.of_none (h : DescendsWhereMissing see here pieces) (hnone : see here.reverse = none) :
    ∀ piece ∈ pieces, ¬isTooLong piece ∧ piece ≠ Path.up := by
  intro piece hpiece
  obtain ⟨front, rest, hpieces⟩ := List.append_of_mem hpiece
  exact h front piece rest hpieces (follow_of_none hnone front)

/-- What is missing behind some pieces leads down from there. -/
theorem DescendsWhereMissing.of_append {front : List String} (h : DescendsWhereMissing see here (front ++ pieces))
    (hmissing : follow see here front = .error .notFound) : ∀ piece ∈ pieces, piece ≠ Path.up := by
  intro piece hpiece
  obtain ⟨middle, rest, rfl⟩ := List.append_of_mem hpiece
  exact (h (front ++ middle) piece rest (by rw [List.append_assoc]) (follow_append_of_error hmissing middle)).2

/-- Pieces that never go up leave what they came by behind them. -/
theorem suffix_foldl_step (h : ∀ piece ∈ pieces, piece ≠ Path.up) (here : List String) :
    here <:+ pieces.foldl Path.step here := by
  induction pieces generalizing here with
  | nil => exact List.suffix_rfl
  | cons piece pieces ih =>
    obtain ⟨hpiece, hrest⟩ := List.forall_mem_cons.1 h
    refine List.IsSuffix.trans ?_ (ih hrest _)
    rw [Path.step, if_neg hpiece]
    split
    · exact List.suffix_rfl
    · exact List.suffix_cons ..

/-- Where a path is missing that leads down from there, nothing stands at its end. -/
theorem get?_of_missing (h : DescendsWhereMissing t.get? here pieces)
    (hmissing : follow t.get? here pieces = .error .notFound) :
    t.get? (pieces.foldl Path.step here).reverse = none := by
  induction pieces generalizing here with
  | nil =>
    cases hhere : t.get? here.reverse with
    | none => exact hhere
    | some e => simp [follow, hhere] at hmissing
  | cons piece pieces ih =>
    cases hhere : t.get? here.reverse with
    | none =>
      -- Nothing is below what is missing.
      obtain ⟨below, hbelow⟩ := suffix_foldl_step (fun piece hpiece => (h.of_none hhere piece hpiece).2) here
      rw [← hbelow, List.reverse_append]
      exact get?_append_of_none hhere _
    | some e =>
      cases e with
      | file content => simp [follow, hhere] at hmissing
      | directory =>
        rw [follow_cons hhere] at hmissing
        split at hmissing
        · cases hmissing
        · rename_i hlong
          exact ih (h.of_cons hhere hlong) hmissing

/-! ## What was missing -/

/-- Where nothing is, a path without `..` meets nothing but new directories. -/
theorem follow_of_nothing (hgrown : ∀ l, see' l = see l ∨ see l = none ∧ see' l = some .directory)
    (habove : ∀ l name, see l = none → see (l ++ [name]) = none)
    (hfit : ∀ piece ∈ pieces, ¬isTooLong piece ∧ piece ≠ Path.up) (hnone : see here.reverse = none) :
    follow see' here pieces = .error .notFound ∨ follow see' here pieces = .ok .directory := by
  induction pieces generalizing here with
  | nil =>
    rcases hgrown here.reverse with h | ⟨-, h⟩
    · exact .inl (by rw [follow, h, hnone])
    · exact .inr (by rw [follow, h])
  | cons piece pieces ih =>
    obtain ⟨⟨hlong, hup⟩, hfit⟩ := List.forall_mem_cons.1 hfit
    rcases hgrown here.reverse with h | ⟨-, h⟩
    · exact .inl (by rw [follow, h, hnone])
    · rw [follow_cons h, if_neg hlong, Path.step]
      by_cases hstays : Path.stays piece = true
      · rw [if_pos hstays]
        exact ih hfit hnone
      · rw [if_neg hstays, if_neg hup]
        refine ih hfit ?_
        rw [List.reverse_cons]
        exact habove _ _ hnone

/-- A path that was missing, and leads down from there, has no file at its end when only
directories are new. -/
theorem follow_of_missing (hgrown : ∀ l, see' l = see l ∨ see l = none ∧ see' l = some .directory)
    (habove : ∀ l name, see l = none → see (l ++ [name]) = none)
    (hdown : DescendsWhereMissing see here pieces) (h : follow see here pieces = .error .notFound) :
    follow see' here pieces = .error .notFound ∨ follow see' here pieces = .ok .directory := by
  induction pieces generalizing here with
  | nil =>
    cases hs : see here.reverse with
    | none => exact follow_of_nothing hgrown habove (hdown.of_none hs) hs
    | some e => simp [follow, hs] at h
  | cons piece pieces ih =>
    cases hs : see here.reverse with
    | none => exact follow_of_nothing hgrown habove (hdown.of_none hs) hs
    | some e =>
      cases e with
      | file content => simp [follow, hs] at h
      | directory =>
        rw [follow_cons hs] at h
        split at h
        · cases h
        rename_i hlong
        have hs' : see' here.reverse = some .directory := by
          rcases hgrown here.reverse with hg | ⟨hnone, -⟩
          · rw [hg, hs]
          · rw [hs] at hnone
            cases hnone
        rw [follow_cons hs', if_neg hlong]
        exact ih (hdown.of_cons hs hlong) h

/-! ## One directory -/

/-- What is missing in a directory is missing under a name. -/
theorem of_follow_concat (h : follow t.get? [] pieces = .ok e)
    (hmissing : follow t.get? [] (pieces ++ [name]) = .error .notFound) :
    e = .directory ∧ ¬isTooLong name ∧ Path.IsName name ∧
      t.get? (name :: pieces.foldl Path.step []).reverse = none := by
  rw [follow_append h] at hmissing
  have hsee := see_of_follow h
  generalize pieces.foldl Path.step [] = here at hmissing hsee ⊢
  cases e with
  | file content => simp [follow, hsee] at hmissing
  | directory =>
    rw [follow_cons hsee] at hmissing
    split at hmissing
    · cases hmissing
    rename_i hlong
    have hnone : t.get? (Path.step here name).reverse = none := by
      cases hs : t.get? (Path.step here name).reverse with
      | none => rfl
      | some e => simp [follow, hs] at hmissing
    -- A directory and the one above it are there, so the piece is none of those that lead to them.
    have hname : Path.IsName name := by
      constructor
      · intro hstays
        rw [Path.step, if_pos hstays, hsee] at hnone
        cases hnone
      · rintro rfl
        rw [Path.step, if_neg (by decide), if_pos rfl] at hnone
        cases here with
        | nil => rw [List.tail_nil, hsee] at hnone; cases hnone
        | cons name here =>
          rw [List.reverse_cons] at hsee
          rw [List.tail_cons, get?_above (List.cons_ne_nil _ _) hsee] at hnone
          cases hnone
    rw [hname.step_eq] at hnone
    exact ⟨rfl, hlong, hname, hnone⟩

/-- A directory that was made is new, and the path leads to it. -/
theorem of_makeDirectory (h : t.makeDirectory p device = .ok t') : GrownAlong p.pieces t t' ∧ t'.Leads p := by
  unfold makeDirectory at h
  split at h
  · cases h
  split at h
  · cases h
  split at h
  · cases h
  · rename_i hmissing
    split at h
    · rename_i e hup
      cases h
      obtain ⟨slashes, hslashes, hstays⟩ := p.pieces_withoutSlash
      have hfollow := (stat_eq_notFound_iff.1 hmissing).2
      have hfollow' := (stat_eq_ok_iff.1 hup).2
      -- The path without its slashes ends in the name that is missing.
      obtain ⟨front, name, hw⟩ : ∃ front name, p.withoutSlash.pieces = front ++ [name] := by
        rcases List.eq_nil_or_concat p.withoutSlash.pieces with hw | ⟨front, name, hw⟩
        · simp [hw, follow] at hfollow
        · exact ⟨front, name, by rw [hw, List.concat_eq_append]⟩
      rw [Path.pieces_dropLast, hw, List.dropLast_concat] at hfollow'
      rw [hw] at hfollow
      obtain ⟨rfl, hlong, hname, hnone⟩ := of_follow_concat hfollow' hfollow
      have hfold : p.pieces.foldl Path.step [] = name :: front.foldl Path.step [] := by
        rw [hslashes, hw, List.foldl_append, Path.foldl_step_of_stays hstays, List.foldl_append, List.foldl_cons,
          hname.step_eq]
        rfl
      have hloc : p.location = (name :: front.foldl Path.step []).reverse := by rw [Path.location, hfold]
      have hset := t.get?_set .directory (l := p.location) (by rw [hloc]; simp)
        (by rw [hloc, List.reverse_cons, List.dropLast_concat]; exact see_of_follow hfollow')
        (by rw [hloc, hnone]; simp)
      have hgrown : GrownAlong p.pieces t (t.set p.location .directory) := by
        intro l
        rw [hset]
        by_cases hl : l = p.location
        · rw [if_pos hl, hl]
          exact .inr ⟨hloc ▸ hnone, rfl, p.pieces, List.prefix_rfl, rfl⟩
        · rw [if_neg hl]
          exact .inl rfl
      refine ⟨hgrown, ?_⟩
      have hnew : (t.set p.location .directory).get? (name :: front.foldl Path.step []).reverse = some .directory := by
        rw [hset, hloc, if_pos rfl]
      have hfront : follow (t.set p.location .directory).get? [] front = .ok .directory := by
        rw [follow_of_grown (fun l e => hgrown.get?_of_some) (by rw [hfollow']; simp)]
        exact hfollow'
      rw [Leads, hslashes, hw, List.append_assoc, follow_append hfront, List.singleton_append,
        follow_cons (see_of_follow hfront), if_neg hlong, hname.step_eq]
      exact follow_of_stays hnew hstays
    · cases h
  · cases h

theorem of_ensureDirectory (h : t.ensureDirectory device p = .ok t') : GrownAlong p.pieces t t' ∧ t'.Leads p := by
  unfold ensureDirectory at h
  split at h
  · rename_i t₁ hmake
    cases h
    exact of_makeDirectory hmake
  · split at h
    · rename_i hdir
      cases h
      exact ⟨.refl _ _, (isDirectory_iff.1 hdir).2⟩
    · cases h

/-! ## Directories above it -/

/-- Where those above a directory are made on the way to it, it is there in the end, unless
something failed. -/
theorem of_ensureAfter {makeAbove : FileTree → Except FileError Unit × FileTree}
    (habove : ∀ t, GrownAlong p.pieces t (makeAbove t).2) (t : FileTree) :
    GrownAlong p.pieces t (ensureAfter device p makeAbove t).2 ∧
      ((ensureAfter device p makeAbove t).1 = .ok () → (ensureAfter device p makeAbove t).2.Leads p) := by
  unfold ensureAfter
  split
  · rename_i t' h
    exact ⟨(of_ensureDirectory h).1, fun _ => (of_ensureDirectory h).2⟩
  · have hgrown := habove t
    split
    · rename_i e t' hmade
      rw [hmade] at hgrown
      exact ⟨hgrown, fun h => nomatch h⟩
    · rename_i t' hmade
      rw [hmade] at hgrown
      split
      · rename_i t'' h
        exact ⟨hgrown.trans (of_ensureDirectory h).1, fun _ => (of_ensureDirectory h).2⟩
      · exact ⟨hgrown, fun h => nomatch h⟩
  · exact ⟨.refl _ _, fun h => nomatch h⟩

theorem grownAlong_makeReversed (device : Device) (pieces : List String) (t : FileTree) :
    GrownAlong pieces.reverse t (makeReversed device pieces t).2 := by
  induction pieces generalizing t with
  | nil => exact .refl _ _
  | cons piece pieces ih =>
    have hfront : pieces.reverse <+: (piece :: pieces).reverse := by
      rw [List.reverse_cons]
      exact List.prefix_append ..
    rw [makeReversed]
    split
    · exact (ih t).mono hfront
    · exact (of_ensureAfter (fun t => (ih t).mono hfront) t).1

/-- Making a directory and those above it only adds directories on the way, on any device; if it
succeeds, the path leads there. -/
theorem of_makeDirectories (t : FileTree) (p : Path) (device : Device := .sound) :
    GrownAlong p.pieces t (t.makeDirectories p device).2 ∧
      ((t.makeDirectories p device).1 = .ok () → (t.makeDirectories p device).2.Leads p) := by
  have hfront : p.aboveReversed.reverse <+: p.pieces := by
    rw [← List.reverse_suffix, List.reverse_reverse]
    exact (List.tail_suffix _).trans (List.dropWhile_suffix _)
  exact of_ensureAfter (fun t => (grownAlong_makeReversed device _ t).mono hfront) t

end DownloadGateway.FileTree
