import DownloadGateway.Proofs.Store.Path
import DownloadGateway.Store.FileTree
/-!
# Paths through a tree

What an operation answers depends on the tree only through what stands at each location:
`follow` walks a path by `get?` alone. So a tree is compared with what an operation leaves of
it location by location, and only this module knows how nodes are nested.
-/

namespace DownloadGateway

/-! ## Locations -/

theorem Node.at?_append (n : Node) (l m : Location) : n.at? (l ++ m) = (n.at? l).bind (·.at? m) := by
  induction l generalizing n with
  | nil => rfl
  | cons name l ih =>
    cases n with
    | file content => rfl
    | directory entries =>
      simp only [List.cons_append, at?]
      cases child? entries name with
      | none => rfl
      | some n => exact ih n

namespace FileTree

variable {t t' : FileTree} {l : Location} {p : Path} {see see' : Location → Option Entry}
  {here names : List String} {name : String} {e : Entry}

/-- All that is above something is a directory. -/
theorem get?_above {m : Location} (hm : m ≠ []) (h : t.get? (l ++ m) = some e) : t.get? l = some .directory := by
  obtain ⟨name, m, rfl⟩ := List.exists_cons_of_ne_nil hm
  rw [get?, Node.at?_append] at h
  rw [get?]
  cases hn : t.root.at? l with
  | none => simp [hn] at h
  | some n =>
    cases n with
    | file content => simp [hn, Node.at?] at h
    | directory entries => rfl

theorem get?_append_of_none (h : t.get? l = none) (m : Location) : t.get? (l ++ m) = none := by
  rw [get?, Option.map_eq_none_iff] at h ⊢
  rw [Node.at?_append, h]
  rfl

/-! ## Following a path -/

/-- What stands at the end of the pieces that lead on from a place, if `see` tells what stands
where. The place is given by names from its end up. -/
def follow (see : Location → Option Entry) (here : List String) : List String → Except FileError Entry
  | [] =>
    match see here.reverse with
    | none => .error .notFound
    | some e => .ok e
  | piece :: pieces =>
    match see here.reverse with
    | none => .error .notFound
    | some (.file _) => .error .notDirectory
    | some .directory =>
      if isTooLong piece then .error .nameTooLong else follow see (Path.step here piece) pieces

/-- Names, from the last one up, lead from a root to a node, through the directories above it. -/
inductive Reached (root : Node) : List String → Node → List Node → Prop
  | root : Reached root [] root []
  | child {names entries above name n} (h : Reached root names (.directory entries) above)
      (hn : Node.child? entries name = some n) : Reached root (name :: names) n (.directory entries :: above)

theorem Reached.at? {root n : Node} {above : List Node} (h : Reached root names n above) :
    root.at? names.reverse = some n := by
  induction h with
  | root => rfl
  | child _ hn ih => rw [List.reverse_cons, Node.at?_append, ih, Option.bind_some, Node.at?, hn]; rfl

/-- A walk along nodes passes what stands at the locations on the way. -/
theorem entry_walk {n : Node} {above : List Node} (h : Reached t.root here n above) (pieces : List String) :
    (walk n above pieces).map Node.entry = follow t.get? here pieces := by
  induction pieces generalizing here n above with
  | nil =>
    rw [walk, follow, get?, h.at?]
    rfl
  | cons piece pieces ih =>
    have hsee : t.get? here.reverse = some n.entry := by rw [get?, h.at?]; rfl
    rw [walk.eq_def, follow, hsee]
    cases n with
    | file content => rfl
    | directory entries =>
      simp only [Node.entry]
      by_cases hlong : isTooLong piece = true
      · rw [if_pos hlong, if_pos hlong]
        rfl
      rw [if_neg hlong, if_neg hlong, Path.step]
      by_cases hstays : Path.stays piece = true
      · rw [if_pos hstays, if_pos hstays]
        exact ih h
      rw [if_neg hstays, if_neg hstays]
      by_cases hup : piece = Path.up
      · rw [if_pos hup, if_pos hup]
        cases h with
        | root => exact ih .root
        | child h _ => exact ih h
      rw [if_neg hup, if_neg hup]
      cases hc : Node.child? entries piece with
      | some n => exact ih (.child h hc)
      | none =>
        have hnone : t.get? (piece :: here).reverse = none := by
          rw [get?, List.reverse_cons, Node.at?_append, h.at?, Option.bind_some, Node.at?, hc]
          rfl
        cases pieces <;> rw [follow, hnone] <;> rfl

theorem stat_eq (t : FileTree) (p : Path) :
    t.stat p = match fault? p with
      | some e => .error e
      | none => follow t.get? [] p.pieces := by
  rw [stat]
  cases fault? p with
  | some e => rfl
  | none => exact entry_walk .root p.pieces

theorem follow_cons (h : see here.reverse = some .directory) (piece : String) (pieces : List String) :
    follow see here (piece :: pieces) =
      if isTooLong piece then .error .nameTooLong else follow see (Path.step here piece) pieces := by
  rw [follow, h]

theorem follow_of_none (h : see here.reverse = none) (pieces : List String) :
    follow see here pieces = .error .notFound := by
  cases pieces <;> simp [follow, h]

/-- A path is followed through directories with names of legal length. -/
theorem of_follow_cons_eq_ok {piece : String} {pieces : List String}
    (h : follow see here (piece :: pieces) = .ok e) :
    see here.reverse = some .directory ∧ ¬isTooLong piece ∧ follow see (Path.step here piece) pieces = .ok e := by
  cases hs : see here.reverse with
  | none => simp [follow, hs] at h
  | some e' =>
    cases e' with
    | file content => simp [follow, hs] at h
    | directory =>
      rw [follow_cons hs] at h
      split at h
      · cases h
      · rename_i hlong
        exact ⟨rfl, hlong, h⟩

/-- From what was reached, a path goes on as from there. -/
theorem follow_append {pieces : List String} (h : follow see here pieces = .ok e) (rest : List String) :
    follow see here (pieces ++ rest) = follow see (pieces.foldl Path.step here) rest := by
  induction pieces generalizing here with
  | nil => rfl
  | cons piece pieces ih =>
    obtain ⟨hd, hlong, hrest⟩ := of_follow_cons_eq_ok h
    rw [List.cons_append, follow_cons hd, if_neg hlong]
    exact ih hrest

/-- What stops a path stops it however it goes on. -/
theorem follow_append_of_error {pieces : List String} {err : FileError} (h : follow see here pieces = .error err)
    (rest : List String) : follow see here (pieces ++ rest) = .error err := by
  induction pieces generalizing here with
  | nil =>
    cases hs : see here.reverse with
    | some e => simp [follow, hs] at h
    | none =>
      rw [follow, hs] at h
      cases rest <;> simpa [follow, hs] using h
  | cons piece pieces ih =>
    rw [List.cons_append, follow]
    rw [follow] at h
    cases hs : see here.reverse with
    | none => simpa [hs] using h
    | some e =>
      cases e with
      | file content => simpa [hs] using h
      | directory =>
        simp only [hs] at h ⊢
        split
        · simpa [*] using h
        · exact ih (by simpa [*] using h)

theorem see_of_follow {pieces : List String} (h : follow see here pieces = .ok e) :
    see (pieces.foldl Path.step here).reverse = some e := by
  induction pieces generalizing here with
  | nil =>
    cases hs : see here.reverse with
    | none => simp [follow, hs] at h
    | some e' =>
      rw [follow, hs] at h
      cases h
      exact hs
  | cons piece pieces ih => exact ih (of_follow_cons_eq_ok h).2.2

/-- Pieces that stay in a directory lead nowhere else. -/
theorem follow_of_stays {pieces : List String} (h : see here.reverse = some .directory)
    (hstays : ∀ piece ∈ pieces, Path.stays piece) :
    follow see here pieces = .ok .directory := by
  induction pieces with
  | nil => rw [follow, h]
  | cons piece pieces ih =>
    obtain ⟨hpiece, hrest⟩ := List.forall_mem_cons.1 hstays
    have hshort : ¬isTooLong piece := by
      simp only [Path.stays, Bool.or_eq_true, decide_eq_true_eq] at hpiece
      rcases hpiece with rfl | rfl <;> decide
    rw [follow_cons h, if_neg hshort, Path.step, if_pos hpiece]
    exact ih hrest

/-- What stops a path, unless something is missing, stops it where more directories are; and
what it reaches it still reaches. -/
theorem follow_of_grown {pieces : List String}
    (hgrown : ∀ l e, see l = some e → see' l = some e) (h : follow see here pieces ≠ .error .notFound) :
    follow see' here pieces = follow see here pieces := by
  induction pieces generalizing here with
  | nil =>
    rw [follow] at h ⊢
    rw [follow]
    cases hs : see here.reverse with
    | none => simp [hs] at h
    | some e => rw [hgrown _ _ hs]
  | cons piece pieces ih =>
    rw [follow] at h ⊢
    rw [follow]
    cases hs : see here.reverse with
    | none => simp [hs] at h
    | some e =>
      rw [hgrown _ _ hs]
      cases e with
      | file content => rfl
      | directory =>
        dsimp only
        split
        · rfl
        · rename_i hlong
          simp only [hs, if_neg hlong] at h
          exact ih h

/-! ## Directories that a path leads to -/

/-- A path leads through directories to a directory. -/
def Leads (t : FileTree) (p : Path) : Prop := follow t.get? [] p.pieces = .ok .directory

theorem fault?_ne_notFound (p : Path) : fault? p ≠ some .notFound := by
  unfold fault?
  split
  · simp
  · split <;> simp

/-- Names without NUL characters make a path that is taken, unless it gets too long. -/
theorem fault?_below_eq (h : fault? p = none) (hnames : ∀ n ∈ names, ∀ c ∈ n.toList, c.toNat ≠ 0) :
    fault? (p.below names) =
      if maxPath < (p.below names).text.utf8ByteSize then some .nameTooLong else none := by
  have hnul : p.pieces.any (·.toList.any (·.toNat = 0)) = false := by
    rw [← Path.any_text (by decide)]
    unfold fault? at h
    split at h
    · cases h
    · simp_all
  rw [fault?, Path.any_text (by decide), if_neg]
  obtain ⟨front, hfront, hbelow⟩ := p.pieces_below
  have hfront' : front.any (·.toList.any (·.toNat = 0)) = false := by
    rcases hfront with hfront | hfront <;> rw [hfront] at hnul
    · exact hnul
    · exact (Bool.or_eq_false_iff.1 (List.any_append ▸ hnul)).1
  rw [hbelow, List.any_append, hfront']
  simpa using hnames

theorem fault?_below (h : fault? p = none) (hnames : ∀ n ∈ names, ∀ c ∈ n.toList, c.toNat ≠ 0)
    (hfit : (p.below names).text.utf8ByteSize ≤ maxPath) : fault? (p.below names) = none := by
  rw [fault?_below_eq h hnames, if_neg (Nat.not_lt.2 hfit)]

theorem stat_eq_ok_iff : t.stat p = .ok e ↔ fault? p = none ∧ follow t.get? [] p.pieces = .ok e := by
  rw [stat_eq]
  cases fault? p <;> simp

theorem stat_eq_notFound_iff :
    t.stat p = .error .notFound ↔ fault? p = none ∧ follow t.get? [] p.pieces = .error .notFound := by
  rw [stat_eq]
  cases hf : fault? p with
  | none => simp
  | some e =>
    have := fault?_ne_notFound p
    simp_all

theorem isDirectory_iff : t.isDirectory p = true ↔ fault? p = none ∧ t.Leads p := by
  rw [Leads, ← stat_eq_ok_iff, isDirectory]
  cases t.stat p with
  | error e => simp
  | ok e => cases e <;> simp

theorem get?_of_leads (h : t.Leads p) : t.get? p.location = some .directory := see_of_follow h

/-- Directories that stay lead to where they led. -/
theorem follow_of_directories {pieces : List String} (hstay : ∀ l, see l = some .directory → see' l = some .directory)
    (h : follow see here pieces = .ok .directory) : follow see' here pieces = .ok .directory := by
  induction pieces generalizing here with
  | nil =>
    have hd : see here.reverse = some .directory := see_of_follow h
    rw [follow, hstay _ hd]
  | cons piece pieces ih =>
    obtain ⟨hd, hlong, hrest⟩ := of_follow_cons_eq_ok h
    rw [follow_cons (hstay _ hd), if_neg hlong]
    exact ih hrest

theorem Leads.mono (hstay : ∀ l, t.get? l = some .directory → t'.get? l = some .directory) (h : t.Leads p) :
    t'.Leads p := follow_of_directories hstay h

/-- Before a path goes on, it has reached a directory. -/
theorem follow_front {pieces rest : List String} (hrest : rest ≠ [])
    (h : follow see here (pieces ++ rest) = .ok e) : follow see here pieces = .ok .directory := by
  induction pieces generalizing here with
  | nil =>
    obtain ⟨piece, rest, rfl⟩ := List.exists_cons_of_ne_nil hrest
    rw [follow, (of_follow_cons_eq_ok h).1]
  | cons piece pieces ih =>
    obtain ⟨hd, hlong, hfollow⟩ := of_follow_cons_eq_ok h
    rw [follow_cons hd, if_neg hlong]
    exact ih hfollow

/-- The way to a directory comes by directories. -/
theorem Leads.front {front : List String} (h : t.Leads p) (hfront : front <+: p.pieces) :
    follow t.get? [] front = .ok .directory := by
  obtain ⟨rest, hrest⟩ := hfront
  rw [Leads, ← hrest] at h
  cases rest with
  | nil => rwa [List.append_nil] at h
  | cons piece rest => exact follow_front (List.cons_ne_nil _ _) h

/-- Names below a directory are followed from its location. -/
theorem follow_below (h : t.Leads p) (names : List String) :
    follow t.get? [] (p.below names).pieces = follow t.get? p.location.reverse names := by
  obtain ⟨front, hfront, hbelow⟩ := p.pieces_below
  rw [hbelow, p.reverse_location]
  rw [Leads] at h
  rcases hfront with hfront | hfront <;> rw [hfront] at h ⊢
  · exact follow_append h names
  · rw [follow_append (follow_front (List.cons_ne_nil _ _) h), List.foldl_append]
    rfl

theorem follow_below_cons (h : t.Leads p) (name : String) (names : List String) :
    follow t.get? [] (p.below (name :: names)).pieces =
      if isTooLong name then .error .nameTooLong else follow t.get? (Path.step p.location.reverse name) names := by
  rw [follow_below h, follow_cons]
  rw [List.reverse_reverse]
  exact get?_of_leads h

theorem leads_below_iff (h : t.Leads p) (hname : Path.IsName name) :
    t.Leads (p.below [name]) ↔ ¬isTooLong name ∧ t.get? (p.location ++ [name]) = some .directory := by
  rw [Leads, follow_below_cons h, hname.step_eq, follow, List.reverse_cons, List.reverse_reverse]
  by_cases hlong : isTooLong name = true
  · simp [hlong]
  · rw [if_neg hlong]
    cases t.get? (p.location ++ [name]) <;> simp [hlong]

/-- Where names below a path lead somewhere, the path leads to a directory. -/
theorem leads_of_follow_below (hnames : names ≠ []) (h : follow t.get? [] (p.below names).pieces = .ok e) :
    t.Leads p := by
  obtain ⟨front, hfront, hbelow⟩ := p.pieces_below
  rw [hbelow] at h
  have hreached := follow_front hnames h
  rw [Leads]
  rcases hfront with hfront | hfront <;> rw [hfront]
  · exact hreached
  · rw [follow_append hreached]
    exact follow_of_stays (see_of_follow hreached) (by simp [Path.stays])

theorem follow_names_congr (hnames : ∀ n ∈ names, Path.IsName n)
    (hagree : ∀ front, front <+: names → see (here.reverse ++ front) = see' (here.reverse ++ front)) :
    follow see here names = follow see' here names := by
  have hhere := hagree [] List.nil_prefix
  rw [List.append_nil] at hhere
  induction names generalizing here with
  | nil => rw [follow, follow, hhere]
  | cons name names ih =>
    obtain ⟨hname, hrest⟩ := List.forall_mem_cons.1 hnames
    rw [follow, follow, hhere, hname.step_eq]
    have hagree' : ∀ front, front <+: names →
        see ((name :: here).reverse ++ front) = see' ((name :: here).reverse ++ front) := by
      intro front hfront
      rw [List.reverse_cons, List.append_assoc, List.singleton_append]
      exact hagree _ (List.cons_prefix_cons.2 ⟨rfl, hfront⟩)
    rw [ih hrest hagree' (by simpa using hagree' [] List.nil_prefix)]

/-- What is found below a directory depends on what stands on the way. -/
theorem stat_below_congr (h : t.Leads p) (h' : t'.Leads p) (hnames : ∀ n ∈ names, Path.IsName n)
    (hagree : ∀ front, front <+: names → t.get? (p.location ++ front) = t'.get? (p.location ++ front)) :
    t.stat (p.below names) = t'.stat (p.below names) := by
  have hfollow : follow t.get? p.location.reverse names = follow t'.get? p.location.reverse names :=
    follow_names_congr hnames (by rwa [List.reverse_reverse])
  rw [stat_eq, stat_eq, follow_below h, follow_below h', hfollow]

/-- What stands in a directory. -/
theorem stat_child (h : t.Leads p) (hname : Path.IsName name) :
    t.stat (p.below [name]) = match fault? (p.below [name]) with
      | some e => .error e
      | none =>
        if isTooLong name then .error .nameTooLong
        else match t.get? (p.location ++ [name]) with
          | none => .error .notFound
          | some e => .ok e := by
  rw [stat_eq, follow_below_cons h, hname.step_eq, follow]
  simp only [List.reverse_cons, List.reverse_reverse]

theorem read_eq_ok_iff {content : Bytes} : t.read p = .ok content ↔ t.stat p = .ok (.file content) := by
  rw [read]
  cases t.stat p with
  | error e => simp
  | ok e => cases e <;> simp

theorem read_eq_notFound_iff : t.read p = .error .notFound ↔ t.stat p = .error .notFound := by
  rw [read]
  cases t.stat p with
  | error e => simp
  | ok e => cases e <;> simp

/-! ## Writing a file -/

theorem fault?_dropLast (h : fault? p = none) : fault? p.dropLast = none := by
  obtain ⟨rest, hrest⟩ := p.text_dropLast
  unfold fault? at h ⊢
  rw [hrest, String.toList_append, List.any_append, String.utf8ByteSize_append] at h
  split at h
  · cases h
  · rename_i hnul
    split at h
    · cases h
    · rename_i hlong
      rw [if_neg (by simp_all), if_neg (by omega)]

/-- The directory of a file is there to be written to. -/
theorem stat_dropLast_below (h : t.Leads p) (hfault : fault? (p.below [name]) = none) :
    t.stat (p.below [name]).dropLast = .ok .directory := by
  rw [stat_eq, fault?_dropLast hfault, Path.pieces_dropLast]
  obtain ⟨front, hfront, hbelow⟩ := p.pieces_below
  rw [hbelow, List.dropLast_concat]
  rw [Leads] at h
  rcases hfront with hfront | hfront <;> rw [hfront] at h
  · exact h
  · exact follow_front (List.cons_ne_nil _ _) h

/-- A file is made or emptied in a directory unless a directory or the system is in the way. -/
theorem makeFile_child (h : t.Leads p) (hname : Path.IsName name) :
    t.makeFile (p.below [name]) = match fault? (p.below [name]) with
      | some e => .error e
      | none =>
        if isTooLong name then .error .nameTooLong
        else match t.get? (p.location ++ [name]) with
          | some .directory => .error .isDirectory
          | _ => .ok (t.set (p.location ++ [name]) (.file [])) := by
  have hloc : (p.below [name]).location = p.location ++ [name] :=
    p.location_below (List.forall_mem_singleton.2 hname)
  rw [makeFile, hloc, stat_child h hname]
  cases hf : fault? (p.below [name]) with
  | some e =>
    cases e with
    | notFound => exact absurd hf (fault?_ne_notFound _)
    | _ => rfl
  | none =>
    simp only [stat_dropLast_below h hf]
    by_cases hlong : isTooLong name = true
    · simp only [if_pos hlong]
      rfl
    · simp only [if_neg hlong]
      cases t.get? (p.location ++ [name]) with
      | none => rfl
      | some e => cases e <;> rfl

/-- A file is written into a directory unless a directory or the system is in the way. -/
theorem write_child (h : t.Leads p) (hname : Path.IsName name) (content : Bytes) :
    t.write (p.below [name]) content = match fault? (p.below [name]) with
      | some e => .error e
      | none =>
        if isTooLong name then .error .nameTooLong
        else match t.get? (p.location ++ [name]) with
          | some .directory => .error .isDirectory
          | _ => .ok (t.set (p.location ++ [name]) (.file content)) := by
  rw [write, makeFile_child h hname, p.location_below (List.forall_mem_singleton.2 hname)]
  cases fault? (p.below [name]) with
  | some e => rfl
  | none =>
    by_cases hlong : isTooLong name = true
    · simp only [if_pos hlong]
      rfl
    · simp only [if_neg hlong]
      cases t.get? (p.location ++ [name]) with
      | none => exact congrArg Except.ok (set_set ..)
      | some e =>
        cases e with
        | file content' => exact congrArg Except.ok (set_set ..)
        | directory => rfl

/-- What a file that was written leaves of the tree: it stands in its directory, where none
stood, and nothing else moves. -/
theorem of_write_child {content : Bytes} (h : t.Leads p) (hname : Path.IsName name)
    (hwrite : t.write (p.below [name]) content = .ok t') :
    fault? (p.below [name]) = none ∧ ¬isTooLong name ∧ t.get? (p.location ++ [name]) ≠ some .directory ∧
      ∀ m, t'.get? m = if m = p.location ++ [name] then some (.file content) else t.get? m := by
  rw [write_child h hname] at hwrite
  split at hwrite
  · cases hwrite
  · rename_i hfault
    split at hwrite
    · cases hwrite
    · rename_i hlong
      split at hwrite
      · cases hwrite
      · rename_i hfree
        cases hwrite
        refine ⟨hfault, hlong, hfree, t.get?_set _ (by simp) ?_ hfree⟩
        rw [List.dropLast_concat]
        exact get?_of_leads h

end FileTree

end DownloadGateway
