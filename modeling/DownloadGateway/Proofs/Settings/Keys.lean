import DownloadGateway.Proofs.Settings.Entries
/-!
# Lists of keys, read and written

A list of keys is read from the parts between its commas. Blank space around a part, or around what
stands on either side of its first colon, makes no difference, and a part that is blank counts for
nothing. So what is read are users and keys that a list can hold (`Listable`), and these are read
back from any way to write them (`Writes`).
-/

namespace DownloadGateway.Settings

variable {text : String} {part : List Char} {parts : List (List Char)} {pair : String × String} {pairs : List (String × String)}

/-! ## Parts -/

/-- The parts between the commas of a list, but for those that are blank. -/
def filledParts (text : String) : List (List Char) := (text.toList.splitOn ',').filter (¬Text.AllBlank ·)

theorem entries_eq_map_trim (text : String) : entries text = (filledParts text).map Text.trim := by
  rw [entries, filledParts, List.filter_map]
  congr 1
  refine List.filter_congr fun part _ => ?_
  rw [Function.comp_apply, decide_eq_decide, ne_eq, Text.trim_eq_nil_iff]

theorem isBlank_colon : Text.isBlank ':' = false := by decide

theorem isBlank_comma : Text.isBlank ',' = false := by decide

theorem not_mem_of_allBlank {c : Char} {cs : List Char} (hc : Text.isBlank c = false) (h : Text.AllBlank cs) : c ∉ cs := by
  intro hmem
  rw [h c hmem] at hc
  cases hc

/-- A part names what it names once it is trimmed. -/
theorem namesKey_trim_iff : NamesKey (Text.trim part) pair ↔ NamesKey part pair := by
  constructor
  · rintro ⟨user, key, htrim, hcolon, huser, hkey, rfl⟩
    obtain ⟨front, back, hfront, hback, hpart⟩ := Text.exists_blanks part
    refine ⟨front ++ user, key ++ back, ?_, ?_, ?_, ?_, ?_⟩
    · rw [hpart, htrim, List.append_assoc, List.cons_append, List.append_assoc]
    · exact List.not_mem_append (not_mem_of_allBlank isBlank_colon hfront) hcolon
    · rwa [Text.trim_blank_append hfront]
    · rwa [Text.trim_append_blank hback]
    · rw [Text.trim_blank_append hfront, Text.trim_append_blank hback]
  · rintro ⟨user, key, rfl, hcolon, huser, hkey, rfl⟩
    obtain ⟨a, b, ha, hb, huser'⟩ := Text.exists_blanks user
    obtain ⟨c, d, hc, hd, hkey'⟩ := Text.exists_blanks key
    -- Of the blank space, only that around the colon is left.
    have htrimmed := (Text.isTrimmed_trim user).append huser (Text.isTrimmed_trim key) hkey (b ++ ':' :: c)
    have hpart : user ++ ':' :: key = a ++ (Text.trim user ++ (b ++ ':' :: c) ++ Text.trim key ++ d) :=
      calc
        _ = a ++ (Text.trim user ++ b) ++ ':' :: (c ++ (Text.trim key ++ d)) := by rw [← huser', ← hkey']
        _ = _ := by simp
    have htrim : Text.trim (user ++ ':' :: key) = Text.trim user ++ b ++ ':' :: (c ++ Text.trim key) := by
      rw [hpart, Text.trim_blank_append ha, Text.trim_append_blank hd, Text.trim_of_isTrimmed htrimmed]
      simp
    refine ⟨Text.trim user ++ b, c ++ Text.trim key, htrim, ?_, ?_, ?_, ?_⟩
    · exact List.not_mem_append (fun h => hcolon (Text.mem_of_mem_trim h)) (not_mem_of_allBlank isBlank_colon hb)
    · rwa [Text.trim_append_blank hb, Text.trim_trim]
    · rwa [Text.trim_blank_append hc, Text.trim_trim]
    · rw [Text.trim_append_blank hb, Text.trim_trim, Text.trim_blank_append hc, Text.trim_trim]

theorem listsKeys_iff : ListsKeys text pairs ↔ List.Forall₂ NamesKey (filledParts text) pairs := by
  rw [ListsKeys, entries_eq_map_trim, List.forall₂_map_left_iff]
  simp only [namesKey_trim_iff]

theorem exists_namesKey_iff :
    (∃ pair, NamesKey part pair) ↔
      ∃ user key, part = user ++ ':' :: key ∧ ':' ∉ user ∧ ¬Text.AllBlank user ∧ ¬Text.AllBlank key := by
  simp only [← Text.trim_eq_nil_iff]
  constructor
  · rintro ⟨pair, user, key, hpart, hcolon, huser, hkey, -⟩
    exact ⟨user, key, hpart, hcolon, huser, hkey⟩
  · rintro ⟨user, key, hpart, hcolon, huser, hkey⟩
    exact ⟨_, user, key, hpart, hcolon, huser, hkey, rfl⟩

/-- Elements can be paired off if each has a partner. -/
theorem exists_forall₂_iff {α β : Type} {R : α → β → Prop} {as : List α} :
    (∃ bs, List.Forall₂ R as bs) ↔ ∀ a ∈ as, ∃ b, R a b := by
  induction as with
  | nil => simp
  | cons a as ih =>
    rw [List.forall_mem_cons, ← ih]
    constructor
    · rintro ⟨_, hcons⟩
      obtain ⟨b, bs, hb, hbs, -⟩ := List.forall₂_cons_left_iff.1 hcons
      exact ⟨⟨b, hb⟩, bs, hbs⟩
    · rintro ⟨⟨b, hb⟩, bs, hbs⟩
      exact ⟨b :: bs, .cons hb hbs⟩

/-! ## What a list can hold -/

/-- A user and a key that a list can hold: neither is empty, has blank space at its ends or a comma
in it, and the user has no colon. -/
structure Listable (pair : String × String) : Prop where
  user_ne : pair.1 ≠ ""
  user_trimmed : Text.IsTrimmed pair.1.toList
  user_no_comma : ',' ∉ pair.1.toList
  user_no_colon : ':' ∉ pair.1.toList
  key_ne : pair.2 ≠ ""
  key_trimmed : Text.IsTrimmed pair.2.toList
  key_no_comma : ',' ∉ pair.2.toList

theorem listable_of_namesKey (hcomma : ',' ∉ part) (h : NamesKey part pair) : Listable pair := by
  obtain ⟨user, key, rfl, hcolon, huser, hkey, rfl⟩ := h
  rw [List.mem_append, List.mem_cons, not_or, not_or] at hcomma
  obtain ⟨huserComma, -, hkeyComma⟩ := hcomma
  constructor
  · simpa using huser
  · simpa using Text.isTrimmed_trim user
  · simpa using fun h => huserComma (Text.mem_of_mem_trim h)
  · simpa using fun h => hcolon (Text.mem_of_mem_trim h)
  · simpa using hkey
  · simpa using Text.isTrimmed_trim key
  · simpa using fun h => hkeyComma (Text.mem_of_mem_trim h)

theorem comma_not_mem_of_mem (h : part ∈ filledParts text) : ',' ∉ part :=
  Text.not_mem_of_mem_splitOn (List.mem_filter.1 h).1

theorem listable_of_forall₂ (hcomma : ∀ part ∈ parts, ',' ∉ part) (h : List.Forall₂ NamesKey parts pairs) :
    ∀ pair ∈ pairs, Listable pair := by
  induction h with
  | nil => exact fun _ hpair => absurd hpair List.not_mem_nil
  | cons hnames _ ih =>
    obtain ⟨hfirst, hrest⟩ := List.forall_mem_cons.1 hcomma
    exact List.forall_mem_cons.2 ⟨listable_of_namesKey hfirst hnames, ih hrest⟩

/-! ## How a list is written -/

/-- Ways to write some users and keys as the parts of a list: with blank space around each user and
each key, and parts between them that are blank. -/
inductive Writes : List (List Char) → List (String × String) → Prop
  | nil : Writes [] []
  | blank {part : List Char} {parts : List (List Char)} {pairs : List (String × String)} (hblank : Text.AllBlank part)
    (hrest : Writes parts pairs) : Writes (part :: parts) pairs
  | pair {a b c d : List Char} {user key : String} {parts : List (List Char)} {pairs : List (String × String)}
    (ha : Text.AllBlank a) (hb : Text.AllBlank b) (hc : Text.AllBlank c) (hd : Text.AllBlank d) (hrest : Writes parts pairs) :
    Writes ((a ++ user.toList ++ b ++ ':' :: (c ++ key.toList ++ d)) :: parts) ((user, key) :: pairs)

theorem namesKey_of_listable {a b c d : List Char} {user key : String} (h : Listable (user, key)) (ha : Text.AllBlank a)
    (hb : Text.AllBlank b) (hc : Text.AllBlank c) (hd : Text.AllBlank d) :
    NamesKey (a ++ user.toList ++ b ++ ':' :: (c ++ key.toList ++ d)) (user, key) := by
  have huser : Text.trim (a ++ user.toList ++ b) = user.toList := Text.trim_eq_of_blanks ha h.user_trimmed hb
  have hkey : Text.trim (c ++ key.toList ++ d) = key.toList := Text.trim_eq_of_blanks hc h.key_trimmed hd
  refine ⟨a ++ user.toList ++ b, c ++ key.toList ++ d, rfl, ?_, ?_, ?_, ?_⟩
  · exact List.not_mem_append (List.not_mem_append (not_mem_of_allBlank isBlank_colon ha) h.user_no_colon)
      (not_mem_of_allBlank isBlank_colon hb)
  · rw [huser]
    exact fun hnil => h.user_ne (String.toList_eq_nil_iff.1 hnil)
  · rw [hkey]
    exact fun hnil => h.key_ne (String.toList_eq_nil_iff.1 hnil)
  · rw [huser, hkey, String.ofList_toList, String.ofList_toList]

/-- Nothing that is written holds a comma, and each part that is not blank names its pair. -/
theorem Writes.names (h : Writes parts pairs) (hpairs : ∀ pair ∈ pairs, Listable pair) :
    (∀ part ∈ parts, ',' ∉ part) ∧ List.Forall₂ NamesKey (parts.filter (¬Text.AllBlank ·)) pairs := by
  induction h with
  | nil => exact ⟨by simp, .nil⟩
  | blank hblank _ ih =>
    obtain ⟨hcomma, hnames⟩ := ih hpairs
    refine ⟨List.forall_mem_cons.2 ⟨not_mem_of_allBlank isBlank_comma hblank, hcomma⟩, ?_⟩
    rwa [List.filter_cons_of_neg (by simpa using hblank)]
  | @pair a b c d user key _ _ ha hb hc hd _ ih =>
    obtain ⟨hpair, hpairs⟩ := List.forall_mem_cons.1 hpairs
    obtain ⟨hcomma, hnames⟩ := ih hpairs
    have hfirst : ',' ∉ a ++ user.toList ++ b ++ ':' :: (c ++ key.toList ++ d) := by
      have hno {cs : List Char} (h : Text.AllBlank cs) : ',' ∉ cs := not_mem_of_allBlank isBlank_comma h
      simp [hno ha, hno hb, hno hc, hno hd, hpair.user_no_comma, hpair.key_no_comma]
    have hfilled : ¬Text.AllBlank (a ++ user.toList ++ b ++ ':' :: (c ++ key.toList ++ d)) := fun hblank =>
      not_mem_of_allBlank isBlank_colon hblank (List.mem_append_right _ List.mem_cons_self)
    refine ⟨List.forall_mem_cons.2 ⟨hfirst, hcomma⟩, ?_⟩
    rw [List.filter_cons_of_pos (by simpa using hfilled)]
    exact .cons (namesKey_of_listable hpair ha hb hc hd) hnames

theorem filledParts_intercalate (htext : text.toList = [','].intercalate parts) (hcomma : ∀ part ∈ parts, ',' ∉ part) :
    filledParts text = parts.filter (¬Text.AllBlank ·) := by
  rw [filledParts, htext]
  cases parts with
  | nil => decide
  | cons part parts => rw [List.splitOn_intercalate _ hcomma (List.cons_ne_nil _ _)]

/-- A list of keys is read exactly if each part between its commas that is not blank has a colon with
something other than blank space on both sides of the first one. What is read are the texts on these
two sides, trimmed, part by part, and all of them a list can hold; and whatever a list can hold is
read back from any way to write it. -/
theorem keys_read_as_written (text : String) :
    ((∃ pairs, readKeys text = .ok pairs) ↔
      ∀ part ∈ text.toList.splitOn ',', ¬Text.AllBlank part →
        ∃ user key, part = user ++ ':' :: key ∧ ':' ∉ user ∧ ¬Text.AllBlank user ∧ ¬Text.AllBlank key) ∧
    (∀ pairs, readKeys text = .ok pairs ↔ List.Forall₂ NamesKey (filledParts text) pairs) ∧
    (∀ pairs, readKeys text = .ok pairs → ∀ pair ∈ pairs, Listable pair) ∧
    ∀ parts pairs, text.toList = [','].intercalate parts → Writes parts pairs → (∀ pair ∈ pairs, Listable pair) →
      readKeys text = .ok pairs := by
  have hread (pairs : List (String × String)) : readKeys text = .ok pairs ↔ List.Forall₂ NamesKey (filledParts text) pairs :=
    readKeys_eq_ok_iff.trans listsKeys_iff
  refine ⟨?_, hread, fun pairs hpairs => ?_, fun parts pairs htext hwrites hpairs => ?_⟩
  · simp only [hread, exists_forall₂_iff, exists_namesKey_iff, filledParts, List.mem_filter, decide_eq_true_eq, and_imp]
  · exact listable_of_forall₂ (fun _ => comma_not_mem_of_mem) ((hread pairs).1 hpairs)
  · obtain ⟨hcomma, hnames⟩ := hwrites.names hpairs
    rwa [hread, filledParts_intercalate htext hcomma]

/-- A key with a colon, blank space of several kinds around it, and two parts that are blank. -/
theorem keys_read_with_blanks :
    let text := "\u2003a : b:c ,\t,d:e,"
    let pairs := [("a", "b:c"), ("d", "e")]
    (∃ parts, text.toList = [','].intercalate parts ∧ Writes parts pairs) ∧ (∀ pair ∈ pairs, Listable pair) ∧
      readKeys text = .ok pairs := by
  intro text pairs
  let parts := [['\u2003'] ++ "a".toList ++ [' '] ++ ':' :: ([' '] ++ "b:c".toList ++ [' ']), ['\t'],
    [] ++ "d".toList ++ [] ++ ':' :: ([] ++ "e".toList ++ []), []]
  have htext : text.toList = [','].intercalate parts := by decide
  have hwrites : Writes parts pairs :=
    .pair (by decide) (by decide) (by decide) (by decide) <| .blank (by decide) <|
      .pair (by decide) (by decide) (by decide) (by decide) <| .blank (by decide) .nil
  have hpairs : ∀ pair ∈ pairs, Listable pair := by
    have htrimmed (s : String) (h : Text.trim s.toList = s.toList) : Text.IsTrimmed s.toList := h ▸ Text.isTrimmed_trim _
    intro pair hpair
    simp only [pairs, List.mem_cons, List.not_mem_nil, or_false] at hpair
    rcases hpair with rfl | rfl
    all_goals exact ⟨by decide, htrimmed _ (by decide), by decide, by decide, by decide, htrimmed _ (by decide), by decide⟩
  exact ⟨⟨parts, htext, hwrites⟩, hpairs, (keys_read_as_written text).2.2.2 parts pairs htext hwrites hpairs⟩

end DownloadGateway.Settings
