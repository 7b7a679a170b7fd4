import DownloadGateway.Proofs.Text.Blank
import DownloadGateway.Settings.Basic
import Mathlib.Data.List.Forall2
/-!
# Lists in settings

Lists of origins and of keys are written with commas. Their entries are trimmed and none is empty;
one that names a key has its user in front of its first colon.
-/

namespace DownloadGateway.Settings

variable {text : String} {entry : List Char} {pair : String × String} {pairs : List (String × String)} {e : SettingsError}

/-! ## Entries -/

theorem of_mem_entries (h : entry ∈ entries text) : Text.IsTrimmed entry ∧ entry ≠ [] ∧ ',' ∉ entry := by
  simp only [entries, List.mem_filter, List.mem_map, decide_eq_true_eq] at h
  obtain ⟨⟨part, hpart, rfl⟩, hne⟩ := h
  exact ⟨Text.isTrimmed_trim part, hne, fun hcomma => Text.not_mem_of_mem_splitOn hpart (Text.mem_of_mem_trim hcomma)⟩

/-! ## Keys -/

/-- An entry that names a user and a key: the texts in front of its first colon and behind it,
trimmed, and neither is blank. -/
def NamesKey (entry : List Char) (pair : String × String) : Prop :=
  ∃ user key, entry = user ++ ':' :: key ∧ ':' ∉ user ∧ Text.trim user ≠ [] ∧ Text.trim key ≠ [] ∧
    pair = (String.ofList (Text.trim user), String.ofList (Text.trim key))

theorem readKey_eq_ok_iff : readKey entry = .ok pair ↔ NamesKey entry pair := by
  unfold readKey
  split
  · rename_i hcut
    simp only [reduceCtorEq, false_iff]
    rintro ⟨user, key, rfl, -⟩
    exact Text.cut?_eq_none_iff.1 hcut (by simp)
  · rename_i user key hcut
    obtain ⟨hcolon, rfl⟩ := Text.cut?_eq_some_iff.1 hcut
    split
    · rename_i hblank
      simp only [reduceCtorEq, false_iff]
      rintro ⟨user', key', heq, hcolon', huser, hkey, -⟩
      rw [heq, Text.cut?_eq_some_iff.2 ⟨hcolon', rfl⟩] at hcut
      cases hcut
      exact hblank.elim huser hkey
    · rename_i hblank
      constructor
      · rintro h
        exact ⟨user, key, rfl, hcolon, (not_or.1 hblank).1, (not_or.1 hblank).2, (Except.ok.inj h).symm⟩
      · rintro ⟨user', key', heq, hcolon', -, -, rfl⟩
        rw [heq, Text.cut?_eq_some_iff.2 ⟨hcolon', rfl⟩] at hcut
        cases hcut
        rfl

theorem of_readKey_eq_error (h : readKey entry = .error e) : e = .apiKeyFormat := by
  unfold readKey at h
  split at h
  · cases h
    rfl
  · split at h <;> cases h
    rfl

/-- A text that lists some keys, in order. -/
def ListsKeys (text : String) (pairs : List (String × String)) : Prop := List.Forall₂ NamesKey (entries text) pairs

/-- A list is read if each of its elements is. -/
theorem mapM_eq_ok_iff {ε α β : Type} {f : α → Except ε β} {as : List α} {bs : List β} :
    as.mapM f = .ok bs ↔ List.Forall₂ (fun a b => f a = .ok b) as bs := by
  induction as generalizing bs with
  | nil =>
    rw [List.mapM_nil, List.forall₂_nil_left_iff]
    exact ⟨fun h => (Except.ok.inj h).symm, fun h => h ▸ rfl⟩
  | cons a as ih =>
    rw [List.mapM_cons, List.forall₂_cons_left_iff]
    constructor
    · intro h
      cases ha : f a with
      | error e =>
        rw [ha] at h
        cases h
      | ok b =>
        cases has : as.mapM f with
        | error e =>
          rw [ha, has] at h
          cases h
        | ok bs =>
          rw [ha, has] at h
          cases h
          exact ⟨b, bs, rfl, ih.1 has, rfl⟩
    · rintro ⟨b, bs, ha, has, rfl⟩
      rw [ha, ih.2 has]
      rfl

theorem of_mapM_eq_error {ε α β : Type} {f : α → Except ε β} {as : List α} {e : ε} (h : as.mapM f = .error e) :
    ∃ a ∈ as, f a = .error e := by
  induction as with
  | nil => cases h
  | cons a as ih =>
    rw [List.mapM_cons] at h
    cases ha : f a with
    | error e' =>
      rw [ha] at h
      cases h
      exact ⟨a, List.mem_cons_self .., ha⟩
    | ok b =>
      cases has : as.mapM f with
      | error e' =>
        rw [ha, has] at h
        cases h
        obtain ⟨a', hmem, ha'⟩ := ih has
        exact ⟨a', List.mem_cons_of_mem _ hmem, ha'⟩
      | ok bs =>
        rw [ha, has] at h
        cases h

/-- The keys that are read are those listed. -/
theorem readKeys_eq_ok_iff : readKeys text = .ok pairs ↔ ListsKeys text pairs := by
  rw [readKeys, mapM_eq_ok_iff]
  simp only [readKey_eq_ok_iff]
  rfl

theorem of_readKeys_eq_error (h : readKeys text = .error e) : e = .apiKeyFormat := by
  obtain ⟨entry, -, hkey⟩ := of_mapM_eq_error h
  exact of_readKey_eq_error hkey

end DownloadGateway.Settings
