import DownloadGateway.Http.Headers
import DownloadGateway.Name.Disposition
import DownloadGateway.Proofs.Name.EncodedWord
/-!
# What the disposition of a download says of its name

In either form the value is a parameter in quotes, in which no quote is left unescaped
(`attachment_eq_quoted`), and nothing in it is more than tabs and printable ASCII. A reader that
goes by the name of the parameter gets the name of the download back, so no two names share a
value.
-/

namespace DownloadGateway.Disposition

variable {name : String}

/-! ## The two forms -/

/-- What a value begins with if its name stands in it as it is. -/
def plainOpening : String := "attachment; filename=\""

/-- What a value begins with if its name is encoded. -/
def encodedOpening : String := "attachment; filename*=\""

theorem attachment_of_verbatim (h : name.toList.all isVerbatim = true) :
    attachment name = plainOpening ++ String.ofList (escape name.toList) ++ "\"" := by
  rw [attachment, if_pos h]
  rfl

theorem attachment_of_encoded (h : ¬name.toList.all isVerbatim = true) :
    attachment name = encodedOpening ++ EncodedWord.encode name ++ "\"" := by
  rw [attachment, if_neg h]
  rfl

/-- No value begins in both ways. -/
theorem encodedOpening_append_ne (s rest : String) : encodedOpening ++ s ≠ plainOpening ++ rest := by
  intro h
  rw [← String.toList_inj, String.toList_append, String.toList_append] at h
  have hafter := Text.after?_eq_some_iff.2 h
  cases hafter

/-! ## What it is made of -/

theorem escape_cons (c : Char) (cs : List Char) :
    escape (c :: cs) = (if c = '"' ∨ c = '\\' then ['\\', c] else [c]) ++ escape cs := List.flatMap_cons

/-- Escapes are only put before quotes and backslashes. -/
theorem escape_of_inert {cs : List Char} (h : ∀ c ∈ cs, EncodedWord.isInert c = true) : escape cs = cs := by
  induction cs with
  | nil => rfl
  | cons c cs ih =>
    obtain ⟨hc, hcs⟩ := List.forall_mem_cons.1 h
    simp only [EncodedWord.isInert, Bool.and_eq_true, bne_iff_ne] at hc
    rw [escape_cons, if_neg (by simp [hc.1.2, hc.2]), ih hcs, List.singleton_append]

/-- A value is one parameter in quotes, whose text is escaped; encoded words are not changed by
that. -/
theorem attachment_eq_quoted (name : String) :
    ∃ parameter text, (parameter = "filename" ∨ parameter = "filename*") ∧ text.all isVerbatim = true ∧
      attachment name = "attachment; " ++ parameter ++ "=\"" ++ String.ofList (escape text) ++ "\"" := by
  by_cases hverbatim : name.toList.all isVerbatim = true
  · exact ⟨"filename", name.toList, .inl rfl, hverbatim, attachment_of_verbatim hverbatim⟩
  · have hwords : ∀ c ∈ (EncodedWord.encode name).toList, EncodedWord.isInert c = true := by
      intro c hc
      rw [EncodedWord.encode, String.toList_ofList] at hc
      exact EncodedWord.isInert_of_mem_joined hc
    refine ⟨"filename*", (EncodedWord.encode name).toList, .inr rfl, ?_, ?_⟩
    · rw [List.all_eq_true]
      intro c hc
      have hinert := hwords c hc
      simp only [EncodedWord.isInert, Bool.and_eq_true, decide_eq_true_eq] at hinert
      simp [isVerbatim, hinert.1.1.1, hinert.1.1.2]
    · rw [escape_of_inert hwords, String.ofList_toList]
      exact attachment_of_encoded hverbatim

theorem isVerbatim_of_mem_escape {cs : List Char} (h : cs.all isVerbatim = true) {c : Char} (hc : c ∈ escape cs) :
    isVerbatim c = true := by
  obtain ⟨x, hx, hc⟩ := List.mem_flatMap.1 hc
  have hx := List.all_eq_true.1 h x hx
  split at hc
  · rcases List.mem_cons.1 hc with rfl | hc
    · rfl
    · rwa [List.mem_singleton.1 hc]
  · rwa [List.mem_singleton.1 hc]

/-- Tabs and printable ASCII are all that a value holds. -/
theorem isVerbatim_of_mem_attachment {name : String} {c : Char} (h : c ∈ (attachment name).toList) :
    isVerbatim c = true := by
  obtain ⟨parameter, text, hparameter, htext, heq⟩ := attachment_eq_quoted name
  have hopening : ("attachment; " ++ parameter ++ "=\"").toList.all isVerbatim = true := by
    rcases hparameter with rfl | rfl <;> decide
  rw [heq, String.toList_append, String.toList_append, String.toList_ofList, List.mem_append, List.mem_append] at h
  rcases h with (h | h) | h
  · exact List.all_eq_true.1 hopening c h
  · exact isVerbatim_of_mem_escape htext h
  · rw [List.mem_singleton.1 h]
    rfl

/-! ## Quotes -/

/-- The places of the quotes in a text that no backslash escapes, where a backslash takes the
character behind it along. The text begins at `place`. -/
def unescapedQuotes (place : Nat) : List Char → List Nat
  | [] => []
  | '\\' :: _ :: cs => unescapedQuotes (place + 2) cs
  | c :: cs => if c = '"' then place :: unescapedQuotes (place + 1) cs else unescapedQuotes (place + 1) cs

theorem unescapedQuotes_cons_of_ne {c : Char} (h : c ≠ '\\') (place : Nat) (cs : List Char) :
    unescapedQuotes place (c :: cs) =
      if c = '"' then place :: unescapedQuotes (place + 1) cs else unescapedQuotes (place + 1) cs := by
  rw [unescapedQuotes]
  intro _ _ hc
  exact absurd hc h

/-- An escaped text leaves no quote unescaped, neither its own nor one behind it. -/
theorem unescapedQuotes_escape (place : Nat) (cs rest : List Char) :
    unescapedQuotes place (escape cs ++ rest) = unescapedQuotes (place + (escape cs).length) rest := by
  induction cs generalizing place with
  | nil => rfl
  | cons c cs ih =>
    rw [escape_cons]
    split
    · rw [List.append_assoc, List.cons_append, List.singleton_append, unescapedQuotes, ih, List.cons_append,
        List.singleton_append,
        List.length_cons, List.length_cons]
      congr 1
      omega
    · rename_i hc
      rw [not_or] at hc
      rw [List.singleton_append, List.cons_append, unescapedQuotes_cons_of_ne hc.2, if_neg hc.1, ih, List.length_cons]
      congr 1
      omega

/-- In a value, only the quotes around the parameter are not escaped. -/
theorem unescapedQuotes_quoted {parameter : List Char} (h : ∀ c ∈ parameter, EncodedWord.isInert c = true)
    (text : List Char) :
    unescapedQuotes 0 (parameter ++ '"' :: escape text ++ ['"']) =
      [parameter.length, (parameter ++ '"' :: escape text).length] := by
  have hopening := unescapedQuotes_escape 0 parameter ('"' :: (escape text ++ ['"']))
  rw [escape_of_inert h] at hopening
  rw [List.append_assoc, List.cons_append, hopening, unescapedQuotes_cons_of_ne (by decide), if_pos rfl,
    unescapedQuotes_escape]
  simp [unescapedQuotes]
  omega

/-! ## The name is read back -/

/-- The text that escapes stand for: a backslash says to take the character behind it as it is. -/
def unescape : List Char → List Char
  | [] => []
  | '\\' :: c :: cs => c :: unescape cs
  | c :: cs => c :: unescape cs

theorem unescape_cons_of_ne {c : Char} (h : c ≠ '\\') (cs : List Char) : unescape (c :: cs) = c :: unescape cs := by
  rw [unescape]
  intro _ _ hc
  exact absurd hc h

theorem unescape_escape (cs : List Char) : unescape (escape cs) = cs := by
  induction cs with
  | nil => rfl
  | cons c cs ih =>
    rw [escape_cons]
    split
    · rw [List.cons_append, List.singleton_append, unescape, ih]
    · rename_i hc
      rw [List.singleton_append, unescape_cons_of_ne (fun h => hc (.inr h)), ih]

theorem name_of_plain {rest : String} (h : attachment name = plainOpening ++ rest) :
    ∃ body, rest = body ++ "\"" ∧ String.ofList (unescape body.toList) = name := by
  by_cases hverbatim : name.toList.all isVerbatim = true
  · rw [attachment_of_verbatim hverbatim, String.append_assoc, String.append_right_inj] at h
    refine ⟨_, h.symm, ?_⟩
    rw [String.toList_ofList, unescape_escape, String.ofList_toList]
  · rw [attachment_of_encoded hverbatim, String.append_assoc] at h
    exact absurd h (encodedOpening_append_ne _ _)

theorem name_of_encoded (h : ¬∃ rest, attachment name = plainOpening ++ rest) :
    ∃ words, attachment name = encodedOpening ++ words ++ "\"" ∧
      EncodedWord.read? words.toList = some (Utf8.encode name) := by
  by_cases hverbatim : name.toList.all isVerbatim = true
  · exact absurd ⟨_, (attachment_of_verbatim hverbatim).trans (String.append_assoc ..)⟩ h
  · exact ⟨_, attachment_of_encoded hverbatim, EncodedWord.read?_encode name⟩

/-- A value that gives its name plainly does so up to the quote at its end, once its escapes are
undone; any other value holds encoded words, up to the quote at its end, for the bytes of the
name. So different names have different values. -/
theorem attachment_determines_name (name : String) :
    (∀ rest, attachment name = plainOpening ++ rest →
      ∃ body, rest = body ++ "\"" ∧ String.ofList (unescape body.toList) = name) ∧
    ((¬∃ rest, attachment name = plainOpening ++ rest) →
      ∃ words, attachment name = encodedOpening ++ words ++ "\"" ∧
        EncodedWord.read? words.toList = some (Utf8.encode name)) ∧
    ∀ other, attachment other = attachment name → other = name := by
  refine ⟨fun rest h => name_of_plain h, name_of_encoded, fun other hother => ?_⟩
  by_cases hplain : ∃ rest, attachment name = plainOpening ++ rest
  · obtain ⟨rest, h⟩ := hplain
    obtain ⟨body, rfl, hname⟩ := name_of_plain h
    obtain ⟨body', hbody, hother'⟩ := name_of_plain (hother.trans h)
    rw [← hname, ← hother', (String.append_left_inj _).1 hbody]
  · obtain ⟨words, hwords, hread⟩ := name_of_encoded hplain
    obtain ⟨words', hwords', hread'⟩ := name_of_encoded (hother ▸ hplain)
    rw [← hother, hwords', String.append_left_inj, String.append_right_inj] at hwords
    rw [← hwords, hread'] at hread
    exact Utf8.encode_inj.1 (Option.some.inj hread)

end DownloadGateway.Disposition
