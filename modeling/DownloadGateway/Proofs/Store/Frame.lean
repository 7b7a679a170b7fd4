import DownloadGateway.Proofs.Store.Puts
/-!
# What the calls of a store leave alone

A put makes missing directories on the way to the base directory and that of its user, and writes
two files there, as far as its device comes (`Effect`); nothing else in the tree moves, whatever
becomes of the put. Without a valid key it moves nothing, and what asks the store never does. So over
any run of calls, the blobs that are not put are answered as before it, if the path of the base
directory does not go up from something missing.
-/

namespace DownloadGateway.DirectoryStore

open FileTree

/-- A put on a device, which may fail. -/
structure Attempt extends Put where
  device : Device

/-- What an attempt does, and the tree it leaves. -/
def Attempt.run (p : Attempt) (d : DirectoryStore) (t : FileTree) : Except StorageError Unit × FileTree :=
  d.store t p.user p.blobId (p.data, p.contentType) p.device

variable {d : DirectoryStore} {t t' : FileTree} {puts : List Attempt} {l : Location} {e e' e'' : Option Entry}
  {identity : Identity} {blobId : BlobId}

/-! ## Places -/

/-- What some puts can make of what stands at a place: nothing else; a directory where nothing was,
on the way to the base directory or for a user; or a file of a blob, as their device leaves it. -/
inductive Effect (d : DirectoryStore) (puts : List Attempt) (l : Location) : Option Entry → Option Entry → Prop
  | unchanged (e : Option Entry) : Effect d puts l e e
  | baseDirectory (front : List String) (hfront : front <+: d.root.pieces) (hl : l = Path.location ⟨front⟩) :
      Effect d puts l none (some .directory)
  | userDirectory (p : Attempt) (hp : p ∈ puts) (hl : l = d.root.location ++ [p.user]) :
      Effect d puts l none (some .directory)
  | file (p : Attempt) (hp : p ∈ puts) (x : String) (content written : Bytes)
      (hfile : (x, content) ∈ files p.blobId (p.data, p.contentType)) (hwritten : p.device.Leaves content written)
      (hl : l = d.root.location ++ [p.user, x]) (e : Option Entry) (he : e ≠ some .directory) :
      Effect d puts l e (some (.file written))

theorem Effect.mono {puts' : List Attempt} (h : d.Effect puts l e e') (hputs : puts ⊆ puts') : d.Effect puts' l e e' := by
  cases h with
  | unchanged => exact .unchanged _
  | baseDirectory front hfront hl => exact .baseDirectory front hfront hl
  | userDirectory p hp hl => exact .userDirectory p (hputs hp) hl
  | file p hp x content written hfile hwritten hl _ he =>
    exact .file p (hputs hp) x content written hfile hwritten hl _ he

/-- A directory stays, and where a file is there is a file for good. -/
theorem Effect.trans (h : d.Effect puts l e e') (h' : d.Effect puts l e' e'') : d.Effect puts l e e'' := by
  cases h' with
  | unchanged => exact h
  | baseDirectory front hfront hl =>
    cases h with
    | unchanged => exact .baseDirectory front hfront hl
  | userDirectory p hp hl =>
    cases h with
    | unchanged => exact .userDirectory p hp hl
  | file p hp x content written hfile hwritten hl _ he' =>
    refine .file p hp x content written hfile hwritten hl _ ?_
    cases h with
    | unchanged => exact he'
    | baseDirectory => exact absurd rfl he'
    | userDirectory => exact absurd rfl he'
    | file _ _ _ _ _ _ _ _ _ he => exact he

/-- What a put makes of a place, whether it succeeds or not. -/
theorem effect_run (d : DirectoryStore) (t : FileTree) (p : Attempt) (l : Location) :
    d.Effect [p] l (t.get? l) ((p.run d t).2.get? l) := by
  refine store_keeps (P := fun t' => d.Effect [p] l (t.get? l) (t'.get? l)) (.unchanged _) ?_ ?_
  · intro t' huser hgrown
    rcases hgrown l with h | ⟨hnone, hnew, front, hfront, hl⟩
    · rw [h]
      exact .unchanged _
    · rw [hnone, hnew]
      rcases Path.of_prefix_below hfront with rfl | ⟨hfront, -⟩
      · refine .userDirectory p List.mem_cons_self ?_
        rw [hl, ← Path.location_below _ (List.forall_mem_singleton.2 huser)]
        rfl
      · exact .baseDirectory front hfront hl
  · intro t₁ t₂ x content written hkey hfile hwritten hleads hwrite ht₁
    obtain ⟨hfree, hset⟩ := get?_of_write hleads (isName_of_key hkey).1 (isName_of_file hkey hfile) hwrite
    refine ht₁.trans ?_
    rw [hset]
    split
    · rename_i hl
      exact .file p List.mem_cons_self x content written hfile hwritten hl _ (hl ▸ hfree)
    · exact .unchanged _

/-! ## Calls -/

/-- A call of a store. -/
inductive Call
  | put (p : Put) (device : Device := .sound)
  | contains (user : String) (blobId : BlobId)
  | find (user : String) (blobId : BlobId)
  | openContent (found : Found)

/-- What a call answers. -/
inductive Answer
  | put (result : Except StorageError Unit)
  | contains (result : Except StorageError Bool)
  | find (result : Except StorageError Found)
  | openContent (result : Except StorageError Bytes)

/-- What a call answers, and the tree after it. -/
def serve (d : DirectoryStore) (t : FileTree) : Call → Answer × FileTree
  | .put p device =>
    let (result, t) := (d.put t p.user p.blobId (p.data, p.contentType) device).value
    (.put result, t)
  | .contains user blobId => (.contains (d.contains t user blobId).value, t)
  | .find user blobId => (.find (d.find t user blobId).value, t)
  | .openContent found => (.openContent (found.openIn t), t)

/-- The tree after some calls. -/
def serveAll (d : DirectoryStore) (t : FileTree) (calls : List Call) : FileTree :=
  calls.foldl (fun t c => (d.serve t c).2) t

/-- What a call puts, if it puts something under a valid key. -/
def Call.write? : Call → Option Attempt
  | .put p device =>
    match Key.check p.user p.blobId with
    | .ok () => some ⟨p, device⟩
    | .error _ => none
  | .contains .. | .find .. | .openContent _ => none

theorem tree_serve (d : DirectoryStore) (t : FileTree) (c : Call) :
    (d.serve t c).2 = match c.write? with
      | some p => (p.run d t).2
      | none => t := by
  cases c with
  | put p device =>
    unfold serve Call.write?
    simp only [value_put]
    cases hkey : Key.check p.user p.blobId with
    | ok => rfl
    | error e => rw [store_of_rejected hkey]
  | contains | find | openContent => rfl

/-! ## Base directories -/

/-- A store that was created at some time, whatever became of the tree since. -/
def Created (d : DirectoryStore) : Prop := ∃ t t' device, create t d.base device = (.ok d, t')

/-- Where a base directory was made once, its path has no name that is too long. -/
theorem Created.fits (h : d.Created) : ∀ piece ∈ d.root.pieces, ¬isTooLong piece := by
  obtain ⟨t, t', device, hcreate⟩ := h
  exact (of_create hcreate).2.2.fits

/-- A path that goes up from something that is missing. -/
def GoesUpFromMissing (t : FileTree) (p : Path) : Prop :=
  ∃ front rest, p.pieces = front ++ Path.up :: rest ∧ follow t.get? [] front = .error .notFound

theorem Created.whereMissing (h : d.Created) (hup : ¬GoesUpFromMissing t d.root) :
    DescendsWhereMissing t.get? [] d.root.pieces := by
  intro front piece rest hpieces hmissing
  refine ⟨h.fits piece (by simp [hpieces]), ?_⟩
  rintro rfl
  exact hup ⟨front, rest, hpieces, hmissing⟩

/-! ## Runs of calls -/

/-- The tree after some puts, whether they succeed or not. -/
def storeAll (d : DirectoryStore) (t : FileTree) (puts : List Attempt) : FileTree :=
  puts.foldl (fun t p => (p.run d t).2) t

theorem storeAll_cons (d : DirectoryStore) (t : FileTree) (p : Attempt) (puts : List Attempt) :
    d.storeAll t (p :: puts) = d.storeAll (p.run d t).2 puts := by
  rw [storeAll, List.foldl_cons, storeAll]

/-- A run of calls leaves the tree that its puts under valid keys leave. -/
theorem serveAll_eq (d : DirectoryStore) (t : FileTree) (calls : List Call) :
    d.serveAll t calls = d.storeAll t (calls.filterMap Call.write?) := by
  induction calls generalizing t with
  | nil => rfl
  | cons c calls ih =>
    rw [serveAll, List.foldl_cons, tree_serve, ← serveAll, ih]
    cases hwrite : c.write? with
    | none => rw [List.filterMap_cons_none hwrite]
    | some p => rw [List.filterMap_cons_some hwrite, storeAll_cons]

theorem effect_storeAll (d : DirectoryStore) (t : FileTree) (puts : List Attempt) (l : Location) :
    d.Effect puts l (t.get? l) ((d.storeAll t puts).get? l) := by
  induction puts generalizing t with
  | nil => exact .unchanged _
  | cons p puts ih =>
    rw [storeAll_cons]
    have hfirst : d.Effect (p :: puts) l (t.get? l) _ := (effect_run d t p l).mono (by simp)
    exact hfirst.trans ((ih _).mono (List.subset_cons_self ..))

/-- A put leaves the path of the base directory leading down from what is missing. -/
theorem descends_run (h : DescendsWhereMissing t.get? [] d.root.pieces) (p : Attempt) :
    DescendsWhereMissing (p.run d t).2.get? [] d.root.pieces := by
  refine store_keeps (P := fun t' => DescendsWhereMissing t'.get? [] d.root.pieces) h ?_ ?_
  · intro t' _ hgrown front piece rest hpieces hmissing
    refine h front piece rest hpieces ?_
    by_contra hthere
    rw [follow_of_grown (fun l e => hgrown.get?_of_some) hthere] at hmissing
    exact hthere hmissing
  · intro t₁ t₂ x content written hkey hfile _ hleads hwrite _
    obtain ⟨hleads', -⟩ := stat_of_write hleads (isName_of_key hkey).1 (isName_of_file hkey hfile) hwrite
    exact (leads_of_follow_below (List.cons_ne_nil _ _) hleads').whereMissing

/-- A run of puts changes no answer about a blob that is not among them. -/
theorem answers_of_storeAll (hdown : DescendsWhereMissing t.get? [] d.root.pieces) (huser : ¬isTooLong identity.user)
    (hid : ¬isTooLong blobId.value) (hother : ∀ p ∈ puts, (identity.user, blobId) ≠ (p.user, p.blobId)) :
    (d.toStore (d.storeAll t puts)).answers blobId identity = (d.toStore t).answers blobId identity := by
  induction puts generalizing t with
  | nil => rfl
  | cons p puts ih =>
    obtain ⟨hfirst, hrest⟩ := List.forall_mem_cons.1 hother
    rw [storeAll_cons, ih (descends_run hdown p) hrest]
    exact answers_of_other hfirst ⟨hdown, .inr huser, fun _ => .inr hid⟩

/-- The frame of a run of calls, of one call say, over any tree and on any devices, whether the calls
succeed or not.
What stands at a place changes as the puts under valid keys allow; all other calls can be left out
and the tree is the same; and about a blob that is not put, the answers are those from before the
run, unless the path of the base directory goes up from something that is missing. -/
theorem calls_framed (d : DirectoryStore) (t : FileTree) (calls : List Call) :
    let puts := calls.filterMap Call.write?
    (∀ l, d.Effect puts l (t.get? l) ((d.serveAll t calls).get? l)) ∧ d.serveAll t calls = d.storeAll t puts ∧
      (d.Created → ¬GoesUpFromMissing t d.root → ∀ (identity : Identity) (blobId : BlobId),
        ¬isTooLong identity.user → ¬isTooLong blobId.value →
        (∀ p ∈ puts, (identity.user, blobId) ≠ (p.user, p.blobId)) →
        (d.toStore (d.serveAll t calls)).answers blobId identity = (d.toStore t).answers blobId identity) := by
  intro puts
  have htree : d.serveAll t calls = d.storeAll t puts := serveAll_eq d t calls
  rw [htree]
  exact ⟨effect_storeAll d t puts, rfl, fun hcreated hup identity blobId huser hid hother =>
    answers_of_storeAll (hcreated.whereMissing hup) huser hid hother⟩

/-- A put beside a blob, a look at it, one that is refused, and one that is cut short: the blob is what
it was. -/
theorem calls_framed_beside :
    let d : DirectoryStore := ⟨"x/../s"⟩
    let t : FileTree := ⟨[("x", .directory []), ("s", .directory [("u", .directory [("b", .file [])])])]⟩
    let b : BlobId := ⟨"b", by decide⟩
    let calls : List Call := [.put ⟨"u", ⟨"c", by decide⟩, "text/plain", [104]⟩, .find "u" b, .put ⟨"..", b, "", []⟩,
      .put ⟨"u", ⟨"c", by decide⟩, "text/plain", [1, 2]⟩ (.upTo 1)]
    d.Created ∧ ¬GoesUpFromMissing t d.root ∧ ¬isTooLong "u" ∧ ¬isTooLong b.value ∧
      (∀ p ∈ calls.filterMap Call.write?, ("u", b) ≠ (p.user, p.blobId)) ∧
      (d.toStore (d.serveAll t calls)).answers b ⟨"u", .apiKey⟩ = (d.toStore t).answers b ⟨"u", .apiKey⟩ := by
  intro d t b calls
  have hcreated : d.Created :=
    ⟨.empty, (create .empty d.base).2, .sound, Prod.ext (show (create .empty d.base).1 = .ok d by decide +kernel) rfl⟩
  have hleads : t.Leads d.root := (isDirectory_iff.1 (by decide +kernel)).2
  have hup : ¬GoesUpFromMissing t d.root := fun ⟨_, _, hpieces, hmissing⟩ =>
    (hleads.whereMissing _ _ _ hpieces hmissing).2 rfl
  have hother : ∀ p ∈ calls.filterMap Call.write?, ("u", b) ≠ (p.user, p.blobId) := by decide +kernel
  obtain ⟨-, -, hanswers⟩ := calls_framed d t calls
  exact ⟨hcreated, hup, by decide, by decide, hother,
    hanswers hcreated hup ⟨"u", .apiKey⟩ b (by decide) (by decide) hother⟩

/-- A put does show in what is answered about another blob where the path of the base directory
goes up again, behind something missing, to a directory that is there: the put makes what is
missing, and from then on the path leads there. -/
theorem put_shows_in_other :
    let d : DirectoryStore := ⟨"x/../s"⟩
    let t : FileTree := ⟨[("s", .directory [("u", .directory [("b", .file [])])])]⟩
    let b : BlobId := ⟨"b", by decide⟩
    let outcome := d.store t "v" ⟨"c", by decide⟩ ([104], "text/plain")
    (create .empty d.base).1 = .ok d ∧ ¬isTooLong "u" ∧ ¬isTooLong b.value ∧
      ¬isTooLong (b.value ++ Key.sidecarEnding) ∧ outcome.1 = .ok () ∧
      ((d.toStore t).answers b ⟨"u", .apiKey⟩).1 = .ok false ∧
      ((d.toStore outcome.2).answers b ⟨"u", .apiKey⟩).1 = .ok true := by
  decide +kernel

end DownloadGateway.DirectoryStore
