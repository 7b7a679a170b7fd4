import DownloadGateway.Bytes
import DownloadGateway.Store.Path
/-!
# Trees of files

A file tree is seen through `get?`: what stands at a location below a root that is
always a directory. What lies above something is a directory too, for a tree has no
other shape. The operations take paths and answer the errors of the
operating system: a path that is no path at all is refused first; then it is
walked from left to right, and the first piece that is missing, too long, or below
something that is no directory decides the error.

The device that holds a tree may fail where the tree would allow an operation. An
operation that makes or writes something takes the device it runs on, and what it did
before it failed stays: directories that were made, a file that was emptied to be
written, the bytes that were written so far.
-/

namespace DownloadGateway

/-- Why the operating system refuses an operation on files. -/
inductive FileError where
  | notFound
  | alreadyExists
  | notDirectory
  | isDirectory
  | nameTooLong
  | nulCharacter
  /-- The device fails, for a reason of its own. -/
  | device (reason : String)
  deriving Repr, DecidableEq

def FileError.message : FileError → String
  | .notFound => "No such file or directory (os error 2)"
  | .alreadyExists => "File exists (os error 17)"
  | .notDirectory => "Not a directory (os error 20)"
  | .isDirectory => "Is a directory (os error 21)"
  | .nameTooLong => "File name too long (os error 36)"
  | .nulCharacter => "file name contained an unexpected NUL byte"
  | .device reason => reason

/-- What stands at a location. -/
inductive Entry where
  | file (content : Bytes)
  | directory
  deriving Repr, DecidableEq

/-- A file, or a directory and what it holds under each name. -/
inductive Node where
  | file (content : Bytes)
  | directory (entries : List (String × Node))
  deriving Repr

namespace Node

/-- What a node is, whatever it holds. -/
def entry : Node → Entry
  | .file content => .file content
  | .directory _ => .directory

/-- A file, or a directory that holds nothing. -/
def ofEntry : Entry → Node
  | .file content => .file content
  | .directory => .directory []

/-- What a directory holds under a name. -/
def child? (entries : List (String × Node)) (name : String) : Option Node :=
  (entries.find? (·.1 = name)).map (·.2)

/-- A directory with a node under a name, in place of what was there. -/
def setChild (entries : List (String × Node)) (name : String) (n : Node) : List (String × Node) :=
  (name, n) :: entries.filter (·.1 ≠ name)

/-- What stands at a location below a node. -/
def at? : Node → Location → Option Node
  | n, [] => some n
  | .file _, _ :: _ => none
  | .directory entries, name :: l => (child? entries name).bind (at? · l)

/-- Puts a node at a location below another, and directories where some are missing on
the way. Nothing can be put below a file. -/
def set (new : Node) : Location → Node → Node
  | [], _ => new
  | _ :: _, .file content => .file content
  | name :: l, .directory entries =>
    .directory (setChild entries name (set new l ((child? entries name).getD (.directory []))))

/-- Removes what stands at a location below a node. -/
def remove : Location → Node → Node
  | [], n => n
  | _ :: _, .file content => .file content
  | name :: l, .directory entries =>
    match l, child? entries name with
    | [], _ => .directory (entries.filter (·.1 ≠ name))
    | _, none => .directory entries
    | l, some n => .directory (setChild entries name (remove l n))

mutual

/-- What stands below a node. -/
def contents : Node → List (Location × Entry)
  | .file _ => []
  | .directory entries => contentsOf entries

/-- What stands below a directory that holds these nodes. -/
def contentsOf : List (String × Node) → List (Location × Entry)
  | [] => []
  | (name, n) :: entries =>
    ([name], n.entry) :: (n.contents.map fun (l, e) => (name :: l, e)) ++ contentsOf entries

end

@[simp] theorem entry_ofEntry (e : Entry) : (ofEntry e).entry = e := by cases e <;> rfl

@[simp] theorem child?_setChild (entries : List (String × Node)) (name other : String) (n : Node) :
    child? (setChild entries name n) other = if other = name then some n else child? entries other := by
  by_cases h : other = name
  · simp [child?, setChild, h]
  · simp only [child?, setChild, List.find?_cons, decide_eq_false (Ne.symm h), h, if_false]
    congr 1
    rw [List.find?_filter]
    refine congrArg (List.find? · entries) (funext fun x => ?_)
    by_cases hx : x.1 = other
    · simp [hx, h]
    · simp [hx]

theorem setChild_setChild (entries : List (String × Node)) (name : String) (n n' : Node) :
    setChild (setChild entries name n) name n' = setChild entries name n' := by
  simp [setChild, List.filter_filter]

/-- What was put somewhere and then replaced leaves nothing. -/
theorem set_set (new new' : Node) (l : Location) (n : Node) : new'.set l (new.set l n) = new'.set l n := by
  induction l generalizing n with
  | nil => rfl
  | cons name l ih =>
    cases n with
    | file content => rfl
    | directory entries => simp only [set, child?_setChild, if_true, Option.getD_some, ih, setChild_setChild]

theorem at?_ofEntry_cons (e : Entry) (name : String) (l : Location) :
    (ofEntry e).at? (name :: l) = none := by
  cases e <;> simp [ofEntry, at?, child?]

/-- An entry that is put into a directory, where none stood, stands there, and nothing
else moves. -/
theorem entry_at?_set {n : Node} {l : Location} {e : Entry} (hne : l ≠ [])
    (hup : (n.at? l.dropLast).map entry = some .directory)
    (hfree : (n.at? l).map entry ≠ some .directory) (m : Location) :
    (((ofEntry e).set l n).at? m).map entry = if m = l then some e else (n.at? m).map entry := by
  induction l generalizing n m with
  | nil => exact absurd rfl hne
  | cons name l ih =>
    cases n with
    | file content => cases l <;> simp [at?, entry] at hup
    | directory entries =>
      cases m with
      | nil => simp [set, at?, entry]
      | cons name' m =>
        by_cases hn : name' = name
        · subst hn
          simp only [set, at?, child?_setChild, if_true, Option.bind_some, List.cons.injEq, true_and]
          by_cases hl : l = []
          · subst hl
            cases m with
            | nil => simp [set, at?]
            | cons x m =>
              cases hc : child? entries name' with
              | none => simp [set, at?_ofEntry_cons]
              | some c =>
                cases c with
                | file content => simp [set, at?_ofEntry_cons, at?]
                | directory _ => simp [at?, hc, entry] at hfree
          · cases hc : child? entries name' with
            | none =>
              rw [List.dropLast_cons_of_ne_nil hl] at hup
              simp [at?, hc] at hup
            | some c =>
              rw [List.dropLast_cons_of_ne_nil hl] at hup
              simp only [at?, hc, Option.bind_some] at hup hfree
              simpa using ih hl hup hfree m
        · simp [set, at?, hn]

end Node

/-- A tree of files, as what its root holds. -/
structure FileTree where
  entries : List (String × Node)
  deriving Repr

/-- How the device that holds a tree fails, for reasons that do not show in the tree: no
permission, no space, a fault of its own. -/
structure Device where
  /-- Why nothing is made at a path, and no file there is opened to be written. -/
  refusal? : FileTree → Path → Option String
  /-- How many bytes are written to a file, where not all of them are, and why no more. -/
  stop? : FileTree → Path → (content : Bytes) → Option (Fin content.length × String)
  /-- Why it is not certain that what was written to a file is kept. -/
  syncFault? : FileTree → Path → Option String

/-- A device that never fails. -/
def Device.sound : Device := ⟨fun _ _ => none, fun _ _ _ => none, fun _ _ => none⟩

namespace FileTree

/-- The tree with nothing below its root. -/
def empty : FileTree := ⟨[]⟩

/-- The root as a directory among others. -/
def root (t : FileTree) : Node := .directory t.entries

/-- The tree below a root, if that is a directory. -/
def ofRoot : Node → FileTree
  | .directory entries => ⟨entries⟩
  | .file _ => empty

/-- What stands at a location. The root is a directory. -/
def get? (t : FileTree) (l : Location) : Option Entry := (t.root.at? l).map Node.entry

/-- Puts an entry at a location, in place of what stands there. -/
def set (t : FileTree) (l : Location) (e : Entry) : FileTree :=
  ofRoot ((Node.ofEntry e).set l t.root)

/-- The longest name, in bytes. -/
def maxName : Nat := 255

/-- Whether a name is longer than names may be. -/
def isTooLong (name : String) : Bool := name.utf8ByteSize > maxName

/-- The longest path, in bytes. -/
def maxPath : Nat := 4095

/-- Why a path is refused whatever the tree holds. -/
def fault? (p : Path) : Option FileError :=
  if p.text.toList.any (·.toNat = 0) then some .nulCharacter
  else if p.text.utf8ByteSize > maxPath then some .nameTooLong
  else none

/-- What stands at the end of the pieces that lead on from `here`. The directories that
lead to `here` are `above` it, the nearest first; above the root there is only the
root. -/
def walk (here : Node) (above : List Node) : List String → Except FileError Node
  | [] => .ok here
  | piece :: pieces =>
    match here with
    | .file _ => .error .notDirectory
    | .directory entries =>
      if isTooLong piece then .error .nameTooLong
      else if Path.stays piece then walk here above pieces
      else if piece = Path.up then walk (above.headD here) above.tail pieces
      else match Node.child? entries piece with
        | none => .error .notFound
        | some n => walk n (here :: above) pieces

/-- What stands at the end of a path. -/
def stat (t : FileTree) (p : Path) : Except FileError Entry :=
  match fault? p with
  | some e => .error e
  | none => (walk t.root [] p.pieces).map Node.entry

/-- Whether a path leads to a directory. -/
def isDirectory (t : FileTree) (p : Path) : Bool :=
  match t.stat p with
  | .ok .directory => true
  | _ => false

/-- The content of a file. -/
def read (t : FileTree) (p : Path) : Except FileError Bytes :=
  match t.stat p with
  | .ok (.file content) => .ok content
  | .ok .directory => .error .isDirectory
  | .error e => .error e

/-- Makes a file that holds nothing, or empties the one that is there. The directory must be
there. -/
def makeFile (t : FileTree) (p : Path) (device : Device := .sound) : Except FileError FileTree :=
  match device.refusal? t p with
  | some reason => .error (.device reason)
  | none =>
    match t.stat p with
    | .ok (.file _) => .ok (t.set p.location (.file []))
    | .ok .directory => .error .isDirectory
    | .error .notFound =>
      match t.stat p.dropLast with
      | .ok _ => .ok (t.set p.location (.file []))
      | .error e => .error e
    | .error e => .error e

/-- Makes a file with some content, or replaces the content of one, if nothing fails. -/
def write (t : FileTree) (p : Path) (content : Bytes) : Except FileError FileTree :=
  (t.makeFile p).map (·.set p.location (.file content))

/-- Makes or empties a file and writes some content to it, as far as a device comes. -/
def writeOn (device : Device) (t : FileTree) (p : Path) (content : Bytes) :
    Except FileError Unit × FileTree :=
  match t.makeFile p device with
  | .error e => (.error e, t)
  | .ok t =>
    match device.stop? t p content with
    | some (n, reason) => (.error (.device reason), t.set p.location (.file (content.take n)))
    | none => (.ok (), t.set p.location (.file content))

/-- Makes sure that what was written to a file is kept. -/
def sync (device : Device) (t : FileTree) (p : Path) : Except FileError Unit :=
  match device.syncFault? t p with
  | some reason => .error (.device reason)
  | none => .ok ()

/-- Makes one directory. The directory above it must be there. -/
def makeDirectory (t : FileTree) (p : Path) (device : Device := .sound) : Except FileError FileTree :=
  match device.refusal? t p with
  | some reason => .error (.device reason)
  | none =>
    match fault? p with
    | some e => .error e
    | none =>
      match t.stat p.withoutSlash with
      | .ok _ => .error .alreadyExists
      | .error .notFound =>
        match t.stat p.withoutSlash.dropLast with
        | .ok _ => .ok (t.set p.location .directory)
        | .error e => .error e
      | .error e => .error e

/-- Makes a directory unless it is there. -/
def ensureDirectory (device : Device) (t : FileTree) (p : Path) : Except FileError FileTree :=
  match t.makeDirectory p device with
  | .ok t => .ok t
  | .error e => if t.isDirectory p then .ok t else .error e

/-- Makes a directory unless it is there; where something above it is missing, that is
made before by `makeAbove`. What was made before an error stays. -/
def ensureAfter (device : Device) (p : Path) (makeAbove : FileTree → Except FileError Unit × FileTree)
    (t : FileTree) : Except FileError Unit × FileTree :=
  match t.ensureDirectory device p with
  | .ok t => (.ok (), t)
  | .error .notFound =>
    match makeAbove t with
    | (.error e, t) => (.error e, t)
    | (.ok (), t) =>
      match t.ensureDirectory device p with
      | .ok t => (.ok (), t)
      | .error e => (.error e, t)
  | .error e => (.error e, t)

/-- Makes the directory that a path, given by its pieces in reverse, leads to, and those
above it, as far as they are missing. -/
def makeReversed (device : Device) : List String → FileTree → Except FileError Unit × FileTree
  | [], t => (.ok (), t)
  | piece :: rest, t =>
    if Path.stays piece then makeReversed device rest t
    else t.ensureAfter device ⟨(piece :: rest).reverse⟩ (makeReversed device rest)

/-- Makes the directories above a path, as far as they are missing. -/
def makeParents (t : FileTree) (p : Path) : Except FileError Unit × FileTree :=
  makeReversed .sound p.aboveReversed t

/-- Makes a directory and those above it, as far as they are missing. -/
def makeDirectories (t : FileTree) (p : Path) (device : Device := .sound) :
    Except FileError Unit × FileTree :=
  t.ensureAfter device p (makeReversed device p.aboveReversed)

/-- Removes what a path leads to, and all below it. A directory that is not called by a
name loses what it holds but stays itself. -/
def remove (t : FileTree) (p : Path) : FileTree :=
  match t.stat p with
  | .ok _ => if p.endsInName then ofRoot (Node.remove p.location t.root) else t.set p.location .directory
  | .error _ => t

/-- Whether one location is listed before another: a directory before what it holds,
and names by their characters. -/
def listedBefore : Location → Location → Bool
  | [], _ => true
  | _ :: _, [] => false
  | a :: as, b :: bs => if a = b then listedBefore as bs else decide (a < b)

/-- The entries below a location, in the order of a listing. -/
def below (t : FileTree) (l : Location) : List (Location × Entry) :=
  match t.root.at? l with
  | some n => n.contents.mergeSort fun x y => listedBefore x.1 y.1
  | none => []

@[simp] theorem get?_nil (t : FileTree) : t.get? [] = some .directory := by
  simp [get?, root, Node.at?, Node.entry]

theorem root_set (t : FileTree) {l : Location} (e : Entry) (h : l ≠ []) :
    (t.set l e).root = (Node.ofEntry e).set l t.root := by
  cases l with
  | nil => exact absurd rfl h
  | cons name l => simp [set, root, ofRoot, Node.set]

/-- An entry that is replaced leaves nothing. -/
theorem set_set (t : FileTree) (l : Location) (e e' : Entry) : (t.set l e).set l e' = t.set l e' := by
  cases l with
  | nil => rfl
  | cons name l => rw [set, root_set t e (List.cons_ne_nil _ _), Node.set_set, set]

/-- An entry that is put into a directory, in place of none or of a file, stands there,
and nothing else moves. -/
theorem get?_set (t : FileTree) {l : Location} (e : Entry) (hne : l ≠ [])
    (hup : t.get? l.dropLast = some .directory) (hfree : t.get? l ≠ some .directory) (m : Location) :
    (t.set l e).get? m = if m = l then some e else t.get? m := by
  rw [get?, root_set t e hne]
  exact Node.entry_at?_set hne hup hfree m

end FileTree

end DownloadGateway
