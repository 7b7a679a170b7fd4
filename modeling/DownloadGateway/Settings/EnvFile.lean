import DownloadGateway.Settings.Environment
import DownloadGateway.Text.Alphanumeric
import DownloadGateway.Text.Blank
import DownloadGateway.Text.Cut
/-!
# Files of settings

A file of settings gives variables a text, unless they have one. It is read in two
steps. First it is cut into statements: a statement is a line, or several lines if
quotes are open at the end of one, and a comment behind blank space is dropped.
Then each statement is read as `KEY=value`, with an optional `export` in front.

In a value, single quotes take everything as it stands. Elsewhere a backslash
escapes, and `$name` or `${name}` stands for the variable of that name. Reading
stops at the first statement that is malformed; what was set before stays set.
-/

namespace DownloadGateway.EnvFile

/-! ## Statements -/

/-- What the reader is inside of while it looks for the end of a statement. -/
inductive Context where
  | plain
  /-- Directly behind a blank, where a comment may start. -/
  | gap
  | escape
  | single
  | singleEscape
  | double
  | doubleEscape
  deriving Repr, DecidableEq

/-- The context behind a character that stands outside of quotes. -/
def Context.ofPlain (c : Char) : Context :=
  if c = '\\' then .escape
  else if c = '"' then .double
  else if c = '\'' then .single
  else .plain

/-- The context behind a character. Behind the first of several blanks there is a gap,
behind the second there is none. -/
def Context.next : Context → Char → Context
  | .plain, c => if Text.isBlank c ∧ c ≠ '\n' ∧ c ≠ '\r' then .gap else .ofPlain c
  | .gap, c => .ofPlain c
  | .escape, _ => .plain
  | .single, c => if c = '\\' then .singleEscape else if c = '\'' then .plain else .single
  | .singleEscape, _ => .single
  | .double, c => if c = '\\' then .doubleEscape else if c = '"' then .plain else .double
  | .doubleEscape, _ => .double

/-- A line up to a comment, and the context at its end; no context if a comment was
found. -/
def scan : Context → List Char → List Char × Option Context
  | context, [] => ([], some context)
  | context, c :: cs =>
    if context = .gap ∧ c = '#' then ([], none)
    else
      let (kept, final) := scan (context.next c) cs
      (c :: kept, final)

/-- The lines of a text, each with the line feed at its end if it has one. -/
def lines : List Char → List (List Char)
  | [] => []
  | c :: cs =>
    if c = '\n' then [c] :: lines cs
    else match lines cs with
      | [] => [[c]]
      | l :: ls => (c :: l) :: ls

/-- Whether a line that starts a statement is a comment as a whole. -/
def isComment (line : List Char) : Bool :=
  (line.dropWhile Text.isBlank).head? = some '#'

/-- Statements, the first of which goes on from a line. -/
def prepend (line : List Char) : List (Option (List Char)) → List (Option (List Char))
  | [] => []
  | statement :: rest => statement.map (line ++ ·) :: rest

/-- The statements that lines make up. `context` is the context that the lines before
ended in, which is plain where a statement starts. A statement that is still open at
the end is malformed, and given as `none`. -/
def statements (context : Context) : List (List Char) → List (Option (List Char))
  | [] => if context = .plain then [] else [none]
  | l :: ls =>
    if context = .plain ∧ isComment l then statements .plain ls
    else match scan context l with
      | (kept, none) => some kept :: statements .plain ls
      | (_, some .plain) => some l :: statements .plain ls
      | (_, some context) => prepend l (statements context ls)

/-! ## Values -/

/-- The character that an escape stands for. -/
def unescape? (c : Char) : Option Char :=
  if c = 'n' then some '\n'
  else if "\\'\"$ ".toList.contains c then some c
  else none

/-- Whether nothing but blanks and a comment is left of a statement. -/
def isTail : List Char → Bool
  | [] => true
  | c :: cs => c = '#' || ((c = ' ' || c = '\t') && isTail cs)

/-- The text that stands for a variable, whose name is given in reverse. -/
def substitute (env : Environment) (nameReversed : List Char) : List Char :=
  ((env.lookUp? (String.ofList nameReversed.reverse)).getD "").toList

mutual

/-- The value that the rest of a statement stands for, outside of quotes. -/
def plainValue? (env : Environment) : List Char → Option (List Char)
  | [] => some []
  | '\\' :: c :: cs => (unescape? c).bind fun e => (plainValue? env cs).map (e :: ·)
  | c :: cs =>
    if c = '$' then variableValue? env false [] cs
    else if c = '\'' then singleValue? env cs
    else if c = '"' then doubleValue? env cs
    else if c = '\\' then some []
    else if c = ' ' ∨ c = '\t' then (if isTail cs then some [] else none)
    else (plainValue? env cs).map (c :: ·)

/-- The value that the rest of a statement stands for, inside single quotes. -/
def singleValue? (env : Environment) : List Char → Option (List Char)
  | [] => none
  | c :: cs => if c = '\'' then plainValue? env cs else (singleValue? env cs).map (c :: ·)

/-- The value that the rest of a statement stands for, inside double quotes. -/
def doubleValue? (env : Environment) : List Char → Option (List Char)
  | [] => none
  | '\\' :: c :: cs => (unescape? c).bind fun e => (doubleValue? env cs).map (e :: ·)
  | c :: cs =>
    if c = '$' then variableValue? env true [] cs
    else if c = '"' then plainValue? env cs
    else (doubleValue? env cs).map (c :: ·)

/-- The value that the rest of a statement stands for, inside the name of a variable.
`inDouble` tells whether double quotes are open, and `name` is what was read of
the name, in reverse. The character behind a name stands for itself. -/
def variableValue? (env : Environment) (inDouble : Bool) (name : List Char) :
    List Char → Option (List Char)
  | [] => if inDouble then none else some (substitute env name)
  | c :: cs =>
    if Text.isAlphanumeric c then variableValue? env inDouble (c :: name) cs
    else if c = '\x7b' ∧ name = [] then bracedValue? env inDouble [] cs
    else if c = '$' then
      (variableValue? env inDouble [] cs).map (substitute env name ++ ·)
    else
      (if inDouble then doubleValue? env cs else plainValue? env cs).map
        (substitute env name ++ c :: ·)

/-- The value that the rest of a statement stands for, inside the braces around the
name of a variable, of which `name` was read, in reverse. -/
def bracedValue? (env : Environment) (inDouble : Bool) (name : List Char) :
    List Char → Option (List Char)
  | [] => none
  | c :: cs =>
    if c = '\x7d' then
      (if inDouble then doubleValue? env cs else plainValue? env cs).map (substitute env name ++ ·)
    else bracedValue? env inDouble (c :: name) cs

end

/-! ## Assignments -/

def isKeyStart (c : Char) : Bool := c.isAlpha || c == '_'

def isKeyChar (c : Char) : Bool := c.isAlphanum || c == '_' || c == '.'

/-- The key in front of a text and what follows it, without blanks between. -/
def key? (cs : List Char) : Option (List Char × List Char) :=
  match cs with
  | c :: _ =>
    if isKeyStart c then
      some (cs.takeWhile isKeyChar, (cs.dropWhile isKeyChar).dropWhile Text.isBlank)
    else none
  | [] => none

/-- The variable that a key and the text behind it set. -/
def assignment? (env : Environment) (key : List Char) : List Char → Option (String × String)
  | '=' :: rest =>
    match rest.dropWhile Text.isBlank with
    | [] | '#' :: _ => some (String.ofList key, "")
    | value => (plainValue? env value).map fun v => (String.ofList key, String.ofList v)
  | _ => none

/-- What a statement sets: nothing, or a variable. No answer if it is malformed. -/
def setting? (env : Environment) (statement : List Char) : Option (Option (String × String)) :=
  match Text.trim statement with
  | [] | '#' :: _ => some none
  | cs => do
    let (key, rest) ← key? cs
    if key = "export".toList ∧ rest.head? ≠ some '=' then
      let (key, rest) ← key? rest
      some (some (← assignment? env key rest))
    else some (some (← assignment? env key rest))

/-- The environment after some statements, up to the first that is malformed. No
answer if one of them sets a variable to a text that it cannot hold. -/
def run? (env : Environment) : List (Option (List Char)) → Option Environment
  | [] | none :: _ => some env
  | some statement :: rest =>
    match setting? env statement with
    | none => some env
    | some none => run? env rest
    | some (some (name, value)) => (env.setDefault? name value).bind (run? · rest)

/-- A text without the byte order mark at its start. -/
def withoutMark (cs : List Char) : List Char :=
  if cs.head? = some (Char.ofNat 0xFEFF) then cs.drop 1 else cs

end DownloadGateway.EnvFile

namespace DownloadGateway

/-- Adds the variables of a file of settings. No answer if a variable cannot hold what
the file gives it. -/
def Environment.withFile? (env : Environment) (text : String) : Option Environment :=
  EnvFile.run? env (EnvFile.statements .plain (EnvFile.lines (EnvFile.withoutMark text.toList)))

end DownloadGateway
