import DownloadGateway.Text.Cut
import DownloadGateway.Text.Utf8
/-!
# Environment variables

Variables hold bytes; one whose value is no text counts as unset.
-/

namespace DownloadGateway

/-- The variables of a process; of several with one name the first counts. -/
structure Environment where
  entries : List (String × Bytes)
  deriving Repr, DecidableEq

namespace Environment

/-- The text of a variable, if it is set. -/
def get? (env : Environment) (name : String) : Option String :=
  (env.entries.find? (·.1 = name)).bind fun (_, value) => Utf8.decode? value

/-- The text behind `name=` in the first definition `variable=value` that starts so. For
a plain name this is the text of the variable; a name that holds an equals sign
itself reaches into the value of the variable before it. -/
def lookUp? (env : Environment) (name : String) : Option String :=
  match Text.cut? '=' name.toList with
  | none => env.get? name
  | some (owner, start) =>
    (env.entries.find? (·.1.toList = owner)).bind fun (_, value) =>
      (Text.after? (Utf8.encodeChars (start ++ ['='])) value).bind Utf8.decode?

/-- Whether a variable can hold a text: one without the character NUL. -/
def canHold (value : String) : Bool := value.toList.all (·.toNat ≠ 0)

/-- Sets a variable unless it has a text already. No answer if it has none and cannot
hold this one. -/
def setDefault? (env : Environment) (name value : String) : Option Environment :=
  match env.get? name with
  | some _ => some env
  | none => if canHold value then some ⟨(name, Utf8.encode value) :: env.entries⟩ else none

end Environment

end DownloadGateway
