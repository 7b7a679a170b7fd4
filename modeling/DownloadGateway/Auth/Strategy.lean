import DownloadGateway.Auth.Error
import DownloadGateway.Event
import DownloadGateway.Http.Request
/-!
# Authentication strategies

A strategy looks for one kind of credential. A chain tries its members in order: a
member that finds no credential hands over to the next, and any other outcome
ends the chain. Chains may hold chains.
-/

namespace DownloadGateway

/-- One way of telling who sent a request. -/
abbrev Attempt := Http.Request → Traced (Except AuthError Identity)

/-- A strategy: a single attempt, or a chain of strategies. -/
inductive Strategy where
  | leaf (attempt : Attempt)
  | chain (members : List Strategy)

instance : Inhabited Strategy := ⟨.chain []⟩

namespace Strategy

mutual

/-- Who sent a request, as far as a strategy can tell. -/
def authenticate : Strategy → Attempt
  | .leaf attempt => attempt
  | .chain members => firstOf members

/-- The first outcome that is not a missing credential. -/
def firstOf : List Strategy → Attempt
  | [], _ => pure (.error .missing)
  | s :: rest, request => do
    match ← s.authenticate request with
    | .error .missing => firstOf rest request
    | outcome => pure outcome

end

mutual

/-- The attempts of a strategy, in the order in which they are made. -/
def leaves : Strategy → List Attempt
  | .leaf attempt => [attempt]
  | .chain members => leavesOf members

def leavesOf : List Strategy → List Attempt
  | [] => []
  | s :: rest => s.leaves ++ leavesOf rest

end

/-- A strategy that always has the same outcome. Trying it is a call under its name. -/
def fixed (name : String) (outcome : Except AuthError Identity) : Strategy :=
  .leaf fun _ => do
    Traced.call (.strategy name)
    pure outcome

end Strategy

end DownloadGateway
