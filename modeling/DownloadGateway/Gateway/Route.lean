import DownloadGateway.Http.Request
/-!
# Routes

A route leads requests of one method on paths of one shape to an endpoint. Shapes
are matched against the path as sent. The last capture of a shape takes one
segment that is not empty; a capture before it may be empty too.
-/

namespace DownloadGateway.Gateway

/-- A segment of a shape. -/
inductive Piece where
  | literal (text : String)
  | capture (name : String)
  deriving Repr, DecidableEq

/-- The shape of a path. -/
abbrev Shape := List Piece

namespace Shape

/-- A segment as it is written down. -/
def pieceText : Piece → String
  | .literal text => text
  | .capture name => "\x7b" ++ name ++ "\x7d"

/-- A shape as it is written down. -/
def text (s : Shape) : String := String.join (s.map fun p => "/" ++ pieceText p)

/-- Whether the segments of a path have a shape. -/
def matchesSegments : Shape → List (List Char) → Bool
  | [], [] => true
  | [.capture _], [segment] => segment ≠ []
  | .literal text :: pieces, segment :: segments =>
    decide (segment = text.toList) && matchesSegments pieces segments
  | .capture _ :: pieces, _ :: segments => matchesSegments pieces segments
  | _, _ => false

/-- Whether a path has a shape. -/
def matchesPath (s : Shape) (path : String) : Bool :=
  match path.toList with
  | '/' :: rest => matchesSegments s (rest.splitOn '/')
  | _ => false

end Shape

/-- What the gateway does for download paths. -/
inductive Endpoint where
  | issueToken
  | download
  | preflight
  deriving Repr, DecidableEq

/-- The method an endpoint is asked for by. -/
def Endpoint.method : Endpoint → String
  | .issueToken => "POST"
  | .download => "GET"
  | .preflight => "OPTIONS"

/-- What a route has to do with cross-origin headers. -/
inductive CorsRole where
  /-- The headers are added to whatever the endpoint answers. -/
  | decorate
  /-- The endpoint answers with nothing but the headers. -/
  | preflight
  deriving Repr, DecidableEq

/-- A route. -/
structure Route where
  endpoint : Endpoint
  shape : Shape
  cors : CorsRole
  deriving Repr, DecidableEq

/-- The shape of a download path without a name. -/
def blobShape : Shape := [.literal "download", .capture "blobId"]

/-- The shape of a download path with a name. -/
def namedBlobShape : Shape := [.literal "download", .capture "blobId", .capture "name"]

/-- The shape of the path that tells whether the gateway is up. -/
def healthShape : Shape := [.literal "health"]

/-- The routes of the download paths. -/
def routes : List Route :=
  [⟨.issueToken, blobShape, .decorate⟩, ⟨.issueToken, namedBlobShape, .decorate⟩,
    ⟨.download, blobShape, .decorate⟩, ⟨.download, namedBlobShape, .decorate⟩,
    ⟨.preflight, blobShape, .preflight⟩, ⟨.preflight, namedBlobShape, .preflight⟩]

/-- The method that a request is routed by: `HEAD` goes where `GET` goes. -/
def routedMethod (method : String) : String := if method = "HEAD" then "GET" else method

/-- The methods that a list of routed methods serves, for the `allow` header. -/
def allowText (methods : List String) : String :=
  ",".intercalate (methods.map fun m => if m = "GET" then "GET,HEAD" else m)

/-- Where a request leads. -/
inductive Destination where
  | endpoint (route : Route)
  | health
  | wrongMethod (allow : String)
  /-- The path has the shape of no route. -/
  | nowhere
  /-- The target is no path: it does not start with a slash. -/
  | noPath
  deriving Repr, DecidableEq

/-- Where a request leads. -/
def destination (request : Http.Request) : Destination :=
  let method := routedMethod request.method
  if healthShape.matchesPath request.path then
    if method = "GET" then .health else .wrongMethod (allowText ["GET"])
  else match routes.filter (·.shape.matchesPath request.path) with
    | [] => if request.path.toList.head? = some '/' then .nowhere else .noPath
    | candidates =>
      match candidates.find? (·.endpoint.method = method) with
      | some route => .endpoint route
      | none => .wrongMethod (allowText (candidates.map (·.endpoint.method)))

end DownloadGateway.Gateway
