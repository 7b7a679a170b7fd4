import DownloadGateway.Identity
import DownloadGateway.Text.Cut
import DownloadGateway.Text.Percent
/-!
# Download paths

A download path is `/download/<blob>` or `/download/<blob>/<name>`, where neither
segment is empty or holds a slash. The blob id is the segment as it stands; the
name is form-decoded. `split?` is the one place that knows the shape.
-/

namespace DownloadGateway

/-- What a download path names. -/
structure DownloadPath where
  blobId : BlobId
  name : Option String
  deriving DecidableEq

namespace DownloadPath

/-- What every download path begins with. -/
def root : String := "/download"

/-- The raw blob and name segments of a download path. -/
def split? (path : String) : Option (List Char × Option (List Char)) := do
  let rest ← Text.after? (root.toList ++ ['/']) path.toList
  match Text.cut? '/' rest with
  | none => if rest = [] then none else some (rest, none)
  | some (blob, name) =>
    if blob = [] ∨ name = [] ∨ '/' ∈ name then none else some (blob, some name)

/-- The blob segment of a download path. -/
def rawBlobId? (path : String) : Option String :=
  (split? path).map fun (blob, _) => String.ofList blob

/-- What a client is told about a name that cannot be decoded. -/
def wrongEncoding : String := "Wrong url encoding"

/-- The name that a raw segment stands for. -/
def decodeName (raw : String) : Except Failure String :=
  if Percent.malformed (Utf8.encode raw) then
    .error (.badRequest wrongEncoding [])
  else
    match Utf8.decode (Percent.unescape (Utf8.encodeChars (Percent.spaced raw.toList))) with
    | .ok name => .ok name
    | .error fault => .error (.badRequest wrongEncoding [fault.message])

/-- The failure for a path of another shape. -/
def notDownload (path : String) : Failure :=
  .badRequest ("Not a download path: " ++ path) []

/-- The blob id of a path, whatever its name segment. -/
def blobIdOf (path : String) : Except Failure BlobId :=
  match split? path with
  | none => .error (notDownload path)
  | some (blob, _) => BlobId.ofString (String.ofList blob)

/-- The blob id and the decoded name of a path. -/
def resolve (path : String) : Except Failure DownloadPath :=
  match split? path with
  | none => .error (notDownload path)
  | some (blob, name) => do
    let blobId ← BlobId.ofString (String.ofList blob)
    match name with
    | none => pure ⟨blobId, none⟩
    | some raw => pure ⟨blobId, some (← decodeName (String.ofList raw))⟩

end DownloadPath

end DownloadGateway
