import DownloadGateway.Identity
/-!
# What the gateway does and records

While it answers a request the gateway calls on its collaborators and records
events for the log. `Traced` is a result together with the calls and log entries
that led to it, in order; it is a monad, so that a pipeline reads as a sequence
of steps. Only `LogEvent.level`, `LogEvent.message` and `LogEvent.fields` know
how an entry is worded.
-/

namespace DownloadGateway

/-- What identifies a request in the log. -/
structure RequestContext where
  action : String
  method : String
  path : String
  /-- The raw blob segment of the path, if it has one. -/
  blobId : Option String
  /-- Who asks, once that is known. -/
  identity : Option Identity
  deriving Repr, DecidableEq

/-- A call on a collaborator. -/
inductive Call where
  | authenticate
  /-- A named authentication strategy was tried. -/
  | strategy (name : String)
  | verifyToken (blobId : BlobId)
  | retrieve (identity : Identity) (blobId : BlobId)
  | contains (identity : Identity) (blobId : BlobId)
  | generateToken (user : String) (blobId : BlobId)
  /-- A store looked a blob up in its own table. -/
  | lookUp (blobId : BlobId)
  | openContent
  | closeContent
  deriving DecidableEq

/-- An entry of the log. -/
inductive LogEvent where
  | authenticated (identity : Identity)
  | handled (context : RequestContext) (status : Nat)
  | failed (context : RequestContext) (failure : Failure)
  | tokenIssued (user : String) (blobId : BlobId)
  | streamFailed (blobId : BlobId) (sent : Nat) (error : String)
  | streamCompleted (blobId : BlobId) (sent : Nat)
  | streamReleased (blobId : BlobId) (sent declared : Nat)
  | blobInserted (user : String) (blobId : BlobId) (size : Nat)
  | blobWritten (path key : String) (size : Nat)
  | blobResolved (path : String) (size : Nat) (contentType : String)
  | blobIdRejected (blobId : BlobId) (reason : String)
  | directoryStorage (path : String)
  | memoryStorage
  | noApiKeys
  | originIgnored (origin : String)
  | concurrencyLimit (limit : Nat)
  deriving DecidableEq

namespace LogEvent

def level : LogEvent → Level
  | .authenticated _ | .handled _ _ | .streamCompleted _ _ | .blobInserted _ _ _
  | .blobResolved _ _ _ | .blobIdRejected _ _ => .debug
  | .failed _ failure => failure.level
  | .streamFailed _ _ _ => .error
  | .memoryStorage | .noApiKeys | .originIgnored _ => .warn
  | .tokenIssued _ _ | .streamReleased _ _ _ | .blobWritten _ _ _ | .directoryStorage _
  | .concurrencyLimit _ => .info

def message : LogEvent → String
  | .authenticated _ => "Request authenticated"
  | .handled _ _ => "Request handled"
  | .failed _ failure =>
    match failure.level with
    | .warn => "Malformed request"
    | .error => "Request failed"
    | _ => "Request rejected"
  | .tokenIssued _ _ => "Attachment access token issued"
  | .streamFailed _ _ _ => "Blob stream failed mid-transfer"
  | .streamCompleted _ _ => "Blob stream completed"
  | .streamReleased _ _ _ => "Blob stream released before completion"
  | .blobInserted _ _ _ => "Memory storage insert"
  | .blobWritten _ _ _ => "Local storage write successful"
  | .blobResolved _ _ _ => "Local storage blob resolved"
  | .blobIdRejected _ _ => "Rejected blob id"
  | .directoryStorage _ => "Using local blob storage"
  | .memoryStorage => "Using in-memory blob storage; content is lost on restart"
  | .noApiKeys => "API_KEYS is empty; only attachment access tokens can authenticate"
  | .originIgnored _ => "Ignoring invalid CORS origin"
  | .concurrencyLimit _ => "HTTP concurrency limit layer enabled"

/-- What stands for a value that is not known. -/
def unknown : String := "-"

/-- The fields that every entry about a request's outcome has. -/
def contextFields (c : RequestContext) (status : Nat) : List (String × String) :=
  [("action", c.action), ("method", c.method), ("path", c.path),
    ("blob_id", c.blobId.getD unknown), ("user", (c.identity.map (·.user)).getD unknown),
    ("status", toString status)]

/-- The fields of an entry. A failure the client caused knowingly is described in
one line, any other with its causes. -/
def fields : LogEvent → List (String × String)
  | .authenticated identity => [("user", identity.user), ("method", identity.method.name)]
  | .handled context status => contextFields context status
  | .failed context failure =>
    let error := if failure.level = .info then failure.message else failure.detail
    contextFields context failure.status ++ [("category", failure.category.name), ("error", error)]
  | .tokenIssued user blobId => [("user", user), ("blob_id", blobId.value)]
  | .streamFailed blobId sent error =>
    [("blob_id", blobId.value), ("bytes_sent", toString sent), ("error", error)]
  | .streamCompleted blobId sent => [("blob_id", blobId.value), ("bytes_sent", toString sent)]
  | .streamReleased blobId sent declared =>
    [("blob_id", blobId.value), ("bytes_sent", toString sent), ("declared_size", toString declared)]
  | .blobInserted user blobId size =>
    [("user", user), ("blob_id", blobId.value), ("size_bytes", toString size)]
  | .blobWritten path key size => [("path", path), ("key", key), ("size_bytes", toString size)]
  | .blobResolved path size contentType =>
    [("path", path), ("size_bytes", toString size), ("content_type", contentType)]
  | .blobIdRejected blobId reason => [("blob_id", blobId.value), ("reason", reason)]
  | .directoryStorage path => [("path", path)]
  | .memoryStorage | .noApiKeys => []
  | .originIgnored origin => [("origin", origin)]
  | .concurrencyLimit limit => [("http_concurrency_limit", toString limit)]

end LogEvent

/-- A call or a log entry. -/
inductive Event where
  | call (c : Call)
  | log (e : LogEvent)
  deriving DecidableEq

/-- A result and the events that led to it, the earliest first. -/
structure Traced (α : Type) where
  value : α
  events : List Event

namespace Traced

instance : Monad Traced where
  pure a := ⟨a, []⟩
  bind x f := ⟨(f x.value).value, x.events ++ (f x.value).events⟩

@[simp] theorem value_pure {α : Type} (a : α) : (pure a : Traced α).value = a := rfl

@[simp] theorem events_pure {α : Type} (a : α) : (pure a : Traced α).events = [] := rfl

@[simp] theorem value_bind {α β : Type} (x : Traced α) (f : α → Traced β) :
    (x >>= f).value = (f x.value).value := rfl

@[simp] theorem events_bind {α β : Type} (x : Traced α) (f : α → Traced β) :
    (x >>= f).events = x.events ++ (f x.value).events := rfl

@[simp] theorem value_map {α β : Type} (f : α → β) (x : Traced α) : (f <$> x).value = f x.value := rfl

@[simp] theorem events_map {α β : Type} (f : α → β) (x : Traced α) : (f <$> x).events = x.events :=
  List.append_nil _

theorem ext {α : Type} {x y : Traced α} (hv : x.value = y.value) (he : x.events = y.events) :
    x = y := by
  cases x; cases y; simp_all

instance : LawfulMonad Traced := LawfulMonad.mk' Traced
  (fun _ => ext rfl (by simp))
  (fun _ _ => rfl)
  (fun _ _ _ => ext rfl (by simp [List.append_assoc]))

/-- Records a call. -/
def call (c : Call) : Traced Unit := ⟨(), [.call c]⟩

/-- Records a log entry. -/
def log (e : LogEvent) : Traced Unit := ⟨(), [.log e]⟩

@[simp] theorem events_call (c : Call) : (call c).events = [.call c] := rfl

@[simp] theorem events_log (e : LogEvent) : (log e).events = [.log e] := rfl

end Traced

/-- The calls among some events. -/
def Event.calls (es : List Event) : List Call :=
  es.filterMap fun | .call c => some c | .log _ => none

@[simp] theorem Event.calls_nil : Event.calls [] = [] := rfl

@[simp] theorem Event.calls_cons_call (c : Call) (es : List Event) :
    Event.calls (.call c :: es) = c :: Event.calls es := rfl

@[simp] theorem Event.calls_cons_log (e : LogEvent) (es : List Event) :
    Event.calls (.log e :: es) = Event.calls es := rfl

@[simp] theorem Event.calls_append (es es' : List Event) :
    Event.calls (es ++ es') = Event.calls es ++ Event.calls es' :=
  List.filterMap_append

/-- The log entries among some events. -/
def Event.logs (es : List Event) : List LogEvent :=
  es.filterMap fun | .log e => some e | .call _ => none

/-- A step of a pipeline: it may end the request with a failure. -/
abbrev Step := ExceptT Failure Traced

namespace Step

/-- A step without events. -/
def ofExcept {α : Type} (x : Except Failure α) : Step α := ExceptT.mk (pure x)

/-- A step whose error becomes a failure. -/
def attempt {ε α : Type} (toFailure : ε → Failure) (x : Traced (Except ε α)) : Step α :=
  ExceptT.mk ((·.mapError toFailure) <$> x)

end Step

end DownloadGateway
