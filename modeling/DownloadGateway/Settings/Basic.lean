import DownloadGateway.Settings.EnvFile
import DownloadGateway.Store.Basic
import DownloadGateway.Text.Cut
import DownloadGateway.Text.Decimal
/-!
# Settings

The settings are read from environment variables and then checked as a whole. Both
stop at the first fault, in a fixed order.
-/

namespace DownloadGateway

/-- How a gateway is set up. -/
structure Settings where
  port : Nat
  environment : String
  origins : List String
  backend : Backend
  storagePath : String
  /-- The secret that tokens are signed with. -/
  tokenSecret : String
  /-- How many seconds a token is good for. -/
  tokenTtl : Nat
  /-- Pairs of user and API key. -/
  apiKeys : List (String × String)
  logFormat : String
  deriving Repr, DecidableEq

/-- Why settings are refused. -/
inductive SettingsError where
  | invalidBackend (text : String)
  | apiKeyFormat
  | invalidPort
  | missingSecret
  | shortSecret
  | zeroTtl
  | wildcardOrigin
  | shortKey (user : String)
  deriving Repr, DecidableEq

namespace Settings

/-- The least bytes of a token secret. -/
def minSecret : Nat := 32

/-- The least bytes of an API key. -/
def minKey : Nat := 16

def defaultPort : Nat := 4000

def defaultTtl : Nat := 300

end Settings

def SettingsError.message : SettingsError → String
  | .invalidBackend text => Backend.invalidName text
  | .apiKeyFormat => "API_KEYS entries must look like user:key"
  | .invalidPort => "PORT must be a valid number"
  | .missingSecret => "TOKEN_SECRET must be set to sign attachment access tokens"
  | .shortSecret => s!"TOKEN_SECRET must be at least {Settings.minSecret} characters long"
  | .zeroTtl => "TOKEN_TTL_SECONDS must be greater than 0"
  | .wildcardOrigin =>
    "CORS_ORIGINS cannot be '*' in production. Please specify explicit origins."
  | .shortKey user =>
    "API key for user '" ++ user ++ "' must be at least " ++ toString Settings.minKey
      ++ " characters long"

namespace Settings

/-- The entries of a list separated by commas: trimmed, and none of them blank. -/
def entries (text : String) : List (List Char) :=
  ((text.toList.splitOn ',').map Text.trim).filter (· ≠ [])

/-- One user and key, cut at the first colon; the key may hold further colons. -/
def readKey (entry : List Char) : Except SettingsError (String × String) :=
  match Text.cut? ':' entry with
  | none => .error .apiKeyFormat
  | some (user, key) =>
    if Text.trim user = [] ∨ Text.trim key = [] then .error .apiKeyFormat
    else .ok (String.ofList (Text.trim user), String.ofList (Text.trim key))

/-- The pairs of user and key in a list `user:key,user:key`. -/
def readKeys (text : String) : Except SettingsError (List (String × String)) :=
  (entries text).mapM readKey

/-- The kind of store that is asked for. -/
def readBackend (text : Option String) : Except SettingsError Backend :=
  match text with
  | none => .ok .directory
  | some text =>
    match Backend.ofName? text with
    | some backend => .ok backend
    | none => .error (.invalidBackend text)

/-- The port that is asked for. -/
def readPort (text : Option String) : Except SettingsError Nat :=
  match text with
  | none => .ok defaultPort
  | some text =>
    match Decimal.read? Decimal.max16 text.toList with
    | some port => .ok port
    | none => .error .invalidPort

/-- How long tokens are good for; a text that is no number counts as none. -/
def readTtl (text : Option String) : Nat :=
  (text.bind fun t => Decimal.read? Decimal.max64 t.toList).getD defaultTtl

/-- The settings that an environment gives. -/
def read (env : Environment) : Except SettingsError Settings := do
  let backend ← readBackend (env.get? "STORAGE_BACKEND")
  let apiKeys ← readKeys ((env.get? "API_KEYS").getD "")
  let port ← readPort (env.get? "PORT")
  match env.get? "TOKEN_SECRET" with
  | none => .error .missingSecret
  | some tokenSecret =>
    pure {
      port, backend, apiKeys, tokenSecret
      environment := ((env.get? "ENVIRONMENT").orElse fun _ => env.get? "APP_ENV").getD "development"
      origins := (entries ((env.get? "CORS_ORIGINS").getD "*")).map String.ofList
      storagePath := (env.get? "LOCAL_STORAGE_PATH").getD "./data/blobs"
      tokenTtl := readTtl (env.get? "TOKEN_TTL_SECONDS")
      logFormat := (env.get? "LOG_FORMAT").getD "compact" }

/-- Whether the gateway runs in production. -/
def isProduction (s : Settings) : Bool :=
  let name := String.ofList (s.environment.toList.map Char.toLower)
  name = "production" || name = "prod"

/-- Whether a key is too short. -/
def isShortKey (key : String) : Bool := (Utf8.encode key).length < minKey

/-- Checks settings as a whole. -/
def validate (s : Settings) : Except SettingsError Unit :=
  if (Utf8.encode s.tokenSecret).length < minSecret then .error .shortSecret
  else if s.tokenTtl = 0 then .error .zeroTtl
  else if s.isProduction && s.origins.contains "*" then .error .wildcardOrigin
  else match s.apiKeys.find? (isShortKey ·.2) with
    | some (user, _) => .error (.shortKey user)
    | none => .ok ()

/-- The settings that an environment gives, if they pass the checks. -/
def load (env : Environment) : Except SettingsError Settings := do
  let settings ← read env
  settings.validate
  pure settings

end Settings

end DownloadGateway
