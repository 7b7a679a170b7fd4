import DownloadGateway.Digest.Hmac
import DownloadGateway.Identity
import DownloadGateway.Text.Base64
import DownloadGateway.Text.Cut
import DownloadGateway.Text.Decimal
import DownloadGateway.Text.Utf8
/-!
# Attachment access tokens

A token lets one user read one blob until it expires, with nothing kept on the
server. It is written as four fields joined by dots: the user and the blob id in
unpadded URL-safe base64, the expiry in decimal seconds since the epoch, and in
base64 the authentication code of the first three fields as written.
-/

namespace DownloadGateway

/-- Why a token is not accepted or not made. -/
inductive TokenError where
  | malformed
  | badSignature
  | expired
  | wrongBlob
  | signing (reason : String)
  deriving Repr, DecidableEq

def TokenError.message : TokenError → String
  | .malformed => "Malformed attachment access token"
  | .badSignature => "Invalid attachment access token signature"
  | .expired => "Attachment access token has expired"
  | .wrongBlob => "Attachment access token was issued for another blob"
  | .signing reason => "Failed to sign attachment access token: " ++ reason

/-- A token that cannot be signed is the server's fault; any other error is the caller's. -/
def TokenError.toFailure : TokenError → Failure
  | .signing reason => .internal reason
  | e => .unauthorized e.message

/-- A signed grant. -/
structure AccessToken where
  user : String
  blobId : BlobId
  /-- The last second at which the token is good. -/
  expiresAt : Nat
  signature : Bytes
  deriving DecidableEq

namespace AccessToken

/-- A text as a field of a token. -/
def textField (s : String) : List Char := Base64.encodeUrl (Utf8.encode s)

/-- The text that a field of a token stands for. -/
def readTextField? (cs : List Char) : Option String :=
  (Base64.decode? cs).bind Utf8.decode?

/-- The text that is signed: the first three fields. -/
def signedText (user : String) (blobId : BlobId) (expiresAt : Nat) : List Char :=
  textField user ++ '.' :: textField blobId.value ++ '.' :: Decimal.print expiresAt

/-- The token as a text. -/
def serialize (t : AccessToken) : String :=
  String.ofList (signedText t.user t.blobId t.expiresAt ++ '.' :: Base64.encodeUrl t.signature)

/-- The authentication code of a signed text. -/
def sign (secret : Bytes) (signed : List Char) : Bytes :=
  Hmac.code secret (Utf8.encodeChars signed)

/-- The first three fields of a token, read from the text that was signed. -/
def readSigned? (signed : List Char) : Option (String × BlobId × Nat) :=
  match signed.splitOn '.' with
  | [user, blob, expiry] => do
    let user ← readTextField? user
    let blob ← (readTextField? blob).bind BlobId.ofString?
    let expiresAt ← Decimal.read? Decimal.max64 expiry
    some (user, blob, expiresAt)
  | _ => none

/-- Accepts a written token for a download of `blobId` at second `now`. The
signature is checked before anything it covers is read. -/
def verify (secret : Bytes) (now : Nat) (serialized : String) (blobId : BlobId) :
    Except TokenError AccessToken :=
  match Text.cutLast? '.' serialized.toList with
  | none => .error .malformed
  | some (signed, code) =>
    match Base64.decode? code with
    | none => .error .malformed
    | some signature =>
      if sign secret signed ≠ signature then .error .badSignature
      else match readSigned? signed with
        | none => .error .malformed
        | some (user, blob, expiresAt) =>
          if now > expiresAt then .error .expired
          else if blob ≠ blobId then .error .wrongBlob
          else .ok ⟨user, blob, expiresAt, signature⟩

end AccessToken

/-- Makes and checks tokens under one secret. -/
structure TokenFactory where
  secret : Bytes
  /-- How many seconds a token is good for. -/
  ttl : Nat
  deriving DecidableEq

namespace TokenFactory

/-- The seconds since the epoch; a clock before the epoch counts as the epoch. -/
def seconds (clock : Int) : Nat := clock.toNat

/-- The expiry of a token made now, at most what 64 bits hold. -/
def expiry (f : TokenFactory) (clock : Int) : Nat := min (seconds clock + f.ttl) Decimal.max64

/-- A token for a user and a blob. -/
def issue (f : TokenFactory) (clock : Int) (user : String) (blobId : BlobId) : AccessToken :=
  let expiresAt := f.expiry clock
  ⟨user, blobId, expiresAt, AccessToken.sign f.secret (AccessToken.signedText user blobId expiresAt)⟩

/-- Accepts a written token for a download of `blobId`. -/
def verify (f : TokenFactory) (clock : Int) (serialized : String) (blobId : BlobId) :
    Except TokenError AccessToken :=
  AccessToken.verify f.secret (seconds clock) serialized blobId

end TokenFactory

end DownloadGateway
