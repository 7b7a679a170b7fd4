import DownloadGateway.AccessToken
/-!
# Why a request is not authenticated
-/

namespace DownloadGateway

/-- What is wrong with a credential that was presented. -/
inductive Rejection where
  | headerNotAscii
  | headerFormat
  | unknownKey
  | unparseableQuery
  | outsideDownload
  | token (error : TokenError)
  | other (reason : String)
  deriving Repr, DecidableEq

def Rejection.reason : Rejection → String
  | .headerNotAscii => "Authorization header is not valid ASCII"
  | .headerFormat => "Invalid authorization header format"
  | .unknownKey => "Unknown API key"
  | .unparseableQuery => "Unparseable query string"
  | .outsideDownload => "Access token used outside a download"
  | .token error => error.message
  | .other reason => reason

/-- The outcome of an authentication that gives no identity. -/
inductive AuthError where
  /-- The request carries no credential of the kind looked for. -/
  | missing
  /-- A credential was presented and rejected. -/
  | invalid (rejection : Rejection)
  deriving Repr, DecidableEq

namespace AuthError

def message : AuthError → String
  | .missing => "Missing credentials"
  | .invalid rejection => "Invalid credentials: " ++ rejection.reason

def toFailure (e : AuthError) : Failure := .unauthorized e.message

end AuthError

end DownloadGateway
