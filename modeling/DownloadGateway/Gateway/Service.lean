import DownloadGateway.Auth.ApiKey
import DownloadGateway.Auth.TokenQuery
import DownloadGateway.Gateway.Respond
import DownloadGateway.Settings.Basic
import DownloadGateway.Store.Directory
import DownloadGateway.Store.Memory
/-!
# The assembled service

A service is what is left of the settings once the gateway is up: the keys, the
token factory and the policy, and where the blobs are. At each moment it gives the
collaborators that requests are answered with: API keys are tried first, tokens in
the query second, and both use the one factory.
-/

namespace DownloadGateway

/-- What an assembled gateway keeps, apart from its blobs. -/
structure Service where
  apiKeys : List (String × String)
  tokens : TokenFactory
  cors : CorsPolicy
  deriving DecidableEq

namespace Service

/-- A service for keys, a secret and a lifetime of tokens, and origins. -/
def assemble (apiKeys : List (String × String)) (tokens : TokenFactory) (origins : List String) :
    Traced Service := do
  let cors ← CorsPolicy.ofOrigins origins
  pure ⟨apiKeys, tokens, cors⟩

/-- How requests are authenticated when the clock shows `clock`. -/
def strategy (s : Service) (clock : Int) : Strategy :=
  .chain [ApiKey.strategy s.apiKeys, TokenQuery.strategy (s.tokens.verify clock)]

/-- The collaborators when the clock shows `clock` and the blobs are those of `store`. -/
def collaborators {σ : Type} (s : Service) (clock : Int) (store : BlobStore σ) :
    Collaborators σ where
  authenticate := (s.strategy clock).authenticate
  store
  generate user blobId := .ok (s.tokens.issue clock user blobId)
  cors := s.cors

end Service

/-- Where an assembled gateway keeps its blobs. -/
inductive Repository where
  | memory (store : MemoryStore)
  | directory (store : DirectoryStore)
  deriving DecidableEq

namespace Repository

/-- Opens the repository that settings ask for. -/
def ofSettings (s : Settings) (t : FileTree) : Traced (Except StorageError Repository × FileTree) :=
  match s.backend with
  | .memory => do
    Traced.log .memoryStorage
    pure (.ok (.memory .empty), t)
  | .directory =>
    match DirectoryStore.create t s.storagePath with
    | (.ok d, t) => do
      Traced.log (.directoryStorage s.storagePath)
      pure (.ok (.directory d), t)
    | (.error e, t) => pure (.error e, t)

/-- The repository as the gateway sees it while the tree stays as it is. -/
def toStore (r : Repository) (t : FileTree) : BlobStore Bytes :=
  match r with
  | .memory m => m.toStore
  | .directory d => d.toStore t

end Repository

namespace Gateway

/-- Why a gateway does not come up: what failed, and the error behind it. -/
def startupError (e : StorageError) : String :=
  ": ".intercalate ("Failed to initialize blob storage" :: e.chain)

/-- Brings up what settings ask for, over a tree of files. -/
def start (s : Settings) (t : FileTree) :
    Traced (Except String (Service × Repository) × FileTree) := do
  let (repository, t) ← Repository.ofSettings s t
  match repository with
  | .error e => pure (.error (startupError e), t)
  | .ok repository => do
    if s.apiKeys = [] then Traced.log .noApiKeys
    let service ← Service.assemble s.apiKeys ⟨Utf8.encode s.tokenSecret, s.tokenTtl⟩ s.origins
    pure (.ok (service, repository), t)

/-- The most requests that are answered at a time, as the variable for it says. -/
def concurrencyLimit (setting : Option String) : Nat :=
  max 1 ((setting.bind fun t => Decimal.read? Decimal.max64 t.toList).getD 10000)

/-- The highest limit that can be kept. -/
def maxConcurrency : Nat := 0x1FFFFFFFFFFFFFFF

/-- Opens the gateway to requests, and tells whether its limit can be kept. -/
def openRoutes (setting : Option String) : Traced Bool := do
  let limit := concurrencyLimit setting
  Traced.log (.concurrencyLimit limit)
  pure (limit ≤ maxConcurrency)

end Gateway

end DownloadGateway
