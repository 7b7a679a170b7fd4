import DownloadGateway.Proofs.Authentication.Decision
import DownloadGateway.Proofs.BlobStream.Segments
import DownloadGateway.Proofs.DownloadPath.Agreement
import DownloadGateway.Proofs.Gateway.Credentials
import DownloadGateway.Proofs.Gateway.InternalFailure
import DownloadGateway.Proofs.Gateway.Isolation
import DownloadGateway.Proofs.Gateway.Release
import DownloadGateway.Proofs.Gateway.Stages
import DownloadGateway.Proofs.Gateway.Stored
import DownloadGateway.Proofs.Store.Equivalence
import DownloadGateway.Proofs.Store.FailedWrite
import DownloadGateway.Proofs.Store.Frame
import DownloadGateway.Proofs.Token.Confinement
import DownloadGateway.Proofs.Token.Presented
import DownloadGateway.Proofs.Store.NeverStored
import DownloadGateway.Proofs.Gateway.Route
import DownloadGateway.Proofs.Gateway.ResponseHeaders
import DownloadGateway.Proofs.Gateway.Dispatch
import DownloadGateway.Proofs.Gateway.CrossOrigin
import DownloadGateway.Proofs.Settings.Entries
import DownloadGateway.Proofs.Settings.Acceptance
import DownloadGateway.Proofs.Store.Session
import DownloadGateway.Proofs.BlobStream.Backpressure
import DownloadGateway.Proofs.Token.Acceptance
import DownloadGateway.Proofs.Name.WellFormed
import DownloadGateway.Proofs.Authentication.Chain
import DownloadGateway.Proofs.Store.Presence
import DownloadGateway.Proofs.Store.ReadBack
import DownloadGateway.Proofs.DownloadPath.Name
import DownloadGateway.Proofs.Settings.Keys
import DownloadGateway.Proofs.Name.Fewest
import DownloadGateway.Proofs.Store.Confinement
