import LinkCatalog.CommandLine.Run
import LinkCatalog.Main
import LinkCatalog.Model.Json
import LinkCatalog.Service.Command
import LinkCatalog.Document.Json
import LinkCatalog.Proofs.Cluster.Address
import LinkCatalog.Proofs.Cluster.Rollout
import LinkCatalog.Proofs.Cluster.Spelling
import LinkCatalog.Proofs.CommandLine.Agreement
import LinkCatalog.Proofs.Document.RoundTrip
import LinkCatalog.Proofs.Service.Counters
import LinkCatalog.Proofs.Service.Isolation
import LinkCatalog.Proofs.Service.Linearization
import LinkCatalog.Proofs.Service.Linkage
import LinkCatalog.Proofs.Service.Links
import LinkCatalog.Proofs.Service.Locking
import LinkCatalog.Proofs.Service.Replay
import LinkCatalog.Proofs.Service.Resubmission
import LinkCatalog.Proofs.Service.ServerFields
import LinkCatalog.Proofs.Service.Shortening
import LinkCatalog.Proofs.Service.Unversioned
