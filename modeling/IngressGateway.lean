import IngressGateway.Main
import IngressGateway.Proofs.Arrangement
import IngressGateway.Proofs.Attachment
import IngressGateway.Proofs.BundleHistory
import IngressGateway.Proofs.Composition
import IngressGateway.Proofs.Contention
import IngressGateway.Proofs.CookieValues
import IngressGateway.Proofs.DroppedMatches
import IngressGateway.Proofs.FirstMatch
import IngressGateway.Proofs.Flattening
import IngressGateway.Proofs.GrpcBackends
import IngressGateway.Proofs.GrpcMatches
import IngressGateway.Proofs.InputFormat
import IngressGateway.Proofs.LeftOutServers
import IngressGateway.Proofs.ListenerOverlap
import IngressGateway.Proofs.LiteralPatterns
import IngressGateway.Proofs.ObjectSet
import IngressGateway.Proofs.OrderIndependence
import IngressGateway.Proofs.OutputFormat
import IngressGateway.Proofs.OwnerNamespaces
import IngressGateway.Proofs.PolicyNames
import IngressGateway.Proofs.PredicateNames
import IngressGateway.Proofs.ReadingOrder
import IngressGateway.Proofs.RecordedSettings
import IngressGateway.Proofs.RedirectTargets
import IngressGateway.Proofs.ReferenceExpansion
import IngressGateway.Proofs.RuleFilters
import IngressGateway.Proofs.SecureRedirects
import IngressGateway.Proofs.ServedHosts
import IngressGateway.Proofs.UpstreamScope
import IngressGateway.Proofs.CatalogReports
import IngressGateway.Proofs.RuleSkeletons
import IngressGateway.Proofs.ConnectionOutcomes
import IngressGateway.Proofs.ReportedSettings
import IngressGateway.Proofs.ErrorSources
import IngressGateway.Proofs.NotificationHistory
import IngressGateway.Proofs.ReferenceSyntax
import IngressGateway.Proofs.ReportLines
import IngressGateway.Proofs.ListenerNames
import IngressGateway.Proofs.MethodNames
