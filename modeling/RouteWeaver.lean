import RouteWeaver.Deploy
import RouteWeaver.Main
import RouteWeaver.Proofs.ActiveBehaviors
import RouteWeaver.Proofs.ClosedComments
import RouteWeaver.Proofs.CommandRuns
import RouteWeaver.Proofs.DeployRuns
import RouteWeaver.Proofs.DisplayNames
import RouteWeaver.Proofs.FaultPreservation
import RouteWeaver.Proofs.FurtherServices
import RouteWeaver.Proofs.HolderTexts
import RouteWeaver.Proofs.Identifiers
import RouteWeaver.Proofs.Indentation
import RouteWeaver.Proofs.LegalNames
import RouteWeaver.Proofs.LiteralReading
import RouteWeaver.Proofs.MarkedFailures
import RouteWeaver.Proofs.ModuleDocs
import RouteWeaver.Proofs.OnePassEscaping
import RouteWeaver.Proofs.OwnReferences
import RouteWeaver.Proofs.PatternText
import RouteWeaver.Proofs.References
import RouteWeaver.Proofs.RegularNames
import RouteWeaver.Proofs.RouteTable
import RouteWeaver.Proofs.RuntimePath
import RouteWeaver.Proofs.ServiceBinding
import RouteWeaver.Proofs.SilentBehavior
import RouteWeaver.Proofs.StableNames
import RouteWeaver.Proofs.TokenFamilies
import RouteWeaver.Proofs.TypePaths
import RouteWeaver.Proofs.WrittenRecords
