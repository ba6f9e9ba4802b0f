import LocalRepair.Analysis.Average
import LocalRepair.Analysis.Curve
import LocalRepair.Analysis.Tolerance
import LocalRepair.CommandLine.Program
import LocalRepair.Counters
import LocalRepair.DenseMatrix.Inverse
import LocalRepair.Graph.Arena
import LocalRepair.Main
import LocalRepair.Policy.Document
import LocalRepair.Scheme.Encoding
import LocalRepair.Proofs.Maintenance
import LocalRepair.Proofs.ToleratedLoss
import LocalRepair.Proofs.PlanAnswers
import LocalRepair.Proofs.Distance
import LocalRepair.Proofs.RunOutcome
import LocalRepair.Proofs.Inversion
import LocalRepair.Proofs.TunablePlacement
import LocalRepair.Proofs.EquationBudget
import LocalRepair.Proofs.TopologicalOrder
import LocalRepair.Proofs.AllOrNothing
import LocalRepair.Proofs.EncodedParities
import LocalRepair.Proofs.RepairSpread
import LocalRepair.Proofs.ReadBlocks
import LocalRepair.Proofs.MaintenanceReads
import LocalRepair.Proofs.MaintenanceCurve
import LocalRepair.Proofs.LocalAgreement
import LocalRepair.Proofs.ArenaState
import LocalRepair.Proofs.Acceptance
import LocalRepair.Proofs.MatrixProducts
import LocalRepair.Proofs.WholeBlocks
import LocalRepair.Proofs.PartitionCheck
import LocalRepair.Proofs.CauchyMinors
import LocalRepair.Proofs.RegistryLookup
import LocalRepair.Proofs.TypedParameters
