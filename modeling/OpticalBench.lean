import OpticalBench.Main
import OpticalBench.Results.Codec
import OpticalBench.Run.Clock
import OpticalBench.Proofs.Program.StatementOrder
import OpticalBench.Proofs.Program.Meaning
import OpticalBench.Proofs.Json.Reading
import OpticalBench.Proofs.Json.Scanning
import OpticalBench.Proofs.Results.Shapes
import OpticalBench.Proofs.Gateway.HiddenFailure
import OpticalBench.Proofs.Store.ChangeLog
import OpticalBench.Proofs.Literal
import OpticalBench.Proofs.Program.Rows
import OpticalBench.Proofs.Program.GateText
import OpticalBench.Proofs.Program.Faithfulness
import OpticalBench.Proofs.Program.BlockStructure
import OpticalBench.Proofs.Program.Emission
import OpticalBench.Proofs.Program.Measurement
import OpticalBench.Proofs.Program.ModeRange
import OpticalBench.Proofs.Circuit.RoundTrip
import OpticalBench.Proofs.Store.RememberedSource
import OpticalBench.Proofs.Store.Identity
import OpticalBench.Proofs.Store.Subscribers
import OpticalBench.Proofs.Run.Cancellation
import OpticalBench.Proofs.Gateway.Classification
import OpticalBench.Proofs.Program.SharedStatements
import OpticalBench.Proofs.Results.NormalForm
import OpticalBench.Proofs.Config.Precedence
import OpticalBench.Proofs.Config.Provenance
import OpticalBench.Proofs.Gateway.Address
import OpticalBench.Proofs.Results.RoundTrip
import OpticalBench.Proofs.Gateway.RoundTrip
import OpticalBench.Proofs.Circuit.Placement
import OpticalBench.Proofs.Program.Locality
import OpticalBench.Proofs.Report.MostProbable
import OpticalBench.Proofs.Results.CountTotal
import OpticalBench.Proofs.Results.ReportedCounts
import OpticalBench.Proofs.Program.Parameters
import OpticalBench.Proofs.Catalog.Names
import OpticalBench.Proofs.Results.ScalarCalls
import OpticalBench.Proofs.Results.NestedLiterals
