import CaptureProbe.Session
import CaptureProbe.CommandLine
import CaptureProbe.Machine
import CaptureProbe.Output.SinkLaws
import CaptureProbe.Main
import CaptureProbe.Proofs.Emission
import CaptureProbe.Proofs.Invocation
import CaptureProbe.Proofs.ProgramRun
import CaptureProbe.Proofs.OutputTrace
import CaptureProbe.Proofs.Chronicle
import CaptureProbe.Proofs.DriverSession
import CaptureProbe.Proofs.RecordedGraph
import CaptureProbe.Proofs.RecordAgreement
import CaptureProbe.Proofs.CaptureInvariance
import CaptureProbe.Proofs.CallStack
import CaptureProbe.Proofs.BuiltGraph
import CaptureProbe.Proofs.ArgumentForms
import CaptureProbe.Proofs.OptionGrammar
import CaptureProbe.Proofs.NumeralText
import CaptureProbe.Proofs.LiteralRoundTrip
import CaptureProbe.Proofs.WrittenOptions
import CaptureProbe.Proofs.OptionLayers
import CaptureProbe.Proofs.History
import CaptureProbe.Proofs.ArgumentIndependence
import CaptureProbe.Proofs.Identities
import CaptureProbe.Proofs.Publication
import CaptureProbe.Proofs.CalleeQueries
import CaptureProbe.Proofs.DotText
import CaptureProbe.Proofs.FailedCalls
import CaptureProbe.Proofs.JsonTree
import CaptureProbe.Proofs.TraceDump
import CaptureProbe.Proofs.NodeTable
import CaptureProbe.Proofs.LiteralGrammar
import CaptureProbe.Proofs.BufferedReport
import CaptureProbe.Proofs.ReportText
import CaptureProbe.Proofs.TraceQueries
import CaptureProbe.Proofs.ClosureStatistics
