import TraceGloss.Main
import TraceGloss.Session
import TraceGloss.Proofs.Traceback.PrintedFrame
import TraceGloss.Proofs.Explanation.CatalogOrder
import TraceGloss.Proofs.Report.Transcript
import TraceGloss.Proofs.FullWidth.WarnedSpans
import TraceGloss.Proofs.Drawing.NamedLine
import TraceGloss.Proofs.Explanation.Clues
import TraceGloss.Proofs.Presenter.QuotedLine
import TraceGloss.Proofs.Presenter.SandboxFrames
import TraceGloss.Proofs.Traceback.Rereading
import TraceGloss.Proofs.Explanation.Echo
import TraceGloss.Proofs.CommandLine.Linting
import TraceGloss.Proofs.CommandLine.Formats
import TraceGloss.Proofs.Session.ShownReport
import TraceGloss.Proofs.Span.Addresses
import TraceGloss.Proofs.Drawing.ReadContext
import TraceGloss.Proofs.Explanation.ArgumentList
import TraceGloss.Proofs.Explanation.FirstRule
import TraceGloss.Proofs.Explanation.MissingArguments
import TraceGloss.Proofs.Span.WholeLines
import TraceGloss.Proofs.Explanation.Conversions
import TraceGloss.Proofs.Explanation.ShadowedBuiltin
import TraceGloss.Proofs.Explanation.Punctuation
import TraceGloss.Proofs.Explanation.CallMarks
import TraceGloss.Proofs.Explanation.Repeated
import TraceGloss.Proofs.Explanation.Suggestions
import TraceGloss.Proofs.Explanation.Surroundings
import TraceGloss.Proofs.Presenter.DistinctFailures
import TraceGloss.Proofs.CommandLine.DecidingFile
import TraceGloss.Proofs.CommandLine.Wordings
import TraceGloss.Proofs.Span.Order
