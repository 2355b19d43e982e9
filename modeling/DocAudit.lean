import DocAudit.Main
import DocAudit.Proofs.Check.ArgumentCount
import DocAudit.Proofs.Console.Echo
import DocAudit.Proofs.Console.Sequences
import DocAudit.Proofs.Discovery.Exactness
import DocAudit.Proofs.Discovery.Expansions
import DocAudit.Proofs.Discovery.Failures
import DocAudit.Proofs.Discovery.Found
import DocAudit.Proofs.Discovery.Monotonicity
import DocAudit.Proofs.Discovery.Spelling
import DocAudit.Proofs.Discovery.TargetOrder
import DocAudit.Proofs.DocBlock.Extraction
import DocAudit.Proofs.DocBlock.Indentation
import DocAudit.Proofs.DocBlock.Segments
import DocAudit.Proofs.DocBlock.TagPositions
import DocAudit.Proofs.DocBlock.Tags
import DocAudit.Proofs.Files.AbsolutePaths
import DocAudit.Proofs.Files.Content
import DocAudit.Proofs.Files.FileSystems
import DocAudit.Proofs.Files.LinkedFiles
import DocAudit.Proofs.Files.Outlines
import DocAudit.Proofs.Files.PathOrder
import DocAudit.Proofs.Files.Paths
import DocAudit.Proofs.Files.PlainTrees
import DocAudit.Proofs.Files.Writing
import DocAudit.Proofs.Json.Numbers
import DocAudit.Proofs.Json.RoundTrip
import DocAudit.Proofs.Json.Strings
import DocAudit.Proofs.Pattern.FirstWay
import DocAudit.Proofs.Pattern.Leads
import DocAudit.Proofs.Pattern.Searches
import DocAudit.Proofs.Report.Delivery
import DocAudit.Proofs.Report.EchoedReport
import DocAudit.Proofs.Report.JsonReport
import DocAudit.Proofs.Report.TextReport
import DocAudit.Proofs.Report.XmlCharacters
import DocAudit.Proofs.Report.XmlReport
import DocAudit.Proofs.Results
import DocAudit.Proofs.Run.Effects
import DocAudit.Proofs.Run.ExitCode
import DocAudit.Proofs.Run.Precedence
import DocAudit.Proofs.Run.Presentation
import DocAudit.Proofs.Run.Stages
import DocAudit.Proofs.Run.WrittenReport
import DocAudit.Proofs.Scan.Appending
import DocAudit.Proofs.Scan.Declarations
import DocAudit.Proofs.Scan.Flags
import DocAudit.Proofs.Scan.GroupAccess
import DocAudit.Proofs.Scan.Indentation
import DocAudit.Proofs.Scan.Isolation
import DocAudit.Proofs.Scan.LineEndings
import DocAudit.Proofs.Scan.Provenance
import DocAudit.Proofs.Scan.Reports
import DocAudit.Proofs.Scan.Specification
import DocAudit.Proofs.Scan.WellFormed
import DocAudit.Proofs.Settings.LastValues
import DocAudit.Proofs.Settings.Merging
import DocAudit.Proofs.Settings.Reachable
import DocAudit.Proofs.Settings.SuccessiveMerges
import DocAudit.Proofs.Settings.Usable
import DocAudit.Proofs.Signature.Agreement
import DocAudit.Proofs.Signature.Assignments
import DocAudit.Proofs.Signature.DeclaredForm
import DocAudit.Proofs.Signature.Documented
import DocAudit.Proofs.Signature.DocumentedForm
import DocAudit.Proofs.Signature.Indentation
import DocAudit.Proofs.Text.Layout
import DocAudit.Proofs.Text.Positions
import DocAudit.Proofs.Xml.RoundTrip
