import SymbolAtlas.Text.Quoted
import SymbolAtlas.Text.LowerCase
import SymbolAtlas.Text.Lines
import SymbolAtlas.Text.Utf8
import SymbolAtlas.Text.Digit
import SymbolAtlas.Number.Hexadecimal
import SymbolAtlas.Number.Seconds
import SymbolAtlas.Number.Shortest
import SymbolAtlas.Number.Tenths
import SymbolAtlas.Json
import SymbolAtlas.Failure
import SymbolAtlas.WindowsPath
import SymbolAtlas.Bracket
import SymbolAtlas.Table.Basic
import SymbolAtlas.Table.Kinds
import SymbolAtlas.Listing.Token
import SymbolAtlas.Listing.Section
import SymbolAtlas.Listing.Exports
import SymbolAtlas.Listing.Imports
import SymbolAtlas.Listing.Disassembly
import SymbolAtlas.Analysis
import SymbolAtlas.Analysis.Book
import SymbolAtlas.Binary.Sha1
import SymbolAtlas.Binary.Description
import SymbolAtlas.Settings
import SymbolAtlas.Report.Tool
import SymbolAtlas.CommandLine
import SymbolAtlas.Workspace.Tree
import SymbolAtlas.Shell.Command
import SymbolAtlas.Shell.Run
import SymbolAtlas.Workspace.Host
import SymbolAtlas.Main
import SymbolAtlas.Proofs.Sequence
import SymbolAtlas.Proofs.Text.Words
import SymbolAtlas.Proofs.Text.Search
import SymbolAtlas.Proofs.Bracket
import SymbolAtlas.Proofs.Table.Index
import SymbolAtlas.Proofs.Table.History
import SymbolAtlas.Proofs.Table.Uniqueness
import SymbolAtlas.Proofs.Table.Columns
import SymbolAtlas.Proofs.Table.Answers
import SymbolAtlas.Proofs.Listing.Token
import SymbolAtlas.Proofs.Listing.Section
import SymbolAtlas.Proofs.Listing.Region
import SymbolAtlas.Proofs.Listing.CodeLine
import SymbolAtlas.Proofs.Listing.Calls
import SymbolAtlas.Proofs.Listing.ExportName
import SymbolAtlas.Proofs.Listing.Exports
import SymbolAtlas.Proofs.Listing.Header
import SymbolAtlas.Proofs.Listing.Reference
import SymbolAtlas.Proofs.Table.Merge
import SymbolAtlas.Proofs.Analysis.CallGraph
import SymbolAtlas.Proofs.Analysis.Merge
import SymbolAtlas.Proofs.Listing.Defect
import SymbolAtlas.Proofs.Text.LowerCase
import SymbolAtlas.Proofs.Invoker.Trace
import SymbolAtlas.Proofs.Listing.Margin
import SymbolAtlas.Proofs.WindowsPath
import SymbolAtlas.Proofs.Invoker.History
import SymbolAtlas.Proofs.Invoker.Alike
import SymbolAtlas.Proofs.Report.Interference
import SymbolAtlas.Proofs.Invoker.Settled
import SymbolAtlas.Proofs.Report.Agreement
import SymbolAtlas.Proofs.Listing.Boundary
import SymbolAtlas.Proofs.Listing.Inert
import SymbolAtlas.Proofs.Listing.Extent
import SymbolAtlas.Proofs.Listing.Conservation
import SymbolAtlas.Proofs.Bracket.Matching
import SymbolAtlas.Proofs.Bracket.Scan
import SymbolAtlas.Proofs.Bracket.Level
import SymbolAtlas.Proofs.Listing.Padding
import SymbolAtlas.Proofs.Listing.Precedence
import SymbolAtlas.Proofs.Listing.Prototype
import SymbolAtlas.Proofs.Listing.Tolerance
import SymbolAtlas.Proofs.Listing.ExportLine
import SymbolAtlas.Proofs.Listing.ExportPass
import SymbolAtlas.Proofs.Listing.ShortName
import SymbolAtlas.Proofs.Listing.Undecorated
import SymbolAtlas.Proofs.Listing.Bounds
import SymbolAtlas.Proofs.Listing.Attribution
import SymbolAtlas.Proofs.Listing.Dependency
import SymbolAtlas.Proofs.Listing.Totality
import SymbolAtlas.Proofs.Number.Hexadecimal
import SymbolAtlas.Proofs.Listing.Address
import SymbolAtlas.Proofs.Text.Utf8
import SymbolAtlas.Proofs.Text.Lines
import SymbolAtlas.Proofs.Report.Imports
import SymbolAtlas.Proofs.Report.Ranking
import SymbolAtlas.Proofs.Report.MostCalled
