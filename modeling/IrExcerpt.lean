import IrExcerpt.Cache
import IrExcerpt.CallGraph
import IrExcerpt.CallSite
import IrExcerpt.CommandLine.Help
import IrExcerpt.CommandLine.Invocation
import IrExcerpt.CommandLine.Parser
import IrExcerpt.CommandLine.Run
import IrExcerpt.CommandLine.Switch
import IrExcerpt.Config.Basic
import IrExcerpt.Config.File
import IrExcerpt.Config.Text
import IrExcerpt.Depth
import IrExcerpt.Document.Basic
import IrExcerpt.Document.Parse
import IrExcerpt.Document.Structure
import IrExcerpt.Document.Symbol
import IrExcerpt.Excerpt
import IrExcerpt.Extraction.Request
import IrExcerpt.Extraction.Session
import IrExcerpt.Failure
import IrExcerpt.Main
import IrExcerpt.Pattern.Ast
import IrExcerpt.Pattern.Expr
import IrExcerpt.Pattern.Match
import IrExcerpt.Pattern.Parser
import IrExcerpt.Pattern.Set
import IrExcerpt.Pattern.Size
import IrExcerpt.Report
import IrExcerpt.Report.Reader
import IrExcerpt.Selection.Basic
import IrExcerpt.Selection.Change
import IrExcerpt.Selection.Criteria
import IrExcerpt.Selection.Direct
import IrExcerpt.Selection.Event
import IrExcerpt.Selection.Expansion
import IrExcerpt.Storage.Disk
import IrExcerpt.Storage.FileAccess
import IrExcerpt.Storage.IoError
import IrExcerpt.Storage.Path
import IrExcerpt.Storage.Replace
import IrExcerpt.Text.Blank
import IrExcerpt.Text.CharSet
import IrExcerpt.Text.Digest
import IrExcerpt.Text.Json
import IrExcerpt.Text.JsonReader
import IrExcerpt.Text.Lines
import IrExcerpt.Text.NameSet
import IrExcerpt.Toml.Number
import IrExcerpt.Toml.Printer
import IrExcerpt.Toml.Quoted
import IrExcerpt.Toml.Reader
import IrExcerpt.Toml.Tree
import IrExcerpt.Toml.Value
import IrExcerpt.Unicode.Age
import IrExcerpt.Unicode.CaseFolding
import IrExcerpt.Unicode.Category
import IrExcerpt.Unicode.Lookup
import IrExcerpt.Unicode.Property
import IrExcerpt.Unicode.Script
import IrExcerpt.Unicode.ScriptExtension
import IrExcerpt.Unicode.Segmentation
import IrExcerpt.Unicode.Table
import IrExcerpt.Proofs.Blocks
import IrExcerpt.Proofs.Contents
import IrExcerpt.Proofs.Lookup
import IrExcerpt.Proofs.Calls
import IrExcerpt.Proofs.DirectSelection
import IrExcerpt.Proofs.CallDistance
import IrExcerpt.Proofs.ExcerptLines
import IrExcerpt.Proofs.ReadBack
import IrExcerpt.Proofs.Reextraction
import IrExcerpt.Proofs.DiskLaws
import IrExcerpt.Proofs.FailedExtraction
import IrExcerpt.Proofs.DepthMonotone
import IrExcerpt.Proofs.IgnoredFunctions
import IrExcerpt.Proofs.SharedCache
import IrExcerpt.Proofs.ReportEntries
import IrExcerpt.Proofs.JsonTexts
import IrExcerpt.Proofs.ReportTexts
import IrExcerpt.Proofs.SucceededExtraction
import IrExcerpt.Proofs.Partition
import IrExcerpt.Proofs.Concatenation
import IrExcerpt.Proofs.Jobs
import IrExcerpt.Proofs.Listings
import IrExcerpt.Proofs.Preview
import IrExcerpt.Proofs.CallableSymbols
import IrExcerpt.Proofs.CriteriaSets
import IrExcerpt.Proofs.TextBytes
import IrExcerpt.Proofs.CacheHistory
import IrExcerpt.Proofs.TemporaryFiles
import IrExcerpt.Proofs.SameGround
import IrExcerpt.Proofs.Drafts
import IrExcerpt.Proofs.IndependentJobs
import IrExcerpt.Proofs.Resumption
import IrExcerpt.Proofs.ExpansionFigures
import IrExcerpt.Proofs.SelectedSet
import IrExcerpt.Proofs.CountedBraces
import IrExcerpt.Proofs.BlockGrammar
import IrExcerpt.Proofs.HiddenText
import IrExcerpt.Proofs.BraceOrder
import IrExcerpt.Proofs.AdjacentCalls
import IrExcerpt.Proofs.Separators
import IrExcerpt.Proofs.AtomicReplacement
import IrExcerpt.Proofs.ListedLayers
import IrExcerpt.Proofs.EventAccounts
import IrExcerpt.Proofs.QuotedTexts
import IrExcerpt.Proofs.WrittenValues
import IrExcerpt.Proofs.WrittenTables
import IrExcerpt.Proofs.SavedConfig
import IrExcerpt.Proofs.SelectionChanges
import IrExcerpt.Proofs.DepthTexts
