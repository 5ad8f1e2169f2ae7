import ClassGraph.Cache.Basic
import ClassGraph.Cache.Indexer
import ClassGraph.Cache.Stored
import ClassGraph.Command.Options
import ClassGraph.Command.Run
import ClassGraph.Declaration.Basic
import ClassGraph.Declaration.Index
import ClassGraph.Digest.Sha256
import ClassGraph.File.Bundle
import ClassGraph.File.Pathname
import ClassGraph.File.Scanner
import ClassGraph.File.Tree
import ClassGraph.Group.Classification
import ClassGraph.Group.Collector
import ClassGraph.Json.Basic
import ClassGraph.Json.Printer
import ClassGraph.Json.Reader
import ClassGraph.Main
import ClassGraph.Map.Basic
import ClassGraph.Map.Graph
import ClassGraph.Name.Resolve
import ClassGraph.Name.Scope
import ClassGraph.Pattern.Basic
import ClassGraph.Pattern.CharSet
import ClassGraph.Pattern.Encoding
import ClassGraph.Pattern.Engine
import ClassGraph.Pattern.Folding
import ClassGraph.Pattern.Program
import ClassGraph.Pattern.Reader
import ClassGraph.Pattern.Size
import ClassGraph.Pattern.Word
import ClassGraph.Proofs.AmortisedParses
import ClassGraph.Proofs.AnalysisReports
import ClassGraph.Proofs.Ancestry
import ClassGraph.Proofs.Annotation
import ClassGraph.Proofs.AnonymousArguments
import ClassGraph.Proofs.Attribution
import ClassGraph.Proofs.BoundedMemory
import ClassGraph.Proofs.BracketMatching
import ClassGraph.Proofs.BuildOrigins
import ClassGraph.Proofs.ClassFrames
import ClassGraph.Proofs.CollectorMeaning
import ClassGraph.Proofs.CommentedPass
import ClassGraph.Proofs.DeclarationScans
import ClassGraph.Proofs.DeclaredClasses
import ClassGraph.Proofs.EntryPaths
import ClassGraph.Proofs.ExactGroups
import ClassGraph.Proofs.FaithfulCache
import ClassGraph.Proofs.FileOrder
import ClassGraph.Proofs.FileShapes
import ClassGraph.Proofs.FirstFault
import ClassGraph.Proofs.GroupedImports
import ClassGraph.Proofs.GrowingMaps
import ClassGraph.Proofs.HarmlessFailures
import ClassGraph.Proofs.KeptPatterns
import ClassGraph.Proofs.LabelledLinks
import ClassGraph.Proofs.LastingBuilds
import ClassGraph.Proofs.LiveRecords
import ClassGraph.Proofs.Namespaces
import ClassGraph.Proofs.NearestAncestors
import ClassGraph.Proofs.NodeNumbers
import ClassGraph.Proofs.Ownership
import ClassGraph.Proofs.OwnNodes
import ClassGraph.Proofs.Places
import ClassGraph.Proofs.PositionIndex
import ClassGraph.Proofs.QualifiedNames
import ClassGraph.Proofs.Readings
import ClassGraph.Proofs.Recording
import ClassGraph.Proofs.Remarks
import ClassGraph.Proofs.ReportContents
import ClassGraph.Proofs.Resolution
import ClassGraph.Proofs.RuleLists
import ClassGraph.Proofs.ScannedFiles
import ClassGraph.Proofs.ScanOrder
import ClassGraph.Proofs.SessionHistory
import ClassGraph.Proofs.StoredForm
import ClassGraph.Proofs.StoredNames
import ClassGraph.Proofs.StoredRoundTrip
import ClassGraph.Proofs.TextOrder
import ClassGraph.Proofs.Transparency
import ClassGraph.Proofs.TransparentComments
import ClassGraph.Proofs.TypeGrammar
import ClassGraph.Proofs.Visits
import ClassGraph.Proofs.WellNamedTrees
import ClassGraph.Record.Basic
import ClassGraph.Record.Edge
import ClassGraph.Record.Recorder
import ClassGraph.Record.Rule
import ClassGraph.Report.Analysis
import ClassGraph.Report.Basic
import ClassGraph.Session.Basic
import ClassGraph.Syntax.Kind
import ClassGraph.Syntax.Resolved
import ClassGraph.Syntax.Source
import ClassGraph.Syntax.Tree
import ClassGraph.Text.Basic
import ClassGraph.Text.Blank
import ClassGraph.Text.Formless
import ClassGraph.Text.Letter
import ClassGraph.Text.Order
import ClassGraph.Text.Quoted
