import PrimitiveDesk.Assoc
import PrimitiveDesk.CommandLine.Arguments
import PrimitiveDesk.CommandLine.Help
import PrimitiveDesk.CommandLine.Run
import PrimitiveDesk.Editor.Completion
import PrimitiveDesk.Editor.Finding
import PrimitiveDesk.Editor.Navigation
import PrimitiveDesk.Editor.Outline
import PrimitiveDesk.Editor.Signature
import PrimitiveDesk.Files.Error
import PrimitiveDesk.Files.Path
import PrimitiveDesk.Files.Search
import PrimitiveDesk.Files.Tree
import PrimitiveDesk.Generator.Build
import PrimitiveDesk.Generator.Command
import PrimitiveDesk.Generator.CpuFlags
import PrimitiveDesk.Generator.Daemon
import PrimitiveDesk.Generator.Error
import PrimitiveDesk.Generator.Idle
import PrimitiveDesk.Json.Basic
import PrimitiveDesk.Json.Decode
import PrimitiveDesk.Json.Fields
import PrimitiveDesk.Json.Printer
import PrimitiveDesk.Json.Reader
import PrimitiveDesk.Layout.Context
import PrimitiveDesk.Layout.Line
import PrimitiveDesk.Main
import PrimitiveDesk.Number.Binary64
import PrimitiveDesk.Number.Extended
import PrimitiveDesk.Number.Shortest
import PrimitiveDesk.Preview.Basic
import PrimitiveDesk.Preview.Layers
import PrimitiveDesk.Preview.Selection
import PrimitiveDesk.Project.Basic
import PrimitiveDesk.Project.Defaults
import PrimitiveDesk.Project.Kind
import PrimitiveDesk.Project.Profile
import PrimitiveDesk.Project.Registry
import PrimitiveDesk.Schema.Basic
import PrimitiveDesk.Schema.Defaults
import PrimitiveDesk.Schema.Error
import PrimitiveDesk.Schema.Source
import PrimitiveDesk.Script.Basic
import PrimitiveDesk.Script.Machine
import PrimitiveDesk.Script.Parser
import PrimitiveDesk.Script.Process
import PrimitiveDesk.Script.Run
import PrimitiveDesk.Script.Utility
import PrimitiveDesk.Server.Arguments
import PrimitiveDesk.Server.Build
import PrimitiveDesk.Server.Domain
import PrimitiveDesk.Server.Encoding
import PrimitiveDesk.Server.Notice
import PrimitiveDesk.Server.Session
import PrimitiveDesk.Server.Settings
import PrimitiveDesk.Server.TextStore
import PrimitiveDesk.Server.Uri
import PrimitiveDesk.Server.WebHost
import PrimitiveDesk.Server.Workspace
import PrimitiveDesk.Template.Expr
import PrimitiveDesk.Template.Fault
import PrimitiveDesk.Template.Literal
import PrimitiveDesk.Template.Markup
import PrimitiveDesk.Template.Operation
import PrimitiveDesk.Template.Parser
import PrimitiveDesk.Template.Render
import PrimitiveDesk.Template.Runs
import PrimitiveDesk.Template.Token
import PrimitiveDesk.Template.Value
import PrimitiveDesk.Template.Whole
import PrimitiveDesk.Text.Blank
import PrimitiveDesk.Text.Case
import PrimitiveDesk.Text.Cased
import PrimitiveDesk.Text.Compose
import PrimitiveDesk.Text.Digit
import PrimitiveDesk.Text.Direction
import PrimitiveDesk.Text.Hidden
import PrimitiveDesk.Text.Joining
import PrimitiveDesk.Text.LineIndex
import PrimitiveDesk.Text.Lines
import PrimitiveDesk.Text.Mark
import PrimitiveDesk.Text.Percent
import PrimitiveDesk.Text.Plain
import PrimitiveDesk.Text.Punycode
import PrimitiveDesk.Text.Quoted
import PrimitiveDesk.Text.Span
import PrimitiveDesk.Text.Table
import PrimitiveDesk.Text.Utf8
import PrimitiveDesk.Yaml.Builder
import PrimitiveDesk.Yaml.Document
import PrimitiveDesk.Yaml.Event
import PrimitiveDesk.Yaml.Event.Parser
import PrimitiveDesk.Yaml.Fault
import PrimitiveDesk.Yaml.Node
import PrimitiveDesk.Yaml.Scalar
import PrimitiveDesk.Yaml.Token
import PrimitiveDesk.Yaml.Token.Block
import PrimitiveDesk.Yaml.Token.Cursor
import PrimitiveDesk.Yaml.Token.Plain
import PrimitiveDesk.Yaml.Token.Quoted
import PrimitiveDesk.Yaml.Token.Scanner
import PrimitiveDesk.Yaml.Token.Tag
import PrimitiveDesk.Proofs.Assoc.Firsts
import PrimitiveDesk.Proofs.Editor.EntryAlignment
import PrimitiveDesk.Proofs.Editor.FieldChoice
import PrimitiveDesk.Proofs.Editor.FindingSites
import PrimitiveDesk.Proofs.Editor.FirstCharacter
import PrimitiveDesk.Proofs.Editor.LevelAgreement
import PrimitiveDesk.Proofs.Editor.LineViews
import PrimitiveDesk.Proofs.Editor.NaturalOrder
import PrimitiveDesk.Proofs.Editor.NewDocument
import PrimitiveDesk.Proofs.Editor.OutlineGroups
import PrimitiveDesk.Proofs.Editor.ReachedLevels
import PrimitiveDesk.Proofs.Editor.SignatureLabels
import PrimitiveDesk.Proofs.Editor.SnippetRows
import PrimitiveDesk.Proofs.Files.Folders
import PrimitiveDesk.Proofs.Files.SamePlace
import PrimitiveDesk.Proofs.Generator.Overlap
import PrimitiveDesk.Proofs.Json.SameValue
import PrimitiveDesk.Proofs.Layout.BlockContext
import PrimitiveDesk.Proofs.Layout.BlockTree
import PrimitiveDesk.Proofs.Layout.CommentLine
import PrimitiveDesk.Proofs.Layout.ContextScope
import PrimitiveDesk.Proofs.Layout.DashBlock
import PrimitiveDesk.Proofs.Layout.KeyInsertion
import PrimitiveDesk.Proofs.Layout.LineCut
import PrimitiveDesk.Proofs.Layout.LineShape
import PrimitiveDesk.Proofs.Layout.SearchedLines
import PrimitiveDesk.Proofs.Preview.LayerOrder
import PrimitiveDesk.Proofs.Preview.SharedSelection
import PrimitiveDesk.Proofs.Project.Cells
import PrimitiveDesk.Proofs.Project.Discovery
import PrimitiveDesk.Proofs.Project.Lookups
import PrimitiveDesk.Proofs.Project.ReloadOrder
import PrimitiveDesk.Proofs.Project.SchemaPlaces
import PrimitiveDesk.Proofs.Project.SharedRegistry
import PrimitiveDesk.Proofs.Run
import PrimitiveDesk.Proofs.Schema.Declarations
import PrimitiveDesk.Proofs.Schema.DefaultEntries
import PrimitiveDesk.Proofs.Schema.DistinctNames
import PrimitiveDesk.Proofs.Schema.FlatForm
import PrimitiveDesk.Proofs.Schema.ReadableSources
import PrimitiveDesk.Proofs.Schema.SourceFaults
import PrimitiveDesk.Proofs.Server.FrontEnds
import PrimitiveDesk.Proofs.Server.OpenTexts
import PrimitiveDesk.Proofs.Server.SchemaRefresh
import PrimitiveDesk.Proofs.Server.SchemaReload
import PrimitiveDesk.Proofs.Server.SettingsOverride
import PrimitiveDesk.Proofs.Server.SharedTexts
import PrimitiveDesk.Proofs.Server.Synchronisation
import PrimitiveDesk.Proofs.Text.CharBoundary
import PrimitiveDesk.Proofs.Text.LineEdit
import PrimitiveDesk.Proofs.Text.LinePositions
import PrimitiveDesk.Proofs.Text.LineSplit
import PrimitiveDesk.Proofs.Yaml.BuilderMoves
import PrimitiveDesk.Proofs.Yaml.BuilderStep
import PrimitiveDesk.Proofs.Yaml.CoreSchema
import PrimitiveDesk.Proofs.Yaml.CutStream
import PrimitiveDesk.Proofs.Yaml.CutTree
import PrimitiveDesk.Proofs.Yaml.DocumentAt
import PrimitiveDesk.Proofs.Yaml.DocumentRanges
import PrimitiveDesk.Proofs.Yaml.EventTree
import PrimitiveDesk.Proofs.Yaml.EveryNode
import PrimitiveDesk.Proofs.Yaml.MappingStarts
import PrimitiveDesk.Proofs.Yaml.MergeKeys
import PrimitiveDesk.Proofs.Yaml.NestedSpans
import PrimitiveDesk.Proofs.Yaml.Offsets
import PrimitiveDesk.Proofs.Yaml.ParserStep
import PrimitiveDesk.Proofs.Yaml.Reads
import PrimitiveDesk.Proofs.Yaml.RepeatedKeys
import PrimitiveDesk.Proofs.Yaml.ScannerOrder
import PrimitiveDesk.Proofs.Yaml.TokenOrder
import PrimitiveDesk.Proofs.Yaml.TreeBuild
