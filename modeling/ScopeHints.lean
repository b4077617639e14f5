import ScopeHints.Command.Arguments
import ScopeHints.Command.Report
import ScopeHints.Command.Request
import ScopeHints.Command.Run
import ScopeHints.Data.Binary64
import ScopeHints.Data.Calendar
import ScopeHints.Data.Display
import ScopeHints.Data.Json
import ScopeHints.Data.JsonReader
import ScopeHints.Data.Table
import ScopeHints.Data.Value
import ScopeHints.Data.Yaml
import ScopeHints.Data.Yaml.Cursor
import ScopeHints.Data.Yaml.Node
import ScopeHints.Data.Yaml.Plain
import ScopeHints.Data.Yaml.ScalarText
import ScopeHints.Data.Yaml.Tag
import ScopeHints.Data.Yaml.Token
import ScopeHints.Directive
import ScopeHints.Fault
import ScopeHints.Hint.Ranking
import ScopeHints.Hint.Session
import ScopeHints.Log.Call
import ScopeHints.Log.Event
import ScopeHints.Log.Line
import ScopeHints.Log.Output
import ScopeHints.Main
import ScopeHints.Parse.File
import ScopeHints.Parse.Recovery
import ScopeHints.ParseTree.Answer
import ScopeHints.ParseTree.Node
import ScopeHints.ParseTree.Source
import ScopeHints.Proofs.Association
import ScopeHints.Proofs.Directive
import ScopeHints.Proofs.Hint.Ranking
import ScopeHints.Proofs.Hint.Selection
import ScopeHints.Proofs.Hint.StableSort
import ScopeHints.Proofs.Merge
import ScopeHints.Proofs.Parse.FirstError
import ScopeHints.Proofs.Parse.Outcome
import ScopeHints.Proofs.Parse.Position
import ScopeHints.Proofs.Parse.Retries
import ScopeHints.Proofs.Parse.Settled
import ScopeHints.Proofs.Parse.Sifted
import ScopeHints.Proofs.Scope.Arena
import ScopeHints.Proofs.Scope.Attribution
import ScopeHints.Proofs.Scope.Builder
import ScopeHints.Proofs.Scope.Depth
import ScopeHints.Proofs.Scope.Mutation
import ScopeHints.Proofs.Scope.Nested
import ScopeHints.Proofs.Scope.Opener
import ScopeHints.Proofs.Scope.Position
import ScopeHints.Proofs.Scope.Query
import ScopeHints.Proofs.Scope.Recorded
import ScopeHints.Proofs.Scope.Siblings
import ScopeHints.Proofs.Scope.Traversal
import ScopeHints.Proofs.Scope.Tree
import ScopeHints.Proofs.Scope.Walk
import ScopeHints.Proofs.Settings.Layer
import ScopeHints.Proofs.Table
import ScopeHints.Proofs.Text.Blank
import ScopeHints.Proofs.Text.Blanking
import ScopeHints.Proofs.Text.Boundary
import ScopeHints.Proofs.Text.Cut
import ScopeHints.Proofs.Text.Encoding
import ScopeHints.Proofs.Text.Lines
import ScopeHints.Proofs.Text.Offset
import ScopeHints.Proofs.Token
import ScopeHints.Proofs.Workspace.Advance
import ScopeHints.Proofs.Workspace.Answer
import ScopeHints.Proofs.Workspace.Budget
import ScopeHints.Proofs.Workspace.Candidates
import ScopeHints.Proofs.Workspace.Changes
import ScopeHints.Proofs.Workspace.Confluence
import ScopeHints.Proofs.Workspace.Current
import ScopeHints.Proofs.Workspace.Directory
import ScopeHints.Proofs.Workspace.Effect
import ScopeHints.Proofs.Workspace.Exhaustion
import ScopeHints.Proofs.Workspace.Frame
import ScopeHints.Proofs.Workspace.Gather
import ScopeHints.Proofs.Workspace.Lane
import ScopeHints.Proofs.Workspace.Level
import ScopeHints.Proofs.Workspace.LevelKept
import ScopeHints.Proofs.Workspace.Lookup
import ScopeHints.Proofs.Workspace.Mark
import ScopeHints.Proofs.Workspace.Memo
import ScopeHints.Proofs.Workspace.Move
import ScopeHints.Proofs.Workspace.Orderly
import ScopeHints.Proofs.Workspace.Orphan
import ScopeHints.Proofs.Workspace.Request
import ScopeHints.Proofs.Workspace.Run
import ScopeHints.Proofs.Workspace.Shelf
import ScopeHints.Proofs.Workspace.Standing
import ScopeHints.Proofs.Workspace.Store
import ScopeHints.Proofs.Workspace.Touch
import ScopeHints.Proofs.Workspace.Transparent
import ScopeHints.Proofs.Workspace.Truthful
import ScopeHints.Scope.Builder
import ScopeHints.Scope.Plan
import ScopeHints.Scope.Query
import ScopeHints.Scope.Tree
import ScopeHints.Settings.Basic
import ScopeHints.Settings.Check
import ScopeHints.Settings.Environment
import ScopeHints.Settings.Layer
import ScopeHints.Settings.Load
import ScopeHints.Source.Content
import ScopeHints.Source.Folder
import ScopeHints.Source.Memory
import ScopeHints.Source.Path
import ScopeHints.Text.Blank
import ScopeHints.Text.CaseTable
import ScopeHints.Text.CellTable
import ScopeHints.Text.Cells
import ScopeHints.Text.CodePoint
import ScopeHints.Text.Digit
import ScopeHints.Text.Emoji
import ScopeHints.Text.EmojiNames
import ScopeHints.Text.Grid
import ScopeHints.Text.Interval
import ScopeHints.Text.Lines
import ScopeHints.Text.Literal
import ScopeHints.Text.LowerCase
import ScopeHints.Text.Markup
import ScopeHints.Text.Offset
import ScopeHints.Text.Printable
import ScopeHints.Text.Range
import ScopeHints.Text.Similarity
import ScopeHints.Text.Style
import ScopeHints.Text.Styled
import ScopeHints.Text.Utf8
import ScopeHints.Text.Word
import ScopeHints.Text.Wrap
import ScopeHints.Token
import ScopeHints.Token.Keyword
import ScopeHints.Token.Merge
import ScopeHints.Workspace.Basic
import ScopeHints.Workspace.Change
import ScopeHints.Workspace.FileIndex
import ScopeHints.Workspace.Run
