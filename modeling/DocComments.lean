import DocComments.Text.Blank
import DocComments.Text.Split
import DocComments.Text.Pattern
import DocComments.Text.Lowercase
import DocComments.Text.Columns
import DocComments.OptionList
import DocComments.Origin
import DocComments.Rejection
import DocComments.Log
import DocComments.Header
import DocComments.Body
import DocComments.Rule
import DocComments.Registry
import DocComments.Node
import DocComments.Document
import DocComments.Document.View
import DocComments.Table
import DocComments.NameIndex
import DocComments.FilePattern
import DocComments.Project
import DocComments.SourceUnit
import DocComments.BlockTitle
import DocComments.Session
import DocComments.Toml.Document
import DocComments.Fixture
import DocComments.Fixture.FrontMatter
import DocComments.Fixture.Check
import DocComments.Fixture.Category
import DocComments.Disk
import DocComments.Disk.Path
import DocComments.Disk.FolderTree
import DocComments.Fixture.Search
import DocComments.Fixture.Suite
import DocComments.Terminal
import DocComments.Json
import DocComments.Document.Export
import DocComments.Excerpt
import DocComments.CommandLine
import DocComments.CommandLine.Options
import DocComments.CommandLine.Request
import DocComments.CommandLine.Output
import DocComments.CommandLine.Parse
import DocComments.CommandLine.Test
import DocComments.Main
import DocComments.Proofs.Headings
import DocComments.Proofs.Growth
import DocComments.Proofs.Links
import DocComments.Proofs.Scope
import DocComments.Proofs.Move
import DocComments.Proofs.Handlers
import DocComments.Proofs.Reading
import DocComments.Proofs.Context
import DocComments.Proofs.Calls
import DocComments.Proofs.Appending
import DocComments.Proofs.Naming
import DocComments.Proofs.Shift
import DocComments.Proofs.Twin
import DocComments.Proofs.Lockstep
import DocComments.Proofs.Independence
import DocComments.Proofs.Visits
import DocComments.Proofs.Passages
import DocComments.Proofs.OpenItem
import DocComments.Proofs.Refusal
import DocComments.Proofs.ClosedItems
import DocComments.Proofs.Attaching
import DocComments.Proofs.ItemRun
import DocComments.Proofs.Settings
import DocComments.Proofs.Configuration
import DocComments.Proofs.Rereading
import DocComments.Proofs.Alike
import DocComments.Proofs.Written
import DocComments.Proofs.HeaderGrammar
import DocComments.Proofs.Arrival
import DocComments.Proofs.Subheadings
import DocComments.Proofs.Nesting
import DocComments.Proofs.Places
import DocComments.Proofs.SourceOrder
import DocComments.Proofs.OtherMode
import DocComments.Proofs.Strictness
import DocComments.Proofs.CheckedHandlers
import DocComments.Proofs.CheckedReading
import DocComments.Proofs.CheckedQueries
import DocComments.Proofs.Preorder
import DocComments.Proofs.TreeText
import DocComments.Proofs.Forest
import DocComments.Proofs.Exports
import DocComments.Proofs.DefinedTitles
import DocComments.Proofs.Lowered
import DocComments.Proofs.LoweredHandlers
import DocComments.Proofs.InertComments
import DocComments.Proofs.Extraction
import DocComments.Proofs.UnderIndentation
import DocComments.Proofs.Reindentation
import DocComments.Proofs.Tables
import DocComments.Proofs.Mirrors
import DocComments.Proofs.ImageLines
import DocComments.Proofs.TableHeadings
import DocComments.Proofs.PriorityOrder
import DocComments.Proofs.LeafKinds
import DocComments.Proofs.Edits
import DocComments.Proofs.HeaderSets
import DocComments.Proofs.OptionLookup
import DocComments.Proofs.Deprecation
import DocComments.Proofs.StableSort
import DocComments.Proofs.NameHistory
import DocComments.Proofs.FrontMatterLines
import DocComments.Proofs.Categories
import DocComments.Proofs.Expectations
import DocComments.Proofs.FixtureRuns
