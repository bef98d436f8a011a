import DocHarvest.Command
import DocHarvest.Command.Arguments
import DocHarvest.Comment.Basic
import DocHarvest.Comment.Tags
import DocHarvest.Doc.Basic
import DocHarvest.Doc.Fields
import DocHarvest.Doc.Store
import DocHarvest.Fault
import DocHarvest.Ingest
import DocHarvest.Language
import DocHarvest.Main
import DocHarvest.Module.Classify
import DocHarvest.Module.Comments
import DocHarvest.Module.Export
import DocHarvest.Module.Generate
import DocHarvest.Module.Request
import DocHarvest.Module.Scope
import DocHarvest.Node.Basic
import DocHarvest.Node.Code
import DocHarvest.Node.Find
import DocHarvest.Node.Summary
import DocHarvest.Node.Walk
import DocHarvest.Number.Binary64
import DocHarvest.Number.Literal
import DocHarvest.Number.Loose
import DocHarvest.Number.Shortest
import DocHarvest.Param.Basic
import DocHarvest.Param.Guess
import DocHarvest.Param.Parse
import DocHarvest.Param.Split
import DocHarvest.Path.Basic
import DocHarvest.Path.Module
import DocHarvest.Path.Specifier
import DocHarvest.Proofs.Command.Output
import DocHarvest.Proofs.Comment.Fences
import DocHarvest.Proofs.Comment.Layout
import DocHarvest.Proofs.Comment.Margin
import DocHarvest.Proofs.Comment.OneLine
import DocHarvest.Proofs.Comment.Rendering
import DocHarvest.Proofs.Comment.Tagging
import DocHarvest.Proofs.Module.Agreement
import DocHarvest.Proofs.Module.Ancestors
import DocHarvest.Proofs.Module.Answers
import DocHarvest.Proofs.Module.Applying
import DocHarvest.Proofs.Module.Atomicity
import DocHarvest.Proofs.Module.Blocks
import DocHarvest.Proofs.Module.Calls
import DocHarvest.Proofs.Module.Choices
import DocHarvest.Proofs.Module.Classes
import DocHarvest.Proofs.Module.Companions
import DocHarvest.Proofs.Module.Completion
import DocHarvest.Proofs.Module.Courses
import DocHarvest.Proofs.Module.Decide
import DocHarvest.Proofs.Module.Declarations
import DocHarvest.Proofs.Module.Defaults
import DocHarvest.Proofs.Module.Definitions
import DocHarvest.Proofs.Module.Documented
import DocHarvest.Proofs.Module.Edits
import DocHarvest.Proofs.Module.Expected
import DocHarvest.Proofs.Module.Exports
import DocHarvest.Proofs.Module.Extending
import DocHarvest.Proofs.Module.Filtering
import DocHarvest.Proofs.Module.FirstPass
import DocHarvest.Proofs.Module.Frame
import DocHarvest.Proofs.Module.Heeding
import DocHarvest.Proofs.Module.Heeds
import DocHarvest.Proofs.Module.Independence
import DocHarvest.Proofs.Module.Isolation
import DocHarvest.Proofs.Module.Lineage
import DocHarvest.Proofs.Module.Lookups
import DocHarvest.Proofs.Module.Members
import DocHarvest.Proofs.Module.Mixins
import DocHarvest.Proofs.Module.Naming
import DocHarvest.Proofs.Module.Offers
import DocHarvest.Proofs.Module.Origins
import DocHarvest.Proofs.Module.Planning
import DocHarvest.Proofs.Module.Policies
import DocHarvest.Proofs.Module.Provenance
import DocHarvest.Proofs.Module.Questions
import DocHarvest.Proofs.Module.Queue
import DocHarvest.Proofs.Module.Recorded
import DocHarvest.Proofs.Module.Referring
import DocHarvest.Proofs.Module.Reported
import DocHarvest.Proofs.Module.Reruns
import DocHarvest.Proofs.Module.Sieve
import DocHarvest.Proofs.Module.Sound
import DocHarvest.Proofs.Module.Spellings
import DocHarvest.Proofs.Module.Stages
import DocHarvest.Proofs.Module.Statements
import DocHarvest.Proofs.Module.Styles
import DocHarvest.Proofs.Module.Stylings
import DocHarvest.Proofs.Module.Succeeds
import DocHarvest.Proofs.Module.Suites
import DocHarvest.Proofs.Module.Thinning
import DocHarvest.Proofs.Module.Titles
import DocHarvest.Proofs.Module.Trails
import DocHarvest.Proofs.Module.Typing
import DocHarvest.Proofs.Module.Undocumented
import DocHarvest.Proofs.Module.Visits
import DocHarvest.Proofs.Node.Literals
import DocHarvest.Proofs.Node.Places
import DocHarvest.Proofs.Node.Preorder
import DocHarvest.Proofs.Node.Tree
import DocHarvest.Proofs.Node.Writable
import DocHarvest.Proofs.Number.Integers
import DocHarvest.Proofs.Number.Rendering
import DocHarvest.Proofs.Number.Rounding
import DocHarvest.Proofs.Param.Default
import DocHarvest.Proofs.Param.Objects
import DocHarvest.Proofs.Param.Optional
import DocHarvest.Proofs.Param.Returns
import DocHarvest.Proofs.Param.Splitting
import DocHarvest.Proofs.Param.Unions
import DocHarvest.Proofs.Path.Parts
import DocHarvest.Proofs.Path.Relative
import DocHarvest.Proofs.Record.Built
import DocHarvest.Proofs.Record.Faultless
import DocHarvest.Proofs.Record.Faults
import DocHarvest.Proofs.Record.Plain
import DocHarvest.Proofs.Record.Typed
import DocHarvest.Proofs.Run.Effect
import DocHarvest.Proofs.Run.Ends
import DocHarvest.Proofs.Run.Growth
import DocHarvest.Proofs.Run.Leaves
import DocHarvest.Proofs.Run.Lockstep
import DocHarvest.Proofs.Run.Moved
import DocHarvest.Proofs.Run.Paired
import DocHarvest.Proofs.Run.Sound
import DocHarvest.Proofs.Run.Upholds
import DocHarvest.Proofs.Text.Brackets
import DocHarvest.Proofs.Text.Cutting
import DocHarvest.Proofs.Text.Joining
import DocHarvest.Proofs.Text.Lines
import DocHarvest.Proofs.Text.Trimming
import DocHarvest.Proofs.Tree.Attachment
import DocHarvest.Proofs.Tree.Literals
import DocHarvest.Proofs.Tree.Uncommented
import DocHarvest.Proofs.Tree.Yields
import DocHarvest.Proofs.Value.Numbers
import DocHarvest.Proofs.Value.Plain
import DocHarvest.Proofs.Value.RoundTrip
import DocHarvest.Proofs.Value.Strings
import DocHarvest.Record.Build
import DocHarvest.Record.Declaration
import DocHarvest.Record.Draft
import DocHarvest.Record.File
import DocHarvest.Record.Member
import DocHarvest.Record.TestBlock
import DocHarvest.Record.Virtual
import DocHarvest.Report.Console
import DocHarvest.Report.Docs
import DocHarvest.Report.Emoji
import DocHarvest.Report.EmojiNames
import DocHarvest.Report.Markup
import DocHarvest.Report.Table
import DocHarvest.Report.Wrap
import DocHarvest.Settings
import DocHarvest.Text.Basic
import DocHarvest.Text.Blank
import DocHarvest.Text.Bounds
import DocHarvest.Text.Case
import DocHarvest.Text.Digit
import DocHarvest.Text.Printable
import DocHarvest.Text.Quoted
import DocHarvest.Text.Utf8
import DocHarvest.Text.Width
import DocHarvest.Text.Word
import DocHarvest.Tree.Attach
import DocHarvest.Tree.Basic
import DocHarvest.Tree.Construct
import DocHarvest.Tree.Program
import DocHarvest.Tree.Reader
import DocHarvest.Value.Basic
import DocHarvest.Value.Printer
import DocHarvest.Value.Reader
import DocHarvest.Workspace
