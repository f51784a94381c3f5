import Listing.Color.Palette
import Listing.Color.Terminal
import Listing.Data
import Listing.Dict
import Listing.Document.BlockText
import Listing.Document.Cursor
import Listing.Document.Layout
import Listing.Document.Node
import Listing.Document.Plain
import Listing.Document.Quoted
import Listing.Document.Read
import Listing.Document.Token
import Listing.Paint.Mode
import Listing.Paint.Sink
import Listing.Paint.Stroke
import Listing.Paint.Token
import Listing.Printer
import Listing.Proofs.Color.Chain
import Listing.Proofs.Color.Circling
import Listing.Proofs.Color.Hexadecimal
import Listing.Proofs.Color.LastTargets
import Listing.Proofs.Color.Loops
import Listing.Proofs.Color.Nearest
import Listing.Proofs.Color.Overlay
import Listing.Proofs.Color.Palette
import Listing.Proofs.Color.Reported
import Listing.Proofs.Color.Rerouted
import Listing.Proofs.Paint.Lookahead
import Listing.Proofs.Paint.Matching
import Listing.Proofs.Paint.Partners
import Listing.Proofs.Paint.Prints
import Listing.Proofs.Paint.Runs
import Listing.Proofs.Paint.Screen
import Listing.Proofs.Paint.Shown
import Listing.Proofs.Paint.Stacks
import Listing.Proofs.Paint.Tagged
import Listing.Proofs.Paint.Unresolved
import Listing.Proofs.Paint.Written
import Listing.Proofs.Printer.Automatic
import Listing.Proofs.Printer.Formats
import Listing.Proofs.Printer.Issues
import Listing.Proofs.Printer.Lines
import Listing.Proofs.Printer.Order
import Listing.Proofs.Printer.Written
import Listing.Proofs.Record.Normal
import Listing.Proofs.Render.Appended
import Listing.Proofs.Render.Ending
import Listing.Proofs.Render.Failing
import Listing.Proofs.Render.Noted
import Listing.Proofs.Render.Pointing
import Listing.Proofs.Render.Printed
import Listing.Proofs.Render.Settled
import Listing.Proofs.Render.Skeleton
import Listing.Proofs.Render.Subject
import Listing.Proofs.Render.Unknowing
import Listing.Proofs.Render.Validity
import Listing.Proofs.Scanning
import Listing.Proofs.Settings.Changes
import Listing.Proofs.Settings.Invariant
import Listing.Proofs.Settings.Reachable
import Listing.Proofs.Settings.Step
import Listing.Proofs.Template.Appended
import Listing.Proofs.Template.Balance
import Listing.Proofs.Template.Boundaries
import Listing.Proofs.Template.Broken
import Listing.Proofs.Template.Draft
import Listing.Proofs.Template.Excerpt
import Listing.Proofs.Template.Joined
import Listing.Proofs.Template.Leftmost
import Listing.Proofs.Template.Meaning
import Listing.Proofs.Template.Nested
import Listing.Proofs.Template.Reading
import Listing.Proofs.Template.Separated
import Listing.Proofs.Template.Turns
import Listing.Proofs.Template.Visited
import Listing.Proofs.Text.Ascii
import Listing.Proofs.Text.Bytes
import Listing.Proofs.Text.Padding
import Listing.Proofs.Text.Positions
import Listing.Proofs.Vocabulary.Colors
import Listing.Proofs.Vocabulary.Columns
import Listing.Proofs.Vocabulary.Defined
import Listing.Proofs.Vocabulary.Ending
import Listing.Proofs.Vocabulary.Failing
import Listing.Proofs.Vocabulary.IssueFormat
import Listing.Proofs.Vocabulary.IssueMeaning
import Listing.Proofs.Vocabulary.Lists
import Listing.Record
import Listing.Render.Resolver
import Listing.Render.Scope
import Listing.Render.Vocabulary
import Listing.Settings.Basic
import Listing.Settings.Format
import Listing.Settings.Overrides
import Listing.Template.Argument
import Listing.Template.Defect
import Listing.Template.Delimiter
import Listing.Template.Directive
import Listing.Template.Tree
import Listing.Text
import Listing.Text.Columns
import Listing.Text.Combining
import Listing.Text.Emoji
import Listing.Text.EmojiSequence
import Listing.Text.EscapeSequence
import Listing.Text.Ligature
import Listing.Text.Order
import Listing.Text.Quoted
import Listing.Text.Width
import Listing.Vocabulary
