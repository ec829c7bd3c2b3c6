import ScreenDesign.Alignment
import ScreenDesign.Coercion
import ScreenDesign.Color
import ScreenDesign.CommandLine.Arguments
import ScreenDesign.CommandLine.Command
import ScreenDesign.CommandLine.Files
import ScreenDesign.Component.Catalog
import ScreenDesign.Component.Field
import ScreenDesign.Component.Palette
import ScreenDesign.Component.Type
import ScreenDesign.Content.Basic
import ScreenDesign.Content.Reading
import ScreenDesign.Dart.App
import ScreenDesign.Dart.ClassName
import ScreenDesign.Dart.Layout
import ScreenDesign.Dart.Literal
import ScreenDesign.Dart.Widget
import ScreenDesign.Editing
import ScreenDesign.Element
import ScreenDesign.Entries
import ScreenDesign.Failure
import ScreenDesign.Icon
import ScreenDesign.Json.Basic
import ScreenDesign.Json.Literal
import ScreenDesign.Json.Reader
import ScreenDesign.Json.Writer
import ScreenDesign.Main
import ScreenDesign.Mismatch
import ScreenDesign.Notice
import ScreenDesign.Number.Basic
import ScreenDesign.Number.Binary64
import ScreenDesign.Number.Lenient
import ScreenDesign.Number.Numeral
import ScreenDesign.Number.Rounding
import ScreenDesign.Number.Shortest
import ScreenDesign.Outline
import ScreenDesign.Path
import ScreenDesign.Placement
import ScreenDesign.Preview.Canvas
import ScreenDesign.Preview.Node
import ScreenDesign.Preview.Paint
import ScreenDesign.Preview.Theme
import ScreenDesign.Problem
import ScreenDesign.Proofs.Alignment
import ScreenDesign.Proofs.Arrows
import ScreenDesign.Proofs.BestFit
import ScreenDesign.Proofs.Canonical
import ScreenDesign.Proofs.CommandLine.Atomic
import ScreenDesign.Proofs.CommandLine.Documents
import ScreenDesign.Proofs.CommandLine.Sanitized
import ScreenDesign.Proofs.CommandLine.Storage
import ScreenDesign.Proofs.Dart.Blocks
import ScreenDesign.Proofs.Dart.BrokenLinks
import ScreenDesign.Proofs.Dart.ClassMentions
import ScreenDesign.Proofs.Dart.ClassNames
import ScreenDesign.Proofs.Dart.Classes
import ScreenDesign.Proofs.Dart.Declarations
import ScreenDesign.Proofs.Dart.Escapes
import ScreenDesign.Proofs.Dart.Generation
import ScreenDesign.Proofs.Dart.LineBreaks
import ScreenDesign.Proofs.Dart.Links
import ScreenDesign.Proofs.Dart.LinksProgram
import ScreenDesign.Proofs.Dart.LinksWidget
import ScreenDesign.Proofs.Dart.Mentions
import ScreenDesign.Proofs.Dart.MentionsWidget
import ScreenDesign.Proofs.Dart.Names
import ScreenDesign.Proofs.Dart.Navigation
import ScreenDesign.Proofs.Dart.Nesting
import ScreenDesign.Proofs.Dart.Numbers
import ScreenDesign.Proofs.Dart.NumbersProgram
import ScreenDesign.Proofs.Dart.Places
import ScreenDesign.Proofs.Dart.Routes
import ScreenDesign.Proofs.Dart.ScreenBlocks
import ScreenDesign.Proofs.Dart.ScreenClasses
import ScreenDesign.Proofs.Dart.Selection
import ScreenDesign.Proofs.Dart.Sights
import ScreenDesign.Proofs.Dart.SightsWidget
import ScreenDesign.Proofs.Dart.Skeleton
import ScreenDesign.Proofs.Dart.SoundProgram
import ScreenDesign.Proofs.Dart.State
import ScreenDesign.Proofs.Dart.Theming
import ScreenDesign.Proofs.Dart.Tints
import ScreenDesign.Proofs.Dart.Tokens
import ScreenDesign.Proofs.Dart.WellFormed
import ScreenDesign.Proofs.Dart.Words
import ScreenDesign.Proofs.Encoding
import ScreenDesign.Proofs.Entries
import ScreenDesign.Proofs.ExtraMembers
import ScreenDesign.Proofs.FieldReading
import ScreenDesign.Proofs.Findings
import ScreenDesign.Proofs.Fitting
import ScreenDesign.Proofs.Forgiving
import ScreenDesign.Proofs.InPlace
import ScreenDesign.Proofs.Json.Brevity
import ScreenDesign.Proofs.Json.Digits
import ScreenDesign.Proofs.Json.Rereading
import ScreenDesign.Proofs.Json.Roundtrip
import ScreenDesign.Proofs.Json.Writable
import ScreenDesign.Proofs.Kept
import ScreenDesign.Proofs.Lengths
import ScreenDesign.Proofs.Measures
import ScreenDesign.Proofs.Number.Nearest
import ScreenDesign.Proofs.Number.Range
import ScreenDesign.Proofs.Number.Rounding
import ScreenDesign.Proofs.Number.Text
import ScreenDesign.Proofs.Number.Whole
import ScreenDesign.Proofs.Numbered
import ScreenDesign.Proofs.Preview.ById
import ScreenDesign.Proofs.Preview.Drawing
import ScreenDesign.Proofs.Preview.Measures
import ScreenDesign.Proofs.Preview.Records
import ScreenDesign.Proofs.Preview.Shapes
import ScreenDesign.Proofs.Preview.Sights
import ScreenDesign.Proofs.Preview.Starts
import ScreenDesign.Proofs.Preview.Styles
import ScreenDesign.Proofs.Preview.Tints
import ScreenDesign.Proofs.Readable
import ScreenDesign.Proofs.Recoloring
import ScreenDesign.Proofs.Rereading
import ScreenDesign.Proofs.Resanitizing
import ScreenDesign.Proofs.SameColors
import ScreenDesign.Proofs.SameContent
import ScreenDesign.Proofs.Saving
import ScreenDesign.Proofs.Settings
import ScreenDesign.Proofs.SettledBag
import ScreenDesign.Proofs.Sights
import ScreenDesign.Proofs.Spelling
import ScreenDesign.Proofs.Structured
import ScreenDesign.Proofs.Tints
import ScreenDesign.Proofs.TypedView
import ScreenDesign.Proofs.WrittenNumbers
import ScreenDesign.Record
import ScreenDesign.Sanitize
import ScreenDesign.Screen
import ScreenDesign.Setting
import ScreenDesign.Structured
import ScreenDesign.Text.Basic
import ScreenDesign.Text.Digit
import ScreenDesign.Text.Hex
import ScreenDesign.Text.Printable
