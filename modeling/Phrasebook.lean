import Phrasebook.Argument
import Phrasebook.Conversion.Apply
import Phrasebook.Conversion.Basic
import Phrasebook.Conversion.Layout
import Phrasebook.Document.Basic
import Phrasebook.Document.Json
import Phrasebook.Document.Toml.Basic
import Phrasebook.Document.Toml.Scalar
import Phrasebook.Document.Toml.Tables
import Phrasebook.Document.Toml.Text
import Phrasebook.Document.Yaml.Basic
import Phrasebook.Document.Yaml.Content
import Phrasebook.Document.Yaml.Cursor
import Phrasebook.Document.Yaml.Fault
import Phrasebook.Document.Yaml.Lexer
import Phrasebook.Document.Yaml.Node
import Phrasebook.Document.Yaml.Numeral
import Phrasebook.Document.Yaml.Scalar
import Phrasebook.Document.Yaml.Stamp
import Phrasebook.Document.Yaml.Tag
import Phrasebook.Document.Yaml.Token
import Phrasebook.Engine.Basic
import Phrasebook.Engine.Cache
import Phrasebook.Engine.Error
import Phrasebook.Engine.Rendering
import Phrasebook.Engine.Session
import Phrasebook.Locale
import Phrasebook.Locale.Identifier
import Phrasebook.Locale.Known
import Phrasebook.Locale.LeadingNumber
import Phrasebook.Moment
import Phrasebook.Note
import Phrasebook.Number.Binary64
import Phrasebook.Number.Decimal
import Phrasebook.Number.Digits
import Phrasebook.Number.Notation
import Phrasebook.Number.Rounding
import Phrasebook.Number.Scientific
import Phrasebook.Number.Shortest
import Phrasebook.Phrase
import Phrasebook.Plural.Classifier
import Phrasebook.Plural.Count
import Phrasebook.Plural.Languages
import Phrasebook.Plural.Rule
import Phrasebook.Proofs.Conversion.Integer
import Phrasebook.Proofs.Conversion.Operator
import Phrasebook.Proofs.Conversion.Padding
import Phrasebook.Proofs.Conversion.Real
import Phrasebook.Proofs.Conversion.Split
import Phrasebook.Proofs.Conversion.Written
import Phrasebook.Proofs.Engine.Aftermath
import Phrasebook.Proofs.Engine.Binding
import Phrasebook.Proofs.Engine.Choice
import Phrasebook.Proofs.Engine.Depth
import Phrasebook.Proofs.Engine.Eviction
import Phrasebook.Proofs.Engine.Failure
import Phrasebook.Proofs.Engine.Fallback
import Phrasebook.Proofs.Engine.FirstFailure
import Phrasebook.Proofs.Engine.History
import Phrasebook.Proofs.Engine.InlineRules
import Phrasebook.Proofs.Engine.Keyed
import Phrasebook.Proofs.Engine.Locale
import Phrasebook.Proofs.Engine.Memory
import Phrasebook.Proofs.Engine.Mention
import Phrasebook.Proofs.Engine.Outline
import Phrasebook.Proofs.Engine.Positional
import Phrasebook.Proofs.Engine.Verbatim
import Phrasebook.Proofs.Engine.Visit
import Phrasebook.Proofs.Locale.LeadingNumber
import Phrasebook.Proofs.Number.Size
import Phrasebook.Proofs.Number.Truncation
import Phrasebook.Proofs.Plural.Fault
import Phrasebook.Proofs.Plural.Unknown
import Phrasebook.Proofs.Plural.Whole
import Phrasebook.Proofs.Settings.Document
import Phrasebook.Proofs.Settings.Reading
import Phrasebook.Proofs.Template.Braces
import Phrasebook.Proofs.Template.Canonical
import Phrasebook.Proofs.Template.Cursor
import Phrasebook.Proofs.Template.CursorRange
import Phrasebook.Proofs.Template.EarliestFault
import Phrasebook.Proofs.Template.Form
import Phrasebook.Proofs.Template.InlineEscape
import Phrasebook.Proofs.Template.InlinePlural
import Phrasebook.Proofs.Template.InlineReader
import Phrasebook.Proofs.Template.InlineSpan
import Phrasebook.Proofs.Template.Lazy
import Phrasebook.Proofs.Template.LeastSpan
import Phrasebook.Proofs.Template.Parsing
import Phrasebook.Proofs.Template.Placeholder
import Phrasebook.Proofs.Template.Seam
import Phrasebook.Proofs.Template.Segmentation
import Phrasebook.Proofs.Template.Spelling
import Phrasebook.Proofs.Text.CaseFold
import Phrasebook.Proofs.Text.Forward
import Phrasebook.Proofs.Text.QuotedString
import Phrasebook.Proofs.Text.Run
import Phrasebook.Settings
import Phrasebook.Settings.File
import Phrasebook.Template.Basic
import Phrasebook.Template.Braces
import Phrasebook.Template.InlinePlural
import Phrasebook.Template.Piece
import Phrasebook.Template.Placeholder
import Phrasebook.Text.Basic
import Phrasebook.Text.CaseFold
import Phrasebook.Text.Cased
import Phrasebook.Text.Digit
import Phrasebook.Text.Letter
import Phrasebook.Text.LowerCase
import Phrasebook.Text.NormalForm.Basic
import Phrasebook.Text.NormalForm.Canonical
import Phrasebook.Text.NormalForm.Combining
import Phrasebook.Text.NormalForm.Compatible
import Phrasebook.Text.Printable
import Phrasebook.Text.Quoted
import Phrasebook.Text.QuotedString
import Phrasebook.Text.Tables
import Phrasebook.Text.Utf8
import Phrasebook.Text.Whitespace
import Phrasebook.Text.Word
import Phrasebook.Uncaught
import Phrasebook.Value
