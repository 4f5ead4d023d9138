import JavadocNames.Script
import JavadocNames.Overload
import JavadocNames.Record.Format
import JavadocNames.Signature.RowText
import JavadocNames.Text.Word
import JavadocNames.Text.Digit
import JavadocNames.Text.Blank
import JavadocNames.Text.CaseFolding
import JavadocNames.Pattern.Matching
import JavadocNames.Pattern.Syntax
import JavadocNames.Signature.Extraction
import JavadocNames.Disk.Listing
import JavadocNames.Html.Lexer
import JavadocNames.Html.Growth
import JavadocNames.Html.Formatting
import JavadocNames.Html.Parser
import JavadocNames.Page.Basic
import JavadocNames.Page.Reading
import JavadocNames.Page.Summary
import JavadocNames.Document
import JavadocNames.Run
import JavadocNames.Tool
import JavadocNames.CommandLine.Reading
import JavadocNames.Program
import JavadocNames.Main
import JavadocNames.Proofs.Document.Addressing
import JavadocNames.Proofs.Disk.Listing
import JavadocNames.Proofs.Run.Composition
import JavadocNames.Proofs.Run.Limits
import JavadocNames.Proofs.Record.JsonLines
import JavadocNames.Proofs.Signature.Tokens
import JavadocNames.Proofs.Signature.Rendering
import JavadocNames.Proofs.Page.Anchors
import JavadocNames.Proofs.Page.Sections
import JavadocNames.Proofs.Document.ClassPage
import JavadocNames.Proofs.Document.AttrLines
import JavadocNames.Proofs.Document.RowOrder
import JavadocNames.Proofs.Document.Keys
import JavadocNames.Proofs.Document.Sharing
import JavadocNames.Proofs.Run.Formats
import JavadocNames.Proofs.Disk.Entries
import JavadocNames.Proofs.Disk.Enumeration
import JavadocNames.Proofs.Disk.Frame
import JavadocNames.Proofs.Run.Logging
import JavadocNames.Proofs.Run.Redirection
import JavadocNames.Proofs.Signature.Scan
import JavadocNames.Proofs.Signature.Generics
import JavadocNames.Proofs.Page.Cells
import JavadocNames.Proofs.CommandLine.Parsing
import JavadocNames.Proofs.Disk.Nameless
import JavadocNames.Proofs.Document.ClassNames
import JavadocNames.Proofs.Run.Trail
import JavadocNames.Proofs.Run.Outlets
import JavadocNames.Proofs.Signature.OnePass
import JavadocNames.Proofs.Document.History
