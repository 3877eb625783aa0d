import LiteralEnum.Command.Check
import LiteralEnum.Command.Generate
import LiteralEnum.Command.Grammar
import LiteralEnum.Command.Report
import LiteralEnum.Command.Request
import LiteralEnum.Command.Run
import LiteralEnum.Command.Source
import LiteralEnum.Command.Usage
import LiteralEnum.Console.Emoji
import LiteralEnum.Console.Emoji.Table
import LiteralEnum.Console.Markup
import LiteralEnum.Console.Style
import LiteralEnum.Console.Table
import LiteralEnum.Console.Width
import LiteralEnum.Console.Wrap
import LiteralEnum.Declaration
import LiteralEnum.Declaration.Parser
import LiteralEnum.Files.Atomic
import LiteralEnum.Files.Disk
import LiteralEnum.Files.Path
import LiteralEnum.Files.Pattern
import LiteralEnum.Files.Search
import LiteralEnum.Files.Tree
import LiteralEnum.Main
import LiteralEnum.Model
import LiteralEnum.Model.Check
import LiteralEnum.Model.Naming
import LiteralEnum.Model.View
import LiteralEnum.Model.Violation
import LiteralEnum.Module
import LiteralEnum.Module.Compile
import LiteralEnum.Module.Docstring
import LiteralEnum.Proofs.Declaration.Acceptance
import LiteralEnum.Proofs.Declaration.Derivation
import LiteralEnum.Proofs.Declaration.Printing
import LiteralEnum.Proofs.Declaration.Recognition
import LiteralEnum.Proofs.Declaration.RoundTrip
import LiteralEnum.Proofs.Declaration.SheetScanning
import LiteralEnum.Proofs.Declaration.Unambiguity
import LiteralEnum.Proofs.Model.Admissibility
import LiteralEnum.Proofs.Model.Blame
import LiteralEnum.Proofs.Model.Building
import LiteralEnum.Proofs.Model.FirstViolation
import LiteralEnum.Proofs.Model.LiteralDispute
import LiteralEnum.Proofs.Model.LiteralOwnership
import LiteralEnum.Proofs.Module.DataTable
import LiteralEnum.Proofs.Module.DefinitionReading
import LiteralEnum.Proofs.Module.DocstringLines
import LiteralEnum.Proofs.Module.LineReading
import LiteralEnum.Proofs.Module.Reading
import LiteralEnum.Proofs.Module.TableMeaning
import LiteralEnum.Proofs.Target.ClosedLine
import LiteralEnum.Proofs.Target.ClosedNumber
import LiteralEnum.Proofs.Target.ClosedPiece
import LiteralEnum.Proofs.Target.EarlyClosing
import LiteralEnum.Proofs.Target.EnclosedText
import LiteralEnum.Proofs.Target.Enclosure
import LiteralEnum.Proofs.Target.ImportVerdict
import LiteralEnum.Proofs.Target.LineMarks
import LiteralEnum.Proofs.Target.OpenLines
import LiteralEnum.Proofs.Target.PieceSplitting
import LiteralEnum.Proofs.Target.QuotedText
import LiteralEnum.Proofs.Target.TextLines
import LiteralEnum.Proofs.Text.Blank
import LiteralEnum.Proofs.Token.Decomposition
import LiteralEnum.Proofs.Token.LexicalExactness
import LiteralEnum.Proofs.Token.PieceExistence
import LiteralEnum.Proofs.Token.PieceScanning
import LiteralEnum.Settings
import LiteralEnum.Settings.Environment
import LiteralEnum.Settings.Session
import LiteralEnum.Target.Expression
import LiteralEnum.Target.Keyword
import LiteralEnum.Target.Lexeme
import LiteralEnum.Target.Literal
import LiteralEnum.Target.Matching
import LiteralEnum.Target.Placement
import LiteralEnum.Target.Reader
import LiteralEnum.Target.Scope
import LiteralEnum.Target.Statement
import LiteralEnum.Target.Syntax
import LiteralEnum.Target.Token
import LiteralEnum.Target.Verdict
import LiteralEnum.Text.Blank
import LiteralEnum.Text.CharacterName
import LiteralEnum.Text.CharacterName.Alias
import LiteralEnum.Text.CharacterName.Alphabetic
import LiteralEnum.Text.CharacterName.Scripts
import LiteralEnum.Text.CharacterName.Supplementary
import LiteralEnum.Text.CharacterName.Symbols
import LiteralEnum.Text.Decomposition
import LiteralEnum.Text.Decomposition.Table
import LiteralEnum.Text.Encoding
import LiteralEnum.Text.Encoding.Utf8
import LiteralEnum.Text.Integer
import LiteralEnum.Text.Json
import LiteralEnum.Text.Letter
import LiteralEnum.Text.Lines
import LiteralEnum.Text.Name
import LiteralEnum.Text.Numeral
import LiteralEnum.Text.Printable
import LiteralEnum.Text.Quoted
import LiteralEnum.Text.Ranges
import LiteralEnum.Token
import LiteralEnum.Token.Lexer
import LiteralEnum.Proofs.Files.TreeChanges
import LiteralEnum.Proofs.Files.WritingThrough
import LiteralEnum.Proofs.Files.Searching
import LiteralEnum.Proofs.Command.World
import LiteralEnum.Proofs.Console.FirstCharacter
import LiteralEnum.Proofs.Command.Units
import LiteralEnum.Proofs.Command.UntouchedFiles
import LiteralEnum.Proofs.Command.Attempts
import LiteralEnum.Proofs.Command.LastingModules
import LiteralEnum.Proofs.Command.Failures
import LiteralEnum.Proofs.Module.BoundNames
import LiteralEnum.Proofs.Settings.History
import LiteralEnum.Module.File
import LiteralEnum.Proofs.Command.Requests
import LiteralEnum.Proofs.Command.EntryPoints
import LiteralEnum.Proofs.Text.JsonReading
import LiteralEnum.Proofs.Model.DocumentView
import LiteralEnum.Proofs.Module.ClassSuite
import LiteralEnum.Proofs.Module.TableLayout
import LiteralEnum.Proofs.Command.AtomicWriting
import LiteralEnum.Proofs.Declaration.ErrorPlace
import LiteralEnum.Proofs.Module.DocstringValue
import LiteralEnum.Proofs.Command.IndependentUnits
import LiteralEnum.Proofs.Token.Places
import LiteralEnum.Proofs.Declaration.SourcePlaces
import LiteralEnum.Proofs.Token.LineJoining
import LiteralEnum.Proofs.Token.CarriageReturns
import LiteralEnum.Proofs.Declaration.CarriageReturns
import LiteralEnum.Proofs.Target.TokenShapes
import LiteralEnum.Proofs.Target.TokenCover
import LiteralEnum.Proofs.Token.ExpressionBlocks
import LiteralEnum.Proofs.Module.Layout
import LiteralEnum.Proofs.Target.BracketEscape
import LiteralEnum.Proofs.Module.Framing
import LiteralEnum.Proofs.Files.EndingSearch
import LiteralEnum.Proofs.Command.InputExpansion
import LiteralEnum.Proofs.Console.PlainMarkup
import LiteralEnum.Proofs.Command.CheckTable
