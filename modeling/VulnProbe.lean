import VulnProbe.Binary64
import VulnProbe.Command.Arguments
import VulnProbe.Command.Basic
import VulnProbe.Command.Batch
import VulnProbe.Config.Basic
import VulnProbe.Config.Target
import VulnProbe.Dict
import VulnProbe.Expr.Apply
import VulnProbe.Expr.Basic
import VulnProbe.Expr.Builtin
import VulnProbe.Expr.DeclType
import VulnProbe.Expr.Error
import VulnProbe.Expr.Eval
import VulnProbe.Expr.Lexer
import VulnProbe.Expr.Parser
import VulnProbe.Expr.Token
import VulnProbe.Expr.Typing
import VulnProbe.Expr.Value
import VulnProbe.Failure
import VulnProbe.Files.Disk
import VulnProbe.Files.Path
import VulnProbe.Files.Pattern
import VulnProbe.Files.Search
import VulnProbe.Json.Basic
import VulnProbe.Json.Parser
import VulnProbe.Json.Printer
import VulnProbe.Main
import VulnProbe.Poc.Basic
import VulnProbe.Poc.Document
import VulnProbe.Poc.Files
import VulnProbe.Proofs.Command.Batch
import VulnProbe.Proofs.Config.CallbackUrl
import VulnProbe.Proofs.Config.Collection
import VulnProbe.Proofs.Config.NormalForm
import VulnProbe.Proofs.Dict
import VulnProbe.Proofs.Expr.Arithmetic
import VulnProbe.Proofs.Expr.Checking
import VulnProbe.Proofs.Expr.Conversions
import VulnProbe.Proofs.Expr.Counted.Agreement
import VulnProbe.Proofs.Expr.Counted.Basic
import VulnProbe.Proofs.Expr.Counted.Depth
import VulnProbe.Proofs.Expr.Encodings
import VulnProbe.Proofs.Expr.Escapes
import VulnProbe.Proofs.Expr.FaultBounds
import VulnProbe.Proofs.Expr.Folding
import VulnProbe.Proofs.Expr.Grammar
import VulnProbe.Proofs.Expr.Grammar.Acceptance
import VulnProbe.Proofs.Expr.Grammar.Complete.Brackets
import VulnProbe.Proofs.Expr.Grammar.Complete.Operands
import VulnProbe.Proofs.Expr.Grammar.Complete.Operators
import VulnProbe.Proofs.Expr.Grammar.Complete.Steps
import VulnProbe.Proofs.Expr.Grammar.FaultPosition
import VulnProbe.Proofs.Expr.Grammar.Follow
import VulnProbe.Proofs.Expr.Grammar.IntegerLiterals
import VulnProbe.Proofs.Expr.Grammar.KeptSigns
import VulnProbe.Proofs.Expr.Grammar.Readers
import VulnProbe.Proofs.Expr.Grammar.Sound
import VulnProbe.Proofs.Expr.Grammar.Sound.Brackets
import VulnProbe.Proofs.Expr.Grammar.Sound.Operands
import VulnProbe.Proofs.Expr.Grammar.Sound.Outcome
import VulnProbe.Proofs.Expr.Induction
import VulnProbe.Proofs.Expr.IntegerConversion
import VulnProbe.Proofs.Expr.IntegerText
import VulnProbe.Proofs.Expr.Layout
import VulnProbe.Proofs.Expr.Literals
import VulnProbe.Proofs.Expr.Literals.Collected
import VulnProbe.Proofs.Expr.Literals.Denotes
import VulnProbe.Proofs.Expr.NameDependence
import VulnProbe.Proofs.Expr.NameSafety
import VulnProbe.Proofs.Expr.NameSafety.Operations
import VulnProbe.Proofs.Expr.Numerals
import VulnProbe.Proofs.Expr.Positions
import VulnProbe.Proofs.Expr.Printer
import VulnProbe.Proofs.Expr.Printer.Derivation
import VulnProbe.Proofs.Expr.ReadBack
import VulnProbe.Proofs.Expr.Spelling
import VulnProbe.Proofs.Expr.Spelling.Basic
import VulnProbe.Proofs.Expr.Spelling.Integers
import VulnProbe.Proofs.Expr.Spelling.Names
import VulnProbe.Proofs.Expr.Substrings
import VulnProbe.Proofs.Expr.TextSearch
import VulnProbe.Proofs.Expr.Tokenize
import VulnProbe.Proofs.Expr.Tokenize.Separated
import VulnProbe.Proofs.Expr.Tokenize.Shift
import VulnProbe.Proofs.Expr.TypeSoundness
import VulnProbe.Proofs.Expr.TypeSoundness.Tables
import VulnProbe.Proofs.Expr.Yields
import VulnProbe.Proofs.Failure
import VulnProbe.Proofs.Files.Disk
import VulnProbe.Proofs.Files.Order
import VulnProbe.Proofs.Files.Path
import VulnProbe.Proofs.Files.Pattern
import VulnProbe.Proofs.Files.Search
import VulnProbe.Proofs.Json.RoundTrip
import VulnProbe.Proofs.Json.Scalars
import VulnProbe.Proofs.Poc.Discovery
import VulnProbe.Proofs.Report.Document
import VulnProbe.Proofs.Report.RunId
import VulnProbe.Proofs.Report.Summary
import VulnProbe.Proofs.Report.Timestamp
import VulnProbe.Proofs.Run.Accounting
import VulnProbe.Proofs.Run.Binding.CallbackOrder
import VulnProbe.Proofs.Run.Binding.CallbackSources
import VulnProbe.Proofs.Run.Binding.Entries
import VulnProbe.Proofs.Run.Binding.Evaluated
import VulnProbe.Proofs.Run.Binding.LaterEntries
import VulnProbe.Proofs.Run.Binding.NameOrder
import VulnProbe.Proofs.Run.Binding.Prepared
import VulnProbe.Proofs.Run.Binding.ReservedNames
import VulnProbe.Proofs.Run.Binding.Resolution
import VulnProbe.Proofs.Run.Binding.UrlText
import VulnProbe.Proofs.Run.BindingFrame
import VulnProbe.Proofs.Run.BoundNames
import VulnProbe.Proofs.Run.Composition
import VulnProbe.Proofs.Run.DeclarationOrder
import VulnProbe.Proofs.Run.History
import VulnProbe.Proofs.Run.LatestResponse
import VulnProbe.Proofs.Run.NameDependence
import VulnProbe.Proofs.Run.Rejection
import VulnProbe.Proofs.Run.RequestTarget
import VulnProbe.Proofs.Run.Responses
import VulnProbe.Proofs.Run.SearchAgreement
import VulnProbe.Proofs.Run.StaticAgreement
import VulnProbe.Proofs.Run.Template.Dependence
import VulnProbe.Proofs.Run.Template.Filling
import VulnProbe.Proofs.Run.Template.Reapplication
import VulnProbe.Proofs.Run.Template.Simultaneous
import VulnProbe.Proofs.Run.Validation
import VulnProbe.Proofs.Run.Verdict
import VulnProbe.Proofs.Text.Base64
import VulnProbe.Proofs.Text.Blank
import VulnProbe.Proofs.Text.Controls
import VulnProbe.Proofs.Text.Hex
import VulnProbe.Proofs.Text.Percent
import VulnProbe.Proofs.Text.Pieces
import VulnProbe.Proofs.Text.Stripped
import VulnProbe.Proofs.Text.Utf8
import VulnProbe.Proofs.Url.Authority
import VulnProbe.Proofs.Url.Continuation
import VulnProbe.Proofs.Url.Directory
import VulnProbe.Proofs.Url.DomainName
import VulnProbe.Proofs.Url.Subpath
import VulnProbe.Regex.Ast
import VulnProbe.Regex.CharSet
import VulnProbe.Regex.Classes
import VulnProbe.Regex.Matcher
import VulnProbe.Regex.Parser
import VulnProbe.Regex.Pattern
import VulnProbe.Regex.Program
import VulnProbe.Regex.PropertyTables
import VulnProbe.Report.Basic
import VulnProbe.Report.Document
import VulnProbe.Report.Lines
import VulnProbe.Report.RunId
import VulnProbe.Report.Timestamp
import VulnProbe.Run.Binding
import VulnProbe.Run.Callback
import VulnProbe.Run.Params
import VulnProbe.Run.Probe
import VulnProbe.Run.Registry
import VulnProbe.Run.Request
import VulnProbe.Run.Template
import VulnProbe.Run.Verification
import VulnProbe.Text.Base64
import VulnProbe.Text.Basic
import VulnProbe.Text.Casing
import VulnProbe.Text.Hex
import VulnProbe.Text.Letter
import VulnProbe.Text.Normal
import VulnProbe.Text.Percent
import VulnProbe.Text.Quoted
import VulnProbe.Text.Sha256
import VulnProbe.Text.Table
import VulnProbe.Text.Utf8
import VulnProbe.Url.Address
import VulnProbe.Url.Basic
import VulnProbe.Url.DomainName
import VulnProbe.Url.Host
import VulnProbe.Url.NameTables
import VulnProbe.Url.Parser
import VulnProbe.Url.Punycode
import VulnProbe.Yaml.Cursor
import VulnProbe.Yaml.Document
import VulnProbe.Yaml.Node
import VulnProbe.Yaml.Scalar
import VulnProbe.Yaml.Shape
import VulnProbe.Yaml.Token
import VulnProbe.Yaml.TokenList

