import VulnProbe.Expr.Error
import VulnProbe.Json.Basic

namespace VulnProbe

/-- Why a file or device cannot be read or written. `reported` is a cause known only by its text. -/
inductive IoIssue where
  | notFound
  | isDirectory
  | notADirectory
  | notText
  | reported (text : String)
  deriving DecidableEq, Repr

/-- The text of an input or output issue. -/
def IoIssue.message : IoIssue → String
  | .notFound => "No such file or directory (os error 2)"
  | .isDirectory => "Is a directory (os error 21)"
  | .notADirectory => "Not a directory (os error 20)"
  | .notText => "stream did not contain valid UTF-8"
  | .reported text => text

/-- Why the source of an entry has no declared type. -/
inductive DeclIssue where
  | emptySource
  | untyped (type : String)
  | reported (text : String)
  deriving DecidableEq, Repr

/-- The text of a declaration issue. -/
def DeclIssue.message : DeclIssue → String
  | .emptySource => "empty expression"
  | .untyped type => "no declared type for " ++ type ++ " value"
  | .reported text => text

/-- Why there is no callback. -/
inductive CallbackIssue where
  | notConfigured
  | badUrl (text : String) (issue : UrlIssue)
  | reported (text : String)
  deriving DecidableEq, Repr

/-- The text of a callback issue. -/
def CallbackIssue.message : CallbackIssue → String
  | .notConfigured => "no reverse callback URL configured"
  | .badUrl text issue => "invalid callback URL '" ++ text ++ "': " ++ issue.message
  | .reported text => text

/-- What is wrong with a target. -/
inductive TargetIssue where
  | empty
  | noTargets
  | badUrl (raw : String) (issue : UrlIssue)
  | badScheme (raw : String)
  | reported (text : String)
  deriving DecidableEq, Repr

/-- The text of a target issue. -/
def TargetIssue.message : TargetIssue → String
  | .empty => "target URL is empty"
  | .noTargets => "no targets given (use --target or --targets-file)"
  | .badUrl raw issue => raw ++ ": " ++ issue.message
  | .badScheme raw => raw ++ ": scheme must be http or https"
  | .reported text => text

/-- Why a file pattern cannot be used, and the place of the fault in it. -/
inductive GlobIssue where
  | wildcards (place : Nat)
  | recursiveWildcards (place : Nat)
  | range (place : Nat)
  deriving DecidableEq, Repr

/-- The text of an issue of a file pattern. -/
def GlobIssue.message : GlobIssue → String
  | .wildcards place => at_ place "wildcards are either regular `*` or recursive `**`"
  | .recursiveWildcards place => at_ place "recursive wildcards must form a single path component"
  | .range place => at_ place "invalid range pattern"
where
  /-- A fault with its place. -/
  at_ (place : Nat) (text : String) : String :=
    "Pattern syntax error near position " ++ toString place ++ ": " ++ text

/-- What is wrong with the configuration. -/
inductive ConfigIssue where
  | notFound (path : String)
  | tooLarge
  | noWorkers
  | noWorkersGiven
  | badCallbackUrl (text : String) (issue : UrlIssue)
  | badCallbackScheme (scheme : String)
  | targetsNotFound (path : String)
  | badPattern (issue : GlobIssue)
  | badUserAgent
  | reported (text : String)
  deriving DecidableEq, Repr

/-- The text of a configuration issue. -/
def ConfigIssue.message : ConfigIssue → String
  | .notFound path => "Config file not found: " ++ path
  | .tooLarge => "Config file exceeds 1MB limit"
  | .noWorkers => "scan.workers must be at least 1"
  | .noWorkersGiven => "--workers must be at least 1"
  | .badCallbackUrl text issue => "Invalid reverse.url '" ++ text ++ "': " ++ issue.message
  | .badCallbackScheme scheme => "reverse.url must be http or https, got '" ++ scheme ++ "'"
  | .targetsNotFound path => "Targets file not found: " ++ path
  | .badPattern issue => "Invalid glob pattern: " ++ issue.message
  | .badUserAgent => "Failed to build HTTP client: builder error"
  | .reported text => text

/-- Why a document cannot be read. -/
inductive YamlIssue where
  | malformed
  | unexpectedShape
  deriving DecidableEq, Repr

/-- The text of a document issue. -/
def YamlIssue.message : YamlIssue → String
  | .malformed => "malformed document"
  | .unexpectedShape => "unexpected shape"

/-- Why a text holds no definition. -/
inductive PocIssue where
  | yaml (issue : YamlIssue)
  | noRules
  | emptyExpression (rule : Nat)
  deriving DecidableEq, Repr

/-- How the errors of definitions begin. -/
def definitionHead : String := "Definition load error: "

/-- How the errors of documents begin. -/
def yamlHead : String := "YAML error: "

/-- What a rule is called in the text of an error. -/
def ruleLabel (index : Nat) : String :=
  "rules[" ++ toString index ++ "]"

/-- The text of an issue of a definition, without its head. -/
def PocIssue.message : PocIssue → String
  | .yaml issue => issue.message
  | .noRules => "POC declares no rules"
  | .emptyExpression rule => ruleLabel rule ++ " has an empty expression"

/-- The text of an issue of a definition with its head. -/
def PocIssue.headed : PocIssue → String
  | .yaml issue => yamlHead ++ issue.message
  | issue => definitionHead ++ issue.message

/-- Why definitions cannot be loaded from files. -/
inductive DefinitionIssue where
  | content (issue : PocIssue)
  | inFile (path : String) (issue : PocIssue)
  | notFound (path : String)
  | tooLarge (path : String)
  | nothingMatched (location : String)
  | failedValidation (failed total : Nat)
  | reported (text : String)
  deriving DecidableEq, Repr

/-- The text of an issue with the files of definitions. -/
def DefinitionIssue.message : DefinitionIssue → String
  | .content issue => issue.message
  | .inFile path issue => path ++ ": " ++ issue.headed
  | .notFound path => "POC file not found: " ++ path
  | .tooLarge path => "POC file exceeds 1MB limit: " ++ path
  | .nothingMatched location => "No POC files matched: " ++ location
  | .failedValidation failed total =>
    toString failed ++ " of " ++ toString total ++ " POC files failed validation"
  | .reported text => text

/-- Why a request got no response. -/
inductive TransportIssue where
  | badMethod (method : String)
  | badRequest
  | noMoreAnswers
  | reported (text : String)
  deriving DecidableEq, Repr

/-- The text of a transport issue. -/
def TransportIssue.message : TransportIssue → String
  | .badMethod method => "invalid HTTP method '" ++ method ++ "'"
  | .badRequest => "builder error"
  | .noMoreAnswers => "no scripted response left"
  | .reported text => text

/-- Why there is no verdict. The name of an expression failure is that of an entry, or the label of a
    rule. -/
inductive Failure where
  | definitionLoad (issue : DefinitionIssue)
  | typeDeclaration (name : String) (issue : DeclIssue)
  | expression (name : String) (cause : ExprError)
  | callback (issue : CallbackIssue)
  | badUrl (input reason : String)
  | transport (rule : Nat) (issue : TransportIssue)
  | config (issue : ConfigIssue)
  | target (issue : TargetIssue)
  | io (issue : IoIssue)
  | yaml (issue : YamlIssue)
  deriving DecidableEq, Repr

/-- Where in a run a failure arises. -/
inductive Stage where
  | setup
  | definition
  | binding
  | probe
  deriving DecidableEq, Repr

namespace Failure

/-- The failure of a text that holds no definition. -/
def ofPocIssue : PocIssue → Failure
  | .yaml issue => .yaml issue
  | issue => .definitionLoad (.content issue)

/-- The failure of the expression of a rule. -/
def ofRule (index : Nat) (cause : ExprError) : Failure :=
  .expression (ruleLabel index) cause

/-- The text of a failure. -/
def message : Failure → String
  | .definitionLoad issue => definitionHead ++ issue.message
  | .typeDeclaration name issue => "Type declaration error for '" ++ name ++ "': " ++ issue.message
  | .expression name cause => "Expression error in " ++ name ++ ": " ++ cause.message
  | .callback issue => "Reverse allocation error: " ++ issue.message
  | .badUrl input reason => "URL parse error for '" ++ input ++ "': " ++ reason
  | .transport rule issue => "Probe transport error in " ++ ruleLabel rule ++ ": " ++ issue.message
  | .config issue => "Configuration error: " ++ issue.message
  | .target issue => "Invalid target: " ++ issue.message
  | .io issue => "IO error: " ++ issue.message
  | .yaml issue => yamlHead ++ issue.message

/-- The name of the kind of a failure. -/
def kind : Failure → String
  | .definitionLoad _ => "DefinitionLoadError"
  | .typeDeclaration .. => "TypeDeclarationError"
  | .expression .. => "ExpressionEvalError"
  | .callback _ => "ReverseAllocationError"
  | .badUrl .. => "UrlParseError"
  | .transport .. => "ProbeTransportError"
  | .config _ => "ConfigError"
  | .target _ => "InvalidTargetError"
  | .io _ => "IoError"
  | .yaml _ => "YamlError"

/-- The number of 64 bits that decimal digits write, after a plus sign or nothing. -/
def indexOfText? (cs : List Char) : Option Nat :=
  let digits := match cs with
    | '+' :: rest => rest
    | _ => cs
  if digits.isEmpty || !digits.all Char.isDigit then none
  else
    let n := digits.foldl (fun n c => n * 10 + (c.toNat - 48)) 0
    if n < countLimit then some n else none

/-- The index in the label of a rule. -/
def indexOfLabel? (name : String) : Option Nat :=
  let opening := "rules[".toList
  let cs := name.toList
  if opening.isPrefixOf cs && cs.getLast? == some ']' && opening.length < cs.length then
    indexOfText? (cs.drop opening.length).dropLast
  else none

/-- The rule at which a run failed. -/
def ruleIndex? : Failure → Option Nat
  | .transport rule _ => some rule
  | .expression name _ => indexOfLabel? name
  | _ => none

/-- The number of rules whose responses came in before the failure: the rule whose expression failed
    had its response. Counts have 64 bits. -/
def rulesExecuted (f : Failure) : Nat :=
  match f, f.ruleIndex? with
  | .transport .., some index => index
  | _, some index => (index + 1) % countLimit
  | _, none => 0

/-- The stage at which a failure arises. -/
def stage (f : Failure) : Stage :=
  match f with
  | .definitionLoad _ | .typeDeclaration .. | .yaml _ => .definition
  | .expression .. => if f.ruleIndex?.isSome then .probe else .binding
  | .callback _ | .badUrl .. => .binding
  | .transport .. => .probe
  | .config _ | .target _ | .io _ => .setup

/-- The exit code of a command that ends with a failure. -/
def exitCode (f : Failure) : Nat :=
  match f with
  | .config _ => 2
  | .target _ => 5
  | f =>
    match f.stage with
    | .definition => 3
    | .binding | .probe => 4
    | .setup => 1

end Failure

end VulnProbe
