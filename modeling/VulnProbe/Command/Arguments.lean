import VulnProbe.Command.Basic

namespace VulnProbe.Arguments

/-- What has a value. -/
inductive Setting where
  | location
  | target
  | targetsFile
  | config
  | callbackUrl
  | workers
  | userAgent
  | output
  deriving DecidableEq, Repr

/-- What stands alone. -/
inductive Switch where
  | verbose
  | quiet
  | noColor
  | json
  | help
  | version
  deriving DecidableEq, Repr

/-- Where arguments stand: before the name of a command, or after it. -/
inductive Level where
  | program
  | verify
  | validate
  deriving DecidableEq, Repr

/-- What a name with hyphens stands for. -/
inductive Flag where
  | setting (s : Setting)
  | switch (s : Switch)
  deriving DecidableEq, Repr

/-- The flags with a long name, and the letter of those that have one. -/
def Level.flags : Level → List (String × Option Char × Flag)
  | .program => common ++ [("version", some 'V', .switch .version)]
  | .validate => common
  | .verify => common ++ [
      ("poc", some 'p', .setting .location),
      ("target", some 't', .setting .target),
      ("targets-file", none, .setting .targetsFile),
      ("config", some 'c', .setting .config),
      ("reverse-url", none, .setting .callbackUrl),
      ("workers", some 'w', .setting .workers),
      ("user-agent", none, .setting .userAgent),
      ("json", none, .switch .json),
      ("output", some 'o', .setting .output)]
where
  /-- The flags that every level has. -/
  common : List (String × Option Char × Flag) := [
    ("verbose", some 'v', .switch .verbose),
    ("quiet", some 'q', .switch .quiet),
    ("no-color", none, .switch .noColor),
    ("help", some 'h', .switch .help)]

/-- The flag with a long name. -/
def Level.long? (level : Level) (name : String) : Option Flag :=
  (level.flags.find? fun f => f.1 == name).map (·.2.2)

/-- The flag with a letter. -/
def Level.short? (level : Level) (c : Char) : Option Flag :=
  (level.flags.find? fun f => f.2.1 == some c).map (·.2.2)

/-- What is given on one level. -/
structure Given where
  verbosity : Nat
  switches : List Switch
  settings : List (Setting × String)
  plain : Option String
  deriving DecidableEq, Repr, Inhabited

namespace Given

/-- The value of a setting. -/
def get? (g : Given) (s : Setting) : Option String :=
  g.settings.lookup s

/-- All values of a setting. -/
def all (g : Given) (s : Setting) : List String :=
  (g.settings.filter (·.1 == s)).map (·.2)

/-- Whether nothing is given. -/
def isEmpty (g : Given) : Bool :=
  g.verbosity == 0 && g.switches.isEmpty && g.settings.isEmpty

/-- The number of workers that a text writes. -/
def workers? (text : String) : Option Nat :=
  Failure.indexOfText? text.toList

/-- Adds the value of a setting. Only targets may be given more than once. -/
def set (g : Given) (s : Setting) (value : String) : Except UsageIssue Given :=
  if s ≠ .target && (g.get? s).isSome then .error .repeated
  else if s = .workers && (workers? value).isNone then .error .badValue
  else .ok { g with settings := g.settings ++ [(s, value)] }

/-- Adds a switch. Only that for more messages may be given more than once, and counts up to a byte. -/
def switchOn (g : Given) (s : Switch) : Except UsageIssue Given :=
  match s with
  | .help => .error .helpWanted
  | .version => .error .versionWanted
  | .verbose => .ok { g with verbosity := min (g.verbosity + 1) 255 }
  | s => if g.switches.contains s then .error .repeated
    else .ok { g with switches := s :: g.switches }

end Given

/-- Arguments in the course of reading. A setting is pending, first without and then with its value,
    until it is judged: one without its value is no mistake before the arguments end or something else
    is given. -/
structure Reading where
  given : Given
  pending : Option (Setting × Option String)
  onlyPlain : Bool

namespace Reading

/-- Nothing read. -/
def start : Reading :=
  ⟨⟨0, [], [], none⟩, none, false⟩

/-- Judges the pending setting. -/
def settle (r : Reading) : Except UsageIssue Reading :=
  match r.pending with
  | none => .ok r
  | some (_, none) => .error .missingValue
  | some (s, some value) =>
    (r.given.set s value).map fun given => { r with given := given, pending := none }

/-- Takes a setting with its value. -/
def attach (r : Reading) (s : Setting) (value : String) : Except UsageIssue Reading := do
  let r ← r.settle
  let given ← r.given.set s value
  pure { r with given := given }

/-- Takes a setting whose value is the next argument. -/
def await (r : Reading) (s : Setting) : Except UsageIssue Reading := do
  let r ← r.settle
  pure { r with pending := some (s, none) }

/-- Takes a switch. -/
def switchOn (r : Reading) (s : Switch) : Except UsageIssue Reading := do
  let r ← r.settle
  let given ← r.given.switchOn s
  pure { r with given := given }

/-- Takes a long name, and a value if an equals sign follows it. -/
def long (level : Level) (r : Reading) (cs : List Char) : Except UsageIssue Reading :=
  let value := match cs.dropWhile (· != '=') with
    | _ :: value => some (String.ofList value)
    | [] => none
  match level.long? (String.ofList (cs.takeWhile (· != '='))), value with
  | some (.setting s), some value => r.attach s value
  | some (.setting s), none => r.await s
  | some (.switch _), some _ => .error .excessValue
  | some (.switch s), none => r.switchOn s
  | none, _ => .error .unknownArgument

/-- Takes letters. What follows the letter of a setting is its value, after an equals sign or
    nothing. -/
def short (level : Level) (r : Reading) : List Char → Except UsageIssue Reading
  | [] => .ok r
  | c :: rest =>
    match level.short? c with
    | some (.switch s) => do
      let r ← r.switchOn s
      short level r rest
    | some (.setting s) =>
      match rest with
      | [] => r.await s
      | '=' :: value => r.attach s (String.ofList value)
      | value => r.attach s (String.ofList value)
    | none => .error .unknownArgument

/-- Takes a plain argument. Only the check of definitions has one. -/
def plain (level : Level) (r : Reading) (arg : String) : Except UsageIssue Reading :=
  if level = .validate && r.given.plain.isNone then
    .ok { r with given := { r.given with plain := some arg } }
  else .error .unknownArgument

/-- Takes an argument. -/
def take (level : Level) (r : Reading) (arg : String) : Except UsageIssue Reading :=
  if r.onlyPlain then r.plain level arg
  else
    match arg.toList, r.pending with
    | ['-', '-'], _ => .ok { r with onlyPlain := true }
    | '-' :: '-' :: cs, _ => r.long level cs
    | '-' :: c :: cs, _ => r.short level (c :: cs)
    | _, some (s, none) => .ok { r with pending := some (s, some arg) }
    | _, _ => r.plain level arg

end Reading

/-- What is given after the name of a command. -/
def readLevel (level : Level) (args : List String) : Except UsageIssue Given := do
  let r ← args.foldlM (Reading.take level) Reading.start
  let r ← r.settle
  pure r.given

/-- What the arguments of a command ask for. -/
def commandOf? (level : Level) (g : Given) : Option Command :=
  match level with
  | .verify => (g.get? .location).map fun location => .verify {
      location := location
      targets := g.all .target
      targetsFile := g.get? .targetsFile
      config := g.get? .config
      overrides := ⟨g.get? .callbackUrl, g.get? .userAgent, (g.get? .workers).bind Given.workers?⟩
      json := g.switches.contains .json
      output := g.get? .output }
  | .validate => g.plain.map .validate
  | .program => none

/-- The command of the arguments after its name. The last level on which messages are asked for tells
    how many. -/
def invocation (before : Given) (level : Level) (args : List String) :
    Except UsageIssue Invocation := do
  let g ← readLevel level args
  match commandOf? level g with
  | none => .error .missingArgument
  | some command =>
    let has (s : Switch) := before.switches.contains s || g.switches.contains s
    .ok ⟨if g.verbosity = 0 then before.verbosity else g.verbosity, has .quiet, has .noColor, command⟩

/-- What a first plain argument names. -/
inductive Name where
  | command (level : Level)
  | help

/-- What a first plain argument names, if anything. -/
def name? (arg : String) : Option Name :=
  if arg = "verify" then some (.command .verify)
  else if arg = "validate" then some (.command .validate)
  else if arg = "help" then some .help
  else none

/-- Why help on a topic is no command: it is wanted, or there is no such topic. -/
def helpOn : List String → UsageIssue
  | [] => .helpWanted
  | [topic] => if (name? topic).isSome then .helpWanted else .unknownCommand
  | _ => .unknownCommand

/-- The command of the arguments that are left. -/
def readProgram : List String → Reading → Except UsageIssue Invocation
  | [], r => .error (if r.given.isEmpty then .nothingGiven else .missingCommand)
  | arg :: rest, r =>
    match name? arg, r.onlyPlain with
    | some (.command level), false => invocation r.given level rest
    | some .help, false => .error (helpOn rest)
    | some _, true => .error .unknownArgument
    | none, _ =>
      let isPlain := r.onlyPlain || arg.toList.head? != some '-' || arg = "-"
      if isPlain then .error .unknownCommand
      else do
        let r ← r.take .program arg
        readProgram rest r

/-- The command that arguments tell. Switches stand alone and settings have a value, which is attached
    or comes as the next argument. After two hyphens all arguments are plain. The switches of the
    program may also follow the name of the command. -/
def parse (args : List String) : Except UsageIssue Invocation :=
  readProgram args Reading.start

end VulnProbe.Arguments
