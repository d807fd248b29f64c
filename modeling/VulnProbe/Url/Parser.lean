import VulnProbe.Text.Basic
import VulnProbe.Text.Percent
import VulnProbe.Url.Address
import VulnProbe.Url.Basic
import VulnProbe.Url.DomainName

namespace VulnProbe.Url.Escape

/-- A control character or one outside ASCII. -/
def isControl (c : Char) : Bool :=
  c.toNat < 32 || 127 ≤ c.toNat

/-- Escaped in a fragment. -/
def inFragment (c : Char) : Bool :=
  isControl c || c == ' ' || c == '"' || c == '<' || c == '>' || c.toNat == 0x60

/-- Escaped in a path. -/
def inPath (c : Char) : Bool :=
  inFragment c || c == '#' || c == '?' || c == '\x7b' || c == '\x7d'

/-- Escaped in a user name or password. -/
def inUserInfo (c : Char) : Bool :=
  inPath c || c == '/' || c == ':' || c == ';' || c == '=' || c == '@' || c == '[' || c == '\\'
    || c == ']' || c == '^' || c == '|'

/-- Escaped in a query; a single quote is escaped in the special schemes only. -/
def inQuery (isSpecial : Bool) (c : Char) : Bool :=
  isControl c || c == ' ' || c == '"' || c == '#' || c == '<' || c == '>'
    || (isSpecial && c == '\x27')

/-- Escapes the characters of a set by their UTF-8 bytes. Each component of a URL has its own set of
    ASCII characters beside the controls and everything that is not ASCII. -/
def escape (set : Char → Bool) (cs : List Char) : String :=
  String.ofList (cs.flatMap fun c =>
    if set c then (String.utf8EncodeChar c).flatMap Percent.escaped else [c])

end VulnProbe.Url.Escape

namespace VulnProbe.Url

/-- How the text after the scheme is read. The special schemes have a host and paths with slashes, may
    be written with backslashes and any number of leading slashes, and their hosts are domain names or
    addresses. Other schemes have a host only after `//`, and an opaque path where no slash follows the
    scheme. -/
inductive SchemeKind where
  | file
  | special
  | other
  deriving DecidableEq, Repr

/-- The kind of a scheme. -/
def SchemeKind.of (scheme : String) : SchemeKind :=
  if scheme == "file" then .file
  else if (defaultPort? scheme).isSome then .special
  else .other

/-- Whether the scheme is one of those with domain names for hosts. -/
def SchemeKind.isSpecial : SchemeKind → Bool
  | .other => false
  | _ => true

/-- A slash, or a backslash where it counts as one. -/
def isSlash (isSpecial : Bool) (c : Char) : Bool :=
  c == '/' || (isSpecial && c == '\\')

/-- A character that may not stay at the ends of the text. -/
def isEdge (c : Char) : Bool :=
  c.toNat ≤ 32

/-- A character that is dropped wherever it stands. -/
def isDropped (c : Char) : Bool :=
  c == '\t' || c == '\n' || c == '\r'

/-- The characters that are read. -/
def cleaned (s : String) : List Char :=
  (Text.dropEnd isEdge (s.toList.dropWhile isEdge)).filter fun c => !isDropped c

/-- A character that may follow the first letter of a scheme. -/
def isSchemeTail (c : Char) : Bool :=
  c.isAlphanum || c == '+' || c == '-' || c == '.'

/-- The scheme in small letters, and what follows its colon. -/
def splitScheme? (cs : List Char) : Option (String × List Char) :=
  match cs with
  | c :: _ =>
    if c.isAlpha then
      match cs.dropWhile isSchemeTail with
      | ':' :: rest => some (String.ofList ((cs.takeWhile isSchemeTail).map Char.toLower), rest)
      | _ => none
    else none
  | [] => none

/-- Whether a character ends the part of the text that holds credentials, host and port. -/
def endsAuthority (isSpecial : Bool) (c : Char) : Bool :=
  isSlash isSpecial c || c == '?' || c == '#'

/-- The text up to the last `@`, and what follows it; nothing where there is no `@`. -/
def splitLastAt (cs : List Char) : Option (List Char) × List Char :=
  let after := (cs.reverse.takeWhile (· != '@')).reverse
  if after.length == cs.length then (none, cs)
  else (some (cs.take (cs.length - after.length - 1)), after)

/-- The user name and the password of credentials. A password that would be empty is none. -/
def credentials (cs : List Char) : String × Option String :=
  let user := cs.takeWhile (· != ':')
  let secret := (cs.drop user.length).drop 1
  (Escape.escape Escape.inUserInfo user,
    if secret.isEmpty then none else some (Escape.escape Escape.inUserInfo secret))

/-- A character that no host of a scheme of another kind may hold. -/
def isBadHostChar (c : Char) : Bool :=
  c.toNat == 0 || c == '\t' || c == '\n' || c == '\r' || c == ' ' || c == '#' || c == '/'
    || c == ':' || c == '<' || c == '>' || c == '?' || c == '@' || c == '[' || c == '\\'
    || c == ']' || c == '^' || c == '|'

/-- The address in brackets that a host starts with. -/
def bracketHost (cs : List Char) : Except UrlIssue Host :=
  if cs.getLast? == some ']' then
    match Address.ipv6? (cs.drop 1).dropLast with
    | some pieces => .ok (.ipv6 pieces)
    | none => .error .badIpv6
  else .error .badIpv6

/-- The host of a special scheme: a domain name in its ASCII form, or an address. -/
def domainHost (cs : List Char) : Except UrlIssue Host :=
  if cs.head? == some '[' then bracketHost cs
  else
    match DomainName.toAscii? (Percent.decodeBytes (Utf8.encode cs)) with
    | none => .error .badInternationalName
    | some name =>
      if name.isEmpty then .error .emptyHost
      else if Address.endsInNumber name then
        match Address.ipv4? name with
        | some n => .ok (.ipv4 n)
        | none => .error .badIpv4
      else .ok (.name (String.ofList name))

/-- The host of a scheme of another kind, which is kept as it is written. -/
def opaqueHost (cs : List Char) : Except UrlIssue Host :=
  if cs.head? == some '[' then bracketHost cs
  else if cs.any isBadHostChar then .error .badHostCharacter
  else .ok (.name (Escape.escape Escape.isControl cs))

/-- The host at the front of a text: up to a colon outside brackets. -/
def splitHost (inBrackets : Bool) : List Char → List Char × List Char
  | [] => ([], [])
  | c :: rest =>
    if c == ':' && !inBrackets then ([], c :: rest)
    else
      let (host, after) :=
        splitHost (if c == '[' then true else if c == ']' then false else inBrackets) rest
      (c :: host, after)

/-- Digits up to a number below 65536, and what follows them. -/
def portDigits (n : Nat) : List Char → Except UrlIssue (Nat × List Char)
  | [] => .ok (n, [])
  | c :: rest =>
    if c.isDigit then
      let n := n * 10 + (c.toNat - 48)
      if n > 65535 then .error .badPort else portDigits n rest
    else .ok (n, c :: rest)

/-- The port at the front of a text, if one is written that is not the usual one, and what follows. -/
def splitPort (scheme : String) (cs : List Char) : Except UrlIssue (Option Nat × List Char) := do
  let (n, rest) ← portDigits 0 cs
  let written := rest.length < cs.length
  match rest with
  | c :: _ => if !(endsAuthority true c) then .error .badPort
  | [] => pure ()
  pure (if written && defaultPort? scheme != some n then some n else none, rest)

/-- A drive letter followed by a colon or a bar. -/
def isDrive : List Char → Bool
  | [a, b] => a.isAlpha && (b == ':' || b == '|')
  | _ => false

/-- A segment that stands for the directory it is in. -/
def isSingleDot (s : List Char) : Bool :=
  String.ofList (s.map Char.toLower) ∈ [".", "%2e"]

/-- A segment that stands for the directory above. -/
def isDoubleDot (s : List Char) : Bool :=
  String.ofList (s.map Char.toLower) ∈ ["..", "%2e.", ".%2e", "%2e%2e"]

/-- The segments, in reverse, without the last one. A drive letter is not removed. -/
def shorten : List (List Char) → List (List Char)
  | [] => []
  | s :: rest => if isDrive s then s :: rest else rest

/-- Resolves the dots in the segments of a path, after those already resolved in reverse. -/
def resolveDots (isFile : Bool) (done : List (List Char)) : List (List Char) → List (List Char)
  | [] => done.reverse
  | s :: rest =>
    if isDoubleDot s then
      if rest.isEmpty then ([] :: shorten done).reverse else resolveDots isFile (shorten done) rest
    else if isSingleDot s then
      if rest.isEmpty then ([] :: done).reverse else resolveDots isFile done rest
    else
      let s := if isFile && done.isEmpty && isDrive s then s.take 1 ++ [':'] else s
      resolveDots isFile (s :: done) rest

/-- The canonical path of the text of a path after its first slash. -/
def hierarchicalPath (kind : SchemeKind) (cs : List Char) : String :=
  let segments := Text.pieces (isSlash kind.isSpecial) cs
  let resolved := resolveDots (kind == .file) [] segments
  let resolved :=
    if kind == .file then
      match resolved.dropWhile List.isEmpty with
      | [] => [[]]
      | segments => segments
    else resolved
  String.join (resolved.map fun s => "/" ++ Escape.escape Escape.inPath s)

/-- The text of a path, the query and the fragment, each without its mark. -/
structure Tail where
  path : List Char
  query : Option (List Char)
  fragment : Option (List Char)

/-- Splits off the fragment and then the query. -/
def splitTail (cs : List Char) : Tail :=
  let (before, fragment) :=
    match cs.dropWhile (· != '#') with
    | _ :: f => (cs.takeWhile (· != '#'), some f)
    | [] => (cs, none)
  match before.dropWhile (· != '?') with
  | _ :: q => ⟨before.takeWhile (· != '?'), some q, fragment⟩
  | [] => ⟨before, none, fragment⟩

/-- The URL with a path and the rest of a text. -/
def withTail (scheme : String) (kind : SchemeKind) (credentials : String × Option String)
    (host : Option Host) (port : Option Nat) (path : String) (tail : Tail) : Url where
  scheme
  username := credentials.1
  password := credentials.2
  host
  port
  path
  query := tail.query.map (Escape.escape (Escape.inQuery kind.isSpecial))
  fragment := tail.fragment.map (Escape.escape Escape.inFragment)

/-- The path after a host: a special scheme always has one. -/
def pathAfterHost (kind : SchemeKind) (cs : List Char) : String :=
  match cs with
  | [] => if kind.isSpecial then "/" else ""
  | c :: rest =>
    if isSlash kind.isSpecial c then hierarchicalPath kind rest else hierarchicalPath kind (c :: rest)

/-- The URL whose text goes on after `//`. -/
def ofAuthority (scheme : String) (kind : SchemeKind) (cs : List Char) : Except UrlIssue Url := do
  let authority := cs.takeWhile fun c => !(endsAuthority kind.isSpecial c)
  let rest := cs.drop authority.length
  let (secret?, hostPort) := splitLastAt authority
  if secret? == some [] && hostPort.isEmpty && !rest.isEmpty then .error .emptyHost
  let credentials := credentials (secret?.getD [])
  let (hostText, portText) := splitHost false hostPort
  if kind == .special && hostText.isEmpty then .error .emptyHost
  let host ← if kind == .special then domainHost hostText else opaqueHost hostText
  if hostText.isEmpty && !portText.isEmpty then .error .emptyHost
  let (port, rest) ←
    match portText with
    | _ :: digits => splitPort scheme (digits ++ rest)
    | [] => pure (none, rest)
  if hostText.isEmpty && (credentials.1 != "" || credentials.2.isSome) then .error .emptyHost
  let tail := splitTail rest
  pure (withTail scheme kind credentials (some host) port (pathAfterHost kind tail.path) tail)

/-- A file URL, whose host is empty where it is not written or is this machine. -/
def ofFile (cs : List Char) : Except UrlIssue Url := do
  let finish (host : Host) (path : String) (tail : Tail) : Url :=
    withTail "file" .file ("", none) (some host) none path tail
  match cs with
  | a :: rest =>
    if isSlash true a then
      match rest with
      | b :: rest' =>
        if isSlash true b then
          let hostText := rest'.takeWhile fun c => !(endsAuthority true c)
          if isDrive hostText then
            let tail := splitTail rest'
            pure (finish (.name "") (hierarchicalPath .file tail.path) tail)
          else
            let tail := splitTail (rest'.drop hostText.length)
            let host ← if hostText.isEmpty then pure (.name "") else domainHost hostText
            let host := if host == .name "localhost" then .name "" else host
            pure (finish host (pathAfterHost .file tail.path) tail)
        else
          let tail := splitTail rest
          pure (finish (.name "") (hierarchicalPath .file tail.path) tail)
      | [] => pure (finish (.name "") "/" (splitTail []))
    else
      let tail := splitTail cs
      pure (finish (.name "") (hierarchicalPath .file tail.path) tail)
  | [] => pure (finish (.name "") "/" (splitTail []))

/-- A URL of a scheme of another kind. -/
def ofOther (scheme : String) (cs : List Char) : Except UrlIssue Url :=
  match cs with
  | '/' :: '/' :: rest => ofAuthority scheme .other rest
  | '/' :: rest =>
    let tail := splitTail rest
    .ok (withTail scheme .other ("", none) none none (hierarchicalPath .other tail.path) tail)
  | _ =>
    let tail := splitTail cs
    .ok (withTail scheme .other ("", none) none none (Escape.escape Escape.isControl tail.path) tail)

/-- The URL that a text writes. -/
def parse (s : String) : Except UrlIssue Url :=
  match splitScheme? (cleaned s) with
  | none => .error .noScheme
  | some (scheme, rest) =>
    match SchemeKind.of scheme with
    | .file => ofFile rest
    | .special => ofAuthority scheme .special (rest.dropWhile (isSlash true))
    | .other => ofOther scheme rest

/-- The URL that a text writes once the blanks around it are removed. -/
def parseTrimmed (s : String) : Except UrlIssue Url :=
  parse (Text.trim s)

end VulnProbe.Url
