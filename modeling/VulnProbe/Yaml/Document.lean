import VulnProbe.Yaml.Node
import VulnProbe.Yaml.TokenList

namespace VulnProbe.Yaml

/-- The tokens not yet read, the numbers of the names of anchors, and what the handles of tags stand
    for. An anchor is numbered by how many names of anchors were used before it, and an alias has the
    number that its name had last. -/
structure Reading where
  tokens : List Token
  anchors : List (String × Nat)
  handles : List (String × String)

/-- A reader gives a result with what is left. -/
abbrev Reader (α : Type) := Reading → Option (α × Reading)

namespace Reading

/-- The next token. -/
def peek (r : Reading) : Token :=
  r.tokens.headD .streamEnd

/-- Passes a token. -/
def pass (r : Reading) : Reading :=
  { r with tokens := r.tokens.drop 1 }

/-- Numbers the name of an anchor. A name that is used again gets a new number. -/
def numberAnchor (r : Reading) : Option String → Option Nat × Reading
  | none => (none, r)
  | some name =>
    let number := r.anchors.length
    (some number, { r with anchors := (name, number) :: r.anchors.filter (·.1 != name) })

/-- The whole tag of a handle and a suffix. -/
def wholeTag? (r : Reading) (handle suffix : String) : Option String :=
  if handle.isEmpty then some suffix else (r.handles.lookup handle).map (· ++ suffix)

/-- Reads a tag, if there is one. -/
def takeTag? (r : Reading) : Option (Option String × Reading) :=
  match r.peek with
  | .tag handle suffix => (r.wholeTag? handle suffix).map fun tag => (some tag, r.pass)
  | _ => some (none, r)

/-- Reads an anchor, if there is one. -/
def takeAnchor (r : Reading) : Option String × Reading :=
  match r.peek with
  | .anchor name => (some name, r.pass)
  | _ => (none, r)

/-- Reads the anchor and the tag before a node, in either order. -/
def takeLabels? (r : Reading) : Option ((Option String × Option String) × Reading) := do
  match r.takeAnchor with
  | (some name, r) => do
    let (tag, r) ← r.takeTag?
    some ((some name, tag), r)
  | (none, r) => do
    let (tag, r) ← r.takeTag?
    let (anchor, r) := if tag.isSome then r.takeAnchor else (none, r)
    some ((anchor, tag), r)

/-- Whether an entry of a block sequence is left empty. -/
def endsItem (r : Reading) : Bool :=
  match r.peek with
  | .blockEntry | .blockEnd => true
  | _ => false

/-- Whether a key or a value of a block mapping is left empty. -/
def endsPart (r : Reading) : Bool :=
  match r.peek with
  | .key | .value | .blockEnd => true
  | _ => false

/-- Whether a value in a flow sequence is left empty. -/
def endsFlowItem (r : Reading) : Bool :=
  match r.peek with
  | .flowEntry | .flowSequenceEnd => true
  | _ => false

/-- Whether a value in a flow mapping is left empty. -/
def endsFlowPart (r : Reading) : Bool :=
  match r.peek with
  | .flowEntry | .flowMappingEnd => true
  | _ => false

/-- Whether the next token is a value. -/
def isAtValue (r : Reading) : Bool :=
  match r.peek with
  | .value => true
  | _ => false

/-- Passes the comma that stands before every entry but the first. -/
def passComma? (isFirst : Bool) (r : Reading) : Option Reading :=
  if isFirst then some r
  else
    match r.peek with
    | .flowEntry => some r.pass
    | _ => none

/-- The empty node, or what a reader reads. -/
def orEmpty (isEmpty : Bool) (read : Reader Node) (r : Reading) : Option (Node × Reading) :=
  if isEmpty then some (.empty, r) else read r

/-- Reads a value after its mark; without the mark it is empty. -/
def valueBy (ends : Reading → Bool) (read : Reader Node) (r : Reading) : Option (Node × Reading) :=
  if r.isAtValue then orEmpty (ends r.pass) read r.pass else some (.empty, r)

/-- The tag that a scalar keeps. A lone mark is no tag. -/
def scalarTag (tag : Option String) : Option String :=
  tag.filter (· != "!")

end Reading

mutual
/-- Reads a node. Block collections stand only where `inBlock` holds; where `isPart` holds, the entries
    of a sequence need no indentation. The number bounds how deep the readers call each other. -/
def node? : Nat → Bool → Bool → Reader Node
  | 0, _, _, _ => none
  | fuel + 1, inBlock, isPart, r =>
    match r.peek with
    | .alias name => (r.anchors.lookup name).map fun a => (.alias a, r.pass)
    | _ => do
      let ((name, tag), r) ← r.takeLabels?
      let (anchor, r) := r.numberAnchor name
      match r.peek with
      | .scalar style text => some (.scalar anchor (Reading.scalarTag tag) style text, r.pass)
      | .flowSequenceStart =>
        let (items, r) ← flowItems? fuel true r.pass
        some (.sequence anchor items, r)
      | .flowMappingStart =>
        let (entries, r) ← flowEntries? fuel true r.pass
        some (.mapping anchor entries, r)
      | t =>
        if isPart && t == .blockEntry then
          let (items, r) ← bareItems? fuel r
          some (.sequence anchor items, r)
        else if inBlock && t == .blockSequenceStart then
          let (items, r) ← blockItems? fuel r.pass
          some (.sequence anchor items, r)
        else if inBlock && t == .blockMappingStart then
          let (entries, r) ← blockEntries? fuel r.pass
          some (.mapping anchor entries, r)
        else if name.isSome || tag.isSome then some (.scalar anchor tag .plain "", r)
        else none

/-- Reads the entries of an indented sequence and its end. -/
def blockItems? : Nat → Reader (List Node)
  | 0, _ => none
  | fuel + 1, r =>
    match r.peek with
    | .blockEntry => do
      let (item, r) ← Reading.orEmpty r.pass.endsItem (node? fuel true false) r.pass
      let (rest, r) ← blockItems? fuel r
      some (item :: rest, r)
    | .blockEnd => some ([], r.pass)
    | _ => none

/-- Reads the entries of a sequence that is not indented. -/
def bareItems? : Nat → Reader (List Node)
  | 0, _ => none
  | fuel + 1, r =>
    match r.peek with
    | .blockEntry => do
      let isEmpty := r.pass.endsItem || r.pass.endsPart
      let (item, r) ← Reading.orEmpty isEmpty (node? fuel true false) r.pass
      let (rest, r) ← bareItems? fuel r
      some (item :: rest, r)
    | _ => some ([], r)

/-- Reads the entries of a block mapping and its end. -/
def blockEntries? : Nat → Reader (List (Node × Node))
  | 0, _ => none
  | fuel + 1, r =>
    match r.peek with
    | .key => do
      let (key, r) ← Reading.orEmpty r.pass.endsPart (node? fuel true true) r.pass
      let (value, r) ← Reading.valueBy Reading.endsPart (node? fuel true true) r
      let (rest, r) ← blockEntries? fuel r
      some ((key, value) :: rest, r)
    | .blockEnd => some ([], r.pass)
    | _ => none

/-- Reads the entries of a flow sequence and its end. An entry with a key is a mapping of one
    entry; if the key is empty, the token after its mark is passed. -/
def flowItems? : Nat → Bool → Reader (List Node)
  | 0, _, _ => none
  | fuel + 1, isFirst, r =>
    match r.peek with
    | .flowSequenceEnd => some ([], r.pass)
    | _ => do
      let r ← r.passComma? isFirst
      match r.peek with
      | .flowSequenceEnd => some ([], r.pass)
      | .key =>
        let r := r.pass
        let (key, r) ←
          if r.isAtValue || r.endsFlowItem then some (Node.empty, r.pass)
          else node? fuel false false r
        let (value, r) ← Reading.valueBy Reading.endsFlowItem (node? fuel false false) r
        let (rest, r) ← flowItems? fuel false r
        some (.mapping none [(key, value)] :: rest, r)
      | _ =>
        let (item, r) ← node? fuel false false r
        let (rest, r) ← flowItems? fuel false r
        some (item :: rest, r)

/-- Reads the entries of a flow mapping and its end. -/
def flowEntries? : Nat → Bool → Reader (List (Node × Node))
  | 0, _, _ => none
  | fuel + 1, isFirst, r =>
    match r.peek with
    | .flowMappingEnd => some ([], r.pass)
    | _ => do
      let r ← r.passComma? isFirst
      match r.peek with
      | .flowMappingEnd => some ([], r.pass)
      | .key =>
        let isEmpty := r.pass.isAtValue || r.pass.endsFlowPart
        let (key, r) ← Reading.orEmpty isEmpty (node? fuel false false) r.pass
        let (value, r) ← Reading.valueBy Reading.endsFlowPart (node? fuel false false) r
        let (rest, r) ← flowEntries? fuel false r
        some ((key, value) :: rest, r)
      | _ =>
        let (key, r) ← node? fuel false false r
        let (rest, r) ← flowEntries? fuel false r
        some ((key, .empty) :: rest, r)
end

namespace Reading

/-- What the handles of tags stand for unless a directive says otherwise. -/
def commonHandles : List (String × String) :=
  [("!", "!"), ("!!", "tag:yaml.org,2002:")]

/-- Reads the directives of a document. The version must be 1.1 or 1.2, and nothing may be declared
    twice. -/
def directives? : List Token → Bool → List (String × String) →
    Option (List Token × List (String × String))
  | .version major minor :: rest, hasVersion, handles =>
    if hasVersion || major != 1 || (minor != 1 && minor != 2) then none
    else directives? rest true handles
  | .tagDirective handle head :: rest, hasVersion, handles =>
    if (handles.lookup handle).isSome then none
    else directives? rest hasVersion ((handle, head) :: handles)
  | ts, _, handles => some (ts, handles)

/-- Whether the content of a document is left empty. -/
def endsDocument (r : Reading) : Bool :=
  match r.peek with
  | .version .. | .tagDirective .. | .documentStart | .documentEnd | .streamEnd => true
  | _ => false

/-- Whether nothing but marks of the end of the document is left. -/
def isFinished (r : Reading) : Bool :=
  match r.tokens.dropWhile (· == .documentEnd) with
  | [.streamEnd] => true
  | _ => false

end Reading

/-- The root of the document of a stream, which may hold one document or none. Without a document it is
    empty. -/
def Node.ofTokens? (ts : List Token) : Option Node := do
  let fuel := 4 * ts.length + 4
  let isImplicit := !Reading.endsDocument ⟨ts, [], []⟩
  let (root, r) ←
    if isImplicit then node? fuel true false ⟨ts, [], Reading.commonHandles⟩
    else
      match ts with
      | [.streamEnd] => some (Node.empty, Reading.mk ts [] [])
      | _ => do
        let (ts, handles) ← Reading.directives? ts false []
        match ts with
        | .documentStart :: rest =>
          let r : Reading := ⟨rest, [], handles ++ Reading.commonHandles⟩
          r.orEmpty r.endsDocument (node? fuel true false)
        | _ => none
  if r.isFinished then some root else none

/-- The root of the document that a text holds. -/
def Node.parse? (text : String) : Option Node :=
  (tokens? text).bind Node.ofTokens?

end VulnProbe.Yaml
