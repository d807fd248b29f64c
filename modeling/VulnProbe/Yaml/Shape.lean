import VulnProbe.Failure
import VulnProbe.Json.Basic
import VulnProbe.Yaml.Document

namespace VulnProbe.Yaml

/-- What a decoder gives, from the root of the document and the number of aliases that may still be
    followed. It fails on a node of another shape. -/
abbrev Decoder (α : Type) := ReaderT Node (StateT Nat Option) α

namespace Decoder

variable {α : Type}

/-- The node that an alias stands for; any other node stands for itself. -/
def follow (n : Node) : Decoder Node :=
  match n with
  | .alias anchor => do
    let left ← get
    match left with
    | 0 => failure
    | left + 1 => do
      set left
      match (← read).find? anchor with
      | some found => pure found
      | none => failure
  | n => pure n

/-- The text of a scalar. -/
def text (n : Node) : Decoder String := do
  match ← follow n with
  | .scalar _ _ _ text => pure text
  | _ => failure

/-- The common head of the tags of the language itself. -/
def commonTag (name : String) : String :=
  "tag:yaml.org,2002:" ++ name

/-- The words for nothing. -/
def isNullWord (text : String) : Bool :=
  ["null", "Null", "NULL", "~"].contains text

/-- Whether a scalar is written as one of the values that are not texts: plain, or in a block of lines
    with their tag. -/
def isValueOf (name : String) (style : Style) (tag : Option String) : Bool :=
  style == .plain || (style == .literal && tag == some (commonTag name))

/-- A truth value. -/
def flag (n : Node) : Decoder Bool := do
  match ← follow n with
  | .scalar _ tag style text =>
    if !isValueOf "bool" style tag then failure
    else if ["true", "True", "TRUE"].contains text then pure true
    else if ["false", "False", "FALSE"].contains text then pure false
    else failure
  | _ => failure

/-- The number that digits of a base write. -/
def digits? (base : Nat) (cs : List Char) : Option Nat :=
  if cs.isEmpty then none
  else
    cs.foldlM (fun n c =>
      (hexDigit? c).bind fun d => if d < base then some (n * base + d) else none) 0

/-- The number that is written in base ten or, after `0x`, `0o` or `0b`, in another base. In base ten
    it has no superfluous zero in front. -/
def unsigned? (cs : List Char) : Option Nat :=
  match cs with
  | '0' :: 'x' :: rest => digits? 16 rest
  | '0' :: 'o' :: rest => digits? 8 rest
  | '0' :: 'b' :: rest => digits? 2 rest
  | '0' :: _ :: _ => none
  | _ => digits? 10 cs

/-- The number of 64 bits that a text writes, after a plus sign or nothing. Zero may have a minus
    sign. -/
def count? (text : String) : Option Nat :=
  match text.toList with
  | '+' :: rest => (unsigned? rest).filter (· < countLimit)
  | '-' :: rest => (unsigned? rest).filter (· == 0)
  | cs => (unsigned? cs).filter (· < countLimit)

/-- A number of 64 bits. -/
def count (n : Node) : Decoder Nat := do
  match ← follow n with
  | .scalar _ tag style text =>
    match if isValueOf "int" style tag then count? text else none with
    | some number => pure number
    | none => failure
  | _ => failure

/-- What a decoder gives, or nothing for a node that is left empty or has a word for nothing. -/
def optional (decode : Node → Decoder α) (n : Node) : Decoder (Option α) := do
  let n ← follow n
  match n with
  | .scalar _ tag .plain text =>
    if tag == some (commonTag "null") then
      if isNullWord text then pure none else failure
    else if tag.isNone && (text.isEmpty || isNullWord text) then pure none
    else some <$> decode n
  | n => some <$> decode n

/-- The items of a sequence; a node that is left empty has none. -/
def sequence (decode : Node → Decoder α) (n : Node) : Decoder (List α) := do
  match ← follow n with
  | .sequence _ items => items.mapM decode
  | .scalar _ _ .plain "" => pure []
  | _ => failure

/-- The entries of a mapping by the texts of their keys; a node that is left empty has none. -/
def entries (n : Node) : Decoder (List (String × Node)) := do
  match ← follow n with
  | .mapping _ entries => entries.mapM fun (key, value) => do
      let key ← text key
      pure (key, value)
  | .scalar _ _ .plain "" => pure []
  | _ => failure

/-- A mapping whose values are texts, in the order in which they are written. -/
def texts (n : Node) : Decoder (List (String × String)) := do
  (← entries n).mapM fun (key, value) => do
    let value ← text value
    pure (key, value)

/-- The node of a field, if the field is there. It must not be there twice. -/
def field (fields : List (String × Node)) (name : String) : Decoder (Option Node) :=
  match fields.filter (·.1 == name) with
  | [] => pure none
  | [(_, n)] => pure (some n)
  | _ => failure

/-- What a decoder gives for a field. -/
def required (fields : List (String × Node)) (name : String) (decode : Node → Decoder α) :
    Decoder α := do
  match ← field fields name with
  | some n => decode n
  | none => failure

/-- What a decoder gives for a field; another value where the field is missing. -/
def orElse (fields : List (String × Node)) (name : String) (decode : Node → Decoder α)
    (otherwise : α) : Decoder α := do
  match ← field fields name with
  | some n => decode n
  | none => pure otherwise

/-- What a decoder gives for a field that may be missing or left empty. -/
def orNone (fields : List (String × Node)) (name : String) (decode : Node → Decoder α) :
    Decoder (Option α) :=
  orElse fields name (optional decode) none

/-- What a decoder gives for the document of a text. How many aliases are followed in all is bounded by
    the size of the document, so that a short text cannot stand for a huge value. -/
def decodeText (decode : Node → Decoder α) (text : String) : Except YamlIssue α :=
  match Node.parse? text with
  | none => .error .malformed
  | some root =>
    match ((decode root).run root).run (100 * root.size) with
    | some (a, _) => .ok a
    | none => .error .unexpectedShape

end Decoder

end VulnProbe.Yaml
