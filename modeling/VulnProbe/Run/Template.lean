import VulnProbe.Poc.Basic
import VulnProbe.Run.Params
import VulnProbe.Text.Basic

namespace VulnProbe

/-- Replaces each occurrence of a text, from left to right. The text to replace is `first :: needle`,
    and `skip` counts the characters of an occurrence still to be passed. -/
def replaceFrom (first : Char) (needle put : List Char) : Nat → List Char → List Char
  | _, [] => []
  | skip + 1, _ :: rest => replaceFrom first needle put skip rest
  | 0, c :: rest =>
    if c == first && needle.isPrefixOf rest then put ++ replaceFrom first needle put needle.length rest
    else c :: replaceFrom first needle put 0 rest

/-- The placeholder of a name, without its first brace. -/
def placeholderTail (name : String) : List Char :=
  ('\x7b' :: name.toList) ++ ['\x7d', '\x7d']

/-- Replaces the placeholder of a name, which is the name in double braces, by the text of its value. -/
def fillPlaceholder (name : String) (v : Value) (s : String) : String :=
  String.ofList (replaceFrom '\x7b' (placeholderTail name) v.text.toList 0 s.toList)

/-- Replaces the placeholders of all bound names, in the order of the names. -/
def fillPlaceholders (params : Params) (s : String) : String :=
  params.foldl (fun s (name, v) => fillPlaceholder name v s) s

/-- A rule with its placeholders replaced in the path, the body and the header values. The path and
    the body lose their outer blanks first. -/
def Rule.substitute (r : Rule) (params : Params) : Rule :=
  { r with
    path := fillPlaceholders params (Text.trim r.path)
    body := fillPlaceholders params (Text.trim r.body)
    headers := r.headers.mapValues (fillPlaceholders params) }

/-- A character that may start a name in a placeholder. -/
def isPlaceholderHead (c : Char) : Bool :=
  c.isAlpha || c == '_'

/-- A character that may continue a name in a placeholder. -/
def isPlaceholderTail (c : Char) : Bool :=
  c.isAlphanum || c == '_'

/-- Whether a text starts with a placeholder of an ASCII name. -/
def startsWithPlaceholder : List Char → Bool
  | a :: b :: c :: rest =>
    a == '\x7b' && b == '\x7b' && isPlaceholderHead c
      && ['\x7d', '\x7d'].isPrefixOf (rest.dropWhile isPlaceholderTail)
  | _ => false

/-- Whether a placeholder of an ASCII name occurs in a text. -/
def hasPlaceholder : List Char → Bool
  | [] => false
  | c :: rest => startsWithPlaceholder (c :: rest) || hasPlaceholder rest

/-- Whether a placeholder is left in a rule. -/
def Rule.hasUnresolved (r : Rule) : Bool :=
  hasPlaceholder r.path.toList || hasPlaceholder r.body.toList
    || r.headers.any fun h => hasPlaceholder h.2.toList

end VulnProbe
