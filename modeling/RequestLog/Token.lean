import RequestLog.Text.Lowercase
import RequestLog.Text.Pieces
import RequestLog.Text.Word

/-!
# Tokens

A token names an extractor and may carry arguments: `name` or `name[first, second]`.  The name is a
run of word characters, dollar signs and hyphens; the arguments are what stands between the first
and the last bracket, cut at commas and trimmed.  `parse?` reads the text of a token and `render`
writes the text of a key with arguments.
-/

namespace RequestLog

/-- A token of a format. -/
structure Token where
  /-- The text as it was given; it names the field of a record. -/
  raw : String
  /-- The name in lower case; it is what extractors are looked up by. -/
  key : String
  /-- The trimmed arguments. -/
  args : List String
  deriving DecidableEq, Repr

namespace Token

/-- A character of a token's name. -/
def isNameChar (c : Char) : Bool :=
  Text.isWord c || c == '$' || c == '-'

/-- The text between an opening bracket and the closing bracket that ends it.  The text must not be
empty and must not hold a line feed; it may hold brackets. -/
def bracketed? : List Char → Option (List Char)
  | '[' :: rest =>
      if rest.getLast? = some ']' ∧ rest.dropLast ≠ [] ∧ '\n' ∉ rest.dropLast then
        some rest.dropLast
      else
        none
  | _ => none

/-- The arguments that the text between brackets lists. -/
def argumentsOf (body : List Char) : List String :=
  (Text.pieces ',' body).map fun piece => String.ofList (Text.trim piece)

/-- The arguments that follow a name: none if nothing follows, else those between brackets. -/
def suffixArguments? : List Char → Option (List String)
  | [] => some []
  | suffix => (bracketed? suffix).map argumentsOf

/-- Read the text of a token. -/
def parse? (text : String) : Option Token :=
  let name := text.toList.takeWhile isNameChar
  let suffix := text.toList.dropWhile isNameChar
  if name = [] then none
  else
    (suffixArguments? suffix).map fun args =>
      { raw := text, key := String.ofList (Text.lower name), args := args }

/-- The text of a key with arguments. -/
def render (key : String) : List String → String
  | [] => key
  | args => key ++ "[" ++ String.intercalate "," args ++ "]"

end Token
end RequestLog
