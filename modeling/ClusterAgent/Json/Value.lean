import ClusterAgent.Text.Number
namespace ClusterAgent

/-! ## JSON values -/

/-- A JSON value whose objects keep the order of their members. -/
inductive Json
  | null
  | bool (value : Bool)
  | number (value : Nat)
  | text (value : String)
  | array (items : List Json)
  | object (members : List (String × Json))
  deriving Repr

namespace Json

/-- Absent values are written as `null`. -/
def optional (value : Option Json) : Json :=
  value.getD .null

def texts (items : List String) : Json :=
  .array (items.map .text)

/-! ## Writing -/

/-- A character inside a string. Quotes, backslashes and the control characters below a
space are escaped, and nothing else is. -/
def escape (character : Char) : List Char :=
  if character = '"' then ['\\', '"']
  else if character = '\\' then ['\\', '\\']
  else if character = '\x08' then ['\\', 'b']
  else if character = '\x0c' then ['\\', 'f']
  else if character = '\n' then ['\\', 'n']
  else if character = '\r' then ['\\', 'r']
  else if character = '\t' then ['\\', 't']
  else if character.toNat < 16 then
    ['\\', 'u', '0', '0', '0'] ++ Text.hexadecimal character.toNat
  else if character.toNat < 32 then
    ['\\', 'u', '0', '0'] ++ Text.hexadecimal character.toNat
  else [character]

def quoted (text : List Char) : List Char :=
  '"' :: text.flatMap escape ++ ['"']

mutual

/-- The text of a value, without any blanks. -/
def render : Json → List Char
  | .null => "null".toList
  | .bool true => "true".toList
  | .bool false => "false".toList
  | .number value => Text.decimal value
  | .text value => quoted value.toList
  | .array items => '[' :: renderItems items ++ [']']
  | .object members => '{' :: renderMembers members ++ ['}']

def renderItems : List Json → List Char
  | [] => []
  | [item] => render item
  | item :: next :: rest => render item ++ ',' :: renderItems (next :: rest)

def renderMembers : List (String × Json) → List Char
  | [] => []
  | [(name, value)] => quoted name.toList ++ ':' :: render value
  | (name, value) :: next :: rest =>
      quoted name.toList ++ ':' :: render value ++ ',' :: renderMembers (next :: rest)

end

def toText (value : Json) : String :=
  String.ofList value.render

end Json
end ClusterAgent
