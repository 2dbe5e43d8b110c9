import ClusterAgent.Yaml.Node
namespace ClusterAgent
namespace Yaml

/-! ## Reading values from nodes -/

/-- The node that stands here once aliases are followed. In a document no alias names an
alias. -/
def Node.resolve (document node : Node) : Node :=
  let target :=
    match node with
    | .alias number => (document.named? number).getD node
    | other => other
  match target with
  | .anchored _ inner => inner
  | other => other

/-- The text of a scalar, however it is written. -/
def Node.text? (document node : Node) : Option String :=
  match node.resolve document with
  | .scalar text _ _ => some text
  | _ => none

/-- Whether digits begin with a zero that says nothing. -/
def hasIdleZero (digits : List Char) : Bool :=
  match digits with
  | '0' :: rest => !rest.isEmpty && rest.all Char.isDigit
  | _ => false

/-- A number below `limit`, with an optional plus sign, in base ten or after `0x`, `0o` or
`0b` in another base. -/
def readNatural (limit : Nat) (text : List Char) : Option Nat :=
  let digits :=
    match text with
    | '+' :: rest => rest
    | rest => rest
  let based := fun (base : Nat) (rest : List Char) =>
    match rest with
    | '+' :: _ => none
    | '-' :: _ => none
    | _ => (Text.readUnsigned base limit rest).toOption
  match digits with
  | '0' :: 'x' :: rest => based 16 rest
  | '0' :: 'o' :: rest => based 8 rest
  | '0' :: 'b' :: rest => based 2 rest
  | _ => if hasIdleZero digits then none else based 10 digits

def integerTag : String := "tag:yaml.org,2002:int"

/-- The number below `limit` that a scalar without quotes, or a literal one tagged as a
number, writes. -/
def Node.natural? (limit : Nat) (document node : Node) : Option Nat :=
  match node.resolve document with
  | .scalar text .plain _ => readNatural limit text.toList
  | .scalar text .literal (some tag) =>
      if tag = integerTag then readNatural limit text.toList else none
  | _ => none

/-- The items of a sequence; an empty scalar without quotes is an empty sequence. -/
def Node.items? (document node : Node) : Option (List Node) :=
  match node.resolve document with
  | .sequence items => some items
  | .scalar "" .plain _ => some []
  | _ => none

/-- The members of a mapping, with their keys as text. -/
def Node.members? (document node : Node) : Option (List (String × Node)) :=
  match node.resolve document with
  | .mapping members =>
      members.mapM fun member => (member.1.text? document).map fun key => (key, member.2)
  | _ => none

/-- The member of a name, which must be there once. -/
def only? (name : String) (members : List (String × Node)) : Option Node :=
  match members.filter fun member => member.1 == name with
  | [member] => some member.2
  | _ => none

end Yaml
end ClusterAgent
