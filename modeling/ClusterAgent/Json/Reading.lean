import ClusterAgent.Json.Number
import ClusterAgent.Text.Utf8
namespace ClusterAgent
namespace Json

/-! ## A text as far as it is JSON -/

/-- What a reader finds in a text, in reading order. Where the text stops being JSON stands
`broken`, and nothing after it. A name or string of correct form that holds octets that are no
text, or half of a surrogate pair alone, has no text. -/
inductive Reading
  | null
  | bool (value : Bool)
  | number (value : Number)
  | text (value : Option String)
  | array (items : List Reading)
  | object (members : List (Option String × Reading))
  | broken
  deriving Repr

/-- The content of a string literal, if it has one, and what follows the literal. -/
structure Literal where
  content : Option (List Char)
  rest : List Char

def Literal.push (character : Char) (literal : Literal) : Literal :=
  { literal with content := literal.content.map (character :: ·) }

def Literal.unpaired (literal : Literal) : Literal :=
  { literal with content := none }

def isHigh (unit : Nat) : Bool := 0xD800 ≤ unit && unit < 0xDC00

def isLow (unit : Nat) : Bool := 0xDC00 ≤ unit && unit < 0xE000

/-- The character that the two halves of a surrogate pair encode. -/
def pair (high low : Nat) : Char :=
  Char.ofNat (0x10000 + (high - 0xD800) * 0x400 + (low - 0xDC00))

/-- The value of four hexadecimal digits. -/
def hex4? (a b c d : Char) : Option Nat := do
  let a ← Text.digitValue? 16 a
  let b ← Text.digitValue? 16 b
  let c ← Text.digitValue? 16 c
  let d ← Text.digitValue? 16 d
  return ((a * 16 + b) * 16 + c) * 16 + d

def simpleEscape? : Char → Option Char
  | '"' => some '"'
  | '\\' => some '\\'
  | '/' => some '/'
  | 'b' => some '\x08'
  | 'f' => some '\x0c'
  | 'n' => some '\n'
  | 'r' => some '\r'
  | 't' => some '\t'
  | _ => none

/-- The rest of a string literal. A pending high half of a surrogate pair must be followed
by an escaped low half. -/
def readLiteral : (pending : Option Nat) → List Char → Option Literal
  | _, [] => none
  | pending, '"' :: rest =>
      some ⟨if pending.isSome then none else some [], rest⟩
  | pending, '\\' :: 'u' :: a :: b :: c :: d :: rest =>
      match hex4? a b c d with
      | none => none
      | some unit =>
          match pending with
          | some high =>
              if isLow unit then (readLiteral none rest).map (Literal.push (pair high unit))
              else (readLiteral none rest).map Literal.unpaired
          | none =>
              if isLow unit then (readLiteral none rest).map Literal.unpaired
              else if isHigh unit then readLiteral (some unit) rest
              else (readLiteral none rest).map (Literal.push (Char.ofNat unit))
  | pending, '\\' :: escape :: rest =>
      match simpleEscape? escape with
      | none => none
      | some character =>
          (readLiteral none rest).map fun literal =>
            if pending.isSome then literal.unpaired else literal.push character
  | pending, character :: rest =>
      if character.toNat < 32 ∨ character = '\\' then none
      else
        (readLiteral none rest).map fun literal =>
          if pending.isSome then literal.unpaired else literal.push character

def isSpace (character : Char) : Bool :=
  character == ' ' || character == '\n' || character == '\t' || character == '\r'

def skipSpace (text : List Char) : List Char :=
  text.dropWhile isSpace

mutual

/-- A value at the start of a text, and what follows it unless it is broken. -/
def readValue : (fuel : Nat) → List Char → Reading × Option (List Char)
  | 0, _ => (.broken, none)
  | fuel + 1, input =>
      match skipSpace input with
      | 'n' :: 'u' :: 'l' :: 'l' :: rest => (.null, some rest)
      | 't' :: 'r' :: 'u' :: 'e' :: rest => (.bool true, some rest)
      | 'f' :: 'a' :: 'l' :: 's' :: 'e' :: rest => (.bool false, some rest)
      | '"' :: rest =>
          match readLiteral none rest with
          | none => (.broken, none)
          | some literal => (.text (literal.content.map String.ofList), some literal.rest)
      | '[' :: rest =>
          match skipSpace rest with
          | ']' :: rest => (.array [], some rest)
          | rest =>
              let found := readItems fuel rest
              (.array found.1, found.2)
      | '{' :: rest =>
          match skipSpace rest with
          | '}' :: rest => (.object [], some rest)
          | rest =>
              let found := readMembers fuel rest
              (.object found.1, found.2)
      | other =>
          match Number.read other with
          | none => (.broken, none)
          | some (value, rest) => (.number value, some rest)

/-- The items of an array after its opening bracket. -/
def readItems : (fuel : Nat) → List Char → List Reading × Option (List Char)
  | 0, _ => ([.broken], none)
  | fuel + 1, input =>
      match readValue fuel input with
      | (item, none) => ([item], none)
      | (item, some rest) =>
          match skipSpace rest with
          | ']' :: rest => ([item], some rest)
          | ',' :: rest =>
              let found := readItems fuel rest
              (item :: found.1, found.2)
          | _ => ([item, .broken], none)

/-- The members of an object after its opening brace. -/
def readMembers : (fuel : Nat) → List Char →
    List (Option String × Reading) × Option (List Char)
  | 0, _ => ([(none, .broken)], none)
  | fuel + 1, input =>
      match skipSpace input with
      | '"' :: rest =>
          match readLiteral none rest with
          | none => ([(none, .broken)], none)
          | some literal =>
              let name := literal.content.map String.ofList
              match skipSpace literal.rest with
              | ':' :: rest =>
                  match readValue fuel rest with
                  | (value, none) => ([(name, value)], none)
                  | (value, some rest) =>
                      match skipSpace rest with
                      | '}' :: rest => ([(name, value)], some rest)
                      | ',' :: rest =>
                          let found := readMembers fuel rest
                          ((name, value) :: found.1, found.2)
                      | _ => ([(name, value), (none, .broken)], none)
              | _ => ([(name, .broken)], none)
      | _ => ([(none, .broken)], none)

end

/-- A whole text: the value, and whether nothing but blanks follows it. Two steps for every
character are enough. -/
def read (text : List Char) : Reading × Bool :=
  match readValue (2 * text.length + 2) text with
  | (value, none) => (value, false)
  | (value, some rest) => (value, (skipSpace rest).isEmpty)

/-- What stands in a body for octets that are no text. Half of a surrogate pair leaves a string
without a text; the character before it is no part of JSON outside of strings, and neither can it
follow a backslash. -/
def faultMark : List Char :=
  ['\uFFFD', '\\', 'u', 'd', 'c', '8', '0']

/-- The characters of a body. -/
def characters (body : ByteArray) : List Char :=
  match Utf8.decode body with
  | .ok decoded => decoded.toList
  | .error _ => Utf8.replacing faultMark 0 body.data.toList

/-! ## Soundness of a reading -/

namespace Reading

mutual

/-- Whether a value may be passed over: it is JSON to its end. -/
def isComplete : Reading → Bool
  | .broken => false
  | .array items => allComplete items
  | .object members => membersComplete members
  | _ => true

def allComplete : List Reading → Bool
  | [] => true
  | item :: rest => item.isComplete && allComplete rest

def membersComplete : List (Option String × Reading) → Bool
  | [] => true
  | (_, value) :: rest => value.isComplete && membersComplete rest

end

mutual

/-- Whether a value may be kept: every string, name and number inside it has a value of its own,
and no more than `room` arrays and objects stand inside each other. -/
def isSound : (room : Nat) → Reading → Bool
  | _, .broken => false
  | _, .number value => value.isRepresentable
  | _, .text value => value.isSome
  | 0, .array _ => false
  | 0, .object _ => false
  | room + 1, .array items => allSound room items
  | room + 1, .object members => membersSound room members
  | _, _ => true

def allSound : (room : Nat) → List Reading → Bool
  | _, [] => true
  | room, item :: rest => item.isSound room && allSound room rest

def membersSound : (room : Nat) → List (Option String × Reading) → Bool
  | _, [] => true
  | room, (name, value) :: rest =>
      name.isSome && value.isSound room && membersSound room rest

end

end Reading
end Json
end ClusterAgent
