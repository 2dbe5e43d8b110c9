namespace ClusterAgent
namespace Yaml

/-! ## Characters in their places -/

/-- A character with its line and column and the number of characters before it. -/
structure Cell where
  character : Char
  index : Nat
  line : Nat
  column : Nat
  deriving DecidableEq, Repr

/-- The character that stands for the end of a text. -/
def finish : Char := '\x00'

/-- Lines end with a line feed, which also stands for the other common line ends, or with a
line or paragraph separator. -/
def isBreak (character : Char) : Bool :=
  character == '\n' || character == '\u2028' || character == '\u2029'

def isBlank (character : Char) : Bool :=
  character == ' ' || character == '\t'

def isGap (character : Char) : Bool :=
  isBlank character || isBreak character

/-- A character that separates words: a blank, a line end or the end of the text. -/
def separates (character : Char) : Bool :=
  isGap character || character == finish

def endsLine (character : Char) : Bool :=
  isBreak character || character == finish

/-- The characters of names. -/
def isWord (character : Char) : Bool :=
  character.isAlphanum || character == '_' || character == '-'

/-- The characters that may stand in a document. -/
def isAllowed (character : Char) : Bool :=
  let code := character.toNat
  code == 0x09 || code == 0x0A || code == 0x0D || (0x20 ≤ code && code ≤ 0x7E) ||
    code == 0x85 || (0xA0 ≤ code && code ≤ 0xFFFD) || 0x10000 ≤ code

/-- The cells of a text from a position on, with the end of the text as the last. Every line
end counts as one character of a line, but as its own length in the index. -/
def cells : (index line column : Nat) → List Char → List Cell
  | index, line, column, [] => [⟨finish, index, line, column⟩]
  | index, line, column, '\r' :: '\n' :: rest =>
      ⟨'\n', index, line, column⟩ :: cells (index + 2) (line + 1) 0 rest
  | index, line, column, character :: rest =>
      if character = '\r' ∨ character = '\n' ∨ character = '\u0085' then
        ⟨'\n', index, line, column⟩ :: cells (index + 1) (line + 1) 0 rest
      else if isBreak character then
        ⟨character, index, line, column⟩ :: cells (index + 1) (line + 1) 0 rest
      else ⟨character, index, line, column⟩ :: cells (index + 1) line (column + 1) rest

/-- The cells of a document, in which some control characters must not stand. A byte order
mark before it is passed over. -/
def ofText (text : List Char) : Option (List Cell) :=
  let text :=
    match text with
    | '\uFEFF' :: rest => rest
    | _ => text
  if text.all isAllowed then some (cells 0 0 0 text) else none

/-- The character at the start of a list of cells. -/
def first : List Cell → Char
  | [] => finish
  | cell :: _ => cell.character

def column : List Cell → Nat
  | [] => 0
  | cell :: _ => cell.column

/-- Whether three equal characters stand alone at the start of a line. -/
def isMark (sign : Char) : List Cell → Bool
  | one :: two :: three :: rest =>
      one.column == 0 && one.character == sign && two.character == sign &&
        three.character == sign && separates (first rest)
  | _ => false

/-- Whether a mark for the start or end of a document stands here. -/
def atDocumentMark (cells : List Cell) : Bool :=
  isMark '-' cells || isMark '.' cells

def characters (cells : List Cell) : List Char :=
  cells.map Cell.character

/-- The rest of the cells of a line from which one comment is dropped. -/
def skipComment (cells : List Cell) : List Cell :=
  if first cells = '#' then cells.dropWhile fun cell => !endsLine cell.character else cells

def skipBlanks (cells : List Cell) : List Cell :=
  cells.dropWhile fun cell => isBlank cell.character

end Yaml
end ClusterAgent
