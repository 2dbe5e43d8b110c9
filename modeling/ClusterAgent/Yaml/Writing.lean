import ClusterAgent.Text.Number
namespace ClusterAgent
namespace Yaml

/-! ## Writing scalars -/

/-- A character that needs no escape. -/
def isPrintable (character : Char) : Bool :=
  let code := character.toNat
  code == 0x0A || (0x20 ≤ code && code ≤ 0x7E) || (0xA0 ≤ code && code < 0xFEFF) ||
    (0xFEFF < code && code < 0xFFFE) || 0x10000 ≤ code

/-- Every character that ends a line somewhere. -/
def endsSomeLine (character : Char) : Bool :=
  character == '\r' || character == '\n' || character == '\u0085' || character == '\u2028' ||
    character == '\u2029'

/-- A character that leaves a blank before a comment sign or after a colon. -/
def leavesBlank (character : Char) : Bool :=
  character == ' ' || character == '\t' || endsSomeLine character

/-- Whether two neighbours in a text, the first of them of one kind and the second of
another, occur. -/
def hasNeighbours (before after : Char → Bool) : List Char → Bool
  | one :: two :: rest => (before one && after two) || hasNeighbours before after (two :: rest)
  | _ => false

/-- The signs with which no plain scalar begins. -/
def openingSigns : List Char :=
  "#,[]\x7b\x7d&*!|>'\"%@`".toList

/-- Whether a text would be read as something else if it stood plain in a block. -/
def hasBlockSign (text : List Char) : Bool :=
  let opens :=
    match text with
    | [] => false
    | [only] => openingSigns.contains only || only == '?' || only == ':' || only == '-'
    | character :: next :: _ =>
        openingSigns.contains character ||
          ((character == '?' || character == ':' || character == '-') && leavesBlank next)
  opens || ['-', '-', '-'].isPrefixOf text || ['.', '.', '.'].isPrefixOf text ||
    hasNeighbours (· == ':') leavesBlank text || text.getLast? == some ':' ||
    hasNeighbours leavesBlank (· == '#') text

/-- Whether a text can stand only in double quotes. -/
def needsEscape (text : List Char) : Bool :=
  text.any (fun character => !(isPrintable character || endsSomeLine character)) ||
    hasNeighbours (· == ' ') endsSomeLine text

def isSpaceOrBreak (character : Char) : Bool :=
  character == ' ' || endsSomeLine character

/-- Whether a text can stand without quotes. -/
def isPlain (text : List Char) : Bool :=
  !(text.any endsSomeLine || text.head?.any isSpaceOrBreak || text.getLast?.any isSpaceOrBreak ||
    needsEscape text || hasBlockSign text)

/-- A text between single quotes: a quote is doubled, and a line that follows a line end is
indented. `broken` tells that a line has just ended. -/
def singleQuotedFrom : (broken : Bool) → List Char → List Char
  | broken, [] => if broken then [' ', ' ', '\''] else ['\'']
  | broken, character :: rest =>
      if endsSomeLine character then character :: singleQuotedFrom true rest
      else if character = ' ' then character :: singleQuotedFrom broken rest
      else
        (if broken then [' ', ' '] else []) ++
          (if character = '\'' then ['\'', '\''] else [character]) ++ singleQuotedFrom false rest

def upperHexadecimal (width value : Nat) : List Char :=
  let digits := (Text.hexadecimal value).map Char.toUpper
  List.replicate (width - digits.length) '0' ++ digits

/-- The escape of a character that has one of its own. -/
def namedEscape? : Char → Option Char
  | '\x00' => some '0'
  | '\x07' => some 'a'
  | '\x08' => some 'b'
  | '\t' => some 't'
  | '\n' => some 'n'
  | '\x0b' => some 'v'
  | '\x0c' => some 'f'
  | '\r' => some 'r'
  | '\x1b' => some 'e'
  | '"' => some '"'
  | '\\' => some '\\'
  | '\u0085' => some 'N'
  | '\u00A0' => some '_'
  | '\u2028' => some 'L'
  | '\u2029' => some 'P'
  | _ => none

def escapeCharacter (character : Char) : List Char :=
  if isPrintable character && !endsSomeLine character && character != '"' && character != '\\' then
    [character]
  else
    match namedEscape? character with
    | some letter => ['\\', letter]
    | none =>
        let code := character.toNat
        if code ≤ 0xFF then '\\' :: 'x' :: upperHexadecimal 2 code
        else if code ≤ 0xFFFF then '\\' :: 'u' :: upperHexadecimal 4 code
        else '\\' :: 'U' :: upperHexadecimal 8 code

def doubleQuoted (text : List Char) : List Char :=
  '"' :: text.flatMap escapeCharacter ++ ['"']

/-- The lines of a literal scalar, indented by two; an empty line is left without. -/
def literalLines : (broken : Bool) → List Char → List Char
  | _, [] => []
  | broken, character :: rest =>
      if endsSomeLine character then character :: literalLines true rest
      else
        (if broken then [' ', ' '] else []) ++ character :: literalLines false rest

/-- How the line ends at the end of a literal scalar are marked. -/
def chompSign (text : List Char) : List Char :=
  match text.reverse with
  | last :: before :: _ =>
      if !endsSomeLine last then ['-'] else if endsSomeLine before then ['+'] else []
  | [last] => if endsSomeLine last then ['+'] else ['-']
  | [] => ['-']

def literal (text : List Char) : List Char :=
  let hint := if text.head?.any isSpaceOrBreak then ['2'] else []
  '|' :: hint ++ chompSign text ++ '\n' :: literalLines true text

/-- A text as the value of a member of a mapping. A text with line feeds is written as it
stands, if it can be, and every other text plain if it can be. -/
def writeScalar (text : List Char) : List Char :=
  if text.contains '\n' then
    if text.getLast? == some ' ' || needsEscape text then doubleQuoted text else literal text
  else if isPlain text then text
  else if needsEscape text || hasNeighbours endsSomeLine (· == ' ') text then doubleQuoted text
  else '\'' :: singleQuotedFrom false text

end Yaml
end ClusterAgent
