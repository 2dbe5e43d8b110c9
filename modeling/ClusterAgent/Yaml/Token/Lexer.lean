import ClusterAgent.Yaml.Token
namespace ClusterAgent
namespace Yaml

/-! ## The state of a lexer -/

/-- A place at which a key may have begun that the following colon would end. -/
structure KeyStart where
  isRequired : Bool
  position : Nat
  cell : Cell

/-- `indent` is the column of the innermost block, minus one outside all blocks, and `outer`
holds those around it. `keys` has one possible key for every bracket around the place and
one outside of all. -/
structure Lexer where
  cells : List Cell
  tokens : List Token
  depth : Nat
  indent : Int
  outer : List Int
  keyAllowed : Bool
  keys : List (Option KeyStart)

namespace Lexer

def inFlow (lexer : Lexer) : Bool := lexer.depth != 0

def emit (lexer : Lexer) (token : Token) : Lexer :=
  { lexer with tokens := lexer.tokens ++ [token] }

/-- Adds a token for the next `count` cells. -/
def take (lexer : Lexer) (count : Nat) (token : Token) : Lexer :=
  { lexer.emit token with cells := lexer.cells.drop count }

def column (lexer : Lexer) : Int := Yaml.column lexer.cells

/-! ## Blocks -/

/-- Ends the blocks that are further in than `column`. -/
def closeBlocks (column : Int) : (outer : List Int) → Lexer → Lexer
  | [], lexer => lexer
  | around :: outer, lexer =>
      if lexer.inFlow || lexer.indent ≤ column then lexer
      else closeBlocks column outer { lexer.emit .blockEnd with indent := around, outer := outer }

def unroll (column : Int) (lexer : Lexer) : Lexer :=
  closeBlocks column lexer.outer lexer

/-- Starts a block at `column` if it is further in than the present one. Its token goes to
`position`. -/
def roll (column : Int) (position : Nat) (token : Token) (lexer : Lexer) : Lexer :=
  if lexer.inFlow || column ≤ lexer.indent then lexer
  else
    { lexer with
      tokens := lexer.tokens.insertIdx position token
      indent := column
      outer := lexer.indent :: lexer.outer }

/-! ## Keys without a sign -/

/-- Gives up the possible key, which must not be one that a block needs. -/
def dropKey (lexer : Lexer) : Option Lexer :=
  match lexer.keys with
  | some start :: rest =>
      if start.isRequired then none else some { lexer with keys := none :: rest }
  | _ => some lexer

/-- Notes that a key may begin here. -/
def saveKey (lexer : Lexer) : Option Lexer :=
  if !lexer.keyAllowed then some lexer
  else
    match lexer.dropKey, lexer.cells with
    | some lexer, cell :: _ =>
        let isRequired := !lexer.inFlow && lexer.indent == cell.column
        some { lexer with
          keys := some ⟨isRequired, lexer.tokens.length, cell⟩ :: lexer.keys.drop 1 }
    | _, _ => none

/-- A key ends on its line and within 1024 characters. -/
def isStale (cell : Cell) (start : KeyStart) : Bool :=
  start.cell.line < cell.line || start.cell.index + 1024 < cell.index

/-- Gives up the keys that have not ended in time. -/
def dropStale (cell : Cell) : List (Option KeyStart) → Option (List (Option KeyStart))
  | [] => some []
  | none :: rest => (dropStale cell rest).map (none :: ·)
  | some start :: rest =>
      if isStale cell start then
        if start.isRequired then none else (dropStale cell rest).map (none :: ·)
      else (dropStale cell rest).map (some start :: ·)

/-! ## Steps -/

/-- Passes over blanks, comments and line ends. Outside brackets a key may begin on the next
line; where one may begin, a tab is no blank. -/
def skipGaps : (fuel : Nat) → Lexer → Lexer
  | 0, lexer => lexer
  | fuel + 1, lexer =>
      let tabs := lexer.inFlow || !lexer.keyAllowed
      let cells :=
        match lexer.cells with
        | cell :: rest =>
            if cell.index = 0 ∧ cell.character = '\uFEFF' then rest else cell :: rest
        | [] => []
      let cells := cells.dropWhile fun cell =>
        cell.character == ' ' || (tabs && cell.character == '\t')
      let cells := skipComment cells
      if isBreak (first cells) then
        skipGaps fuel { lexer with
          cells := cells.drop 1
          keyAllowed := lexer.keyAllowed || !lexer.inFlow }
      else { lexer with cells := cells }

/-- The start or end of a document. -/
def documentMark (token : Token) (lexer : Lexer) : Option Lexer := do
  let lexer ← (lexer.unroll (-1)).dropKey
  return { lexer with keyAllowed := false }.take 3 token

def directive (lexer : Lexer) : Option Lexer := do
  let lexer ← (lexer.unroll (-1)).dropKey
  let (token, cells) ← readDirective (lexer.cells.drop 1)
  return { lexer.emit token with keyAllowed := false, cells := cells }

def openBracket (token : Token) (lexer : Lexer) : Option Lexer := do
  let lexer ← lexer.saveKey
  return { lexer.take 1 token with
    keys := none :: lexer.keys, depth := lexer.depth + 1, keyAllowed := true }

def closeBracket (token : Token) (lexer : Lexer) : Option Lexer := do
  let lexer ← lexer.dropKey
  return { lexer.take 1 token with
    keys := if lexer.inFlow then lexer.keys.drop 1 else lexer.keys
    depth := lexer.depth - 1
    keyAllowed := false }

def flowEntry (lexer : Lexer) : Option Lexer := do
  let lexer ← lexer.dropKey
  return { lexer.take 1 .flowEntry with keyAllowed := true }

def blockEntry (lexer : Lexer) : Option Lexer := do
  if !lexer.inFlow && !lexer.keyAllowed then none
  let lexer ← (lexer.roll lexer.column lexer.tokens.length .blockSequenceStart).dropKey
  return { lexer.take 1 .blockEntry with keyAllowed := true }

def keySign (lexer : Lexer) : Option Lexer := do
  if !lexer.inFlow && !lexer.keyAllowed then none
  let lexer ← (lexer.roll lexer.column lexer.tokens.length .blockMappingStart).dropKey
  return { lexer.take 1 .key with keyAllowed := !lexer.inFlow }

def valueSign (lexer : Lexer) : Option Lexer :=
  match lexer.keys with
  | some start :: rest =>
      let lexer := { lexer with
        tokens := lexer.tokens.insertIdx start.position .key
        keys := none :: rest }
      let lexer := lexer.roll start.cell.column start.position .blockMappingStart
      some { lexer.take 1 .value with keyAllowed := false }
  | _ =>
      if !lexer.inFlow && !lexer.keyAllowed then none
      else
        let lexer := lexer.roll lexer.column lexer.tokens.length .blockMappingStart
        some { lexer.take 1 .value with keyAllowed := !lexer.inFlow }

def name (token : String → Token) (lexer : Lexer) : Option Lexer := do
  let lexer ← lexer.saveKey
  let (name, cells) ← readName (lexer.cells.drop 1)
  return { lexer.emit (token name) with cells := cells, keyAllowed := false }

def tag (lexer : Lexer) : Option Lexer := do
  let lexer ← lexer.saveKey
  let (token, cells) ← readTag lexer.inFlow (lexer.cells.drop 1)
  return { lexer.emit token with cells := cells, keyAllowed := false }

def blockScalar (style : Style) (lexer : Lexer) : Option Lexer := do
  let lexer ← lexer.dropKey
  let (text, cells) ← readBlock (style == .folded) lexer.indent (lexer.cells.drop 1)
  return { lexer.emit (.scalar (String.ofList text) style) with cells := cells, keyAllowed := true }

def quotedScalar (style : Style) (lexer : Lexer) : Option Lexer := do
  let lexer ← lexer.saveKey
  let cells := lexer.cells.drop 1
  let (text, cells) ← readQuoted (style == .singleQuoted) (cells.length + 1) cells
  let lexer := lexer.emit (.scalar (String.ofList text) style)
  return { lexer with cells := cells, keyAllowed := false }

def plainScalar (lexer : Lexer) : Option Lexer := do
  let lexer ← lexer.saveKey
  let (text, broken, cells) ←
    readPlain lexer.inFlow (lexer.indent + 1) (lexer.cells.length + 1) lexer.cells
  return { lexer.emit (.scalar (String.ofList text) .plain) with
    cells := cells, keyAllowed := broken }

/-- The signs that begin no plain scalar. -/
def signs : List Char :=
  "-?:,[]\x7b\x7d#&*!|>'\"%@`".toList

/-- Whether a plain scalar begins here. -/
def beginsPlain (inFlow : Bool) (character next : Char) : Bool :=
  !(separates character || signs.contains character) ||
    (character == '-' && !isBlank next) ||
    (!inFlow && (character == '?' || character == ':') && !separates next)

/-- The next token, after the gaps before it. -/
def next (lexer : Lexer) : Option Lexer :=
  let character := first lexer.cells
  let following := first (lexer.cells.drop 1)
  let atStart := lexer.column == 0
  let signAllowed := lexer.inFlow || separates following
  if atStart && character == '%' then lexer.directive
  else if isMark '-' lexer.cells then lexer.documentMark .documentStart
  else if isMark '.' lexer.cells then lexer.documentMark .documentEnd
  else if character == '[' then lexer.openBracket .flowSequenceStart
  else if character == '\x7b' then lexer.openBracket .flowMappingStart
  else if character == ']' then lexer.closeBracket .flowSequenceEnd
  else if character == '\x7d' then lexer.closeBracket .flowMappingEnd
  else if character == ',' then lexer.flowEntry
  else if character == '-' && separates following then lexer.blockEntry
  else if character == '?' && signAllowed then lexer.keySign
  else if character == ':' && signAllowed then lexer.valueSign
  else if character == '*' then lexer.name .alias
  else if character == '&' then lexer.name .anchor
  else if character == '!' then lexer.tag
  else if character == '|' && !lexer.inFlow then lexer.blockScalar .literal
  else if character == '>' && !lexer.inFlow then lexer.blockScalar .folded
  else if character == '\'' then lexer.quotedScalar .singleQuoted
  else if character == '"' then lexer.quotedScalar .doubleQuoted
  else if beginsPlain lexer.inFlow character following then lexer.plainScalar
  else none

/-- The tokens of the cells that are left. -/
def run : (fuel : Nat) → Lexer → Option (List Token)
  | 0, _ => none
  | fuel + 1, lexer =>
      let lexer := lexer.skipGaps (lexer.cells.length + 1)
      match lexer.cells with
      | [] => none
      | cell :: _ =>
          match dropStale cell lexer.keys with
          | none => none
          | some keys =>
              let lexer := { lexer with keys := keys }.unroll cell.column
              if cell.character == finish then
                ((lexer.unroll (-1)).dropKey).map Lexer.tokens
              else
                match lexer.next with
                | none => none
                | some lexer => run fuel lexer

def start (cells : List Cell) : Lexer :=
  ⟨cells, [], 0, -1, [], true, [none]⟩

end Lexer

/-- The tokens of a text, if it has the form of YAML. -/
def Token.scan (text : List Char) : Option (List Token) :=
  (ofText text).bind fun cells => (Lexer.start cells).run (cells.length + 1)

end Yaml
end ClusterAgent
