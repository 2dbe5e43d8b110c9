import ClusterAgent.Text.Number
import ClusterAgent.Yaml.Cell
namespace ClusterAgent
namespace Yaml

/-! ## Gaps between words -/

/-- How a scalar is written. -/
inductive Style
  | plain
  | singleQuoted
  | doubleQuoted
  | literal
  | folded
  deriving DecidableEq, Repr

/-- Blanks on the line of the word before, or line ends. -/
structure Gap where
  blanks : List Char
  breaks : List Char
  deriving DecidableEq, Repr

/-- Line ends are folded: one line feed is a space and of several the first is dropped. -/
def Gap.folded (gap : Gap) : List Char :=
  match gap.breaks with
  | [] => gap.blanks
  | ['\n'] => [' ']
  | '\n' :: more => more
  | breaks => breaks

/-- The blanks and line ends before the next word. After a line end, a tab must not stand
before the column `limit`. -/
def readGap (limit : Int) : (broken : Bool) → List Cell → Option (Gap × List Cell)
  | _, [] => some (⟨[], []⟩, [])
  | broken, cell :: rest =>
      if isBlank cell.character then
        if broken then
          if cell.character = '\t' ∧ (cell.column : Int) < limit then none
          else readGap limit broken rest
        else
          (readGap limit broken rest).map fun found =>
            (⟨cell.character :: found.1.blanks, found.1.breaks⟩, found.2)
      else if isBreak cell.character then
        (readGap limit true rest).map fun found =>
          (⟨found.1.blanks, cell.character :: found.1.breaks⟩, found.2)
      else some (⟨[], []⟩, cell :: rest)

/-! ## Plain scalars -/

def isFlowSign (character : Char) : Bool :=
  character ∈ [',', '[', ']', '\x7b', '\x7d']

/-- The characters of a plain scalar up to a gap or its end. Inside brackets a colon must not
stand before another sign. -/
def readWord (inFlow : Bool) : List Cell → Option (List Char × List Cell)
  | [] => some ([], [])
  | cell :: rest =>
      let character := cell.character
      let next := first rest
      if separates character then some ([], cell :: rest)
      else if inFlow && character == ':' && (isFlowSign next || next == '?') then none
      else if (character == ':' && separates next) || (inFlow && isFlowSign character) then
        some ([], cell :: rest)
      else (readWord inFlow rest).map fun found => (character :: found.1, found.2)

/-- A plain scalar, whether a line end follows its last word, and the rest. Lines after the
first must reach the column `limit`, except inside brackets. -/
def readPlain (inFlow : Bool) (limit : Int) :
    (fuel : Nat) → List Cell → Option (List Char × Bool × List Cell)
  | 0, _ => none
  | fuel + 1, cells =>
      if atDocumentMark cells || first cells == '#' then some ([], false, cells)
      else
        match readWord inFlow cells with
        | none => none
        | some (word, rest) =>
            if !isGap (first rest) then some (word, false, rest)
            else
              match readGap limit false rest with
              | none => none
              | some (gap, rest) =>
                  let broken := !gap.breaks.isEmpty
                  if !inFlow && (column rest : Int) < limit then some (word, broken, rest)
                  else
                    match readPlain inFlow limit fuel rest with
                    | none => none
                    | some ([], _, rest) => some (word, broken, rest)
                    | some (more, broken, rest) => some (word ++ gap.folded ++ more, broken, rest)

/-! ## Scalars in quotes -/

/-- The character that one character after a backslash stands for. -/
def escaped? : Char → Option Char
  | '0' => some '\x00'
  | 'a' => some '\x07'
  | 'b' => some '\x08'
  | 't' => some '\t'
  | '\t' => some '\t'
  | 'n' => some '\n'
  | 'v' => some '\x0b'
  | 'f' => some '\x0c'
  | 'r' => some '\r'
  | 'e' => some '\x1b'
  | ' ' => some ' '
  | '"' => some '"'
  | '/' => some '/'
  | '\\' => some '\\'
  | 'N' => some '\u0085'
  | '_' => some '\u00A0'
  | 'L' => some '\u2028'
  | 'P' => some '\u2029'
  | _ => none

/-- The number of hexadecimal digits after a backslash and a letter. -/
def escapeLength : Char → Nat
  | 'x' => 2
  | 'u' => 4
  | 'U' => 8
  | _ => 0

/-- The number that the first `count` cells write in base sixteen, and the rest. -/
def readHexadecimal : (count value : Nat) → List Cell → Option (Nat × List Cell)
  | 0, value, cells => some (value, cells)
  | _ + 1, _, [] => none
  | count + 1, value, cell :: rest =>
      match Text.digitValue? 16 cell.character with
      | none => none
      | some digit => readHexadecimal count (value * 16 + digit) rest

/-- An escaped character after its backslash. -/
def readEscape : List Cell → Option (Char × List Cell)
  | [] => none
  | cell :: rest =>
      match escapeLength cell.character with
      | 0 => (escaped? cell.character).map fun character => (character, rest)
      | count + 1 =>
          match readHexadecimal (count + 1) 0 rest with
          | none => none
          | some (value, rest) =>
              if (0xD800 ≤ value ∧ value ≤ 0xDFFF) ∨ 0x10FFFF < value then none
              else some (Char.ofNat value, rest)

/-- The rest of a scalar in quotes. -/
def readQuoted (isSingle : Bool) : (fuel : Nat) → List Cell → Option (List Char × List Cell)
  | 0, _ => none
  | _ + 1, [] => none
  | fuel + 1, cell :: rest =>
      let character := cell.character
      let push := fun (item : Char) (rest : List Cell) =>
        (readQuoted isSingle fuel rest).map fun found => (item :: found.1, found.2)
      if atDocumentMark (cell :: rest) || character == finish then none
      else if isGap character then
        match readGap 0 false (cell :: rest) with
        | none => none
        | some (gap, rest) =>
            (readQuoted isSingle fuel rest).map fun found => (gap.folded ++ found.1, found.2)
      else if isSingle then
        if character != '\'' then push character rest
        else
          match rest with
          | [] => some ([], [])
          | next :: after =>
              if next.character == '\'' then push '\'' after else some ([], next :: after)
      else if character == '"' then some ([], rest)
      else if character != '\\' then push character rest
      else if isBreak (first rest) then
        match readGap 0 true (rest.drop 1) with
        | none => none
        | some (gap, rest) =>
            (readQuoted isSingle fuel rest).map fun found => (gap.breaks ++ found.1, found.2)
      else
        match readEscape rest with
        | none => none
        | some (item, rest) => push item rest

/-! ## Block scalars -/

/-- What becomes of the line ends after the text of a block scalar. -/
inductive Chomping
  | strip
  | clip
  | keep
  deriving DecidableEq, Repr

/-- The signs after the sign of a block scalar: a chomping and an indentation, each optional,
in either order. -/
def readBlockHeader (cells : List Cell) : Option (Chomping × Nat × List Cell) :=
  let chomping? := fun (cells : List Cell) =>
    match cells with
    | cell :: rest =>
        if cell.character = '+' then some (Chomping.keep, rest)
        else if cell.character = '-' then some (Chomping.strip, rest)
        else none
    | [] => none
  let digit? := fun (cells : List Cell) =>
    match cells with
    | cell :: rest => (Text.digitValue? 10 cell.character).map fun digit => (digit, rest)
    | [] => none
  match chomping? cells with
  | some (chomping, rest) =>
      match digit? rest with
      | some (0, _) => none
      | some (digit, rest) => some (chomping, digit, rest)
      | none => some (chomping, 0, rest)
  | none =>
      match digit? cells with
      | some (0, _) => none
      | some (digit, rest) =>
          match chomping? rest with
          | some (chomping, rest) => some (chomping, digit, rest)
          | none => some (.clip, digit, rest)
      | none => some (.clip, 0, cells)

/-- Empty lines of a block scalar, the widest indentation met, and the rest. While the
indentation is not known it is zero. -/
def readEmptyLines (indent : Nat) : (widest : Nat) → List Cell →
    Option (List Char × Nat × List Cell)
  | widest, [] => some ([], widest, [])
  | widest, cell :: rest =>
      let inMargin := indent == 0 || cell.column < indent
      if inMargin && cell.character == ' ' then readEmptyLines indent widest rest
      else
        let widest := max widest cell.column
        if inMargin && cell.character == '\t' then none
        else if isBreak cell.character then
          (readEmptyLines indent widest rest).map fun found =>
            (cell.character :: found.1, found.2)
        else some ([], widest, cell :: rest)

/-- The line ends between two lines of a block scalar. In a folded scalar a line end between
two lines without blanks at their start is folded. -/
def joinLines (isFolded : Bool) (ending empty : List Char) (blankBefore blankAfter : Bool) :
    List Char :=
  if isFolded && ending == ['\n'] && !blankBefore && !blankAfter then
    if empty.isEmpty then [' '] else empty
  else ending ++ empty

/-- The lines of a block scalar after a line that ended with `ending` and the empty lines
after it: the text, and the rest. -/
def readBlockLines (isFolded : Bool) (chomping : Chomping) (indent : Nat) :
    (fuel : Nat) → (ending empty : List Char) → (blankBefore : Bool) → List Cell →
      Option (List Char × List Cell)
  | 0, _, _, _, _ => none
  | fuel + 1, ending, empty, blankBefore, cells =>
      if column cells = indent ∧ first cells ≠ finish then
        let blank := isBlank (first cells)
        let line := cells.takeWhile fun cell => !endsLine cell.character
        let rest := cells.dropWhile fun cell => !endsLine cell.character
        let (nextEnding, rest) :=
          match rest with
          | cell :: after =>
              if isBreak cell.character then ([cell.character], after) else ([], rest)
          | [] => ([], [])
        match readEmptyLines indent 0 rest with
        | none => none
        | some (nextEmpty, _, rest) =>
            (readBlockLines isFolded chomping indent fuel nextEnding nextEmpty blank rest).map
              fun found =>
                (joinLines isFolded ending empty blankBefore blank ++ characters line ++ found.1,
                  found.2)
      else
        let tail :=
          match chomping with
          | .strip => []
          | .clip => ending
          | .keep => ending ++ empty
        some (tail, cells)

/-- A block scalar after its sign, inside blocks of indentation `parent`. -/
def readBlock (isFolded : Bool) (parent : Int) (cells : List Cell) :
    Option (List Char × List Cell) :=
  match readBlockHeader cells with
  | none => none
  | some (chomping, increment, rest) =>
      let rest := skipComment (skipBlanks rest)
      if !endsLine (first rest) then none
      else
        let rest := if isBreak (first rest) then rest.drop 1 else rest
        let known := if increment = 0 then 0 else (max parent 0).toNat + increment
        match readEmptyLines known 0 rest with
        | none => none
        | some (empty, widest, rest) =>
            let indent := if known = 0 then max (max widest (parent + 1).toNat) 1 else known
            readBlockLines isFolded chomping indent (rest.length + 1) [] empty false rest

end Yaml
end ClusterAgent
