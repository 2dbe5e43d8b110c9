import ClusterAgent.Yaml.Scalar
namespace ClusterAgent
namespace Yaml

/-! ## Tokens -/

inductive Token
  | versionDirective (major minor : Nat)
  | tagDirective (handle handlePrefix : String)
  | documentStart
  | documentEnd
  | blockSequenceStart
  | blockMappingStart
  | blockEnd
  | flowSequenceStart
  | flowSequenceEnd
  | flowMappingStart
  | flowMappingEnd
  | blockEntry
  | flowEntry
  | key
  | value
  | anchor (name : String)
  | alias (name : String)
  | tag (handle suffix : String)
  | scalar (text : String) (style : Style)
  deriving DecidableEq, Repr

/-! ## Directives, anchors and tags -/

/-- Whether a character may stand in a tag, in which some signs stand only where
`everySign` holds. -/
def isTagCharacter (everySign : Bool) (character : Char) : Bool :=
  isWord character || ";/?:@&=+$.%!~*'()".toList.contains character ||
    (everySign && [',', '[', ']'].contains character)

/-- The rest of a character of which the first octet is written as `%` and two digits. -/
def readFollowing : (count value : Nat) → List Cell → Option (Nat × List Cell)
  | 0, value, cells => some (value, cells)
  | count + 1, value, cells =>
      match cells with
      | sign :: rest =>
          if sign.character != '%' then none
          else
            match readHexadecimal 2 0 rest with
            | none => none
            | some (octet, rest) =>
                if octet / 64 != 2 then none
                else readFollowing count (value * 64 + octet % 64) rest
      | [] => none

/-- A character written as octets, after the first `%`. -/
def readOctets (cells : List Cell) : Option (Char × List Cell) :=
  match readHexadecimal 2 0 cells with
  | none => none
  | some (octet, rest) =>
      let following :=
        if octet < 0x80 then some (0, octet)
        else if octet / 32 = 6 then some (1, octet % 32)
        else if octet / 16 = 14 then some (2, octet % 16)
        else if octet / 8 = 30 then some (3, octet % 8)
        else none
      match following with
      | none => none
      | some (count, value) =>
          (readFollowing count value rest).map fun found => (Char.ofNat found.1, found.2)

/-- The text of a tag. -/
def readTagText (everySign : Bool) : (fuel : Nat) → List Cell → Option (List Char × List Cell)
  | 0, _ => none
  | _ + 1, [] => some ([], [])
  | fuel + 1, cell :: rest =>
      if !isTagCharacter everySign cell.character then some ([], cell :: rest)
      else
        let found :=
          if cell.character == '%' then readOctets rest else some (cell.character, rest)
        match found with
        | none => none
        | some (character, rest) =>
            (readTagText everySign fuel rest).map fun found => (character :: found.1, found.2)

/-- A tag handle after its first exclamation mark: it may end with another one. -/
def readHandle (cells : List Cell) : List Char × List Cell :=
  let name := cells.takeWhile fun cell => isWord cell.character
  let rest := cells.dropWhile fun cell => isWord cell.character
  if first rest = '!' then ('!' :: characters name ++ ['!'], rest.drop 1)
  else ('!' :: characters name, rest)

/-- A tag after its exclamation mark. -/
def readTag (inFlow : Bool) (cells : List Cell) : Option (Token × List Cell) := do
  let fuel := cells.length + 1
  let (token, rest) ←
    if first cells = '<' then do
      let (text, rest) ← readTagText true fuel (cells.drop 1)
      if text.isEmpty || first rest != '>' then none
      else some (Token.tag "" (String.ofList text), rest.drop 1)
    else do
      let (handle, rest) := readHandle cells
      if 1 < handle.length && handle.getLast? == some '!' then do
        let (suffix, rest) ← readTagText false fuel rest
        if suffix.isEmpty then none
        else some (Token.tag (String.ofList handle) (String.ofList suffix), rest)
      else do
        let (more, rest) ← readTagText false fuel rest
        let suffix := handle.drop 1 ++ more
        if suffix.isEmpty then some (Token.tag "" "!", rest)
        else some (Token.tag "!" (String.ofList suffix), rest)
  if separates (first rest) || (inFlow && first rest == ',') then some (token, rest) else none

/-- The name of an anchor or alias. -/
def readName (cells : List Cell) : Option (String × List Cell) :=
  let name := cells.takeWhile fun cell => isWord cell.character
  let rest := cells.dropWhile fun cell => isWord cell.character
  let after := first rest
  if name.isEmpty then none
  else if separates after || "?:,]\x7d%@`".toList.contains after then
    some (String.ofList (characters name), rest)
  else none

/-- A number of at most nine digits. -/
def readVersionNumber (cells : List Cell) : Option (Nat × List Cell) :=
  let digits := cells.takeWhile fun cell => cell.character.isDigit
  if digits.isEmpty || 9 < digits.length then none
  else
    some ((characters digits).foldl (fun value digit => value * 10 + (digit.toNat - 48)) 0,
      cells.dropWhile fun cell => cell.character.isDigit)

def readVersion (cells : List Cell) : Option (Token × List Cell) := do
  let (major, rest) ← readVersionNumber cells
  if first rest != '.' then none
  let (minor, rest) ← readVersionNumber (rest.drop 1)
  return (.versionDirective major minor, rest)

def readTagDirective (cells : List Cell) : Option (Token × List Cell) := do
  if first cells != '!' then none
  let (handle, rest) := readHandle (cells.drop 1)
  if 1 < handle.length && handle.getLast? != some '!' then none
  if !isBlank (first rest) then none
  let rest := skipBlanks rest
  let (text, rest) ← readTagText true (rest.length + 1) rest
  if text.isEmpty || !separates (first rest) then none
  return (.tagDirective (String.ofList handle) (String.ofList text), rest)

/-- A directive after its percent sign, to the end of its line. -/
def readDirective (cells : List Cell) : Option (Token × List Cell) := do
  let name := characters (cells.takeWhile fun cell => isWord cell.character)
  let rest := cells.dropWhile fun cell => isWord cell.character
  if !separates (first rest) then none
  let rest := skipBlanks rest
  let (token, rest) ←
    if name = "YAML".toList then readVersion rest
    else if name = "TAG".toList then readTagDirective rest
    else none
  let rest := skipComment (skipBlanks rest)
  if !endsLine (first rest) then none
  return (token, if isBreak (first rest) then rest.drop 1 else rest)

end Yaml
end ClusterAgent
