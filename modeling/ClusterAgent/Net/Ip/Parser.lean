import ClusterAgent.Net.Ip
namespace ClusterAgent
namespace IpAddress

/-! ## Reading addresses -/

/-- A reader of the start of a text: the value and what follows it. -/
abbrev Reader (value : Type) := List Char → Option (value × List Char)

/-- The character `expected`. -/
def readChar (expected : Char) : Reader Unit
  | [] => none
  | character :: rest => if character = expected then some ((), rest) else none

/-- A number below `limit` of at most `most` digits, if a maximum is given. Unless
`leadingZeros`, a zero is followed by no further digit. -/
def readNumber (base : Nat) (most : Option Nat) (leadingZeros : Bool) (limit : Nat) :
    Reader Nat := fun text =>
  let isDigit := fun character => (Text.digitValue? base character).isSome
  let digits := text.takeWhile isDigit
  let value := digits.foldl
    (fun value digit => value * base + (Text.digitValue? base digit).getD 0) 0
  if digits.isEmpty then none
  else if most.any (· < digits.length) then none
  else if !leadingZeros && digits.head? == some '0' && 1 < digits.length then none
  else if limit ≤ value then none
  else some (value, text.dropWhile isDigit)

/-- What `reader` reads after a separator, which the first item of a list lacks. -/
def readSeparated {value : Type} (separator : Char) (first : Bool) (reader : Reader value) :
    Reader value := fun text =>
  if first then reader text
  else (readChar separator text).bind fun after => reader after.2

def readOctet : Reader Nat :=
  readNumber 10 (some 3) false 256

/-- Four octets with dots between them. -/
def readDotted : Reader (List Nat) := fun text => do
  let (first, text) ← readOctet text
  let (second, text) ← readSeparated '.' false readOctet text
  let (third, text) ← readSeparated '.' false readOctet text
  let (fourth, text) ← readSeparated '.' false readOctet text
  return ([first, second, third, fourth], text)

/-- The number that digits of base `base` write, the highest first. -/
def assemble (base : Nat) (digits : List Nat) : Nat :=
  digits.foldl (fun value digit => value * base + digit) 0

/-- The two groups that four octets fill. -/
def groupsOfOctets (items : List Nat) : List Nat :=
  [assemble 256 (items.take 2), assemble 256 (items.drop 2)]

/-- As many groups as there are, at most `room`. A dotted address may stand for the last
two, with which the reading ends; whether it did is the second part of the answer. -/
def readGroups : (room : Nat) → (first : Bool) → List Char → List Nat × Bool × List Char
  | 0, _, text => ([], false, text)
  | room + 1, first, text =>
      match if 0 < room then readSeparated ':' first readDotted text else none with
      | some (items, rest) => (groupsOfOctets items, true, rest)
      | none =>
          match readSeparated ':' first (readNumber 16 (some 4) true 65536) text with
          | none => ([], false, text)
          | some (group, rest) =>
              let later := readGroups room false rest
              (group :: later.1, later.2)

/-- Eight groups, of which a double colon may stand for one or more zeros. -/
def readEightGroups : Reader (List Nat) := fun text =>
  let (head, dottedHead, rest) := readGroups 8 true text
  if head.length = 8 then some (head, rest)
  else if dottedHead then none
  else do
    let ((), rest) ← readChar ':' rest
    let ((), rest) ← readChar ':' rest
    let (tail, _, rest) := readGroups (7 - head.length) true rest
    return (head ++ List.replicate (8 - head.length - tail.length) 0 ++ tail, rest)

def readV4 : Reader (BitVec 32) := fun text =>
  (readDotted text).map fun found => (BitVec.ofNat 32 (assemble 256 found.1), found.2)

def readV6 : Reader (BitVec 128) := fun text =>
  (readEightGroups text).map fun found => (BitVec.ofNat 128 (assemble 65536 found.1), found.2)

/-- The value when `reader` reads the whole text. -/
def readAll {value : Type} (reader : Reader value) (text : List Char) : Option value :=
  match reader text with
  | some (result, []) => some result
  | _ => none

/-- An address of either family; the dotted form is tried first. -/
def readAddress : Reader IpAddress := fun text =>
  match readV4 text with
  | some (bits, rest) => some (.v4 bits, rest)
  | none => (readV6 text).map fun found => (.v6 found.1, found.2)

def ofChars? (text : List Char) : Option IpAddress :=
  readAll readAddress text

/-- The address that a text writes. -/
def ofText? (text : String) : Option IpAddress :=
  ofChars? text.toList

/-- What is said of a text that is no address. -/
def invalidAddress : String := "invalid IP address syntax"

end IpAddress
end ClusterAgent
