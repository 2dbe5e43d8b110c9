import ClusterAgent.Text.Number
namespace ClusterAgent
namespace Json

/-! ## Numbers in JSON text -/

/-- A number as it was read. Whole numbers of 64 bits are exact; every other number is a
significand below 2^64 with a power of ten. -/
inductive Number
  | natural (value : Nat)
  | negative (magnitude : Nat)
  | decimal (isNegative : Bool) (significand : Nat) (exponent : Int)
  deriving DecidableEq, Repr

namespace Number

def limit : Nat := UInt64.size

/-- Continues a significand with digits of the integer part. From the digit on that would
take it to the limit, each digit only raises the exponent. -/
def integerPart : (significand : Nat) → (exponent : Nat) → List Char → Nat × Nat
  | significand, exponent, [] => (significand, exponent)
  | significand, exponent, digit :: rest =>
      let next := significand * 10 + (digit.toNat - '0'.toNat)
      if 0 < exponent ∨ limit ≤ next then integerPart significand (exponent + 1) rest
      else integerPart next 0 rest

/-- Continues a significand with digits after the point. The digit that would take it to the
limit and all digits after it are dropped. -/
def fractionPart : (significand : Nat) → (exponent : Int) → List Char → Nat × Int
  | significand, exponent, [] => (significand, exponent)
  | significand, exponent, digit :: rest =>
      let next := significand * 10 + (digit.toNat - '0'.toNat)
      if limit ≤ next then (significand, exponent)
      else fractionPart next (exponent - 1) rest

/-- The digits at the start of a text. -/
def spanDigits (text : List Char) : List Char × List Char :=
  (text.takeWhile Char.isDigit, text.dropWhile Char.isDigit)

def digitsValue (digits : List Char) : Nat :=
  digits.foldl (fun value digit => value * 10 + (digit.toNat - '0'.toNat)) 0

/-- The exponent after `e`: an optional sign and at least one digit. -/
def readExponent (text : List Char) : Option (Int × List Char) :=
  let (isNegative, unsigned) :=
    match text with
    | '+' :: rest => (false, rest)
    | '-' :: rest => (true, rest)
    | rest => (false, rest)
  match spanDigits unsigned with
  | ([], _) => none
  | (digits, rest) =>
      let value : Int := digitsValue digits
      some (if isNegative then -value else value, rest)

/-- A number without a fraction or exponent. -/
def whole (isNegative : Bool) (significand exponent : Nat) : Number :=
  if exponent ≠ 0 then .decimal isNegative significand exponent
  else if !isNegative then .natural significand
  else if significand = 0 ∨ limit / 2 < significand then .decimal true significand 0
  else .negative significand

/-- What follows the digits of the integer part. -/
def readTail (isNegative : Bool) (significand exponent : Nat) (text : List Char) :
    Option (Number × List Char) :=
  match text with
  | '.' :: rest =>
      match spanDigits rest with
      | ([], _) => none
      | (digits, rest) =>
          let (significand, exponent) := fractionPart significand exponent digits
          match rest with
          | 'e' :: rest | 'E' :: rest =>
              (readExponent rest).map fun found =>
                (.decimal isNegative significand (exponent + found.1), found.2)
          | _ => some (.decimal isNegative significand exponent, rest)
  | 'e' :: rest | 'E' :: rest =>
      (readExponent rest).map fun found =>
        (.decimal isNegative significand (exponent + found.1), found.2)
  | _ => some (whole isNegative significand exponent, text)

/-- A number at the start of a text. An integer part of several digits begins with no
zero. -/
def read (text : List Char) : Option (Number × List Char) :=
  let (isNegative, unsigned) :=
    match text with
    | '-' :: rest => (true, rest)
    | rest => (false, rest)
  match spanDigits unsigned with
  | ([], _) => none
  | ('0' :: _ :: _, _) => none
  | (digits, rest) =>
      let (significand, exponent) := integerPart 0 0 digits
      readTail isNegative significand exponent rest

/-! ## Numbers as binary floating point -/

/-- Scales by a power of ten; a quotient so small that it vanishes ends as zero. -/
def scale (value : Float) (exponent : Int) : Float :=
  let power := fun (magnitude : Nat) => Float.ofScientific 1 false magnitude
  if 0 ≤ exponent then value * power exponent.toNat
  else if -308 ≤ exponent then value / power (-exponent).toNat
  else if -616 ≤ exponent then value / power 308 / power (-(exponent + 308)).toNat
  else 0

/-- The value of a significand with a power of ten. -/
def magnitude (significand : Nat) (exponent : Int) : Float :=
  if significand = 0 then 0 else scale significand.toUInt64.toFloat exponent

/-- Whether the number is within the range of floating point. -/
def isRepresentable : Number → Bool
  | .natural _ => true
  | .negative _ => true
  | .decimal _ significand exponent =>
      significand == 0 ||
        (exponent ≤ 308 && !(magnitude significand exponent).isInf)

end Number
end Json
end ClusterAgent
