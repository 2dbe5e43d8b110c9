namespace ClusterAgent
namespace Text

/-! ## Decimal numbers of bounded size -/

/-- Why a text is not a number. -/
inductive NumberError
  | empty
  | invalidDigit
  | tooLarge
  | tooSmall
  deriving DecidableEq, Repr

def NumberError.message : NumberError → String
  | .empty => "cannot parse integer from empty string"
  | .invalidDigit => "invalid digit found in string"
  | .tooLarge => "number too large to fit in target type"
  | .tooSmall => "number too small to fit in target type"

/-- The value of a digit in a base up to 36; letters of either case count from ten. -/
def digitValue? (base : Nat) (character : Char) : Option Nat :=
  let value :=
    if '0' ≤ character ∧ character ≤ '9' then some (character.toNat - '0'.toNat)
    else if 'a' ≤ character ∧ character ≤ 'z' then some (character.toNat - 'a'.toNat + 10)
    else if 'A' ≤ character ∧ character ≤ 'Z' then some (character.toNat - 'A'.toNat + 10)
    else none
  value.filter (· < base)

/-- Continues a number in `base` after `value`. The first character that is no digit or
that takes the value to `limit` decides the error. -/
def readDigits (base limit : Nat) (overflow : NumberError) :
    Nat → List Char → Except NumberError Nat
  | value, [] => .ok value
  | value, character :: rest =>
      match digitValue? base character with
      | none => .error .invalidDigit
      | some digit =>
          let value := value * base + digit
          if limit ≤ value then .error overflow
          else readDigits base limit overflow value rest

/-- A number below `limit` in `base`: an optional plus sign, then digits, of which leading
zeros are allowed. -/
def readUnsigned (base limit : Nat) : List Char → Except NumberError Nat
  | [] => .error .empty
  | ['+'] => .error .invalidDigit
  | '+' :: digits => readDigits base limit .tooLarge 0 digits
  | digits => readDigits base limit .tooLarge 0 digits

/-- A number of 64 bits with an optional sign. -/
def readInt64 : List Char → Except NumberError Int
  | [] => .error .empty
  | ['+'] => .error .invalidDigit
  | ['-'] => .error .invalidDigit
  | '-' :: digits =>
      (readDigits 10 (UInt64.size / 2 + 1) .tooSmall 0 digits).map fun value => -(value : Int)
  | '+' :: digits => (readDigits 10 (UInt64.size / 2) .tooLarge 0 digits).map Int.ofNat
  | digits => (readDigits 10 (UInt64.size / 2) .tooLarge 0 digits).map Int.ofNat

/-- The decimal digits of a number. -/
def decimal (value : Nat) : List Char :=
  Nat.toDigits 10 value

/-- The digits of a number in base sixteen, in lower case. -/
def hexadecimal (value : Nat) : List Char :=
  Nat.toDigits 16 value

end Text
end ClusterAgent
