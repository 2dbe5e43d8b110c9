import ClusterAgent.Text.Number
namespace ClusterAgent
namespace Json
namespace Shortest

/-! ## The fewest digits that read back -/

/-- A positive binary number `mantissa * 2 ^ power` together with the bounds, in quarters of
its unit, of the numbers that round to it. -/
structure Binary where
  mantissa : Nat
  power : Int
  lower : Nat
  upper : Nat

/-- The bit above the stored fraction, 2^52. -/
def Binary.hidden : Nat := 4503599627370496

/-- The finite positive number whose sign bit and exponent bits are given by `bits`. -/
def Binary.ofBits (bits : Nat) : Binary :=
  let field : Nat := (bits >>> 52) % 2048
  let fraction : Nat := bits % Binary.hidden
  let mantissa : Nat := if field = 0 then fraction else fraction + Binary.hidden
  let power : Int := (max field 1 : Nat) - (1075 : Int)
  let closerBelow := fraction = 0 ∧ 1 < field
  ⟨mantissa, power, 4 * mantissa - (if closerBelow then 1 else 2), 4 * mantissa + 2⟩

/-- The numerator and denominator of `quarters` quarters of the unit over a power of ten. -/
def Binary.ratio (number : Binary) (quarters : Nat) (ten : Int) : Nat × Nat :=
  let numerator := (quarters <<< number.power.toNat) * Nat.pow 10 (-ten).toNat
  let denominator := (4 <<< (-number.power).toNat) * Nat.pow 10 ten.toNat
  (numerator, denominator)

/-- Whether `digits` times a power of ten rounds to the number. -/
def Binary.admits (number : Binary) (digits : Nat) (ten : Int) : Bool :=
  let low := number.ratio number.lower ten
  let high := number.ratio number.upper ten
  if number.mantissa % 2 = 0 then
    low.1 ≤ digits * low.2 && digits * high.2 ≤ high.1
  else low.1 < digits * low.2 && digits * high.2 < high.1

/-- The number of decimal digits before the point, not positive for numbers below a tenth.
`tries` bounds the search. -/
def Binary.pointPosition (number : Binary) : (tries : Nat) → (guess : Int) → Int
  | 0, guess => guess
  | tries + 1, guess =>
      let value := number.ratio (4 * number.mantissa) guess
      if value.2 ≤ value.1 then number.pointPosition tries (guess + 1)
      else guess

/-- The shortest decimal that rounds to the number, as digits and a power of ten. Of two
decimals of one length the nearer is taken. -/
def Binary.shortest (number : Binary) (point : Int) : (lengths : Nat) → Nat × Int
  | 0 => (0, 0)
  | lengths + 1 =>
      let ten := point - (17 - lengths : Nat)
      let value := number.ratio (4 * number.mantissa) ten
      let below := value.1 / value.2
      let nearerAbove := value.2 < 2 * (value.1 % value.2)
      let (first, second) := if nearerAbove then (below + 1, below) else (below, below + 1)
      if number.admits first ten then (first, ten)
      else if number.admits second ten then (second, ten)
      else number.shortest point lengths

/-- Digits without the zeros at their end, and the power of ten that they then have. -/
def withoutTrailingZeros (fuel : Nat) (digits : Nat) (ten : Int) : Nat × Int :=
  match fuel with
  | 0 => (digits, ten)
  | fuel + 1 =>
      if digits % 10 = 0 ∧ digits ≠ 0 then withoutTrailingZeros fuel (digits / 10) (ten + 1)
      else (digits, ten)

/-- The text of a finite number: positional with a point from 10^-5 up to 10^16, otherwise
with an exponent. -/
def render (isNegative : Bool) (bits : Nat) : String :=
  let sign := if isNegative then "-" else ""
  if bits % (UInt64.size / 2) = 0 then sign ++ "0.0"
  else
    let number := Binary.ofBits bits
    let point := number.pointPosition 640 (-330)
    let (digits, ten) := number.shortest point 17
    let (digits, ten) := withoutTrailingZeros 20 digits ten
    let text := Text.decimal digits
    let length : Int := text.length
    let place := length + ten
    let zeros := fun (count : Int) => List.replicate count.toNat '0'
    let body :=
      if 0 ≤ ten ∧ place ≤ 16 then text ++ zeros ten ++ ['.', '0']
      else if 0 < place ∧ place ≤ 16 then text.take place.toNat ++ '.' :: text.drop place.toNat
      else if -5 < place ∧ place ≤ 0 then ['0', '.'] ++ zeros (-place) ++ text
      else
        let exponent := 'e' :: (toString (place - 1)).toList
        if length = 1 then text ++ exponent
        else text.take 1 ++ '.' :: text.drop 1 ++ exponent
    sign ++ String.ofList body

end Shortest
end Json
end ClusterAgent
