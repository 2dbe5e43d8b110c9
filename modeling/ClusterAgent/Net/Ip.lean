import ClusterAgent.Text.Number
namespace ClusterAgent

/-! ## Internet addresses -/

/-- An address of either family, as the number it is. -/
inductive IpAddress
  | v4 (bits : BitVec 32)
  | v6 (bits : BitVec 128)
  deriving DecidableEq, Repr

namespace IpAddress

def number : IpAddress → Nat
  | .v4 bits => bits.toNat
  | .v6 bits => bits.toNat

/-- The number of bits of an address of the same family. -/
def width : IpAddress → Nat
  | .v4 _ => 32
  | .v6 _ => 128

/-- The loopback addresses are 127.0.0.0/8 and ::1. -/
def isLoopback : IpAddress → Bool
  | .v4 bits => bits.toNat >>> 24 == 127
  | .v6 bits => bits == 1

/-- The address that stands for every address of the machine. -/
def isUnspecified : IpAddress → Bool
  | .v4 bits => bits == 0
  | .v6 bits => bits == 0

/-- The address inside an address of the form ::ffff:a.b.c.d. -/
def mapped? (bits : BitVec 128) : Option (BitVec 32) :=
  if bits.toNat >>> 32 = 0xFFFF then some (bits.truncate 32) else none

/-- The same address with the mapped form undone. -/
def canonical : IpAddress → IpAddress
  | .v4 bits => .v4 bits
  | .v6 bits =>
      match mapped? bits with
      | some inner => .v4 inner
      | none => .v6 bits

/-! ## Addresses as text -/

/-- The four octets of an address, the highest first. -/
def octets (bits : BitVec 32) : List Nat :=
  [24, 16, 8, 0].map fun shift => (bits.toNat >>> shift) % 256

/-- The eight groups of sixteen bits of an address, the highest first. -/
def groups (bits : BitVec 128) : List Nat :=
  [112, 96, 80, 64, 48, 32, 16, 0].map fun shift => (bits.toNat >>> shift) % 65536

def dotted (bits : BitVec 32) : List Char :=
  List.intercalate ['.'] ((octets bits).map Text.decimal)

def colonSeparated (items : List Nat) : List Char :=
  List.intercalate [':'] (items.map Text.hexadecimal)

/-- The number of zeros at the start of a list of groups. -/
def zeroRun (items : List Nat) : Nat :=
  (items.takeWhile (· == 0)).length

/-- The position and length of the first of the longest runs of zeros. -/
def longestZeroRun : (position : Nat) → List Nat → Nat × Nat
  | position, [] => (position, 0)
  | position, item :: rest =>
      let here := zeroRun (item :: rest)
      let later := longestZeroRun (position + 1) rest
      if later.2 ≤ here then (position, here) else later

/-- Groups as text, in which a double colon stands for the first of the longest runs of at
least two zeros. -/
def compressed (items : List Nat) : List Char :=
  let run := longestZeroRun 0 items
  if run.2 < 2 then colonSeparated items
  else
    colonSeparated (items.take run.1) ++ [':', ':'] ++ colonSeparated (items.drop (run.1 + run.2))

def toChars : IpAddress → List Char
  | .v4 bits => dotted bits
  | .v6 bits =>
      match mapped? bits with
      | some inner => "::ffff:".toList ++ dotted inner
      | none => compressed (groups bits)

/-- The canonical text of an address. -/
def toText (address : IpAddress) : String :=
  String.ofList address.toChars

instance : ToString IpAddress := ⟨toText⟩

end IpAddress
end ClusterAgent
