import ClusterAgent.Net.Ip.Parser
import ClusterAgent.Text.Lines
namespace ClusterAgent

/-! ## Subnets -/

/-- An address together with the number of leading bits that name its subnet. -/
structure Cidr where
  address : IpAddress
  length : Nat
  length_le_width : length ≤ address.width
  deriving DecidableEq, Repr

/-- Why a text is no subnet. -/
inductive CidrError
  | missingLength (text : String)
  | address (text : String)
  | length (text : String) (cause : Text.NumberError)
  deriving DecidableEq, Repr

def CidrError.message : CidrError → String
  | .missingLength text => s!"missing prefix length: {text}"
  | .address text => s!"{text}: {IpAddress.invalidAddress}"
  | .length text cause => s!"{text}: {cause.message}"

namespace Cidr

/-- The subnet of an address, where a length beyond the width of the address is the width. -/
def new (address : IpAddress) (length : Nat) : Cidr :=
  ⟨address, min length address.width, Nat.min_le_right _ _⟩

/-- The subnet of an interface with this address and mask. -/
def ofMask (address mask : IpAddress) : Cidr :=
  new address ((Nat.toDigits 2 mask.number).count '1')

/-- Whether the subnet holds its address alone. -/
def isHostMask (cidr : Cidr) : Bool :=
  cidr.length == cidr.address.width

/-- The bits of a word of `width` bits of which the highest `length` are set. -/
def mask (width length : Nat) : BitVec width :=
  BitVec.allOnes width <<< (width - length)

/-- Whether an address of the same family agrees with the subnet under its mask. -/
def contains (cidr : Cidr) (address : IpAddress) : Bool :=
  match cidr.address, address with
  | .v4 net, .v4 bits => net &&& mask 32 cidr.length == bits &&& mask 32 cidr.length
  | .v6 net, .v6 bits => net &&& mask 128 cidr.length == bits &&& mask 128 cidr.length
  | _, _ => false

def toText (cidr : Cidr) : String :=
  s!"{cidr.address}/{cidr.length}"

/-- The subnet that `address/length` writes, where the length is below 256. -/
def parse (text : String) : Except CidrError Cidr :=
  match Text.splitOnce '/' text.toList with
  | none => .error (.missingLength text)
  | some (address, length) =>
      match IpAddress.ofChars? address with
      | none => .error (.address (String.ofList address))
      | some found =>
          match Text.readUnsigned 10 256 length with
          | .error cause => .error (.length (String.ofList length) cause)
          | .ok length => .ok (new found length)

end Cidr
end ClusterAgent
