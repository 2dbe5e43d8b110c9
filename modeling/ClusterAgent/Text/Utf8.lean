namespace ClusterAgent
namespace Utf8

/-! ## How a sequence of octets begins -/

/-- What stands at the start of a nonempty sequence of octets: a character and its
width, a sequence of `length` octets that begins no character, or the beginning of a
character that the end of the sequence cuts off. -/
inductive Start
  | scalar (character : Char) (width : Nat)
  | broken (length : Nat)
  | cut
  deriving Repr

def isContinuation (octet : UInt8) : Bool :=
  0x80 ≤ octet && octet < 0xC0

/-- The octets that may follow a leading octet of three or four octets. -/
def secondAllowed (first second : UInt8) : Bool :=
  if first == 0xE0 then 0xA0 ≤ second && second < 0xC0
  else if first == 0xED then 0x80 ≤ second && second < 0xA0
  else if first == 0xF0 then 0x90 ≤ second && second < 0xC0
  else if first == 0xF4 then 0x80 ≤ second && second < 0x90
  else isContinuation second

/-- The number that `lead` and the low six bits of the octets after it write. -/
def scalarValue (lead : Nat) (following : List UInt8) : Char :=
  Char.ofNat (following.foldl (fun value octet => value * 64 + octet.toNat % 64) lead)

def start (first : UInt8) (rest : List UInt8) : Start :=
  if first < 0x80 then .scalar (Char.ofNat first.toNat) 1
  else if first < 0xC2 || 0xF4 < first then .broken 1
  else if first < 0xE0 then
    match rest with
    | [] => .cut
    | second :: _ =>
        if isContinuation second then .scalar (scalarValue (first.toNat % 32) [second]) 2
        else .broken 1
  else if first < 0xF0 then
    match rest with
    | [] => .cut
    | second :: rest =>
        if !secondAllowed first second then .broken 1
        else
          match rest with
          | [] => .cut
          | third :: _ =>
              if isContinuation third then
                .scalar (scalarValue (first.toNat % 16) [second, third]) 3
              else .broken 2
  else
    match rest with
    | [] => .cut
    | second :: rest =>
        if !secondAllowed first second then .broken 1
        else
          match rest with
          | [] => .cut
          | third :: rest =>
              if !isContinuation third then .broken 2
              else
                match rest with
                | [] => .cut
                | fourth :: _ =>
                    if isContinuation fourth then
                      .scalar (scalarValue (first.toNat % 8) [second, third, fourth]) 4
                    else .broken 3

/-! ## Reading text -/

/-- Where octets stop being text; `length` is absent when the octets end too early. -/
structure Fault where
  index : Nat
  length : Option Nat
  deriving DecidableEq, Repr

def Fault.message (fault : Fault) : String :=
  match fault.length with
  | some length =>
      s!"invalid utf-8 sequence of {length} bytes from index {fault.index}"
  | none => s!"incomplete utf-8 byte sequence from index {fault.index}"

/-- The first fault at or after `index`, where the first `skip` octets belong to a
character that has been read. -/
def firstFault : (index skip : Nat) → List UInt8 → Option Fault
  | _, _, [] => none
  | index, skip + 1, _ :: rest => firstFault (index + 1) skip rest
  | index, 0, first :: rest =>
      match start first rest with
      | .scalar _ width => firstFault (index + 1) (width - 1) rest
      | .broken length => some ⟨index, some length⟩
      | .cut => some ⟨index, none⟩

/-- The text that octets encode. -/
def decode (octets : ByteArray) : Except Fault String :=
  match String.fromUTF8? octets with
  | some text => .ok text
  | none => .error ((firstFault 0 0 octets.toList).getD ⟨0, none⟩)

theorem decode_toUTF8 (text : String) : decode text.toUTF8 = .ok text := by
  have valid : String.fromUTF8? text.toUTF8 = some text := by
    simp [String.fromUTF8?, String.fromUTF8, text.isValidUTF8]
  rw [decode, valid]

/-- The characters of octets, with `mark` for every faulty sequence, where the first `skip` octets
belong to what has been read. -/
def replacing (mark : List Char) : (skip : Nat) → List UInt8 → List Char
  | _, [] => []
  | skip + 1, _ :: rest => replacing mark skip rest
  | 0, first :: rest =>
      match start first rest with
      | .scalar character width => character :: replacing mark (width - 1) rest
      | .broken length => mark ++ replacing mark (length - 1) rest
      | .cut => mark

/-- The text of octets in which every faulty sequence reads as the replacement
character. -/
def lossy (octets : List UInt8) : List Char :=
  replacing ['\uFFFD'] 0 octets

end Utf8
end ClusterAgent
