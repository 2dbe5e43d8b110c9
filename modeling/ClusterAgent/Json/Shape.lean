import ClusterAgent.Json.Reading
import ClusterAgent.Json.Shortest
import ClusterAgent.Text.Blank
import ClusterAgent.Text.Quoted
namespace ClusterAgent
namespace Json

/-! ## Records in JSON -/

/-- What a field of a record may hold. A port is a number of sixteen bits or the text of
one. -/
inductive Kind
  | text
  | optionalText
  | flag
  | port
  | texts
  | optionalTexts
  deriving DecidableEq, Repr

/-- What a field was found to hold. -/
inductive FieldValue
  | text (value : String)
  | flag (value : Bool)
  | port (value : Nat)
  | texts (items : List String)
  | absent
  deriving DecidableEq, Repr

structure Field where
  name : String
  kind : Kind
  required : Bool
  deriving DecidableEq, Repr

/-- A record with named fields, which may also be given as an array of their values. -/
structure Shape where
  name : String
  fields : List Field
  deriving DecidableEq, Repr

/-- Why a text is no record of a shape. -/
inductive DecodeError
  | notJson
  | invalidType (found expected : String)
  | invalidLength (count : Nat) (expected : String)
  | missingField (name : String)
  | duplicateField (name : String)
  | noVariant (name : String)
  | invalidNumber (cause : Text.NumberError)
  deriving DecidableEq, Repr

/-- What is said of an error other than a text that is not JSON. -/
def DecodeError.message : DecodeError → String
  | .notJson => "not JSON"
  | .invalidType found expected => s!"invalid type: {found}, expected {expected}"
  | .invalidLength count expected => s!"invalid length {count}, expected {expected}"
  | .missingField name => "missing field `" ++ name ++ "`"
  | .duplicateField name => "duplicate field `" ++ name ++ "`"
  | .noVariant name => s!"data did not match any variant of untagged enum {name}"
  | .invalidNumber cause => cause.message

/-- A number as it is named in messages. -/
def Number.describe : Number → String
  | .natural value => "integer `" ++ toString value ++ "`"
  | .negative magnitude => "integer `-" ++ toString magnitude ++ "`"
  | .decimal isNegative significand exponent =>
      let bits := (magnitude significand exponent).toBits.toNat
      "floating point `" ++ Shortest.render isNegative bits ++ "`"

namespace Reading

/-- The error of a value of the wrong type. A value whose text is at fault is no JSON. -/
def mismatch (expected : String) : Reading → DecodeError
  | .null => .invalidType "null" expected
  | .bool value => .invalidType ("boolean `" ++ toString value ++ "`") expected
  | .number value =>
      if value.isRepresentable then .invalidType value.describe expected else .notJson
  | .text (some value) => .invalidType ("string " ++ Text.inQuotes value) expected
  | .text none => .notJson
  | .array _ => .invalidType "sequence" expected
  | .object _ => .invalidType "map" expected
  | .broken => .notJson

def decodeText : Reading → Except DecodeError String
  | .text (some value) => .ok value
  | reading => .error (reading.mismatch "a string")

def decodeFlag : Reading → Except DecodeError Bool
  | .bool value => .ok value
  | reading => .error (reading.mismatch "a boolean")

def decodeTexts : Reading → Except DecodeError (List String)
  | .array items => items.mapM decodeText
  | reading => .error (reading.mismatch "a sequence")

/-- The number of arrays and objects that may stand inside each other in a text, where their content
is kept. -/
def nesting : Nat := 127

/-- A port is read only after its whole value was kept. The record around it is one of the arrays
and objects. -/
def decodePort (reading : Reading) : Except DecodeError Nat :=
  if !reading.isSound (nesting - 1) then .error .notJson
  else
    match reading with
    | .number (.natural value) =>
        if value < UInt16.size then .ok value else .error (.noVariant "Port")
    | .text (some value) =>
        (Text.readUnsigned 10 UInt16.size (Text.trim value.toList)).mapError .invalidNumber
    | _ => .error (.noVariant "Port")

/-- The value of a field. -/
def decodeField : Kind → Reading → Except DecodeError FieldValue
  | .text, reading => reading.decodeText.map .text
  | .flag, reading => reading.decodeFlag.map .flag
  | .port, reading => reading.decodePort.map .port
  | .texts, reading => reading.decodeTexts.map .texts
  | .optionalText, .null => .ok .absent
  | .optionalText, reading => reading.decodeText.map .text
  | .optionalTexts, .null => .ok .absent
  | .optionalTexts, reading => reading.decodeTexts.map .texts

end Reading

/-- The fields of a record that were found, by name. -/
abbrev Fields := List (String × FieldValue)

namespace Fields

def text (fields : Fields) (name : String) : String :=
  match fields.lookup name with
  | some (.text value) => value
  | _ => ""

def optionalText (fields : Fields) (name : String) : Option String :=
  match fields.lookup name with
  | some (.text value) => some value
  | _ => none

def flag (fields : Fields) (name : String) : Bool :=
  match fields.lookup name with
  | some (.flag value) => value
  | _ => false

def port (fields : Fields) (name : String) : Nat :=
  match fields.lookup name with
  | some (.port value) => value
  | _ => 0

def texts (fields : Fields) (name : String) : List String :=
  match fields.lookup name with
  | some (.texts items) => items
  | _ => []

def optionalTexts (fields : Fields) (name : String) : Option (List String) :=
  match fields.lookup name with
  | some (.texts items) => some items
  | _ => none

end Fields

namespace Shape

def field? (shape : Shape) (name : String) : Option Field :=
  shape.fields.find? fun field => field.name == name

/-- The fields among the members of an object, after those already found. Members of other
names are passed over. -/
def decodeMembers (shape : Shape) :
    Fields → List (Option String × Reading) → Except DecodeError Fields
  | found, [] => .ok found
  | _, (none, _) :: _ => .error .notJson
  | found, (some name, value) :: rest =>
      match shape.field? name with
      | none => if value.isComplete then shape.decodeMembers found rest else .error .notJson
      | some field =>
          if (found.lookup name).isSome then .error (.duplicateField name)
          else
            match value.decodeField field.kind with
            | .error error => .error error
            | .ok value => shape.decodeMembers (found ++ [(name, value)]) rest

/-- The first required field that was not found is the one that is missed. -/
def requireFields (shape : Shape) (found : Fields) : Except DecodeError Fields :=
  match shape.fields.find? fun field => field.required && (found.lookup field.name).isNone with
  | some field => .error (.missingField field.name)
  | none => .ok found

/-- The fields in the order of the shape, from the items of an array from `index` on. -/
def decodeItems (expected : String) :
    (index : Nat) → List Field → List Reading → Except DecodeError Fields
  | _, [], [] => .ok []
  | _, [], _ :: _ => .error .notJson
  | index, field :: fields, [] =>
      if field.required then .error (.invalidLength index expected)
      else decodeItems expected (index + 1) fields []
  | index, field :: fields, item :: items => do
      let value ← item.decodeField field.kind
      let rest ← decodeItems expected (index + 1) fields items
      return (field.name, value) :: rest

def decodeReading (shape : Shape) : Reading → Except DecodeError Fields
  | .object members => shape.decodeMembers [] members >>= shape.requireFields
  | .array items =>
      let expected := s!"struct {shape.name} with {shape.fields.length} elements"
      decodeItems expected 0 shape.fields items
  | reading => .error (reading.mismatch s!"struct {shape.name}")

/-- The fields of the record that a text writes. Of several errors the first in reading
order is given. -/
def decode (shape : Shape) (text : List Char) : Except DecodeError Fields :=
  let found := read text
  match shape.decodeReading found.1 with
  | .error error => .error error
  | .ok fields => if found.2 then .ok fields else .error .notJson

/-- The fields of the record that a text starts with, whatever follows it. -/
def decodeStart (shape : Shape) (text : List Char) : Except DecodeError Fields :=
  shape.decodeReading (read text).1

end Shape
end Json
end ClusterAgent
