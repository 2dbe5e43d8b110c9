import ClusterAgent.Json.Shape
import ClusterAgent.Json.Value
namespace ClusterAgent
namespace Join

/-! ## Join requests -/

/-- What a joining node asks. `contacted` is the host that it called and `remote` its own
address, both of which are known from the connection and never from the request. -/
structure Request where
  token : String
  hostname : String
  port : Nat
  worker : Bool
  callbackToken : Option String
  contacted : String
  remote : String
  deriving DecidableEq, Repr

namespace Request

def shape : Json.Shape where
  name := "JoinRequest"
  fields :=
    [⟨"token", .text, true⟩, ⟨"hostname", .text, false⟩, ⟨"port", .port, true⟩,
      ⟨"worker", .flag, false⟩, ⟨"callback_token", .optionalText, false⟩]

def ofFields (fields : Json.Fields) : Request where
  token := fields.text "token"
  hostname := fields.text "hostname"
  port := fields.port "port"
  worker := fields.flag "worker"
  callbackToken := fields.optionalText "callback_token"
  contacted := ""
  remote := ""

/-- The request that a text is. -/
def decode (text : List Char) : Except Json.DecodeError Request :=
  (shape.decode text).map ofFields

/-- The request that a text starts with. -/
def decodeStart (text : List Char) : Except Json.DecodeError Request :=
  (shape.decodeStart text).map ofFields

/-- The request as a body, without what the connection tells. -/
def toJson (request : Request) : Json :=
  .object (
    [("token", .text request.token), ("hostname", .text request.hostname),
      ("port", .number request.port), ("worker", .bool request.worker)] ++
      (request.callbackToken.map fun token => ("callback_token", Json.text token)).toList)

end Request
end Join
end ClusterAgent
