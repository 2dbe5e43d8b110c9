import ClusterAgent.Json.Value
import ClusterAgent.Net.Socket
import ClusterAgent.Text.Utf8
namespace ClusterAgent
namespace Http

/-! ## Requests and responses -/

structure Request where
  method : String
  path : String
  headers : List (String × ByteArray)
  body : ByteArray
  peer : SocketAddress

/-- A response; one without a body has no media type either, except to a request for the head
alone. -/
structure Response where
  status : Nat
  contentType : Option String
  allow : Option String
  body : Option Json

namespace Request

/-- An octet that may stand in the text of a header. -/
def isVisible (octet : UInt8) : Bool :=
  (32 ≤ octet && octet < 127) || octet == 9

/-- The text of the first header of a name, if it is plain text. -/
def header? (request : Request) (name : String) : Option String :=
  match request.headers.find? fun header => header.1.toLower == name with
  | none => none
  | some (_, value) =>
      if value.toList.all isVisible then
        some (String.ofList (value.toList.map fun octet => Char.ofNat octet.toNat))
      else none

/-- The path without a query. -/
def route (request : Request) : String :=
  String.ofList
    (request.path.toList.takeWhile fun character => character != '?' && character != '#')

end Request

namespace Response

def json (status : Nat) (body : Json) : Response :=
  ⟨status, some "application/json", none, some body⟩

/-- A response that says what went wrong, in words and as a code. -/
def failure (status : Nat) (code message : String) : Response :=
  json status (.object [("error", .text message), ("code", .text code)])

def notFound : Response := ⟨404, none, none, none⟩

/-- The response to a method that a path does not have. -/
def notAllowed (methods : String) : Response := ⟨405, none, some methods, none⟩

end Response
end Http
end ClusterAgent
