import ClusterAgent.Client.Bundle
import ClusterAgent.Client.Peer
import ClusterAgent.Http.Routes
import ClusterAgent.Http.Status
namespace ClusterAgent
namespace Client

/-! ## Asking a peer -/

/-- A request on its way to a peer. -/
structure Outgoing where
  url : String
  userAgent : String
  body : Json

/-- What came back: nothing, for the reasons given, or an answer. -/
inductive Reply
  | unreachable (causes : List String)
  | answered (status : Nat) (body : ByteArray)

/-- The way to peers. -/
abbrev Transport := Outgoing → Reply

/-- What a peer says when it refuses. -/
def refusalShape : Json.Shape where
  name := "RemoteError"
  fields := [⟨"error", .text, true⟩, ⟨"code", .text, false⟩]

/-- Why a join was not answered with a bundle. -/
inductive Failure
  | unreachable (url : String) (causes : List String)
  | refused (peer : String) (status : Nat) (refusal : Option (String × String))
  | undecodable (cause : Json.DecodeError)
  deriving DecidableEq, Repr

def Failure.report : Failure → Report
  | .unreachable url causes => ⟨s!"POST {url}", causes⟩
  | .refused peer status none => ⟨s!"join rejected by {peer} ({Http.statusText status})", []⟩
  | .refused peer status (some (message, code)) =>
      if code.isEmpty then ⟨s!"join rejected by {peer} ({Http.statusText status}): {message}", []⟩
      else ⟨s!"join rejected by {peer} ({Http.statusText status}, {code}): {message}", []⟩
  | .undecodable cause => ⟨"decode join response", [cause.message]⟩

/-- The error and its code in the body of a refusal. -/
def refusal? (body : ByteArray) : Option (String × String) :=
  (refusalShape.decode (Json.characters body)).toOption.map fun fields =>
    (fields.text "error", fields.text "code")

def outgoing (peer : String) (protocol : Join.Protocol) (request : Join.Request) : Outgoing where
  url := Peer.joinUrl peer protocol
  userAgent := s!"clusterd/{Http.version}"
  body := request.toJson

/-- What the reply to a join request hands over. -/
def Reply.bundle (peer : String) (sent : Outgoing) : Reply → Except Failure Bundle
  | .unreachable causes => .error (.unreachable sent.url causes)
  | .answered status body =>
      if 200 ≤ status ∧ status < 300 then
        match Bundle.decode (Json.characters body) with
        | .ok bundle => .ok bundle
        | .error cause => .error (.undecodable cause)
      else .error (.refused peer status (refusal? body))

/-- Asks a peer to be let into its cluster. -/
def requestJoin (transport : Transport) (peer : String) (protocol : Join.Protocol)
    (request : Join.Request) : Except Failure Bundle :=
  let sent := outgoing peer protocol request
  (transport sent).bundle peer sent

end Client
end ClusterAgent
