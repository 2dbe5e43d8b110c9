import ClusterAgent.Http.MediaType
import ClusterAgent.Http.Message
import ClusterAgent.Join.Admission
namespace ClusterAgent
namespace Http

/-! ## The agent's API -/

/-- The version that the agent tells. -/
def version : String := "0.1.0"

def healthPath : String := "/cluster/api/v1.0/health"

/-- The largest body that is read, in octets. -/
def bodyLimit : Nat := 2 * 1024 * 1024

/-- Why the body of a request is no join request. -/
inductive BodyError
  | mediaType
  | tooLarge
  | notJson
  | notRequest
  | noHost
  deriving DecidableEq, Repr

def BodyError.message : BodyError → String
  | .mediaType => "Expected request with `Content-Type: application/json`"
  | .tooLarge => "Failed to buffer the request body"
  | .notJson => "Failed to parse the request body as JSON"
  | .notRequest => "Failed to deserialize the JSON body into the target type"
  | .noHost => "missing Host header"

/-- The join request that a body starts with. -/
def decodeBody (body : ByteArray) : Except BodyError Join.Request :=
  match Join.Request.decodeStart (Json.characters body) with
  | .ok request => .ok request
  | .error .notJson => .error .notJson
  | .error _ => .error .notRequest

/-- The join request of an HTTP request. The host that was called and the address of the
joining node come from the connection. -/
def joinRequest (request : Request) : Except BodyError Join.Request := do
  if !((request.header? "content-type").any fun text => MediaType.isJson text.toList) then
    throw .mediaType
  if bodyLimit < request.body.size then throw .tooLarge
  let joining ← decodeBody request.body
  match request.header? "host" with
  | none => throw .noHost
  | some host =>
      return { joining with
        contacted := host, remote := request.peer.address.canonical.toText }

def joinFailure (error : Join.Error) : Response :=
  .failure error.kind.status error.code error.message

/-- How long a join may take, and whether somebody else holds the membership meanwhile. -/
structure Limits where
  joinTimeout : Nat
  membershipIsHeld : Bool
  deriving DecidableEq, Repr

/-- Answers a request to join. -/
def respondToJoin (surroundings : Surroundings) (limits : Limits) (protocol : Join.Protocol)
    (request : Request) (world : World) : Response × World :=
  match joinRequest request with
  | .error error => (.failure 400 "invalid_request" error.message, world)
  | .ok joining =>
      let patience : Join.Patience :=
        .until (world.clock + limits.joinTimeout) limits.membershipIsHeld
      match (Join.join surroundings patience protocol joining).run world with
      | (.ok response, world) => (.json 200 response.toJson, world)
      | (.error error, world) => (joinFailure error, world)

/-- What the agent tells of itself. -/
def health (disk : Disk) : Json :=
  .object [("status", .text "ok"), ("backend", .text (NodeState.backend disk).name),
    ("version", .text version)]

def respondToHealth (method : String) (disk : Disk) : Response :=
  if method = "GET" then .json 200 (health disk)
  else if method = "HEAD" then { Response.json 200 (health disk) with body := none }
  else .notAllowed "GET,HEAD"

/-- The protocol that a path stands for. -/
def protocolAt? (path : String) : Option Join.Protocol :=
  [Join.Protocol.legacy, .replicatedStore, .etcdHa].find? fun protocol => protocol.path == path

/-- Answers a request. -/
def respond (surroundings : Surroundings) (limits : Limits) (request : Request) (world : World) :
    Response × World :=
  match protocolAt? request.route with
  | some protocol =>
      if request.method = "POST" then respondToJoin surroundings limits protocol request world
      else (.notAllowed "POST", world)
  | none =>
      if request.route = healthPath then (respondToHealth request.method world.disk, world)
      else (.notFound, world)

end Http
end ClusterAgent
