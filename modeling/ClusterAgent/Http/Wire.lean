import ClusterAgent.Http.Message
import ClusterAgent.Http.Status
namespace ClusterAgent
namespace Http
namespace Wire

/-! ## Lines -/

/-- The octets before the first line end, and those after it. -/
def splitLine : List UInt8 → Option (List UInt8 × List UInt8)
  | [] => none
  | 13 :: 10 :: rest => some ([], rest)
  | octet :: rest => (splitLine rest).map fun parts => (octet :: parts.1, parts.2)

/-- Octets as characters of the same numbers. -/
def characters (octets : List UInt8) : List Char :=
  octets.map fun octet => Char.ofNat octet.toNat

/-- What is known of a message while more octets may follow. -/
inductive Progress (value : Type)
  | complete (value : value)
  | incomplete
  | malformed

def Progress.bind {α β : Type} (progress : Progress α) (next : α → Progress β) : Progress β :=
  match progress with
  | .complete value => next value
  | .incomplete => .incomplete
  | .malformed => .malformed

/-! ## Heads -/

/-- The first line of a message and the fields after it. -/
structure Head where
  line : List Char
  fields : List (String × ByteArray)

def isBlank (octet : UInt8) : Bool :=
  octet == 32 || octet == 9

/-- The octets without the blanks around them. -/
def trim (octets : List UInt8) : List UInt8 :=
  ((octets.dropWhile isBlank).reverse.dropWhile isBlank).reverse

/-- The name and value of a field; a colon divides them. -/
def readField (line : List UInt8) : Option (String × ByteArray) :=
  match line.span (· != 58) with
  | (name, _ :: value) =>
      if name.isEmpty then none
      else some (String.ofList (characters name), ⟨(trim value).toArray⟩)
  | _ => none

/-- The fields up to an empty line, and what follows it. -/
def readFields : (fuel : Nat) → List UInt8 → Progress (List (String × ByteArray) × List UInt8)
  | 0, _ => .malformed
  | fuel + 1, octets =>
      match splitLine octets with
      | none => .incomplete
      | some ([], rest) => .complete ([], rest)
      | some (line, rest) =>
          match readField line with
          | none => .malformed
          | some field =>
              (readFields fuel rest).bind fun found =>
                .complete (field :: found.1, found.2)

def readHead (octets : List UInt8) : Progress (Head × List UInt8) :=
  match splitLine octets with
  | none => .incomplete
  | some (line, rest) =>
      (readFields (rest.length + 1) rest).bind fun found =>
        .complete (⟨characters line, found.1⟩, found.2)

def Head.field? (head : Head) (name : String) : Option (List Char) :=
  (head.fields.find? fun field => field.1.toLower == name).map fun field =>
    characters field.2.toList

/-! ## Bodies -/

/-- The sizes of bodies stay below this. -/
def sizeLimit : Nat := UInt64.size / 2

/-- Where the body of a message ends. -/
inductive Framing
  | length (count : Nat)
  | chunked
  | unstated
  deriving DecidableEq, Repr

/-- How a head frames the body after it; a head may contradict itself. -/
def Head.framing? (head : Head) : Option Framing :=
  match head.field? "transfer-encoding", head.field? "content-length" with
  | some coding, _ =>
      if (coding.map Char.toLower) = "chunked".toList then some .chunked else none
  | none, some text =>
      if text.isEmpty || !text.all Char.isDigit then none
      else (Text.readUnsigned 10 sizeLimit text).toOption.map .length
  | none, none => some .unstated

/-- The size of a chunk, in base sixteen up to a semicolon. -/
def readSize (line : List UInt8) : Option Nat :=
  let digits := (characters line).takeWhile fun character => character != ';' && character != ' '
  if digits.head? = some '+' then none else (Text.readUnsigned 16 sizeLimit digits).toOption

/-- The chunks of a body up to the empty one. -/
def readChunks : (fuel : Nat) → List UInt8 → Progress (List UInt8)
  | 0, _ => .malformed
  | fuel + 1, octets =>
      match splitLine octets with
      | none => .incomplete
      | some (line, rest) =>
          match readSize line with
          | none => .malformed
          | some 0 => (readFields (rest.length + 1) rest).bind fun _ => .complete []
          | some size =>
              if rest.length < size + 2 then .incomplete
              else if (rest.drop size).take 2 != [13, 10] then .malformed
              else
                (readChunks fuel (rest.drop (size + 2))).bind fun more =>
                  .complete (rest.take size ++ more)

/-- The body after a head. A body whose end is not stated lasts to the end of the connection,
where the message may have such a body at all. -/
def readBody (head : Head) (mayLast isClosed : Bool) (octets : List UInt8) :
    Progress (List UInt8) :=
  match head.framing? with
  | none => .malformed
  | some .chunked => readChunks (octets.length + 1) octets
  | some (.length count) =>
      if octets.length < count then .incomplete else .complete (octets.take count)
  | some .unstated =>
      if !mayLast then .complete [] else if isClosed then .complete octets else .incomplete

/-! ## Messages -/

/-- The words of a first line. -/
def words (line : List Char) : List String :=
  (line.splitOn ' ').map String.ofList

/-- The request at the start of a connection from `peer`. -/
def readRequest (peer : SocketAddress) (octets : List UInt8) : Progress Request :=
  (readHead octets).bind fun found =>
    match words found.1.line with
    | [method, path, _] =>
        (readBody found.1 false false found.2).bind fun body =>
          .complete ⟨method, path, found.1.fields, ⟨body.toArray⟩, peer⟩
    | _ => .malformed

/-- The status and body of the response on a connection. -/
def readResponse (isClosed : Bool) (octets : List UInt8) : Progress (Nat × ByteArray) :=
  (readHead octets).bind fun found =>
    match words found.1.line with
    | _ :: status :: _ =>
        match (Text.readUnsigned 10 1000 status.toList).toOption with
        | none => .malformed
        | some status =>
            (readBody found.1 true isClosed found.2).bind fun body =>
              .complete (status, ⟨body.toArray⟩)
    | _ => .malformed

def crlf : String := "\r\n"

/-- A message with its first line, its fields and its body. The connection ends after it. -/
def write (line : String) (fields : List (String × String)) (body : ByteArray) : ByteArray :=
  let all := fields ++ [("content-length", toString body.size), ("connection", "close")]
  let head := line ++ crlf ++ String.join (all.map fun field => field.1 ++ ": " ++ field.2 ++ crlf)
  (head ++ crlf).toUTF8 ++ body

def writeRequest (method path : String) (fields : List (String × String)) (body : ByteArray) :
    ByteArray :=
  write s!"{method} {path} HTTP/1.1" fields body

def writeResponse (response : Response) : ByteArray :=
  let field := fun (name : String) (value : Option String) =>
    (value.map fun text => (name, text)).toList
  write s!"HTTP/1.1 {statusText response.status}"
    (field "content-type" response.contentType ++ field "allow" response.allow)
    ((response.body.map Json.toText).getD "").toUTF8

end Wire
end Http
end ClusterAgent
