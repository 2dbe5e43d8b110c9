import ClusterAgent.Client.Call
import ClusterAgent.Proofs.Client.Decoding
import ClusterAgent.Proofs.Text.Number
namespace ClusterAgent

open Json

namespace Join
namespace Request

open ClusterAgent.Bundle

/-! ## The body of a request -/

/-- The body of a request whose port is written in some way. -/
def withPort (request : Request) (port : Json) : Json :=
  .object (
    [("token", .text request.token), ("hostname", .text request.hostname), ("port", port),
      ("worker", .bool request.worker)] ++
      (request.callbackToken.map fun token => ("callback_token", Json.text token)).toList)

/-- A port as a text of its digits with something around them. -/
def portText (front back : List Char) (port : Nat) : Json :=
  .text (String.ofList (front ++ Text.decimal port ++ back))

/-- The request without what the connection tells. -/
def unconnected (request : Request) : Request :=
  { request with contacted := "", remote := "" }

def written (request : Request) (port : Json) : List Written :=
  [.text "token" request.token, .text "hostname" request.hostname,
    ⟨"port", port, .port request.port⟩, ⟨"worker", .bool request.worker, .flag request.worker⟩] ++
  (request.callbackToken.map (.text "callback_token")).toList

section Bodies

variable {request : Request} {port : Json}

theorem withPort_eq_written (request : Request) (port : Json) :
    request.withPort port =
      .object ((request.written port).map fun item => (item.name, item.value)) := by
  obtain ⟨_, _, _, _, callback, _, _⟩ := request
  cases callback <;> rfl

theorem ofFields_written (request : Request) (port : Json) :
    ofFields ((request.written port).map fun item => (item.name, item.found)) =
      request.unconnected := by
  obtain ⟨_, _, _, _, callback, _, _⟩ := request
  cases callback <;> rfl

theorem distinct_written (request : Request) (port : Json) :
    ((request.written port).map Written.name).Nodup := by
  have names : (request.written port).map Written.name =
      ["token", "hostname", "port", "worker"] ++
        if request.callbackToken.isSome then ["callback_token"] else [] := by
    obtain ⟨_, _, _, _, callback, _, _⟩ := request
    cases callback <;> rfl
  rw [names]
  cases request.callbackToken.isSome <;> decide

theorem fits_written (portRead : port.reading.decodePort = .ok request.port) :
    ∀ item ∈ request.written port, item.Fits shape := by
  have decoded : port.reading.decodeField .port = .ok (.port request.port) := by
    rw [Reading.decodeField, portRead]
    rfl
  rw [written, List.forall_mem_append]
  constructor
  · simp only [List.forall_mem_cons]
    exact ⟨⟨_, _, rfl, rfl⟩, ⟨_, _, rfl, rfl⟩, ⟨_, _, rfl, decoded⟩, ⟨_, _, rfl, rfl⟩,
      List.forall_mem_nil _⟩
  · intro item member
    cases callback : request.callbackToken with
    | none => simp [callback] at member
    | some token =>
        simp only [callback, Option.map_some, Option.toList_some, List.mem_singleton] at member
        subst member
        exact ⟨_, _, rfl, rfl⟩

theorem requireFields_written (request : Request) (port : Json) :
    shape.requireFields ((request.written port).map fun item => (item.name, item.found)) =
      .ok ((request.written port).map fun item => (item.name, item.found)) := by
  rw [written]
  rfl

theorem fits_withPort (portFits : port.fits = true) :
    (request.withPort port).fits = true := by
  rw [withPort, fits]
  apply membersFit_of_forall
  rw [List.forall_mem_append]
  constructor
  · simp only [List.forall_mem_cons]
    exact ⟨rfl, rfl, portFits, rfl, List.forall_mem_nil _⟩
  · cases request.callbackToken with
    | none => exact List.forall_mem_nil _
    | some token => exact List.forall_mem_singleton.mpr rfl

/-- However the port is written, a request is read back as it is. -/
theorem read_withPort (portRead : port.reading.decodePort = .ok request.port)
    (portFits : port.fits = true) :
    decode (request.withPort port).render = .ok request.unconnected ∧
      Http.decodeBody (request.withPort port).toText.toUTF8 = .ok request.unconnected := by
  have fitting : (request.withPort port).fits = true := fits_withPort portFits
  have found : shape.decodeReading (request.withPort port).reading =
      .ok ((request.written port).map fun item => (item.name, item.found)) := by
    rw [withPort_eq_written]
    exact decodeReading_written (fits_written portRead) (distinct_written request port)
      (requireFields_written request port)
  have whole : decode (request.withPort port).render = .ok request.unconnected := by
    rw [decode, Shape.decode, read_render fitting]
    dsimp only
    rw [found, ← ofFields_written request port]
    rfl
  have start : decodeStart (request.withPort port).render = .ok request.unconnected := by
    rw [decodeStart, Shape.decodeStart, read_render fitting]
    dsimp only
    rw [found, ← ofFields_written request port]
    rfl
  refine ⟨whole, ?_⟩
  rw [Http.decodeBody, characters_toUTF8, toText, String.toList_ofList, start]

theorem decodePort_number (small : request.port < UInt16.size) :
    (Json.number request.port).reading.decodePort = .ok request.port := by
  rw [reading, Reading.decodePort]
  exact if_pos small

theorem decodePort_text {front back : List Char} (small : request.port < UInt16.size)
    (blankFront : ∀ character ∈ front, Text.isBlank character = true)
    (blankBack : ∀ character ∈ back, Text.isBlank character = true) :
    (portText front back request.port).reading.decodePort = .ok request.port := by
  have noBlank : ∀ digit ∈ Text.decimal request.port, Text.isBlank digit = false :=
    fun digit member => Text.isBlank_of_isDigit (Number.isDigit_decimal digit member)
  rw [portText, reading, Reading.decodePort]
  change (Text.readUnsigned 10 UInt16.size _).mapError _ = _
  rw [String.toList_ofList, Text.trim_surrounded blankFront blankBack, Text.trim_eq_self noBlank,
    Text.readUnsigned_decimal small]
  rfl

/-- A node that is asked reads what was sent to it, and no more than that. The port may be sent as
text, with blanks around it. -/
theorem sent_request_read_back (peer : String) (protocol : Protocol)
    (small : request.port < UInt16.size) :
    ((Client.outgoing peer protocol request).body = request.withPort (.number request.port) ∧
      decode (Client.outgoing peer protocol request).body.render =
          .ok { request with contacted := "", remote := "" } ∧
        Http.decodeBody (Client.outgoing peer protocol request).body.toText.toUTF8 =
          .ok { request with contacted := "", remote := "" }) ∧
      ∀ front back, (∀ character ∈ front, Text.isBlank character = true) →
        (∀ character ∈ back, Text.isBlank character = true) →
          decode (request.withPort (portText front back request.port)).render =
              .ok { request with contacted := "", remote := "" } ∧
            Http.decodeBody
                (request.withPort (portText front back request.port)).toText.toUTF8 =
              .ok { request with contacted := "", remote := "" } := by
  have below : request.port < Number.limit := Nat.lt_trans small (by decide)
  have fitting : (Json.number request.port).fits = true := by
    rw [fits]
    exact decide_eq_true below
  refine ⟨⟨rfl, read_withPort (decodePort_number small) fitting⟩, ?_⟩
  intro front back blankFront blankBack
  exact read_withPort (decodePort_text small blankFront blankBack) rfl

end Bodies

/-- A request whose texts need escapes. -/
def quotingRequest : Request where
  token := "to\"k\\en\n"
  hostname := "knoten-ä"
  port := 25000
  worker := true
  callbackToken := some "\x01"
  contacted := "10.0.0.1:25000"
  remote := "10.0.0.2"

theorem quotingRequest_read_back :
    quotingRequest.port < UInt16.size ∧
      decode (Client.outgoing "10.0.0.1" .legacy quotingRequest).body.render =
          .ok { quotingRequest with contacted := "", remote := "" } ∧
        decode (quotingRequest.withPort (portText ['\u2003', ' '] ['\n'] 25000)).render =
          .ok { quotingRequest with contacted := "", remote := "" } := by
  have small : quotingRequest.port < UInt16.size := by decide
  obtain ⟨sent, asText⟩ := sent_request_read_back "10.0.0.1" .legacy small
  have blankFront := List.all_eq_true.mp (show ['\u2003', ' '].all Text.isBlank = true from rfl)
  have blankBack := List.all_eq_true.mp (show ['\n'].all Text.isBlank = true from rfl)
  exact ⟨small, sent.2.1, (asText _ _ blankFront blankBack).1⟩

end Request
end Join
end ClusterAgent
