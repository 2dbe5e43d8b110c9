import ClusterAgent.Http.Routes
import ClusterAgent.Proofs.Json.FurtherMembers
import ClusterAgent.Proofs.Join.Guards
import ClusterAgent.Proofs.Text.Words
namespace ClusterAgent
namespace Join

open Json

/-! ## What a body tells of a join -/

/-- A request as it comes over a connection. -/
def connect (http : Http.Request) (request : Request) : Except Http.BodyError Request :=
  match http.header? "host" with
  | none => .error .noHost
  | some host =>
      .ok { request with contacted := host, remote := http.peer.address.canonical.toText }

def claimsJson (http : Http.Request) : Bool :=
  (http.header? "content-type").any fun text => Http.MediaType.isJson text.toList

theorem joinRequest_eq (http : Http.Request) :
    Http.joinRequest http =
      if claimsJson http then
        if Http.bodyLimit < http.body.size then .error .tooLarge
        else Http.decodeBody http.body >>= connect http
      else .error .mediaType := by
  rw [Http.joinRequest, ← claimsJson]
  cases claimsJson http with
  | false => rfl
  | true =>
      by_cases large : Http.bodyLimit < http.body.size
      · simp only [large, if_true]
        rfl
      · simp only [large, if_false]
        cases Http.decodeBody http.body with
        | error error => rfl
        | ok request =>
            change _ = connect http request
            rw [connect.eq_def]
            rfl

section Bodies

variable {http : Http.Request} {octets : ByteArray} {joining : Request}

/-- Two bodies that start with one request are taken alike, as long as none is too large. -/
theorem joinRequest_congr (small : http.body.size ≤ Http.bodyLimit)
    (longerSmall : octets.size ≤ Http.bodyLimit)
    (same : Request.decodeStart (characters octets) = Request.decodeStart (characters http.body)) :
    Http.joinRequest { http with body := octets } = Http.joinRequest http := by
  have sameBody : Http.decodeBody octets = Http.decodeBody http.body := by
    rw [Http.decodeBody, Http.decodeBody, same]
  rw [joinRequest_eq, joinRequest_eq, if_neg (Nat.not_lt.mpr small),
    if_neg (Nat.not_lt.mpr longerSmall), sameBody]
  rfl

theorem respond_congr
    (same : Http.joinRequest { http with body := octets } = Http.joinRequest http)
    (surroundings : Surroundings) (limits : Http.Limits) (world : World) :
    Http.respond surroundings limits { http with body := octets } world =
      Http.respond surroundings limits http world := by
  have sameJoin (protocol : Protocol) :
      Http.respondToJoin surroundings limits protocol { http with body := octets } world =
        Http.respondToJoin surroundings limits protocol http world := by
    rw [Http.respondToJoin, Http.respondToJoin, same]
  rw [Http.respond, Http.respond]
  simp only [sameJoin]
  rfl

theorem decodeStart_of_decodeBody {request : Request}
    (read : Http.decodeBody octets = .ok request) :
    Request.decodeStart (characters octets) = .ok request := by
  rw [Http.decodeBody] at read
  split at read
  · cases read
    assumption
  · cases read
  · cases read

theorem parts_of_connect {request : Request} (connected : connect http request = .ok joining) :
    http.header? "host" = some joining.contacted ∧
      joining = { request with
        contacted := joining.contacted
        remote := http.peer.address.canonical.toText } := by
  rw [connect] at connected
  split at connected
  · cases connected
  · rename_i isHost
    cases connected
    exact ⟨isHost, rfl⟩

/-- The host that was called and the address of the caller come from the connection, all else from
the body. -/
theorem parts_of_joinRequest (taken : Http.joinRequest http = .ok joining) :
    ∃ request, Request.decodeStart (characters http.body) = .ok request ∧
      http.header? "host" = some joining.contacted ∧
        joining = { request with
          contacted := joining.contacted
          remote := http.peer.address.canonical.toText } := by
  rw [joinRequest_eq] at taken
  split at taken
  · split at taken
    · cases taken
    · cases read : Http.decodeBody http.body with
      | error error =>
          rw [read] at taken
          cases taken
      | ok request =>
          rw [read] at taken
          exact ⟨request, decodeStart_of_decodeBody read, parts_of_connect taken⟩
  · cases taken

theorem joinRequest_tooLarge (large : Http.bodyLimit < http.body.size) :
    ∃ error, Http.joinRequest http = .error error := by
  rw [joinRequest_eq, if_pos large]
  split
  · exact ⟨_, rfl⟩
  · exact ⟨_, rfl⟩

/-- With another body the request to join is the same one, and so are the answer and everything
that is changed. -/
structure SameJoin (request : Request) (http : Http.Request) (octets : ByteArray) : Prop where
  asked : Http.joinRequest { http with body := octets } = Http.joinRequest http
  answered : ∀ surroundings limits world,
    Http.respond surroundings limits { http with body := octets } world =
      Http.respond surroundings limits http world
  connected : ∀ joining, Http.joinRequest { http with body := octets } = .ok joining →
    http.header? "host" = some joining.contacted ∧
      joining = { request with
        contacted := joining.contacted
        remote := http.peer.address.canonical.toText }

theorem sameJoin_of_decodeStart {request : Request}
    (accepted : Request.decodeStart (characters http.body) = .ok request)
    (same : Request.decodeStart (characters octets) = .ok request)
    (small : http.body.size ≤ Http.bodyLimit) (longerSmall : octets.size ≤ Http.bodyLimit) :
    SameJoin request http octets := by
  have asked := joinRequest_congr small longerSmall (same.trans accepted.symm)
  refine ⟨asked, respond_congr asked, fun joining taken => ?_⟩
  obtain ⟨found, starts, connected⟩ := parts_of_joinRequest taken
  have sameRequest : found = request := Except.ok.inj (starts.symm.trans same)
  rwa [sameRequest] at connected

/-- A body that is too large is refused, whatever it is. -/
theorem respond_tooLarge (large : Http.bodyLimit < http.body.size) (posted : http.method = "POST")
    (joins : (Http.protocolAt? http.route).isSome = true) (surroundings : Surroundings)
    (limits : Http.Limits) (world : World) :
    ∃ error : Http.BodyError, Http.respond surroundings limits http world =
      (.failure 400 "invalid_request" error.message, world) := by
  obtain ⟨error, refused⟩ := joinRequest_tooLarge large
  obtain ⟨protocol, isProtocol⟩ := Option.isSome_iff_exists.mp joins
  refine ⟨error, ?_⟩
  rw [Http.respond, isProtocol]
  dsimp only
  rw [if_pos posted, Http.respondToJoin, refused]

end Bodies

/-! ## Further members of a body -/

section Further

variable {body : List Char} {request : Request} {object longer : ObjectText}

theorem fields_of_decodeStart (accepted : Request.decodeStart body = .ok request) :
    ∃ fields, Request.shape.decodeStart body = .ok fields ∧ request = Request.ofFields fields := by
  rw [Request.decodeStart] at accepted
  cases decoded : Request.shape.decodeStart body with
  | error error =>
      rw [decoded] at accepted
      cases accepted
  | ok fields =>
      rw [decoded] at accepted
      exact ⟨fields, rfl, (Except.ok.inj accepted).symm⟩

theorem decodeStart_further
    (widens : object.Widens ["token", "hostname", "port", "worker", "callback_token"] longer) :
    Request.decodeStart longer.text = Request.decodeStart object.text :=
  congrArg (Except.map Request.ofFields)
    (Shape.decodeStart_widens (show object.Widens (Request.shape.fields.map Field.name) longer from
      widens))

theorem decode_further
    (widens : object.Widens ["token", "hostname", "port", "worker", "callback_token"] longer) :
    Request.decode longer.text = Request.decode object.text :=
  congrArg (Except.map Request.ofFields)
    (Shape.decode_widens (show object.Widens (Request.shape.fields.map Field.name) longer from
      widens))

/-- Members of other names than those of a join request do nothing, in particular not those that
are named for what the connection tells. -/
theorem further_members_ignored (isObject : ∃ members, (Json.read body).1 = .object members)
    (accepted : Request.decodeStart body = .ok request) :
    (request.contacted = "" ∧ request.remote = "") ∧
      (∃ object : ObjectText, object.text = body) ∧
        ∀ object longer : ObjectText, object.text = body →
          object.Widens ["token", "hostname", "port", "worker", "callback_token"] longer →
            Request.decode longer.text = Request.decode body ∧
              Request.decodeStart longer.text = .ok request ∧
                ∀ (http : Http.Request) (octets : ByteArray), characters http.body = body →
                  characters octets = longer.text → http.body.size ≤ Http.bodyLimit →
                    (octets.size ≤ Http.bodyLimit → SameJoin request http octets) ∧
                      (Http.bodyLimit < octets.size → http.method = "POST" →
                        (Http.protocolAt? http.route).isSome = true →
                          ∀ surroundings limits world, ∃ error : Http.BodyError,
                            Http.respond surroundings limits { http with body := octets } world =
                              (.failure 400 "invalid_request" error.message, world)) := by
  obtain ⟨members, isObject⟩ := isObject
  obtain ⟨fields, decoded, isRequest⟩ := fields_of_decodeStart accepted
  refine ⟨by rw [isRequest]; exact ⟨rfl, rfl⟩,
    Shape.objectText_of_decodeStart ⟨_, List.mem_cons_self, rfl⟩ isObject decoded, ?_⟩
  rintro object longer rfl widens
  have sameStart : Request.decodeStart longer.text = .ok request :=
    (decodeStart_further widens).trans accepted
  refine ⟨decode_further widens, sameStart, ?_⟩
  intro http octets isBody isLonger small
  refine ⟨fun longerSmall => ?_, fun large posted joins => ?_⟩
  · rw [← isBody] at accepted
    rw [← isLonger] at sameStart
    exact sameJoin_of_decodeStart accepted sameStart small longerSmall
  · exact respond_tooLarge large posted joins

end Further

/-! ## A body with a name in another spelling -/

/-- A join request as an object of its two required members. -/
def shortBody : ObjectText where
  front := []
  members := [memberText "token" (.text "abc"), memberText "port" (.number 25001)]
  behind := []
  isBlank := allSpace_nil
  nonempty := List.cons_ne_nil _ _
  areMembers := by
    simp only [List.forall_mem_cons]
    exact ⟨⟨_, isMember_memberText rfl⟩, ⟨_, isMember_memberText rfl⟩, List.forall_mem_nil _⟩

def shortRequest : Request where
  token := "abc"
  hostname := ""
  port := 25001
  worker := false
  callbackToken := none
  contacted := ""
  remote := ""

/-- A value inside of arrays that stand inside each other. -/
def enclosed : (depth : Nat) → Json → Json
  | 0, value => value
  | depth + 1, value => .array [enclosed depth value]

theorem fits_enclosed (depth : Nat) {value : Json} (fitting : value.fits = true) :
    (enclosed depth value).fits = true := by
  induction depth with
  | zero => exact fitting
  | succ depth inductionHypothesis =>
      rw [enclosed, fits, itemsFit, inductionHypothesis]
      rfl

/-- It is spelled with an escape and holds an array. -/
def remoteMember : List Char :=
  " \"remote_addr\\u0065ss\" : [\"10.0.0.9\", \x7b\"port\": 1.5e3\x7d] ".toList

/-- More arrays stand inside each other than in a value that is kept. -/
def nestedMember : List Char :=
  memberText "hosts" (enclosed Reading.nesting (.text "10.0.0.9"))

def forgingBody : ObjectText :=
  { shortBody with
    members := faultyText "request_host_port" "10.0.0.9".toList ":1".toList :: remoteMember ::
      nestedMember :: shortBody.members
    nonempty := List.cons_ne_nil _ _
    areMembers := by
      simp only [List.forall_mem_cons]
      exact ⟨⟨_, isMember_faultyText _ _ _⟩, ⟨"remote_address", by decide +kernel⟩,
        ⟨_, isMember_memberText (fits_enclosed _ rfl)⟩, shortBody.areMembers⟩ }

def octetsOf (object : ObjectText) : ByteArray :=
  (String.ofList object.text).toUTF8

/-- A body is posted from one node to another. -/
def posting (body : ByteArray) : Http.Request where
  method := "POST"
  path := Protocol.replicatedStore.path
  headers := [("Host", "10.0.0.1:25001".toUTF8), ("Content-Type", "application/json".toUTF8)]
  body := body
  peer := ⟨.v4 0x0a000002, 40000, 0⟩

theorem characters_octetsOf (object : ObjectText) : characters (octetsOf object) = object.text := by
  rw [octetsOf, characters_toUTF8, String.toList_ofList]

/-- The octets of two texts, and between them an octet that is no text. -/
def octetsAround (front back : List Char) : ByteArray :=
  ⟨(String.ofList front).toUTF8.data ++ #[0xFF] ++ (String.ofList back).toUTF8.data⟩

theorem characters_octetsAround (front back : List Char) :
    characters (octetsAround front back) = front ++ (faultMark ++ back) := by
  have behind := characters_toUTF8 (String.ofList back)
  rw [characters_eq_replacing, String.toList_ofList] at behind
  rw [characters_eq_replacing, octetsAround, Array.toList_append, Array.toList_append,
    Utf8.octets_toUTF8, String.toList_ofList, List.append_assoc, Utf8.replacing_encoded,
    List.singleton_append, Utf8.replacing_foreign, behind]

theorem size_octetsAround_le (front back : List Char) :
    (octetsAround front back).size ≤ 4 * front.length + 1 + 4 * back.length := by
  have frontSmall : (String.ofList front).toUTF8.size ≤ 4 * front.length :=
    Text.utf8ByteSize_le_length front
  have backSmall : (String.ofList back).toUTF8.size ≤ 4 * back.length :=
    Text.utf8ByteSize_le_length back
  rw [octetsAround, ByteArray.size, Array.size_append, Array.size_append]
  exact Nat.add_le_add (Nat.add_le_add_right frontSmall 1) backSmall

def forgingOctets : ByteArray :=
  octetsAround "\x7b\"request_host_port\":\"10.0.0.9".toList
    (":1\",".toList ++
      ([','].intercalate (remoteMember :: nestedMember :: shortBody.members) ++ ['}']))

theorem characters_forgingOctets : characters forgingOctets = forgingBody.text := by
  have opened : "\x7b\"request_host_port\":\"10.0.0.9".toList =
      '{' :: (quoted "request_host_port".toList ++ ':' :: '"' ::
        "10.0.0.9".toList.flatMap escape) := by
    decide
  have closed : ":1\",".toList = ":1".toList.flatMap escape ++ ['"', ','] := by decide
  rw [forgingOctets, characters_octetsAround, opened, closed]
  simp [ObjectText.text, forgingBody, faultyText, shortBody, List.intercalate_cons_cons]

theorem small_forgingOctets : forgingOctets.size ≤ Http.bodyLimit :=
  Nat.le_trans (size_octetsAround_le _ _) (by decide +kernel)

theorem forgingBody_ignored :
    Request.decodeStart shortBody.text = .ok shortRequest ∧
      SameJoin shortRequest (posting (octetsOf shortBody)) forgingOctets := by
  have accepted : Request.decodeStart shortBody.text = .ok shortRequest := by decide +kernel
  have widens : shortBody.Widens ["token", "hostname", "port", "worker", "callback_token"]
      forgingBody :=
    ⟨rfl, .further (isMember_faultyText _ _ _) (by decide) (.further
      (show IsMember "remote_address" remoteMember by decide +kernel) (by decide)
      (.further (isMember_memberText (fits_enclosed _ rfl)) (by decide)
        (.keep _ (.keep _ .nil)))), rfl⟩
  obtain ⟨-, -, further⟩ := further_members_ignored shortBody.isObject accepted
  obtain ⟨-, -, posted⟩ := further shortBody forgingBody rfl widens
  exact ⟨accepted, (posted _ _ (characters_octetsOf shortBody) characters_forgingOctets
    (by decide +kernel)).1 small_forgingOctets⟩

/-! ## A body that grows too large -/

def padding (count : Nat) : Json :=
  .text (String.ofList (List.replicate count 'a'))

theorem length_padding (count : Nat) : count ≤ (padding count).render.length := by
  have escaped : (List.replicate count 'a').flatMap escape = List.replicate count 'a' := by
    rw [List.flatMap_replicate]
    exact List.flatten_replicate_singleton
  rw [padding, render, quoted, String.toList_ofList, escaped]
  simp only [List.length_append, List.length_cons, List.length_replicate]
  omega

def paddedBody (count : Nat) : ObjectText :=
  { shortBody with
    members := memberText "pad" (padding count) :: shortBody.members
    nonempty := List.cons_ne_nil _ _
    areMembers := by
      rw [List.forall_mem_cons]
      exact ⟨⟨_, isMember_memberText rfl⟩, shortBody.areMembers⟩ }

theorem widens_paddedBody (count : Nat) :
    shortBody.Widens ["token", "hostname", "port", "worker", "callback_token"]
      (paddedBody count) :=
  ⟨rfl, .further (isMember_memberText rfl) (by decide) (.keep _ (.keep _ .nil)), rfl⟩

theorem length_le_size (object : ObjectText) : object.text.length ≤ (octetsOf object).size :=
  Text.length_le_utf8ByteSize object.text

theorem large_paddedBody (count : Nat) : count < (octetsOf (paddedBody count)).size := by
  -- The body is never computed, only counted: it would be too long for that.
  have padded : count < (paddedBody count).text.length := by
    have long := length_padding count
    have inside : (paddedBody count).text =
        '{' :: (memberText "pad" (padding count) ++ ([','] ++
          [','].intercalate shortBody.members) ++ ['}']) := by
      simp [ObjectText.text, paddedBody, shortBody]
    rw [inside, memberText]
    simp only [List.length_append, List.length_cons]
    omega
  exact Nat.lt_of_lt_of_le padded (length_le_size _)

def promptly : Http.Limits where
  joinTimeout := 10000
  membershipIsHeld := false

theorem body_posting (body : ByteArray) : (posting body).body = body :=
  rfl

theorem route_posting (body : ByteArray) :
    (posting body).route = (posting .empty).route :=
  rfl

theorem posting_shortBody_admitted :
    (Http.respond Rehearsal.quiet promptly (posting (octetsOf shortBody)) movedStore).1.status =
      200 := by
  decide +kernel

theorem posting_paddedBody_refused {count : Nat} (large : Http.bodyLimit ≤ count) :
    (Http.respond Rehearsal.quiet promptly (posting (octetsOf (paddedBody count)))
      movedStore).1.status = 400 := by
  have tooLarge : Http.bodyLimit < (posting (octetsOf (paddedBody count))).body.size := by
    rw [body_posting]
    exact Nat.lt_of_le_of_lt large (large_paddedBody count)
  have joins : (Http.protocolAt? (posting (octetsOf (paddedBody count))).route).isSome = true := by
    rw [route_posting]
    decide +kernel
  obtain ⟨error, refused⟩ := respond_tooLarge tooLarge rfl joins Rehearsal.quiet promptly movedStore
  rw [refused]
  rfl

/-- A further member may make a body so large that the request is refused. -/
theorem padding_may_refuse :
    ¬∀ (object longer : ObjectText) (request : Request),
      Request.decodeStart object.text = .ok request →
        object.Widens ["token", "hostname", "port", "worker", "callback_token"] longer →
          ∀ (http : Http.Request) (octets : ByteArray), characters http.body = object.text →
            characters octets = longer.text →
              ∀ surroundings limits world,
                Http.respond surroundings limits { http with body := octets } world =
                  Http.respond surroundings limits http world := by
  intro ignored
  have accepted : Request.decodeStart shortBody.text = .ok shortRequest := by decide +kernel
  have same (count : Nat) :
      Http.respond Rehearsal.quiet promptly (posting (octetsOf (paddedBody count))) movedStore =
        Http.respond Rehearsal.quiet promptly (posting (octetsOf shortBody)) movedStore :=
    ignored shortBody (paddedBody count) shortRequest accepted (widens_paddedBody count)
      (posting (octetsOf shortBody)) (octetsOf (paddedBody count))
      (characters_octetsOf shortBody) (characters_octetsOf (paddedBody count)) Rehearsal.quiet
      promptly movedStore
  have refused := posting_paddedBody_refused (Nat.le_refl Http.bodyLimit)
  rw [same, posting_shortBody_admitted] at refused
  cases refused

end Join
end ClusterAgent
