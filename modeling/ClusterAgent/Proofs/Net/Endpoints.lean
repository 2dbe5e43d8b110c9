import Mathlib.Data.List.Basic
import ClusterAgent.Net.Endpoints
import ClusterAgent.Proofs.Net.HostPort
import ClusterAgent.Proofs.Text.Words
namespace ClusterAgent

open Text

namespace Endpoints

/-! ## Endpoints by their parts -/

structure Endpoint where
  scheme : Option (List Char)
  host : List Char
  bracketed : Bool
  port : Option (List Char)
  slashes : Nat
  deriving DecidableEq, Repr

namespace Endpoint

/-- The host, in brackets if it has them. -/
def hostText (endpoint : Endpoint) : List Char :=
  if endpoint.bracketed then '[' :: endpoint.host ++ [']'] else endpoint.host

def portText (endpoint : Endpoint) : List Char :=
  match endpoint.port with
  | none => []
  | some port => ':' :: port

def schemeText (endpoint : Endpoint) : List Char :=
  match endpoint.scheme with
  | none => []
  | some scheme => scheme ++ "://".toList

def authority (endpoint : Endpoint) : List Char :=
  endpoint.hostText ++ endpoint.portText

def text (endpoint : Endpoint) : List Char :=
  endpoint.schemeText ++ (endpoint.authority ++ List.replicate endpoint.slashes '/')

/-- The parts can be told apart in the text of the endpoint. A colon in the host needs brackets. -/
structure WellFormed (endpoint : Endpoint) : Prop where
  scheme : ∀ scheme ∈ endpoint.scheme, Solid scheme ∧ ':' ∉ scheme ∧ ',' ∉ scheme
  hostNonempty : endpoint.host ≠ []
  hostSolid : Solid endpoint.host
  hostPlain : ',' ∉ endpoint.host ∧ '/' ∉ endpoint.host
  hostInside : '[' ∉ endpoint.host ∧ ']' ∉ endpoint.host
  hostColon : ':' ∈ endpoint.host → endpoint.bracketed = true
  port : ∀ port ∈ endpoint.port, port ≠ [] ∧ port.all Char.isDigit = true

instance (endpoint : Endpoint) : Decidable endpoint.WellFormed :=
  decidable_of_iff
    ((∀ scheme ∈ endpoint.scheme, Solid scheme ∧ ':' ∉ scheme ∧ ',' ∉ scheme) ∧
      (endpoint.host ≠ [] ∧ Solid endpoint.host ∧
        (',' ∉ endpoint.host ∧ '/' ∉ endpoint.host) ∧
          ('[' ∉ endpoint.host ∧ ']' ∉ endpoint.host) ∧
            (':' ∈ endpoint.host → endpoint.bracketed = true)) ∧
        ∀ port ∈ endpoint.port, port ≠ [] ∧ port.all Char.isDigit = true)
    ⟨fun ⟨scheme, ⟨nonempty, solid, plain, inside, colon⟩, port⟩ =>
        ⟨scheme, nonempty, solid, plain, inside, colon, port⟩,
      fun fits => ⟨fits.scheme,
        ⟨fits.hostNonempty, fits.hostSolid, fits.hostPlain, fits.hostInside, fits.hostColon⟩,
        fits.port⟩⟩

end Endpoint

/-! ## Texts around an authority -/

section Texts

variable {front scheme : List Char}

theorem splitAtText_scheme (noColon : ':' ∉ scheme) (rest : List Char) :
    splitAtText "://".toList (scheme ++ ("://".toList ++ rest)) = some (scheme, rest) := by
  have marks : "://".toList = ':' :: "//".toList := rfl
  rw [marks, splitAtText_skip noColon, splitAtText_here, Option.map_some, List.append_nil]

theorem splitAtText_slashes (count : Nat) :
    splitAtText "://".toList (List.replicate count '/') = none := by
  induction count with
  | zero => rfl
  | succ count inductionHypothesis =>
      rw [List.replicate_succ, splitAtText, inductionHypothesis]
      rfl

/-- Slashes behind a text make no `://` with it unless it ends with a colon. -/
theorem splitAtText_none (noSlash : '/' ∉ front) (last : front.getLast? ≠ some ':')
    (count : Nat) : splitAtText "://".toList (front ++ List.replicate count '/') = none := by
  induction front with
  | nil => exact splitAtText_slashes count
  | cons character front inductionHypothesis =>
      have noSlashLater := List.not_mem_of_not_mem_cons noSlash
      have notHere : "://".toList.isPrefixOf?
          (character :: (front ++ List.replicate count '/')) = none := by
        refine isPrefixOf?_eq_none fun isFront => ?_
        obtain ⟨isColon, laterFront⟩ := List.cons_prefix_cons.mp isFront
        cases front with
        | nil => exact last (by rw [← isColon]; rfl)
        | cons next front =>
            have notSlash : '/' ≠ next := List.ne_of_not_mem_cons noSlashLater
            exact notSlash (List.cons_prefix_cons.mp laterFront).1
      have lastLater : front.getLast? ≠ some ':' := by
        cases front with
        | nil => simp
        | cons next front => rwa [List.getLast?_cons_cons] at last
      rw [List.cons_append, splitAtText, notHere, inductionHypothesis noSlashLater lastLater]
      rfl

theorem withoutTrailingSlashes_append (noSlash : '/' ∉ front) (count : Nat) :
    withoutTrailingSlashes (front ++ List.replicate count '/') = front := by
  have slashes : ∀ character ∈ List.replicate count '/', (character == '/') = true := by
    intro character member
    rw [List.eq_of_mem_replicate member]
    rfl
  have kept : front.reverse.dropWhile (· == '/') = front.reverse := by
    rcases shape : front.reverse with _ | ⟨last, rest⟩
    · rfl
    · have notSlash : last ≠ '/' := by
        rintro rfl
        refine noSlash (List.mem_reverse.mp ?_)
        rw [shape]
        exact List.mem_cons_self
      rw [List.dropWhile_cons_of_neg (by simpa using notSlash)]
  rw [withoutTrailingSlashes, List.reverse_append, List.reverse_replicate,
    List.dropWhile_append_of_pos slashes, kept, List.reverse_reverse]

end Texts

/-! ## Endpoints that are read -/

section Reading

variable {endpoint : Endpoint}

theorem mem_authority (wellFormed : endpoint.WellFormed) {character : Char}
    (member : character ∈ endpoint.authority) :
    character ∈ endpoint.host ∨ character ∈ ['[', ']', ':'] ∨ character.isDigit = true := by
  rcases List.mem_append.mp member with inHost | inPort
  · rw [Endpoint.hostText] at inHost
    split at inHost
    · simp only [List.cons_append, List.mem_cons, List.mem_append, List.not_mem_nil,
        or_false] at inHost
      rcases inHost with rfl | inHost | rfl
      · simp
      · exact Or.inl inHost
      · simp
    · exact Or.inl inHost
  · rw [Endpoint.portText] at inPort
    split at inPort
    · cases inPort
    · rename_i port given
      rcases List.mem_cons.mp inPort with rfl | inDigits
      · simp
      · have digits := List.all_eq_true.mp (wellFormed.port port given).2
        exact Or.inr (Or.inr (digits character inDigits))

theorem solid_authority (wellFormed : endpoint.WellFormed) : Solid endpoint.authority := by
  have marksSolid : Solid ['[', ']', ':'] := by decide
  intro character member
  rcases mem_authority wellFormed member with inHost | isMark | isDigit
  · exact wellFormed.hostSolid character inHost
  · exact marksSolid character isMark
  · exact isBlank_of_isDigit isDigit

theorem not_mem_authority (wellFormed : endpoint.WellFormed) {mark : Char}
    (notHost : mark ∉ endpoint.host) (notMark : mark ∉ ['[', ']', ':'])
    (notDigit : mark.isDigit = false) : mark ∉ endpoint.authority := by
  intro member
  rcases mem_authority wellFormed member with inHost | isMark | isDigit
  · exact notHost inHost
  · exact notMark isMark
  · rw [isDigit] at notDigit
    cases notDigit

theorem comma_not_mem_authority (wellFormed : endpoint.WellFormed) :
    ',' ∉ endpoint.authority :=
  not_mem_authority wellFormed wellFormed.hostPlain.1 (by decide) rfl

theorem slash_not_mem_authority (wellFormed : endpoint.WellFormed) :
    '/' ∉ endpoint.authority :=
  not_mem_authority wellFormed wellFormed.hostPlain.2 (by decide) rfl

theorem hostText_ne_nil (wellFormed : endpoint.WellFormed) : endpoint.hostText ≠ [] := by
  rw [Endpoint.hostText]
  split
  · simp
  · exact wellFormed.hostNonempty

theorem authority_ne_nil (wellFormed : endpoint.WellFormed) : endpoint.authority ≠ [] :=
  List.append_ne_nil_of_left_ne_nil (hostText_ne_nil wellFormed) _

theorem getLast?_authority (wellFormed : endpoint.WellFormed) :
    endpoint.authority.getLast? ≠ some ':' := by
  intro last
  rw [Endpoint.authority, Endpoint.portText] at last
  rcases given : endpoint.port with _ | port
  · rw [given, List.append_nil, Endpoint.hostText] at last
    split at last
    · rw [List.getLast?_concat] at last
      cases last
    · rename_i notBracketed
      exact notBracketed (wellFormed.hostColon (List.mem_of_getLast? last))
  · obtain ⟨nonempty, digits⟩ := wellFormed.port port given
    rcases List.eq_nil_or_concat port with empty | ⟨front, digit, rfl⟩
    · exact nonempty empty
    · have regroup : endpoint.hostText ++ ':' :: front.concat digit =
          (endpoint.hostText ++ ':' :: front) ++ [digit] := by simp
      rw [given] at last
      dsimp only at last
      rw [regroup, List.getLast?_concat] at last
      obtain rfl := Option.some.inj last
      cases List.all_eq_true.mp digits ':' (by simp)

theorem colon_not_mem_of_digits {port : List Char} (digits : port.all Char.isDigit = true) :
    ':' ∉ port := by
  intro member
  cases List.all_eq_true.mp digits ':' member

theorem splitTrimmed_authority (wellFormed : endpoint.WellFormed) :
    HostPort.splitTrimmed endpoint.authority = (endpoint.host, endpoint.port) := by
  obtain ⟨noOpen, noClose⟩ := wellFormed.hostInside
  have portKept : ∀ port ∈ endpoint.port, HostPort.nonempty port = some port := by
    intro port given
    have nonempty := (wellFormed.port port given).1
    rw [HostPort.nonempty, if_neg (by simpa using nonempty)]
  rw [Endpoint.authority, Endpoint.hostText, Endpoint.portText]
  by_cases bracketed : endpoint.bracketed = true
  · rw [if_pos bracketed]
    rcases given : endpoint.port with _ | port
    · rw [List.append_nil]
      exact HostPort.splitTrimmed_brackets_only noClose
    · have whole : '[' :: endpoint.host ++ [']'] ++ ':' :: port =
          '[' :: endpoint.host ++ ']' :: ':' :: port := by simp
      dsimp only
      rw [whole, HostPort.splitTrimmed_brackets noClose, portKept port given]
  · rw [if_neg bracketed]
    have noColon : ':' ∉ endpoint.host := fun member => bracketed (wellFormed.hostColon member)
    rcases given : endpoint.port with _ | port
    · rw [List.append_nil]
      exact HostPort.splitTrimmed_bare noOpen noColon
    · have single : ':' ∉ port := colon_not_mem_of_digits (wellFormed.port port given).2
      dsimp only
      rw [HostPort.splitTrimmed_colon noOpen noColon single, portKept port given]

theorem withoutScheme_text (wellFormed : endpoint.WellFormed) :
    withoutScheme endpoint.text =
      endpoint.authority ++ List.replicate endpoint.slashes '/' := by
  have noSlash := slash_not_mem_authority wellFormed
  rw [withoutScheme, Endpoint.text, Endpoint.schemeText]
  rcases given : endpoint.scheme with _ | scheme
  · rw [List.nil_append, splitAtText_none noSlash (getLast?_authority wellFormed)]
  · obtain ⟨_, noColon, _⟩ := wellFormed.scheme scheme given
    rw [List.append_assoc, splitAtText_scheme noColon]

theorem hostOf_text (wellFormed : endpoint.WellFormed) :
    hostOf endpoint.text = String.ofList endpoint.host := by
  have noSlash := slash_not_mem_authority wellFormed
  rw [hostOf, withoutScheme_text wellFormed, withoutTrailingSlashes_append noSlash,
    HostPort.split, String.toList_ofList, trim_eq_self (solid_authority wellFormed),
    splitTrimmed_authority wellFormed]

theorem mem_text (wellFormed : endpoint.WellFormed) {character : Char}
    (member : character ∈ endpoint.text) :
    isBlank character = false ∧ character ≠ ',' := by
  have marksSolid : Solid "://".toList := by decide
  have marksNoComma : ',' ∉ "://".toList := by decide
  rcases List.mem_append.mp member with inScheme | inRest
  · rw [Endpoint.schemeText] at inScheme
    split at inScheme
    · cases inScheme
    · rename_i scheme given
      obtain ⟨solid, _, noComma⟩ := wellFormed.scheme scheme given
      rcases List.mem_append.mp inScheme with inName | inMark
      · exact ⟨solid character inName, fun isComma => noComma (isComma ▸ inName)⟩
      · exact ⟨marksSolid character inMark, fun isComma => marksNoComma (isComma ▸ inMark)⟩
  · rcases List.mem_append.mp inRest with inAuthority | inSlashes
    · refine ⟨solid_authority wellFormed character inAuthority, ?_⟩
      rintro rfl
      exact comma_not_mem_authority wellFormed inAuthority
    · rw [List.eq_of_mem_replicate inSlashes]
      decide

theorem solid_text (wellFormed : endpoint.WellFormed) : Solid endpoint.text :=
  fun _ member => (mem_text wellFormed member).1

theorem comma_not_mem_text (wellFormed : endpoint.WellFormed) : ',' ∉ endpoint.text :=
  fun member => (mem_text wellFormed member).2 rfl

theorem text_ne_nil (wellFormed : endpoint.WellFormed) : endpoint.text ≠ [] := by
  have nonempty := authority_ne_nil wellFormed
  simp [Endpoint.text, nonempty]

end Reading

/-! ## Lists of endpoints -/

/-- The text of endpoints with nothing but commas between them. -/
def textOf (endpoints : List Endpoint) : List Char :=
  [','].intercalate (endpoints.map Endpoint.text)

def hostsOf (endpoints : List Endpoint) : List String :=
  endpoints.map fun endpoint => String.ofList endpoint.host

theorem intercalate_cons (part : List Char) (parts : List (List Char)) :
    [','].intercalate (part :: parts) = part ++ parts.flatMap fun other => ',' :: other := by
  induction parts generalizing part with
  | nil => simp [List.intercalate]
  | cons next parts inductionHypothesis =>
      rw [List.intercalate_cons_cons, inductionHypothesis next, List.flatMap_cons]
      simp

theorem textOf_single (endpoint : Endpoint) : textOf [endpoint] = endpoint.text := by
  simp [textOf]

theorem textOf_cons (first : Endpoint) (rest : List Endpoint) :
    textOf (first :: rest) =
      first.text ++ rest.flatMap fun endpoint => ',' :: endpoint.text := by
  rw [textOf, List.map_cons, intercalate_cons, List.flatMap_map]

theorem textOf_concat {front : List Endpoint} (nonempty : front ≠ []) (endpoint : Endpoint) :
    textOf (front ++ [endpoint]) = textOf front ++ ',' :: endpoint.text := by
  rcases front with _ | ⟨first, rest⟩
  · exact absurd rfl nonempty
  · rw [List.cons_append, textOf_cons, textOf_cons, List.flatMap_append, List.flatMap_singleton,
      List.append_assoc]

theorem mem_textOf {endpoints : List Endpoint} {character : Char}
    (member : character ∈ textOf endpoints) :
    character = ',' ∨ ∃ endpoint ∈ endpoints, character ∈ endpoint.text := by
  rcases endpoints with _ | ⟨first, rest⟩
  · cases member
  rw [textOf_cons] at member
  rcases List.mem_append.mp member with inFirst | inRest
  · exact Or.inr ⟨first, List.mem_cons_self, inFirst⟩
  · obtain ⟨endpoint, isListed, inPart⟩ := List.mem_flatMap.mp inRest
    exact (List.mem_cons.mp inPart).imp_right fun inText =>
      ⟨endpoint, List.mem_cons_of_mem _ isListed, inText⟩

theorem solid_textOf {endpoints : List Endpoint}
    (fits : ∀ endpoint ∈ endpoints, endpoint.WellFormed) : Solid (textOf endpoints) := by
  intro character member
  rcases mem_textOf member with rfl | ⟨endpoint, isListed, inText⟩
  · rfl
  · exact solid_text (fits endpoint isListed) character inText

/-! ## Hosts of a list, item by item -/

/-- A comma parts the hosts before it from those behind it. -/
theorem hosts_append (left right : List Char) :
    hosts (String.ofList (left ++ ',' :: right)) =
      hosts (String.ofList left) ++ hosts (String.ofList right) := by
  simp only [hosts, String.toList_ofList, List.splitOn_append_cons_self, List.map_append,
    List.filter_append]

theorem hosts_of_item {part : List Char} (noComma : ',' ∉ part) :
    hosts (String.ofList part) =
      if (trim part).isEmpty then [] else [hostOf (trim part)] := by
  rw [hosts, String.toList_ofList, List.splitOn_eq_singleton noComma, List.map_singleton,
    List.filter_singleton]
  rcases (trim part).isEmpty with _ | _ <;> rfl

theorem comma_not_mem_blanks {blanks : List Char} (blank : blanks.all isBlank = true) :
    ',' ∉ blanks := by
  intro member
  cases List.all_eq_true.mp blank ',' member

theorem hosts_of_blanks {blanks : List Char} (blank : blanks.all isBlank = true) :
    hosts (String.ofList blanks) = [] := by
  have nothing : trim blanks = [] := trim_append_blanks (List.all_eq_true.mp blank) []
  rw [hosts_of_item (comma_not_mem_blanks blank), nothing]
  rfl

/-- An endpoint is read whatever blanks stand around it. -/
theorem hosts_of_endpoint {front back : List Char} {endpoint : Endpoint}
    (blankFront : front.all isBlank = true) (wellFormed : endpoint.WellFormed)
    (blankBack : back.all isBlank = true) :
    hosts (String.ofList (front ++ endpoint.text ++ back)) = [String.ofList endpoint.host] := by
  have noComma : ',' ∉ front ++ endpoint.text ++ back := by
    simp only [List.mem_append, not_or]
    exact ⟨⟨comma_not_mem_blanks blankFront, comma_not_mem_text wellFormed⟩,
      comma_not_mem_blanks blankBack⟩
  have trimmed : trim (front ++ endpoint.text ++ back) = endpoint.text := by
    rw [trim_surrounded (List.all_eq_true.mp blankFront) (List.all_eq_true.mp blankBack),
      trim_eq_self (solid_text wellFormed)]
  rw [hosts_of_item noComma, trimmed, if_neg (by simpa using text_ne_nil wellFormed),
    hostOf_text wellFormed]

theorem hosts_of_text {endpoint : Endpoint} (wellFormed : endpoint.WellFormed) :
    hosts (String.ofList endpoint.text) = [String.ofList endpoint.host] := by
  have alone : hosts (String.ofList ([] ++ endpoint.text ++ [])) = _ :=
    hosts_of_endpoint rfl wellFormed rfl
  rwa [List.nil_append, List.append_nil] at alone

theorem hosts_intercalate (parts : List (List Char)) :
    hosts (String.ofList ([','].intercalate parts)) =
      parts.flatMap fun part => hosts (String.ofList part) := by
  induction parts with
  | nil => rfl
  | cons part parts inductionHypothesis =>
      cases parts with
      | nil => simp
      | cons next parts =>
          rw [List.flatMap_cons, List.intercalate_cons_cons, List.append_assoc,
            List.singleton_append, hosts_append, inductionHypothesis]

theorem hosts_textOf {endpoints : List Endpoint}
    (fits : ∀ endpoint ∈ endpoints, endpoint.WellFormed) :
    hosts (String.ofList (textOf endpoints)) = hostsOf endpoints := by
  rw [textOf, hosts_intercalate, List.flatMap_map, hostsOf, List.map_eq_flatMap]
  exact List.flatMap_congr fun endpoint member => hosts_of_text (fits endpoint member)

/-- Endpoints as they are listed: each but the first stands behind a comma and blanks. -/
structure Listing where
  first : Endpoint
  others : List (List Char × Endpoint)
  deriving DecidableEq, Repr

namespace Listing

def endpoints (listing : Listing) : List Endpoint :=
  listing.first :: listing.others.map Prod.snd

def text (listing : Listing) : List Char :=
  [','].intercalate
    (listing.first.text :: listing.others.map fun item => item.1 ++ item.2.text)

/-- The blanks are blank, and the endpoints are well-formed. -/
structure WellFormed (listing : Listing) : Prop where
  first : listing.first.WellFormed
  others : ∀ item ∈ listing.others, item.1.all isBlank = true ∧ item.2.WellFormed

instance (listing : Listing) : Decidable listing.WellFormed :=
  decidable_of_iff
    (listing.first.WellFormed ∧
      ∀ item ∈ listing.others, item.1.all isBlank = true ∧ item.2.WellFormed)
    ⟨fun ⟨first, others⟩ => ⟨first, others⟩, fun fits => ⟨fits.first, fits.others⟩⟩

end Listing

section Lists

variable {listing : Listing}

theorem Listing.WellFormed.endpoints (wellFormed : listing.WellFormed) :
    ∀ endpoint ∈ listing.endpoints, endpoint.WellFormed := by
  refine List.forall_mem_cons.mpr ⟨wellFormed.first, fun endpoint member => ?_⟩
  obtain ⟨item, isOther, rfl⟩ := List.mem_map.mp member
  exact (wellFormed.others item isOther).2

/-- Whoever reads the list as a whole finds the hosts of all its endpoints. -/
theorem hosts_listing (wellFormed : listing.WellFormed) :
    hosts (String.ofList listing.text) = hostsOf listing.endpoints := by
  have others : (listing.others.flatMap fun item =>
      hosts (String.ofList (item.1 ++ item.2.text))) = hostsOf (listing.others.map Prod.snd) := by
    rw [hostsOf, List.map_map, List.map_eq_flatMap]
    refine List.flatMap_congr fun item isOther => ?_
    obtain ⟨blank, fits⟩ := wellFormed.others item isOther
    rw [← List.append_nil (item.1 ++ item.2.text)]
    exact hosts_of_endpoint blank fits rfl
  rw [Listing.text, hosts_intercalate, List.flatMap_cons, List.flatMap_map, others,
    hosts_of_text wellFormed.first]
  rfl

end Lists

/-! ## Lists with blanks and empty items -/

/-- The text spells the endpoints one after another: commas part its items, around each of which
blanks may stand and each of which may be empty. -/
inductive Spells : List Endpoint → List Char → Prop
  | empty {blanks : List Char} (blank : blanks.all isBlank = true) : Spells [] blanks
  | item {front back : List Char} {endpoint : Endpoint} (blankFront : front.all isBlank = true)
      (wellFormed : endpoint.WellFormed) (blankBack : back.all isBlank = true) :
      Spells [endpoint] (front ++ endpoint.text ++ back)
  | comma {first second : List Endpoint} {left right : List Char} (spellsLeft : Spells first left)
      (spellsRight : Spells second right) : Spells (first ++ second) (left ++ ',' :: right)

/-- The hosts of a list are those of the endpoints that its text spells, in their order and one
for each endpoint. -/
theorem hosts_read_completely {endpoints : List Endpoint} {text : List Char}
    (spells : Spells endpoints text) :
    hosts (String.ofList text) = endpoints.map fun endpoint => String.ofList endpoint.host := by
  induction spells with
  | empty blank => exact hosts_of_blanks blank
  | item blankFront wellFormed blankBack => exact hosts_of_endpoint blankFront wellFormed blankBack
  | comma _ _ left right => rw [hosts_append, left, right, List.map_append]

/-- An endpoint with all its parts. -/
def secureEndpoint : Endpoint :=
  ⟨some "https".toList, "10.0.0.1".toList, false, some "2379".toList, 1⟩

def bracketedEndpoint : Endpoint :=
  ⟨none, "fd00::1".toList, true, some "2379".toList, 2⟩

def namedEndpoint : Endpoint :=
  ⟨none, "etcd".toList, false, none, 0⟩

theorem spells_ragged :
    Spells [secureEndpoint, bracketedEndpoint, namedEndpoint]
      " https://10.0.0.1:2379/ ,\t,[fd00::1]:2379//,etcd,".toList := by
  have secure : Spells [secureEndpoint] ([' '] ++ secureEndpoint.text ++ [' ']) :=
    .item (by decide) (by decide) (by decide)
  have bracketed : Spells [bracketedEndpoint] ([] ++ bracketedEndpoint.text ++ []) :=
    .item rfl (by decide) rfl
  have named : Spells [namedEndpoint] ([] ++ namedEndpoint.text ++ []) :=
    .item rfl (by decide) rfl
  have gap : Spells [] ['\t'] := .empty (by decide)
  exact .comma secure (.comma gap (.comma bracketed (.comma named (.empty rfl))))

theorem hosts_ragged :
    hosts " https://10.0.0.1:2379/ ,\t,[fd00::1]:2379//,etcd," = ["10.0.0.1", "fd00::1", "etcd"] :=
  hosts_read_completely spells_ragged

end Endpoints
end ClusterAgent
