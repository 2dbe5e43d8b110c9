namespace ClusterAgent
namespace Http
namespace MediaType

/-! ## Media types -/

/-- The characters of names in headers. -/
def isToken (character : Char) : Bool :=
  character.isAlphanum || "!#$%&'+-.^_`|~".toList.contains character

/-- The characters between quotes. -/
def isQuotable (character : Char) : Bool :=
  31 < character.toNat && character.toNat != 127

/-- What follows the closing quote of a value that is not empty. -/
def afterQuoted : (hasContent : Bool) → List Char → Option (List Char)
  | _, [] => none
  | hasContent, character :: rest =>
      if character = '"' ∧ hasContent then some rest
      else if isQuotable character then afterQuoted true rest
      else none

/-- Whether a text is a list of parameters, each a name, an equals sign and a value. A value
may stand in quotes. -/
def areParameters : (fuel : Nat) → List Char → Bool
  | 0, _ => false
  | _ + 1, [] => true
  | fuel + 1, ' ' :: rest => areParameters fuel rest
  | fuel + 1, text =>
      match text.takeWhile isToken, text.dropWhile isToken with
      | _ :: _, '=' :: '"' :: rest =>
          match afterQuoted false rest with
          | none => false
          | some rest =>
              match rest.dropWhile (· == ' ') with
              | [] => true
              | ';' :: rest => areParameters fuel rest
              | _ => false
      | _ :: _, '=' :: rest =>
          match rest.takeWhile isToken, rest.dropWhile isToken with
          | _, [] => true
          | _ :: _, ';' :: rest => areParameters fuel rest
          | _, _ => false
      | _, _ => false

def lower (text : List Char) : List Char :=
  text.map Char.toLower

/-- The parts of a subtype before and after the last plus sign that is not its first
character. -/
def splitSuffix (subtype : List Char) : List Char × Option (List Char) :=
  match subtype with
  | [] => ([], none)
  | first :: rest =>
      let reversed := rest.reverse
      let suffix := reversed.takeWhile (· != '+')
      match reversed.dropWhile (· != '+') with
      | [] => (subtype, none)
      | _ :: before => (first :: before.reverse, some suffix.reverse)

/-- Whether a text is the media type of JSON, or of a format based on JSON. -/
def isJson (text : List Char) : Bool :=
  match text.takeWhile isToken, text.dropWhile isToken with
  | main, '/' :: rest =>
      let subtype := rest.takeWhile isToken
      let (name, suffix) := splitSuffix (lower subtype)
      let isKnown :=
        lower main == "application".toList &&
          (name == "json".toList || suffix == some "json".toList)
      isKnown &&
        match rest.dropWhile isToken with
        | [] => true
        | ';' :: parameters => areParameters (parameters.length + 1) parameters
        | ' ' :: parameters => areParameters (parameters.length + 1) parameters
        | _ => false
  | _, _ => false

end MediaType
end Http
end ClusterAgent
