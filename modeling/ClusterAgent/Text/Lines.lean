namespace ClusterAgent
namespace Text

/-! ## Lines -/

/-- The lines of a text. A line ends with a line feed, before which one carriage return
is dropped; characters after the last line feed form a last line, in which a carriage
return stays. -/
def lines : List Char → List (List Char)
  | [] => []
  | '\n' :: rest => [] :: lines rest
  | '\r' :: '\n' :: rest => [] :: lines rest
  | character :: rest =>
      match lines rest, rest with
      | line :: others, _ :: _ => (character :: line) :: others
      | _, _ => [[character]]

/-- The text in which every line is ended by a line feed. -/
def unlines (items : List (List Char)) : List Char :=
  items.flatMap fun line => line ++ ['\n']

/-! ## Splitting -/

/-- The parts before and after the first occurrence of `separator`. -/
def splitOnce (separator : Char) : List Char → Option (List Char × List Char)
  | [] => none
  | character :: rest =>
      if character = separator then some ([], rest)
      else (splitOnce separator rest).map fun parts => (character :: parts.1, parts.2)

/-- The parts before and after the first occurrence of the text `pattern`. -/
def splitAtText (pattern : List Char) : List Char → Option (List Char × List Char)
  | [] => if pattern.isEmpty then some ([], []) else none
  | character :: rest =>
      match pattern.isPrefixOf? (character :: rest) with
      | some after => some ([], after)
      | none =>
          (splitAtText pattern rest).map fun parts => (character :: parts.1, parts.2)

end Text
end ClusterAgent
