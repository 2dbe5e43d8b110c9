namespace ClusterAgent

/-! ## Places in a data directory -/

/-- A place below the data directory, given by the names on the way to it. `text` is the way
as it is shown. Only a directory answers for a place whose text ends in a slash. -/
structure Place where
  names : List String
  text : String
  asDirectory : Bool
  deriving DecidableEq, Repr

namespace Place

/-- The place with these names. -/
def of (names : List String) : Place :=
  ⟨names, "/".intercalate names, false⟩

/-- The names in a text with slashes; empty names and single dots lead nowhere. -/
def namesOf (text : List Char) : List String :=
  ((text.splitOn '/').map String.ofList).filter fun name => name != "" && name != "."

/-- The place that a text with slashes leads to from the directory `above`. -/
def under (above : List String) (text : String) : Place :=
  ⟨above ++ namesOf text.toList, "/".intercalate (above ++ [text]),
    text.isEmpty || text.toList.getLast? == some '/'⟩

/-- The names of the directory that holds the place. -/
def parent (place : Place) : List String :=
  place.names.dropLast

/-- The names of the file that is written before it takes the place. -/
def temporary (place : Place) : List String :=
  place.names.dropLast ++ place.names.getLast?.toList.map (· ++ ".tmp")

end Place
end ClusterAgent
