import ClusterAgent.Yaml.Token.Lexer
namespace ClusterAgent
namespace Yaml

/-! ## Nodes -/

/-- A part of a document. An anchored node has the number of its anchor, by which aliases
name it. -/
inductive Node
  | scalar (text : String) (style : Style) (tag : Option String)
  | sequence (items : List Node)
  | mapping (members : List (Node × Node))
  | anchored (number : Nat) (node : Node)
  | alias (number : Nat)
  deriving Repr

/-- What stands where a node is left out. -/
def Node.empty : Node := .scalar "" .plain none

mutual

/-- The node that an anchor number names: the last one that has it. -/
def Node.named? (number : Nat) : Node → Option Node
  | .scalar _ _ _ => none
  | .alias _ => none
  | .sequence items => namedItem? number items
  | .mapping members => namedMember? number members
  | .anchored other node =>
      (node.named? number).or (if other = number then some node else none)

def namedItem? (number : Nat) : List Node → Option Node
  | [] => none
  | item :: rest => (namedItem? number rest).or (item.named? number)

def namedMember? (number : Nat) : List (Node × Node) → Option Node
  | [] => none
  | (key, value) :: rest =>
      ((namedMember? number rest).or (value.named? number)).or (key.named? number)

end

/-! ## Reading nodes -/

/-- What is left to read: the tokens, and the numbers of the anchors met so far. -/
structure Rest where
  tokens : List Token
  anchors : List (String × Nat)

namespace Rest

def skip (rest : Rest) : Rest := { rest with tokens := rest.tokens.drop 1 }

def starts (rest : Rest) (tokens : List Token) : Bool :=
  match rest.tokens with
  | token :: _ => tokens.contains token
  | [] => false

def isAt (rest : Rest) (token : Token) : Bool := rest.starts [token]

/-- Numbers an anchor. An anchor of a name that is known replaces it, and the number is that
of the anchors known. -/
def define (rest : Rest) (name : String) : Nat × Rest :=
  let number := rest.anchors.length
  (number, { rest with
    anchors := (name, number) :: rest.anchors.filter fun anchor => anchor.1 != name })

end Rest

/-- An anchor and a tag in either order, each optional. -/
def readProperties (rest : Rest) :
    Option String × Option (String × String) × Rest :=
  match rest.tokens with
  | .anchor name :: .tag handle suffix :: tokens =>
      (some name, some (handle, suffix), { rest with tokens := tokens })
  | .tag handle suffix :: .anchor name :: tokens =>
      (some name, some (handle, suffix), { rest with tokens := tokens })
  | .anchor name :: tokens => (some name, none, { rest with tokens := tokens })
  | .tag handle suffix :: tokens => (none, some (handle, suffix), { rest with tokens := tokens })
  | _ => (none, none, rest)

/-- A tag in full. Its handle must be known. -/
def resolveTag (handles : List (String × String)) :
    Option (String × String) → Option (Option String)
  | none => some none
  | some (handle, suffix) =>
      if handle.isEmpty then some (some suffix)
      else (handles.lookup handle).map fun text => some (text ++ suffix)

mutual

/-- A node. Blocks are allowed where `inBlock` holds, and a sequence that is not indented
where `flat` holds. -/
def readNode (handles : List (String × String)) :
    (fuel : Nat) → (inBlock flat : Bool) → Rest → Option (Node × Rest)
  | 0, _, _, _ => none
  | fuel + 1, inBlock, flat, rest =>
      match rest.tokens with
      | .alias name :: _ =>
          (rest.anchors.lookup name).map fun number => (.alias number, rest.skip)
      | _ =>
          let (anchor, tag, rest) := readProperties rest
          match resolveTag handles tag with
          | none => none
          | some fullTag =>
              let (number, rest) :=
                match anchor with
                | none => (none, rest)
                | some name =>
                    let found := rest.define name
                    (some found.1, found.2)
              let found : Option (Node × Rest) :=
                match rest.tokens with
                | .scalar text style :: _ => some (Node.scalar text style fullTag, rest.skip)
                | .flowSequenceStart :: _ =>
                    (readFlowItems handles fuel true rest.skip).map fun found =>
                      (.sequence found.1, found.2)
                | .flowMappingStart :: _ =>
                    (readFlowMembers handles fuel true rest.skip).map fun found =>
                      (.mapping found.1, found.2)
                | token :: _ =>
                    if flat && token == .blockEntry then
                      (readFlatItems handles fuel rest).map fun found =>
                        (.sequence found.1, found.2)
                    else if inBlock && token == .blockSequenceStart then
                      (readBlockItems handles fuel rest.skip).map fun found =>
                        (.sequence found.1, found.2)
                    else if inBlock && token == .blockMappingStart then
                      (readBlockMembers handles fuel rest.skip).map fun found =>
                        (.mapping found.1, found.2)
                    else if anchor.isSome || tag.isSome then
                      some (.scalar "" .plain fullTag, rest)
                    else none
                | [] =>
                    if anchor.isSome || tag.isSome then some (.scalar "" .plain fullTag, rest)
                    else none
              found.map fun found =>
                match number with
                | none => found
                | some number => (.anchored number found.1, found.2)

/-- A node, or an empty one before a token of `stops` and at the end. -/
def readNodeUnless (handles : List (String × String)) :
    (fuel : Nat) → (inBlock flat : Bool) → (stops : List Token) → Rest → Option (Node × Rest)
  | 0, _, _, _, _ => none
  | fuel + 1, inBlock, flat, stops, rest =>
      if rest.starts stops then some (.empty, rest) else readNode handles fuel inBlock flat rest

/-- The items of an indented sequence. -/
def readBlockItems (handles : List (String × String)) :
    (fuel : Nat) → Rest → Option (List Node × Rest)
  | 0, _ => none
  | fuel + 1, rest =>
      if rest.isAt .blockEntry then
        match readNodeUnless handles fuel true false [.blockEntry, .blockEnd] rest.skip with
        | none => none
        | some (item, rest) =>
            (readBlockItems handles fuel rest).map fun found => (item :: found.1, found.2)
      else if rest.isAt .blockEnd then some ([], rest.skip)
      else none

/-- The items of a sequence that is not indented. -/
def readFlatItems (handles : List (String × String)) :
    (fuel : Nat) → Rest → Option (List Node × Rest)
  | 0, _ => none
  | fuel + 1, rest =>
      if rest.isAt .blockEntry then
        match readNodeUnless handles fuel true false [.blockEntry, .key, .value, .blockEnd]
            rest.skip with
        | none => none
        | some (item, rest) =>
            (readFlatItems handles fuel rest).map fun found => (item :: found.1, found.2)
      else some ([], rest)

/-- The members of an indented mapping; either part of a member may be left out. -/
def readBlockMembers (handles : List (String × String)) :
    (fuel : Nat) → Rest → Option (List (Node × Node) × Rest)
  | 0, _ => none
  | fuel + 1, rest =>
      if rest.isAt .blockEnd then some ([], rest.skip)
      else if !rest.isAt .key then none
      else
        let stops := [.key, .value, .blockEnd]
        match readNodeUnless handles fuel true true stops rest.skip with
        | none => none
        | some (key, rest) =>
            let value :=
              if rest.isAt .value then readNodeUnless handles fuel true true stops rest.skip
              else some (.empty, rest)
            match value with
            | none => none
            | some (value, rest) =>
                (readBlockMembers handles fuel rest).map fun found =>
                  ((key, value) :: found.1, found.2)

/-- The items of a sequence in brackets. A single member may stand as an item. -/
def readFlowItems (handles : List (String × String)) :
    (fuel : Nat) → (isFirst : Bool) → Rest → Option (List Node × Rest)
  | 0, _, _ => none
  | fuel + 1, isFirst, rest =>
      if rest.isAt .flowSequenceEnd then some ([], rest.skip)
      else if !isFirst && !rest.isAt .flowEntry then none
      else
        let rest := if isFirst then rest else rest.skip
        if rest.isAt .flowSequenceEnd then some ([], rest.skip)
        else
          let item :=
            if rest.isAt .key then readFlowPair handles fuel rest.skip
            else readNode handles fuel false false rest
          match item with
          | none => none
          | some (item, rest) =>
              (readFlowItems handles fuel false rest).map fun found => (item :: found.1, found.2)

/-- A single member as an item of a sequence in brackets, after the sign of its key. Where the
key is left out, the token in its place is lost. -/
def readFlowPair (handles : List (String × String)) :
    (fuel : Nat) → Rest → Option (Node × Rest)
  | 0, _ => none
  | fuel + 1, rest =>
      let key :=
        if rest.starts [.value, .flowEntry, .flowSequenceEnd] then some (.empty, rest.skip)
        else readNode handles fuel false false rest
      match key with
      | none => none
      | some (key, rest) =>
          let value :=
            if rest.isAt .value then
              readNodeUnless handles fuel false false [.flowEntry, .flowSequenceEnd] rest.skip
            else some (.empty, rest)
          value.map fun found => (.mapping [(key, found.1)], found.2)

/-- The members of a mapping in braces. -/
def readFlowMembers (handles : List (String × String)) :
    (fuel : Nat) → (isFirst : Bool) → Rest → Option (List (Node × Node) × Rest)
  | 0, _, _ => none
  | fuel + 1, isFirst, rest =>
      if rest.isAt .flowMappingEnd then some ([], rest.skip)
      else if !isFirst && !rest.isAt .flowEntry then none
      else
        let rest := if isFirst then rest else rest.skip
        if rest.isAt .flowMappingEnd then some ([], rest.skip)
        else
          let stops := [.value, .flowEntry, .flowMappingEnd]
          let key :=
            if rest.isAt .key then readNodeUnless handles fuel false false stops rest.skip
            else readNode handles fuel false false rest
          match key with
          | none => none
          | some (node, after) =>
              let value :=
                if rest.isAt .key && after.isAt .value then
                  readNodeUnless handles fuel false false [.flowEntry, .flowMappingEnd] after.skip
                else some (.empty, after)
              match value with
              | none => none
              | some (value, rest) =>
                  (readFlowMembers handles fuel false rest).map fun found =>
                    ((node, value) :: found.1, found.2)

end

/-! ## Documents -/

/-- The tag handles that every document knows. -/
def defaultHandles : List (String × String) :=
  [("!", "!"), ("!!", "tag:yaml.org,2002:")]

/-- The directives at the start of a document: at most one version, which must be 1.1 or 1.2,
and tag handles, each once. -/
def readDirectives : (hasVersion : Bool) → (handles : List (String × String)) → List Token →
    Option (List (String × String) × List Token)
  | hasVersion, handles, .versionDirective major minor :: rest =>
      if hasVersion || major != 1 || !(minor == 1 || minor == 2) then none
      else readDirectives true handles rest
  | hasVersion, handles, .tagDirective handle text :: rest =>
      if (handles.lookup handle).isSome then none
      else readDirectives hasVersion (handles ++ [(handle, text)]) rest
  | _, handles, tokens => some (handles, tokens)

/-- Whether a token begins or ends a document. -/
def Token.isDocumentSign : Token → Bool
  | .versionDirective _ _ => true
  | .tagDirective _ _ => true
  | .documentStart => true
  | .documentEnd => true
  | _ => false

/-- The single document of a text; a text without any is an empty node. -/
def Node.ofTokens? (tokens : List Token) : Option Node := do
  let (handles, rest) ← readDirectives false [] tokens
  let hasDirectives := rest.length != tokens.length
  let handles := handles ++ defaultHandles
  let fuel := 4 * tokens.length + 4
  match rest with
  | [] => if hasDirectives then none else some .empty
  | token :: content =>
      let isExplicit := token == .documentStart
      if hasDirectives && !isExplicit then none
      let content := if isExplicit then content else token :: content
      let isEmpty :=
        isExplicit &&
          match content with
          | [] => true
          | token :: _ => token.isDocumentSign
      let (node, rest) ←
        if isEmpty then some (.empty, ⟨content, []⟩)
        else readNode handles fuel true false ⟨content, []⟩
      if rest.tokens.all fun token => token == .documentEnd then some node else none

/-- The single document that a text writes. -/
def Node.ofText? (text : List Char) : Option Node :=
  (Token.scan text).bind Node.ofTokens?

end Yaml
end ClusterAgent
