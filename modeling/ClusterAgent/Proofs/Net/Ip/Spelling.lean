import ClusterAgent.Proofs.Net.Ip.Numbers
namespace ClusterAgent

open Text

namespace IpAddress

/-! ## The texts of an address -/

/-- A group between colons: up to four digits of either case, with zeros in front or not. -/
structure IsGroup (piece : List Char) (group : Nat) : Prop where
  numeral : Numeral 16 piece group
  short : piece.length ≤ 4

/-- What stands between colons, with the groups that it fills. A dotted address may stand last, and
whether one does is told apart. -/
inductive Pieces : (endsDotted : Bool) → List (List Char) → List Nat → Prop
  | nil : Pieces false [] []
  | last (bits : BitVec 32) : Pieces true [dotted bits] (groupsOfOctets (octets bits))
  | cons {endsDotted : Bool} {piece : List Char} {group : Nat} {pieces : List (List Char)}
      {items : List Nat} (first : IsGroup piece group) (later : Pieces endsDotted pieces items) :
      Pieces endsDotted (piece :: pieces) (group :: items)

/-- Pieces with colons between them. -/
def joined (pieces : List (List Char)) : List Char :=
  List.intercalate [':'] pieces

/-- Eight groups are written one by one, or with a double colon for the zeros that are missing. No
dotted address stands in front of a double colon. -/
inductive SpellsGroups : List Char → List Nat → Prop
  | whole {endsDotted : Bool} {pieces : List (List Char)} {items : List Nat}
      (written : Pieces endsDotted pieces items) (eight : items.length = 8) :
      SpellsGroups (joined pieces) items
  | shortened {endsDotted : Bool} {front back : List (List Char)} {head tail : List Nat}
      (writtenFront : Pieces false front head) (writtenBack : Pieces endsDotted back tail)
      (missing : head.length + tail.length < 8) :
      SpellsGroups (joined front ++ ':' :: ':' :: joined back)
        (head ++ List.replicate (8 - head.length - tail.length) 0 ++ tail)

/-- The text writes the address. -/
inductive Spells : List Char → IpAddress → Prop
  | v4 (bits : BitVec 32) : Spells (dotted bits) (.v4 bits)
  | v6 {text : List Char} {bits : BitVec 128} (written : SpellsGroups text (groups bits)) :
      Spells text (.v6 bits)

/-! ## Dotted addresses -/

theorem dotted_eq (bits : BitVec 32) :
    ∃ first second third fourth,
      octets bits = [first, second, third, fourth] ∧
        dotted bits = decimal first ++ '.' :: (decimal second ++ '.' ::
          (decimal third ++ '.' :: decimal fourth)) := by
  refine ⟨_, _, _, _, rfl, ?_⟩
  simp [dotted, octets, List.intercalate]

section Reading

variable {value : Type} {reader : Reader value} {found : value × List Char}
  {text rest : List Char}

/-- What stands in front of an item of a list. -/
def lead (separator : Char) (first : Bool) : List Char :=
  if first then [] else [separator]

theorem readChar_eq_some_iff {expected : Char} {result : Unit} :
    readChar expected text = some (result, rest) ↔ text = expected :: rest := by
  cases text with
  | nil => simp [readChar]
  | cons character text => simp [readChar]

theorem readSeparated_eq_some_iff {separator : Char} {first : Bool} :
    readSeparated separator first reader text = some found ↔
      ∃ later, text = lead separator first ++ later ∧ reader later = some found := by
  cases first with
  | true => simp [readSeparated, lead]
  | false =>
      cases text with
      | nil => simp [readSeparated, readChar, lead]
      | cons character text =>
          by_cases isSeparator : character = separator
          · simp [readSeparated, readChar, lead, isSeparator]
          · simp [readSeparated, readChar, lead, isSeparator]

theorem readSeparated_lead (separator : Char) (first : Bool) :
    readSeparated separator first reader (lead separator first ++ text) = reader text := by
  cases first with
  | true => rfl
  | false => simp [readSeparated, readChar, lead]

/-- An octet has one text. -/
theorem readOctet_eq_some_iff {octet : Nat} :
    readOctet text = some (octet, rest) ↔
      octet < 256 ∧ text = decimal octet ++ rest ∧ EndsDigits 10 rest := by
  constructor
  · intro read
    obtain ⟨digits, shape, numeral, _, unpadded, small, ends⟩ := numeral_of_readNumber read
    rw [numeral.eq_toDigits (by decide) (by decide) (unpadded rfl)] at shape
    exact ⟨small, shape, ends⟩
  · rintro ⟨small, rfl, ends⟩
    refine readNumber_numeral (numeral_toDigits (by decide) (by decide)) ?_
      (fun _ => unpadded_toDigits (by decide)) small ends
    rintro bound ⟨⟩
    exact (Nat.length_toDigits_le_iff (by decide) (by decide)).mpr (by omega)

theorem endsDigits_cons {base : Nat} {next : Char} (notDigit : digitValue? base next = none) :
    EndsDigits base (next :: rest) := by
  rintro _ ⟨⟩
  exact notDigit

/-- The dotted text of an address is the only one. -/
theorem readDotted_eq_some_iff {items : List Nat} :
    readDotted text = some (items, rest) ↔
      ∃ bits, items = octets bits ∧ text = dotted bits ++ rest ∧ EndsDigits 10 rest := by
  simp only [readDotted, Option.bind_eq_bind, Option.bind_eq_some_iff, Prod.exists,
    readSeparated_eq_some_iff, readOctet_eq_some_iff, Option.pure_def, Option.some.injEq,
    Prod.mk.injEq]
  constructor
  · rintro ⟨first, _, ⟨smallFirst, rfl, _⟩, second, _, ⟨_, rfl, smallSecond, rfl, _⟩, third, _,
      ⟨_, rfl, smallThird, rfl, _⟩, fourth, _, ⟨_, rfl, smallFourth, rfl, ends⟩, rfl, rfl⟩
    have octetsBack : octets (BitVec.ofNat 32 (assemble 256 [first, second, third, fourth])) =
        [first, second, third, fourth] :=
      octets_ofNat_assemble rfl (by simp [*])
    refine ⟨_, octetsBack.symm, ?_, ends⟩
    obtain ⟨_, _, _, _, shape, written⟩ :=
      dotted_eq (BitVec.ofNat 32 (assemble 256 [first, second, third, fourth]))
    rw [octetsBack] at shape
    cases shape
    rw [written]
    simp [lead]
  · rintro ⟨bits, rfl, rfl, ends⟩
    obtain ⟨first, second, third, fourth, shape, written⟩ := dotted_eq bits
    have small : ∀ octet ∈ [first, second, third, fourth], octet < 256 := by
      intro octet member
      rw [← shape] at member
      exact octet_lt_of_mem octet member
    simp only [List.mem_cons, List.not_mem_nil, or_false, forall_eq_or_imp, forall_eq] at small
    obtain ⟨smallFirst, smallSecond, smallThird, smallFourth⟩ := small
    have point (later : List Char) : EndsDigits 10 ('.' :: later) := endsDigits_cons rfl
    refine ⟨first, _, ⟨smallFirst, ?_, point _⟩, second, _, ⟨_, rfl, smallSecond, rfl, point _⟩,
      third, _, ⟨_, rfl, smallThird, rfl, point _⟩, fourth, rest,
      ⟨_, rfl, smallFourth, rfl, ends⟩, shape.symm, rfl⟩
    rw [written]
    simp

theorem readV4_eq_some_iff {bits : BitVec 32} :
    readV4 text = some (bits, rest) ↔ text = dotted bits ++ rest ∧ EndsDigits 10 rest := by
  rw [readV4, Option.map_eq_some_iff]
  constructor
  · rintro ⟨⟨items, _⟩, read, same⟩
    cases same
    obtain ⟨bits, rfl, shape, ends⟩ := readDotted_eq_some_iff.mp read
    rw [assemble_octets, BitVec.ofNat_toNat, BitVec.setWidth_eq]
    exact ⟨shape, ends⟩
  · rintro ⟨shape, ends⟩
    refine ⟨(octets bits, rest), readDotted_eq_some_iff.mpr ⟨bits, rfl, shape, ends⟩, ?_⟩
    rw [assemble_octets, BitVec.ofNat_toNat, BitVec.setWidth_eq]

end Reading

/-! ## Groups -/

/-- A text before which a group is over: it is empty or begins with a colon. -/
def EndsGroup (text : List Char) : Prop :=
  ∀ next ∈ text.head?, next = ':'

/-- Where groups are over the text ends or a double colon stands. -/
def EndsGroups (text : List Char) : Prop :=
  text = [] ∨ ∃ later, text = ':' :: ':' :: later

/-- Pieces, each behind a colon. -/
def afterColons (pieces : List (List Char)) : List Char :=
  pieces.flatMap (':' :: ·)

/-- Pieces with colons between them, of which the first is behind a colon unless a list of groups
starts with it. -/
def listed (first : Bool) (pieces : List (List Char)) : List Char :=
  if first then joined pieces else afterColons pieces

section Groups

variable {group : Nat} {piece text rest : List Char} {pieces : List (List Char)}
  {items : List Nat} {endsDotted : Bool}

theorem EndsGroup.endsDigits (ends : EndsGroup rest) {base : Nat} : EndsDigits base rest := by
  intro next isNext
  rw [ends next isNext]
  rfl

theorem endsGroups_nil : EndsGroups [] :=
  Or.inl rfl

theorem endsGroups_doubleColon (later : List Char) : EndsGroups (':' :: ':' :: later) :=
  Or.inr ⟨later, rfl⟩

theorem EndsGroups.endsGroup (ends : EndsGroups rest) : EndsGroup rest := by
  rcases ends with rfl | ⟨later, rfl⟩
  · rintro next ⟨⟩
  · rintro next ⟨⟩
    rfl

theorem endsGroup_afterColons (ends : EndsGroup rest) : EndsGroup (afterColons pieces ++ rest) := by
  cases pieces with
  | nil => exact ends
  | cons piece pieces =>
      rintro next ⟨⟩
      rfl

theorem joined_cons (piece : List Char) (pieces : List (List Char)) :
    joined (piece :: pieces) = piece ++ afterColons pieces := by
  induction pieces generalizing piece with
  | nil => simp [joined, afterColons, List.intercalate]
  | cons next pieces inductionHypothesis =>
      have later := inductionHypothesis next
      simp only [joined, afterColons, List.intercalate, List.intersperse_cons_cons,
        List.flatten_cons, List.flatMap_cons, List.cons_append, List.nil_append] at later ⊢
      rw [later]

theorem listed_cons (first : Bool) (piece : List Char) (pieces : List (List Char)) :
    listed first (piece :: pieces) = lead ':' first ++ (piece ++ listed false pieces) := by
  cases first with
  | true => exact joined_cons piece pieces
  | false => rfl

theorem listed_nil (first : Bool) : listed first [] = [] := by
  cases first <;> rfl

theorem IsGroup.lt (isGroup : IsGroup piece group) : group < 65536 :=
  Nat.lt_of_lt_of_le isGroup.numeral.lt_pow (Nat.pow_le_pow_right (by decide) isGroup.short)

theorem readGroup_eq_some_iff :
    readNumber 16 (some 4) true 65536 text = some (group, rest) ↔
      ∃ piece, text = piece ++ rest ∧ IsGroup piece group ∧ EndsDigits 16 rest := by
  constructor
  · intro read
    obtain ⟨piece, shape, numeral, short, _, _, ends⟩ := numeral_of_readNumber read
    exact ⟨piece, shape, ⟨numeral, short 4 rfl⟩, ends⟩
  · rintro ⟨piece, rfl, isGroup, ends⟩
    refine readNumber_numeral isGroup.numeral ?_ nofun isGroup.lt ends
    rintro bound ⟨⟩
    exact isGroup.short

/-- A group is no dotted address, although decimal digits may stand at its start. -/
theorem readDotted_group (isGroup : IsGroup piece group) (ends : EndsGroup rest) :
    readDotted (piece ++ rest) = none := by
  rcases read : readDotted (piece ++ rest) with _ | ⟨found, left⟩
  · rfl
  · obtain ⟨bits, _, shape, _⟩ := readDotted_eq_some_iff.mp read
    obtain ⟨first, second, third, fourth, _, written⟩ := dotted_eq bits
    rw [written, List.append_assoc, List.cons_append] at shape
    -- Behind the digits there is a point in the one, and a colon or nothing in the other.
    have areDigits : ∀ character ∈ decimal first, (digitValue? 16 character).isSome = true :=
      fun character member => isSome_digitValue?_of_le (by decide)
        ((numeral_toDigits (by decide) (by decide)).areDigits character member)
    have behind := (takeWhile_digits isGroup.numeral.areDigits ends.endsDigits).2
    rw [shape, (takeWhile_digits areDigits (endsDigits_cons rfl)).2] at behind
    cases ends '.' (by rw [← behind]; rfl)

theorem lt_of_mem_groupsOfOctets (bits : BitVec 32) :
    ∀ group ∈ groupsOfOctets (octets bits), group < 65536 := by
  have small {items : List Nat} (two : items.length = 2) (part : items ⊆ octets bits) :
      assemble 256 items < 65536 := by
    have bounded : assemble 256 items < 256 ^ items.length :=
      assemble_lt (by decide) fun octet member => octet_lt_of_mem octet (part member)
    rwa [two] at bounded
  intro group member
  simp only [groupsOfOctets, List.mem_cons, List.not_mem_nil, or_false] at member
  rcases member with rfl | rfl
  · exact small rfl (List.take_subset 2 _)
  · exact small rfl (List.drop_subset 2 _)

theorem Pieces.lt (written : Pieces endsDotted pieces items) : ∀ group ∈ items, group < 65536 := by
  induction written with
  | nil => nofun
  | last bits => exact lt_of_mem_groupsOfOctets bits
  | cons first later inductionHypothesis =>
      exact List.forall_mem_cons.mpr ⟨first.lt, inductionHypothesis⟩

/-- What the reader of groups takes are pieces. -/
theorem pieces_of_readGroups (room : Nat) (first : Bool) (text : List Char) :
    ∃ pieces,
      Pieces (readGroups room first text).2.1 pieces (readGroups room first text).1 ∧
        text = listed first pieces ++ (readGroups room first text).2.2 ∧
          (readGroups room first text).1.length ≤ room := by
  induction room generalizing first text with
  | zero => exact ⟨[], .nil, by rw [listed_nil]; rfl, Nat.le_refl 0⟩
  | succ room inductionHypothesis =>
      rw [readGroups]
      split
      · rename_i items rest dottedRead
        rw [Option.ite_none_right_eq_some, readSeparated_eq_some_iff] at dottedRead
        obtain ⟨more, later, shape, read⟩ := dottedRead
        obtain ⟨bits, rfl, rfl, _⟩ := readDotted_eq_some_iff.mp read
        refine ⟨[dotted bits], .last bits, ?_, Nat.succ_le_succ more⟩
        rw [listed_cons, listed_nil, List.append_nil, List.append_assoc]
        exact shape
      · split
        · exact ⟨[], .nil, by rw [listed_nil]; rfl, Nat.zero_le _⟩
        · rename_i group rest groupRead
          obtain ⟨_, rfl, read⟩ := readSeparated_eq_some_iff.mp groupRead
          obtain ⟨piece, rfl, isGroup, _⟩ := readGroup_eq_some_iff.mp read
          obtain ⟨pieces, written, shape, fits⟩ := inductionHypothesis false rest
          refine ⟨piece :: pieces, .cons isGroup written, ?_, Nat.succ_le_succ fits⟩
          rw [listed_cons, List.append_assoc, List.append_assoc, ← shape]

theorem readDotted_eq_none_of_endsGroup (ends : EndsGroup rest) : readDotted rest = none := by
  have unread : readOctet rest = none := readNumber_eq_none ends.endsDigits
  simp [readDotted, unread]

theorem readSeparated_eq_none {value : Type} {reader : Reader value} (ends : EndsGroups rest)
    (first : Bool) (unread : ∀ text, EndsGroup text → reader text = none) :
    readSeparated ':' first reader rest = none := by
  cases first with
  | true => exact unread rest ends.endsGroup
  | false =>
      rcases ends with rfl | ⟨later, rfl⟩
      · rfl
      · refine unread (':' :: later) ?_
        rintro next ⟨⟩
        rfl

theorem readGroups_of_endsGroups (room : Nat) (first : Bool) (ends : EndsGroups rest) :
    readGroups room first rest = ([], false, rest) := by
  cases room with
  | zero => rfl
  | succ room =>
      have noDotted := readSeparated_eq_none ends first fun _ => readDotted_eq_none_of_endsGroup
      have noGroup : readSeparated ':' first (readNumber 16 (some 4) true 65536) rest = none :=
        readSeparated_eq_none ends first fun _ ends => readNumber_eq_none ends.endsDigits
      simp [readGroups, noDotted, noGroup]

/-- Pieces are read where nothing follows that could be one more. -/
theorem readGroups_listed (written : Pieces endsDotted pieces items) (room : Nat) (first : Bool)
    (fits : items.length ≤ room) (ends : EndsGroups rest) :
    readGroups room first (listed first pieces ++ rest) = (items, endsDotted, rest) := by
  -- A group takes one place of the room and ends at the next colon; a dotted address takes two.
  induction written generalizing room first with
  | nil =>
      rw [listed_nil]
      exact readGroups_of_endsGroups room first ends
  | last bits =>
      obtain ⟨room, rfl⟩ : ∃ smaller, room = smaller + 2 :=
        ⟨room - 2, (Nat.sub_add_cancel fits).symm⟩
      have read : readDotted (dotted bits ++ rest) = some (octets bits, rest) :=
        readDotted_eq_some_iff.mpr ⟨bits, rfl, rfl, ends.endsGroup.endsDigits⟩
      rw [listed_cons, listed_nil, List.append_nil, List.append_assoc, readGroups,
        if_pos (Nat.succ_pos room), readSeparated_lead, read]
  | @cons endsDotted piece group pieces items isGroup later inductionHypothesis =>
      obtain ⟨room, rfl⟩ : ∃ smaller, room = smaller + 1 :=
        ⟨room - 1, (Nat.sub_add_cancel (Nat.le_of_add_left_le fits)).symm⟩
      have ending : EndsGroup (listed false pieces ++ rest) := endsGroup_afterColons ends.endsGroup
      have noDotted := readDotted_group isGroup ending
      have read : readNumber 16 (some 4) true 65536 (piece ++ (listed false pieces ++ rest)) =
          some (group, listed false pieces ++ rest) :=
        readGroup_eq_some_iff.mpr ⟨piece, rfl, isGroup, ending.endsDigits⟩
      have rest := inductionHypothesis room false (Nat.le_of_succ_le_succ fits)
      rw [listed_cons, List.append_assoc, List.append_assoc, readGroups,
        readSeparated_lead, readSeparated_lead, noDotted, read, ite_self]
      simp only [rest]

/-- A dotted address that stands behind other groups is not met first. -/
theorem readDotted_joined (written : Pieces endsDotted pieces items)
    (notAlone : endsDotted = true → items.length ≠ 2) (ends : EndsGroup rest) :
    readDotted (joined pieces ++ rest) = none := by
  cases written with
  | nil => exact readDotted_eq_none_of_endsGroup ends
  | last bits => exact absurd rfl (notAlone rfl)
  | cons isGroup later =>
      rw [joined_cons, List.append_assoc]
      exact readDotted_group isGroup (endsGroup_afterColons ends)

end Groups

/-! ## Addresses -/

section Addresses

variable {text : List Char} {items : List Nat} {address : IpAddress}

theorem SpellsGroups.length_eq (written : SpellsGroups text items) : items.length = 8 := by
  cases written with
  | whole written eight => exact eight
  | shortened writtenFront writtenBack missing =>
      simp only [List.length_append, List.length_replicate]
      omega

theorem SpellsGroups.lt (written : SpellsGroups text items) : ∀ group ∈ items, group < 65536 := by
  cases written with
  | whole written eight => exact written.lt
  | shortened writtenFront writtenBack missing =>
      intro group member
      rw [List.mem_append, List.mem_append, List.mem_replicate] at member
      rcases member with (inFront | ⟨_, rfl⟩) | inBack
      · exact writtenFront.lt group inFront
      · decide
      · exact writtenBack.lt group inBack

theorem readEightGroups_eq_some_iff :
    readEightGroups text = some (items, []) ↔ SpellsGroups text items := by
  constructor
  · intro read
    obtain ⟨front, writtenFront, shape, fitsFront⟩ := pieces_of_readGroups 8 true text
    rcases frontRead : readGroups 8 true text with ⟨head, dottedHead, rest⟩
    simp only [frontRead] at writtenFront shape fitsFront
    simp only [readEightGroups, frontRead] at read
    split at read
    · rename_i eight
      cases read
      rw [shape, List.append_nil]
      exact .whole writtenFront eight
    · rename_i notEight
      simp only [Option.ite_none_left_eq_some, Option.bind_eq_bind, Option.bind_eq_some_iff,
        Prod.exists, readChar_eq_some_iff, Option.pure_def, Option.some.injEq,
        Prod.mk.injEq] at read
      obtain ⟨notDotted, _, _, rfl, _, later, rfl, rfl, nothingLeft⟩ := read
      obtain ⟨back, writtenBack, backShape, fitsBack⟩ :=
        pieces_of_readGroups (7 - head.length) true later
      rw [nothingLeft, List.append_nil] at backShape
      rw [Bool.not_eq_true] at notDotted
      rw [notDotted] at writtenFront
      have whole : text = joined front ++ ':' :: ':' :: joined back := by
        rw [shape, backShape]
        rfl
      rw [whole]
      exact .shortened writtenFront writtenBack (by omega)
  · intro written
    cases written with
    | whole written eight =>
        have read := readGroups_listed written 8 true (Nat.le_of_eq eight) endsGroups_nil
        rw [List.append_nil] at read
        simp only [readEightGroups, listed, if_true] at read ⊢
        simp only [read, eight, if_true]
    | @shortened _ front back head tail writtenFront writtenBack missing =>
        have readFront := readGroups_listed writtenFront 8 true (by omega)
          (endsGroups_doubleColon (joined back))
        have readBack := readGroups_listed writtenBack (7 - head.length) true (by omega)
          endsGroups_nil
        have notEight : head.length ≠ 8 := by omega
        rw [List.append_nil] at readBack
        simp only [listed, if_true] at readFront readBack
        simp [readEightGroups, readFront, notEight, readChar, readBack]

theorem SpellsGroups.readDotted_eq_none (written : SpellsGroups text items) :
    readDotted text = none := by
  cases written with
  | @whole _ pieces _ written eight =>
      rw [← List.append_nil (joined pieces)]
      exact readDotted_joined written (fun _ => by rw [eight]; decide) endsGroups_nil.endsGroup
  | shortened writtenFront writtenBack missing =>
      exact readDotted_joined writtenFront nofun (endsGroups_doubleColon _).endsGroup

theorem readAll_eq_some_iff {value : Type} {reader : Reader value} {result : value} :
    readAll reader text = some result ↔ reader text = some (result, []) := by
  rw [readAll]
  split
  · rename_i found read
    simp [read]
  · rename_i notWhole
    exact ⟨nofun, fun read => absurd read (notWhole result)⟩

/-- The texts that are read are those that write an address. -/
theorem ofChars?_eq_some_iff : ofChars? text = some address ↔ Spells text address := by
  rw [ofChars?, readAll_eq_some_iff, readAddress]
  constructor
  · intro read
    split at read
    · rename_i bits rest dottedRead
      cases read
      obtain ⟨shape, _⟩ := readV4_eq_some_iff.mp dottedRead
      rw [shape, List.append_nil]
      exact .v4 bits
    · obtain ⟨⟨bits, rest⟩, groupsRead, same⟩ := Option.map_eq_some_iff.mp read
      cases same
      obtain ⟨⟨items, rest⟩, itemsRead, same⟩ := Option.map_eq_some_iff.mp groupsRead
      cases same
      have written := readEightGroups_eq_some_iff.mp itemsRead
      refine .v6 ?_
      rwa [groups_ofNat_assemble written.length_eq written.lt]
  · intro written
    cases written with
    | v4 bits =>
        have read : readV4 (dotted bits) = some (bits, []) :=
          readV4_eq_some_iff.mpr ⟨(List.append_nil _).symm, nofun⟩
        rw [read]
    | @v6 _ bits written =>
        have notDotted : readV4 text = none := by
          rw [readV4, written.readDotted_eq_none, Option.map_none]
        rw [notDotted, readV6, readEightGroups_eq_some_iff.mpr written, Option.map_some,
          assemble_groups, BitVec.ofNat_toNat, BitVec.setWidth_eq]
        rfl

end Addresses

end IpAddress
end ClusterAgent
