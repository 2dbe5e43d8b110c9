import ClusterAgent.Proofs.Json.Literal
import ClusterAgent.Proofs.Json.Number
import ClusterAgent.Proofs.Text.Utf8
namespace ClusterAgent
namespace Json

/-! ## What a reader finds in a value that was written -/

mutual

def reading : Json → Reading
  | .null => .null
  | .bool value => .bool value
  | .number value => .number (.natural value)
  | .text value => .text (some value)
  | .array items => .array (itemReadings items)
  | .object members => .object (memberReadings members)

def itemReadings : List Json → List Reading
  | [] => []
  | item :: rest => item.reading :: itemReadings rest

def memberReadings : List (String × Json) → List (Option String × Reading)
  | [] => []
  | (name, value) :: rest => (some name, value.reading) :: memberReadings rest

end

mutual

/-- Whether the numbers in a value have 64 bits. -/
def fits : Json → Bool
  | .number value => value < Number.limit
  | .array items => itemsFit items
  | .object members => membersFit members
  | _ => true

def itemsFit : List Json → Bool
  | [] => true
  | item :: rest => item.fits && itemsFit rest

def membersFit : List (String × Json) → Bool
  | [] => true
  | (_, value) :: rest => value.fits && membersFit rest

end

/-! ## The first character of a value -/

theorem skipSpace_cons {first : Char} (notSpace : isSpace first = false) (rest : List Char) :
    skipSpace (first :: rest) = first :: rest := by
  rw [skipSpace, List.dropWhile_cons_of_neg]
  simpa using notSpace

theorem not_isSpace_of_isDigit {character : Char} (digit : character.isDigit = true) :
    isSpace character = false := by
  simp only [isSpace, Bool.or_eq_false_iff, beq_eq_false_iff_ne]
  refine ⟨⟨⟨?_, ?_⟩, ?_⟩, ?_⟩ <;> rintro rfl <;> cases digit

/-- A written value begins with no blank, and not as if it ended an array. -/
theorem render_first (value : Json) :
    ∃ first later, value.render = first :: later ∧ isSpace first = false ∧ first ≠ ']' := by
  cases value with
  | null => exact ⟨'n', _, rfl, rfl, by decide⟩
  | bool value =>
      cases value with
      | false => exact ⟨'f', _, rfl, rfl, by decide⟩
      | true => exact ⟨'t', _, rfl, rfl, by decide⟩
  | number value =>
      rcases shape : Text.decimal value with _ | ⟨first, later⟩
      · exact absurd shape (Number.decimal_ne_nil value)
      · have digit : first.isDigit = true := Number.isDigit_decimal first (by rw [shape]; simp)
        refine ⟨first, later, by rw [render, shape], not_isSpace_of_isDigit digit, ?_⟩
        rintro rfl
        cases digit
  | text value => exact ⟨'"', _, rfl, rfl, by decide⟩
  | array items => exact ⟨'[', _, rfl, rfl, by decide⟩
  | object members => exact ⟨'{', _, rfl, rfl, by decide⟩

theorem length_render_pos (value : Json) : 0 < value.render.length := by
  obtain ⟨first, later, shape, _⟩ := render_first value
  rw [shape]
  exact Nat.succ_pos _

theorem renderItems_cons (item : Json) (rest : List Json) :
    renderItems (item :: rest) =
      item.render ++ if rest.isEmpty then [] else ',' :: renderItems rest := by
  cases rest with
  | nil => simp [renderItems]
  | cons next rest => rfl

theorem renderMembers_cons (name : String) (value : Json) (rest : List (String × Json)) :
    renderMembers ((name, value) :: rest) =
      quoted name.toList ++ ':' :: value.render ++
        if rest.isEmpty then [] else ',' :: renderMembers rest := by
  cases rest with
  | nil => simp [renderMembers]
  | cons next rest => rfl

/-! ## Steps of the reader -/

section Steps

variable {fuel : Nat} {text rest : List Char} {value : Reading}

theorem readValue_items {first : Char} (notSpace : isSpace first = false) (open_ : first ≠ ']') :
    readValue (fuel + 1) ('[' :: first :: rest) =
      (.array (readItems fuel (first :: rest)).1,
        (readItems fuel (first :: rest)).2) := by
  have bracket : skipSpace ('[' :: first :: rest) = '[' :: first :: rest := skipSpace_cons rfl _
  rw [readValue.eq_2, bracket]
  simp only []
  rw [skipSpace_cons notSpace]
  split
  · rename_i closed
    exact absurd (List.cons.inj closed).1 open_
  · rfl

theorem readValue_members (rest : List Char) :
    readValue (fuel + 1) ('{' :: '"' :: rest) =
      (.object (readMembers fuel ('"' :: rest)).1,
        (readMembers fuel ('"' :: rest)).2) := by
  have brace : skipSpace ('{' :: '"' :: rest) = '{' :: '"' :: rest := skipSpace_cons rfl _
  have quote : skipSpace ('"' :: rest) = '"' :: rest := skipSpace_cons rfl _
  rw [readValue.eq_2, brace]
  simp only []
  rw [quote]
  rfl

theorem readValue_text (name rest : List Char) :
    readValue (fuel + 1) (quoted name ++ rest) =
      (.text (some (String.ofList name)), some rest) := by
  have shape : quoted name ++ rest = '"' :: (name.flatMap escape ++ '"' :: rest) := by
    simp [quoted]
  have quote (later : List Char) : skipSpace ('"' :: later) = '"' :: later := skipSpace_cons rfl _
  rw [shape, readValue.eq_2, quote]
  simp only []
  rw [readLiteral_quoted]
  rfl

theorem readValue_number {number : Nat} (small : number < Number.limit)
    (ends : Number.EndsNumber rest) :
    readValue (fuel + 1) (Text.decimal number ++ rest) =
      (.number (.natural number), some rest) := by
  have read := Number.read_decimal small ends
  rcases shape : Text.decimal number with _ | ⟨first, later⟩
  · exact absurd shape (Number.decimal_ne_nil number)
  · have digit : first.isDigit = true := Number.isDigit_decimal first (by rw [shape]; simp)
    rw [shape] at read
    rw [List.cons_append] at read ⊢
    rw [readValue.eq_def]
    dsimp only
    rw [skipSpace_cons (not_isSpace_of_isDigit digit)]
    split
    -- Every other kind of value begins with a character that is no digit.
    all_goals first
      | (rename_i startsOtherwise
         obtain ⟨rfl, _⟩ := List.cons.inj startsOtherwise
         cases digit)
      | rw [read]

theorem readItems_last (read : readValue fuel text = (value, some (']' :: rest))) :
    readItems (fuel + 1) text = ([value], some rest) := by
  rw [readItems.eq_2, read]
  dsimp only
  rw [skipSpace_cons rfl]
  rfl

theorem readItems_more (read : readValue fuel text = (value, some (',' :: rest))) :
    readItems (fuel + 1) text =
      (value :: (readItems fuel rest).1, (readItems fuel rest).2) := by
  rw [readItems.eq_2, read]
  dsimp only
  rw [skipSpace_cons rfl]
  rfl

/-- The reader of members has passed over the name and its colon. -/
theorem readMembers_named (name text : List Char) :
    readMembers (fuel + 1) (quoted name ++ ':' :: text) =
      match readValue fuel text with
      | (value, none) => ([(some (String.ofList name), value)], none)
      | (value, some rest) =>
          match skipSpace rest with
          | '}' :: rest => ([(some (String.ofList name), value)], some rest)
          | ',' :: rest =>
              ((some (String.ofList name), value) :: (readMembers fuel rest).1,
                (readMembers fuel rest).2)
          | _ => ([(some (String.ofList name), value), (none, .broken)], none) := by
  have shape : quoted name ++ ':' :: text =
      '"' :: (name.flatMap escape ++ '"' :: ':' :: text) := by
    simp [quoted]
  have quote (later : List Char) : skipSpace ('"' :: later) = '"' :: later := skipSpace_cons rfl _
  have colon : skipSpace (':' :: text) = ':' :: text := skipSpace_cons rfl _
  rw [shape, readMembers.eq_2, quote]
  simp only [readLiteral_quoted, colon]
  rfl

theorem readMembers_last {name : List Char}
    (read : readValue fuel text = (value, some ('}' :: rest))) :
    readMembers (fuel + 1) (quoted name ++ ':' :: text) =
      ([(some (String.ofList name), value)], some rest) := by
  rw [readMembers_named, read]
  dsimp only
  rw [skipSpace_cons rfl]
  rfl

theorem readMembers_more {name : List Char}
    (read : readValue fuel text = (value, some (',' :: rest))) :
    readMembers (fuel + 1) (quoted name ++ ':' :: text) =
      ((some (String.ofList name), value) :: (readMembers fuel rest).1,
        (readMembers fuel rest).2) := by
  rw [readMembers_named, read]
  dsimp only
  rw [skipSpace_cons rfl]
  rfl

end Steps

/-! ## Whole values -/

theorem endsNumber_cons {next : Char} (other : next ∈ [',', ']', '}']) (rest : List Char) :
    Number.EndsNumber (next :: rest) := by
  have every : ∀ next ∈ [',', ']', '}'],
      next.isDigit = false ∧ next ≠ '.' ∧ next ≠ 'e' ∧ next ≠ 'E' := by
    simp only [List.forall_mem_cons]
    exact ⟨by decide, by decide, by decide, List.forall_mem_nil _⟩
  intro found isNext
  cases isNext
  exact every next other

/-- A value is read back from its text with whatever follows it. Two steps for each of its
characters are enough. -/
def ReadBack (value : Json) : Prop :=
  ∀ ⦃fuel : Nat⦄ ⦃rest : List Char⦄, value.fits = true →
    2 * value.render.length ≤ fuel → Number.EndsNumber rest →
    readValue fuel (value.render ++ rest) = (value.reading, some rest)

section Inner

variable {fuel : Nat} (rest : List Char)

theorem readItems_render {item : Json} {items : List Json}
    (each : ∀ inner ∈ item :: items, inner.ReadBack)
    (fitting : itemsFit (item :: items) = true)
    (enough : 2 * (renderItems (item :: items)).length + 1 ≤ fuel) :
    readItems fuel (renderItems (item :: items) ++ ']' :: rest) =
      (itemReadings (item :: items), some rest) := by
  induction items generalizing item fuel with
  | nil =>
      obtain ⟨fuel, rfl⟩ : ∃ left, fuel = left + 1 := ⟨fuel - 1, by omega⟩
      have itemFits : item.fits = true := by simpa [itemsFit] using fitting
      have enoughLeft : 2 * item.render.length ≤ fuel := by
        simp [renderItems] at enough
        omega
      have ends : Number.EndsNumber (']' :: rest) := endsNumber_cons (by simp) rest
      have read := each item (by simp) itemFits enoughLeft ends
      exact readItems_last read
  | cons next items inductionHypothesis =>
      obtain ⟨fuel, rfl⟩ : ∃ left, fuel = left + 1 := ⟨fuel - 1, by omega⟩
      obtain ⟨itemFits, laterFit⟩ :
          item.fits = true ∧ itemsFit (next :: items) = true := by
        simpa [itemsFit] using fitting
      rw [renderItems, List.length_append, List.length_cons] at enough
      have enoughFirst : 2 * item.render.length ≤ fuel := by omega
      have enoughLater : 2 * (renderItems (next :: items)).length + 1 ≤ fuel := by omega
      have ends : Number.EndsNumber (',' :: (renderItems (next :: items) ++ ']' :: rest)) :=
        endsNumber_cons (by simp) _
      have read := each item (by simp) itemFits enoughFirst ends
      have later := inductionHypothesis (fun inner member => each inner (by simp [member]))
        laterFit enoughLater
      rw [renderItems, List.append_assoc, List.cons_append, readItems_more read, later]
      rfl

theorem readMembers_render {name : String} {value : Json} {members : List (String × Json)}
    (each : ∀ inner ∈ (name, value) :: members, inner.2.ReadBack)
    (fitting : membersFit ((name, value) :: members) = true)
    (enough : 2 * (renderMembers ((name, value) :: members)).length + 1 ≤ fuel) :
    readMembers fuel (renderMembers ((name, value) :: members) ++ '}' :: rest) =
      (memberReadings ((name, value) :: members), some rest) := by
  induction members generalizing name value fuel with
  | nil =>
      obtain ⟨fuel, rfl⟩ : ∃ left, fuel = left + 1 := ⟨fuel - 1, by omega⟩
      have valueFits : value.fits = true := by simpa [membersFit] using fitting
      rw [renderMembers, List.length_append, List.length_cons] at enough
      have enoughLeft : 2 * value.render.length ≤ fuel := by omega
      have ends : Number.EndsNumber ('}' :: rest) := endsNumber_cons (by simp) rest
      have read := each (name, value) (by simp) valueFits enoughLeft ends
      rw [renderMembers, List.append_assoc, List.cons_append, readMembers_last read,
        String.ofList_toList]
      rfl
  | cons next members inductionHypothesis =>
      obtain ⟨nextName, next⟩ := next
      obtain ⟨fuel, rfl⟩ : ∃ left, fuel = left + 1 := ⟨fuel - 1, by omega⟩
      obtain ⟨valueFits, laterFit⟩ :
          value.fits = true ∧ membersFit ((nextName, next) :: members) = true := by
        simpa [membersFit] using fitting
      rw [renderMembers, List.length_append, List.length_append, List.length_cons,
        List.length_cons] at enough
      have enoughFirst : 2 * value.render.length ≤ fuel := by omega
      have enoughLater : 2 * (renderMembers ((nextName, next) :: members)).length + 1 ≤ fuel := by
        omega
      have ends : Number.EndsNumber
          (',' :: (renderMembers ((nextName, next) :: members) ++ '}' :: rest)) :=
        endsNumber_cons (by simp) _
      have read := each (name, value) (by simp) valueFits enoughFirst ends
      have later := inductionHypothesis (fun inner member => each inner (by simp [member]))
        laterFit enoughLater
      rw [renderMembers, List.append_assoc, List.append_assoc, List.cons_append, List.cons_append,
        readMembers_more read, later, String.ofList_toList]
      rfl

theorem readBack_items {items : List Json} (each : ∀ inner ∈ items, inner.ReadBack) :
    (Json.array items).ReadBack := by
  intro fuel rest fitting enough _
  obtain ⟨fuel, rfl⟩ : ∃ left, fuel = left + 1 := by
    simp [render] at enough
    exact ⟨fuel - 1, by omega⟩
  have text : render (.array items) ++ rest = '[' :: (renderItems items ++ ']' :: rest) := by
    simp [render]
  rw [text]
  cases items with
  | nil => rfl
  | cons item items =>
      have enoughLeft : 2 * (renderItems (item :: items)).length + 1 ≤ fuel := by
        simp [render] at enough
        omega
      have read := readItems_render rest each fitting enoughLeft
      obtain ⟨first, later, shape, notSpace, notClosed⟩ := render_first item
      rw [renderItems_cons, shape] at read ⊢
      simp only [List.cons_append] at read ⊢
      rw [readValue_items notSpace notClosed, read]
      rfl

theorem readBack_members {members : List (String × Json)}
    (each : ∀ inner ∈ members, inner.2.ReadBack) : (Json.object members).ReadBack := by
  intro fuel rest fitting enough _
  obtain ⟨fuel, rfl⟩ : ∃ left, fuel = left + 1 := by
    simp [render] at enough
    exact ⟨fuel - 1, by omega⟩
  have text : render (.object members) ++ rest = '{' :: (renderMembers members ++ '}' :: rest) := by
    simp [render]
  rw [text]
  match members, each, fitting, enough with
  | [], _, _, _ => rfl
  | (name, value) :: members, each, fitting, enough =>
      have enoughLeft : 2 * (renderMembers ((name, value) :: members)).length + 1 ≤ fuel := by
        simp [render] at enough
        omega
      have read := readMembers_render rest each fitting enoughLeft
      rw [renderMembers_cons, quoted] at read ⊢
      simp only [List.cons_append] at read ⊢
      rw [readValue_members, read]
      rfl

end Inner

theorem readBack_single {value : Json} (single : ∀ items, value ≠ .array items)
    (plain : ∀ members, value ≠ .object members) : value.ReadBack := by
  intro fuel rest fitting enough ends
  obtain ⟨fuel, rfl⟩ : ∃ left, fuel = left + 1 := by
    have written := length_render_pos value
    exact ⟨fuel - 1, by omega⟩
  cases value with
  | null => rfl
  | bool value => cases value <;> rfl
  | number value => exact readValue_number (by simpa [fits] using fitting) ends
  | text value =>
      rw [render, readValue_text, String.ofList_toList]
      rfl
  | array items => exact absurd rfl (single items)
  | object members => exact absurd rfl (plain members)

theorem readBack : (value : Json) → value.ReadBack
  | .array items => readBack_items fun inner member =>
      have _smaller := List.sizeOf_lt_of_mem member
      readBack inner
  | .object members => readBack_members fun (name, inner) member =>
      have _smaller := List.sizeOf_lt_of_mem member
      readBack inner
  | .null => readBack_single (fun _ same => nomatch same) (fun _ same => nomatch same)
  | .bool _ => readBack_single (fun _ same => nomatch same) (fun _ same => nomatch same)
  | .number _ => readBack_single (fun _ same => nomatch same) (fun _ same => nomatch same)
  | .text _ => readBack_single (fun _ same => nomatch same) (fun _ same => nomatch same)
termination_by value => sizeOf value
decreasing_by
  · simp only [Json.array.sizeOf_spec]
    omega
  · simp only [Json.object.sizeOf_spec]
    simp only [Prod.mk.sizeOf_spec] at _smaller
    omega

theorem read_render {value : Json} (fitting : value.fits = true) :
    read value.render = (value.reading, true) := by
  have nothingLeft : Number.EndsNumber [] := fun _ isNext => nomatch isNext
  have enough : 2 * value.render.length ≤ 2 * value.render.length + 2 := by omega
  have found := readBack value fitting enough nothingLeft
  rw [List.append_nil] at found
  rw [read, found]
  rfl

theorem membersFit_of_forall {members : List (String × Json)}
    (each : ∀ member ∈ members, member.2.fits = true) : membersFit members = true := by
  induction members with
  | nil => rfl
  | cons member members inductionHypothesis =>
      rw [List.forall_mem_cons] at each
      rw [membersFit, each.1, inductionHypothesis each.2]
      rfl

/-! ## Bodies -/

theorem characters_toUTF8 (text : String) : characters text.toUTF8 = text.toList := by
  rw [characters, Utf8.decode_toUTF8]

/-- A body that is text has no fault to be replaced. -/
theorem characters_eq_replacing (body : ByteArray) :
    characters body = Utf8.replacing faultMark 0 body.data.toList := by
  rw [characters]
  cases decoded : Utf8.decode body with
  | error fault => rfl
  | ok text =>
      have encoded := Utf8.replacing_encoded faultMark text.toList []
      rw [List.append_nil] at encoded
      rw [Utf8.octets_of_decode decoded, encoded]
      exact (List.append_nil _).symm

end Json
end ClusterAgent
