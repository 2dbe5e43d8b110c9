import ClusterAgent.Proofs.Json.Boundary
import Mathlib.Data.List.Forall2
namespace ClusterAgent
namespace Json

/-! ## Blanks -/

def AllSpace (text : List Char) : Prop :=
  ∀ character ∈ text, isSpace character = true

section Blanks

variable {front text rest : List Char} {fuel : Nat}

theorem skipSpace_append (blank : AllSpace front) (text : List Char) :
    skipSpace (front ++ text) = skipSpace text :=
  List.dropWhile_append_of_pos blank

theorem skipSpace_cases (text : List Char) :
    ∃ front, text = front ++ skipSpace text ∧ AllSpace front :=
  ⟨_, List.takeWhile_append_dropWhile.symm, fun _ => List.mem_takeWhile_imp⟩

theorem head?_skipSpace (text : List Char) :
    ∀ first ∈ (skipSpace text).head?, isSpace first = false := by
  intro first isFirst
  have stopped := List.head?_dropWhile_not isSpace text
  rw [skipSpace, Option.mem_def] at isFirst
  rw [isFirst] at stopped
  exact stopped

theorem skipSpace_skipSpace (text : List Char) : skipSpace (skipSpace text) = skipSpace text := by
  have notSpace := head?_skipSpace text
  generalize skipSpace text = stripped at notSpace
  cases stripped with
  | nil => rfl
  | cons first later => exact skipSpace_cons (notSpace first rfl) later

theorem readValue_skipSpace (fuel : Nat) (text : List Char) :
    readValue fuel (skipSpace text) = readValue fuel text := by
  cases fuel with
  | zero => rfl
  | succ fuel => rw [readValue.eq_2, readValue.eq_2, skipSpace_skipSpace]

theorem readItems_skipSpace (fuel : Nat) (text : List Char) :
    readItems fuel (skipSpace text) = readItems fuel text := by
  cases fuel with
  | zero => rfl
  | succ fuel => rw [readItems.eq_2, readItems.eq_2, readValue_skipSpace]

theorem readMembers_skipSpace (fuel : Nat) (text : List Char) :
    readMembers fuel (skipSpace text) = readMembers fuel text := by
  cases fuel with
  | zero => rfl
  | succ fuel => rw [readMembers.eq_2, readMembers.eq_2, skipSpace_skipSpace]

end Blanks

/-! ## Steps of the reader that come to an end -/

/-- How a value that begins a text is read to its end, and what is left of the text. -/
inductive ValueStep (fuel : Nat) : List Char → Reading → List Char → Prop
  | null (left : List Char) :
      ValueStep fuel ('n' :: 'u' :: 'l' :: 'l' :: left) .null left
  | true (left : List Char) :
      ValueStep fuel ('t' :: 'r' :: 'u' :: 'e' :: left) (.bool true) left
  | false (left : List Char) :
      ValueStep fuel ('f' :: 'a' :: 'l' :: 's' :: 'e' :: left) (.bool false) left
  | text {body : List Char} {literal : Literal}
      (read : readLiteral none body = some literal) :
      ValueStep fuel ('"' :: body) (.text (literal.content.map String.ofList)) literal.rest
  | noItems {inner left : List Char} (closed : skipSpace inner = ']' :: left) :
      ValueStep fuel ('[' :: inner) (.array []) left
  | items {inner left : List Char} {items : List Reading}
      (unclosed : (skipSpace inner).head? ≠ some ']')
      (read : readItems fuel inner = (items, some left)) :
      ValueStep fuel ('[' :: inner) (.array items) left
  | noMembers {inner left : List Char} (closed : skipSpace inner = '}' :: left) :
      ValueStep fuel ('{' :: inner) (.object []) left
  | members {inner left : List Char} {members : List (Option String × Reading)}
      (unclosed : (skipSpace inner).head? ≠ some '}')
      (read : readMembers fuel inner = (members, some left)) :
      ValueStep fuel ('{' :: inner) (.object members) left
  | number {text left : List Char} {number : Number}
      (read : Number.read text = some (number, left)) :
      ValueStep fuel text (.number number) left

section Steps

variable {fuel : Nat} {text left : List Char} {value : Reading}

theorem head?_ne_of_unclosed {mark : Char} (unclosed : ∀ rest, text = mark :: rest → False) :
    text.head? ≠ some mark := by
  intro head
  obtain ⟨rest, closed⟩ := List.head?_eq_some_iff.mp head
  exact unclosed rest closed

theorem valueStep_of_read (read : readValue (fuel + 1) text = (value, some left)) :
    ValueStep fuel (skipSpace text) value left := by
  rw [readValue.eq_2] at read
  split at read
  · rename_i shape
    cases read
    rw [shape]
    exact .null left
  · rename_i shape
    cases read
    rw [shape]
    exact .true left
  · rename_i shape
    cases read
    rw [shape]
    exact .false left
  · rename_i shape
    rw [shape]
    split at read
    · cases read
    · rename_i readBody
      cases read
      exact .text readBody
  · rename_i inner shape
    rw [shape]
    split at read
    · rename_i closed
      cases read
      exact .noItems closed
    · rename_i unclosed
      simp only [readItems_skipSpace] at read
      obtain ⟨rfl, ended⟩ := Prod.mk.inj read
      exact .items (head?_ne_of_unclosed unclosed) (Prod.ext rfl ended)
  · rename_i inner shape
    rw [shape]
    split at read
    · rename_i closed
      cases read
      exact .noMembers closed
    · rename_i unclosed
      simp only [readMembers_skipSpace] at read
      obtain ⟨rfl, ended⟩ := Prod.mk.inj read
      exact .members (head?_ne_of_unclosed unclosed) (Prod.ext rfl ended)
  · split at read
    · cases read
    · rename_i readNumber
      cases read
      exact .number readNumber

theorem read_of_valueStep (step : ValueStep fuel (skipSpace text) value left) :
    readValue (fuel + 1) text = (value, some left) := by
  rw [readValue.eq_2]
  generalize skipSpace text = stripped at step
  cases step with
  | null left => rfl
  | true left => rfl
  | false left => rfl
  | text read => simp only [read]
  | noItems closed => simp only [closed]
  | @items inner left items unclosed read =>
      simp only []
      split
      · rename_i closed
        rw [closed] at unclosed
        exact absurd rfl unclosed
      · rw [readItems_skipSpace, read]
  | noMembers closed => simp only [closed]
  | @members inner left members unclosed read =>
      simp only []
      split
      · rename_i closed
        rw [closed] at unclosed
        exact absurd rfl unclosed
      · rw [readMembers_skipSpace, read]
  | number read =>
      obtain ⟨first, isFirst, begins⟩ := Number.head?_of_read read
      split
      all_goals first
        | (obtain rfl := Option.some.inj isFirst
           rcases begins with digit | sign
           · cases digit
           · cases sign)
        | rw [read]

end Steps

/-- How a list of items is read to its closing bracket. -/
inductive ItemsStep (fuel : Nat) (text : List Char) : List Reading → List Char → Prop
  | last {behind left : List Char} {item : Reading}
      (read : readValue fuel text = (item, some behind))
      (closed : skipSpace behind = ']' :: left) : ItemsStep fuel text [item] left
  | more {behind next left : List Char} {item : Reading} {items : List Reading}
      (read : readValue fuel text = (item, some behind))
      (comma : skipSpace behind = ',' :: next)
      (later : readItems fuel next = (items, some left)) :
      ItemsStep fuel text (item :: items) left

/-- The name of a member and its colon are passed over. -/
def NameStep (text : List Char) (name : Option String) (behind : List Char) : Prop :=
  ∃ body literal, skipSpace text = '"' :: body ∧ readLiteral none body = some literal ∧
    skipSpace literal.rest = ':' :: behind ∧ name = literal.content.map String.ofList

/-- How a list of members is read to its closing brace. -/
inductive MembersStep (fuel : Nat) (text : List Char) :
    List (Option String × Reading) → List Char → Prop
  | last {named behind left : List Char} {name : Option String} {value : Reading}
      (passed : NameStep text name named)
      (read : readValue fuel named = (value, some behind))
      (closed : skipSpace behind = '}' :: left) : MembersStep fuel text [(name, value)] left
  | more {named behind next left : List Char} {name : Option String} {value : Reading}
      {members : List (Option String × Reading)}
      (passed : NameStep text name named)
      (read : readValue fuel named = (value, some behind))
      (comma : skipSpace behind = ',' :: next)
      (later : readMembers fuel next = (members, some left)) :
      MembersStep fuel text ((name, value) :: members) left

section Lists

variable {fuel : Nat} {text left : List Char} {items : List Reading}
  {members : List (Option String × Reading)}

theorem itemsStep_of_read (read : readItems (fuel + 1) text = (items, some left)) :
    ItemsStep fuel text items left := by
  rw [readItems.eq_2] at read
  split at read
  · cases read
  · rename_i readItem
    split at read
    · rename_i closed
      cases read
      exact .last readItem closed
    · rename_i comma
      obtain ⟨rfl, ended⟩ := Prod.mk.inj read
      exact .more readItem comma (Prod.ext rfl ended)
    · cases read

theorem read_of_itemsStep (step : ItemsStep fuel text items left) :
    readItems (fuel + 1) text = (items, some left) := by
  rw [readItems.eq_2]
  cases step with
  | last read closed => simp only [read, closed]
  | more read comma later => simp only [read, comma, later]

theorem membersStep_of_read (read : readMembers (fuel + 1) text = (members, some left)) :
    MembersStep fuel text members left := by
  rw [readMembers.eq_2] at read
  split at read
  · rename_i quote
    split at read
    · cases read
    · rename_i readName
      split at read
      · rename_i colon
        have passed : NameStep text _ _ := ⟨_, _, quote, readName, colon, rfl⟩
        split at read
        · cases read
        · rename_i readValue
          split at read
          · rename_i closed
            cases read
            exact .last passed readValue closed
          · rename_i comma
            obtain ⟨rfl, ended⟩ := Prod.mk.inj read
            exact .more passed readValue comma (Prod.ext rfl ended)
          · cases read
      · cases read
  · cases read

theorem read_of_membersStep (step : MembersStep fuel text members left) :
    readMembers (fuel + 1) text = (members, some left) := by
  rw [readMembers.eq_2]
  cases step with
  | last passed read closed =>
      obtain ⟨_, _, quote, readName, colon, rfl⟩ := passed
      simp only [quote, readName, colon, read, closed]
  | more passed read comma later =>
      obtain ⟨_, _, quote, readName, colon, rfl⟩ := passed
      simp only [quote, readName, colon, read, comma, later]

end Lists

/-! ## Texts of values, items and members -/

/-- The text is read as the value, whatever follows that does not go on with a number. Two steps
for each of its characters are enough. -/
def WritesValue (value : Reading) (text : List Char) : Prop :=
  ∀ ⦃fuel : Nat⦄ ⦃rest : List Char⦄, 2 * text.length ≤ fuel → Number.EndsNumber rest →
    readValue fuel (text ++ rest) = (value, some rest)

def WritesItem (item : Reading) (text : List Char) : Prop :=
  ∃ value back, text = value ++ back ∧ WritesValue item value ∧ AllSpace back

/-- The text is the literal of a name, a colon and a value, with blanks around them. -/
def WritesMember (member : Option String × Reading) (text : List Char) : Prop :=
  ∃ front literal middle value back content,
    text = front ++ '"' :: (literal ++ (middle ++ ':' :: (value ++ back))) ∧
      AllSpace front ∧ EndsLiteral none content literal ∧ AllSpace middle ∧
      WritesValue member.2 value ∧ AllSpace back ∧ member.1 = content.map String.ofList

section Parts

variable {fuel : Nat} {text left rest back : List Char} {items : List Reading}
  {members : List (Option String × Reading)} {parts : List (List Char)}

theorem endsNumber_of_space {character : Char} (space : isSpace character = true)
    (rest : List Char) : Number.EndsNumber (character :: rest) := by
  have every : ∀ next ∈ [' ', '\n', '\t', '\r'],
      next.isDigit = false ∧ next ≠ '.' ∧ next ≠ 'e' ∧ next ≠ 'E' := by
    simp only [List.forall_mem_cons]
    exact ⟨by decide, by decide, by decide, by decide, List.forall_mem_nil _⟩
  intro found isNext
  cases isNext
  exact every character (by simpa [isSpace, or_assoc] using space)

theorem endsNumber_behind (blank : AllSpace back) {next : Char} (other : next ∈ [',', ']', '}'])
    (rest : List Char) : Number.EndsNumber (back ++ next :: rest) := by
  cases back with
  | nil => exact endsNumber_cons other rest
  | cons first back => exact endsNumber_of_space (blank first (by simp)) _

theorem skipSpace_behind (blank : AllSpace back) {next : Char} (notSpace : isSpace next = false)
    (rest : List Char) : skipSpace (back ++ next :: rest) = next :: rest := by
  rw [skipSpace_append blank, skipSpace_cons notSpace]

theorem readItems_parts (writes : List.Forall₂ WritesItem items parts)
    (nonempty : parts ≠ []) (enough : 2 * ([','].intercalate parts).length + 1 ≤ fuel) :
    readItems fuel ([','].intercalate parts ++ ']' :: rest) = (items, some rest) := by
  induction writes generalizing fuel with
  | nil => exact absurd rfl nonempty
  | @cons item part items parts writesItem later inductionHypothesis =>
      obtain ⟨value, back, rfl, writesValue, blank⟩ := writesItem
      obtain ⟨fuel, rfl⟩ : ∃ left, fuel = left + 1 := ⟨fuel - 1, by omega⟩
      cases later with
      | nil =>
          rw [List.intercalate_singleton, List.length_append] at enough
          rw [List.intercalate_singleton, List.append_assoc]
          exact read_of_itemsStep (.last
            (writesValue (by omega) (endsNumber_behind blank (by simp) rest))
            (skipSpace_behind blank rfl rest))
      | @cons next nextPart items parts writesNext later =>
          rw [List.intercalate_cons_cons] at enough ⊢
          simp only [List.length_append, List.length_cons, List.length_nil] at enough
          simp only [List.append_assoc, List.singleton_append]
          have read := inductionHypothesis (List.cons_ne_nil _ _)
            (show 2 * ([','].intercalate (nextPart :: parts)).length + 1 ≤ fuel by omega)
          exact read_of_itemsStep (.more
            (writesValue (by omega) (endsNumber_behind blank (by simp) _))
            (skipSpace_behind blank rfl _) read)

theorem readMembers_parts (writes : List.Forall₂ WritesMember members parts)
    (nonempty : parts ≠ []) (enough : 2 * ([','].intercalate parts).length + 1 ≤ fuel) :
    readMembers fuel ([','].intercalate parts ++ '}' :: rest) = (members, some rest) := by
  induction writes generalizing fuel with
  | nil => exact absurd rfl nonempty
  | @cons member part members parts writesMember later inductionHypothesis =>
      obtain ⟨name, value⟩ := member
      obtain ⟨front, literal, middle, written, back, content, rfl, blankFront, endsLiteral,
        blankMiddle, writesValue, blank, rfl⟩ := writesMember
      obtain ⟨fuel, rfl⟩ : ∃ left, fuel = left + 1 := ⟨fuel - 1, by omega⟩
      have passed (rest : List Char) :
          NameStep (front ++ '"' :: (literal ++ (middle ++ ':' :: rest)))
            (content.map String.ofList) rest :=
        ⟨_, _, skipSpace_behind blankFront rfl _, endsLiteral _,
          skipSpace_behind blankMiddle rfl _, rfl⟩
      cases later with
      | nil =>
          simp only [List.intercalate_singleton, List.length_append, List.length_cons] at enough
          simp only [List.intercalate_singleton, List.append_assoc, List.cons_append]
          exact read_of_membersStep (.last (passed _)
            (writesValue (by omega) (endsNumber_behind blank (by simp) rest))
            (skipSpace_behind blank rfl rest))
      | @cons next nextPart members parts writesNext later =>
          simp only [List.intercalate_cons_cons, List.length_append, List.length_cons,
            List.length_nil] at enough
          simp only [List.intercalate_cons_cons, List.append_assoc, List.cons_append]
          have read := inductionHypothesis (List.cons_ne_nil _ _)
            (show 2 * ([','].intercalate (nextPart :: parts)).length + 1 ≤ fuel by omega)
          exact read_of_membersStep (.more (passed _)
            (writesValue (by omega) (endsNumber_behind blank (by simp) _))
            (skipSpace_behind blank rfl _) read)

end Parts

/-! ## What is read was written -/

section Written

variable {fuel : Nat} {text left : List Char} {value : Reading} {items : List Reading}
  {members : List (Option String × Reading)}

def ValuesWritten (fuel : Nat) : Prop :=
  ∀ ⦃text value left⦄, readValue fuel text = (value, some left) →
    ∃ taken, text = taken ++ left ∧ WritesValue value taken

def ItemsWritten (fuel : Nat) : Prop :=
  ∀ ⦃text items left⦄, readItems fuel text = (items, some left) →
    ∃ parts, parts ≠ [] ∧ text = [','].intercalate parts ++ ']' :: left ∧
      List.Forall₂ WritesItem items parts

def MembersWritten (fuel : Nat) : Prop :=
  ∀ ⦃text members left⦄, readMembers fuel text = (members, some left) →
    ∃ parts, parts ≠ [] ∧ text = [','].intercalate parts ++ '}' :: left ∧
      List.Forall₂ WritesMember members parts

theorem ValueStep.skipSpace (step : ValueStep fuel text value left) :
    Json.skipSpace text = text := by
  cases step with
  | number read =>
      obtain ⟨first, isFirst, begins⟩ := Number.head?_of_read read
      obtain ⟨later, rfl⟩ := List.head?_eq_some_iff.mp isFirst
      refine skipSpace_cons ?_ later
      rcases begins with digit | rfl
      · exact not_isSpace_of_isDigit digit
      · rfl
  | _ => exact skipSpace_cons rfl _

theorem writesValue_of_steps {front taken : List Char} (blank : AllSpace front)
    (steps : ∀ fuel rest, 2 * taken.length ≤ fuel + 1 → Number.EndsNumber rest →
      ValueStep fuel (taken ++ rest) value rest) :
    WritesValue value (front ++ taken) := by
  intro fuel rest enough ends
  rw [List.length_append] at enough
  have nonempty : taken ≠ [] := by
    rintro rfl
    cases steps 0 [] (Nat.zero_le _) Number.endsNumber_nil with
    | number read => cases read
  have some : 0 < taken.length := List.length_pos_iff.mpr nonempty
  obtain ⟨fuel, rfl⟩ : ∃ left, fuel = left + 1 := ⟨fuel - 1, by omega⟩
  have step := steps fuel rest (by omega) ends
  refine read_of_valueStep ?_
  rw [List.append_assoc, skipSpace_append blank, step.skipSpace]
  exact step

theorem head?_skipSpace_mark {inner : List Char} {mark : Char} (notSpace : isSpace mark = false)
    (left rest : List Char) :
    (Json.skipSpace (inner ++ mark :: rest)).head? =
      (Json.skipSpace (inner ++ mark :: left)).head? := by
  rw [Json.skipSpace, Json.skipSpace, List.dropWhile_append, List.dropWhile_append]
  split
  · rw [List.dropWhile_cons_of_neg (by simp [notSpace]),
      List.dropWhile_cons_of_neg (by simp [notSpace])]
    rfl
  · rename_i some
    rw [List.isEmpty_iff] at some
    rw [List.head?_append_of_ne_nil _ some, List.head?_append_of_ne_nil _ some]

/-- Before a mark that is found there are only blanks. -/
theorem behind_mark {behind next : List Char} {mark : Char}
    (shape : Json.skipSpace behind = mark :: next) :
    ∃ back, behind = back ++ mark :: next ∧ AllSpace back := by
  obtain ⟨back, whole, blank⟩ := skipSpace_cases behind
  rw [shape] at whole
  exact ⟨back, whole, blank⟩

/-- A list without items or members is closed behind its blanks. -/
theorem closed_again {inner : List Char} {mark : Char} (notSpace : isSpace mark = false)
    (closed : Json.skipSpace inner = mark :: left) :
    ∃ front, inner = front ++ mark :: left ∧
      ∀ rest, Json.skipSpace (front ++ mark :: rest) = mark :: rest := by
  obtain ⟨front, shape, blank⟩ := behind_mark closed
  exact ⟨front, shape, skipSpace_behind blank notSpace⟩

theorem valueStep_again (itemsWritten : ItemsWritten fuel) (membersWritten : MembersWritten fuel)
    (step : ValueStep fuel text value left) :
    ∃ taken, text = taken ++ left ∧ ∀ fuel rest, 2 * taken.length ≤ fuel + 1 →
      Number.EndsNumber rest → ValueStep fuel (taken ++ rest) value rest := by
  cases step with
  | null => exact ⟨['n', 'u', 'l', 'l'], rfl, fun _ rest _ _ => .null rest⟩
  | true => exact ⟨['t', 'r', 'u', 'e'], rfl, fun _ rest _ _ => .true rest⟩
  | false => exact ⟨['f', 'a', 'l', 's', 'e'], rfl, fun _ rest _ _ => .false rest⟩
  | text read =>
      obtain ⟨taken, rfl, ends⟩ := endsLiteral_of_read read
      exact ⟨'"' :: taken, rfl, fun _ rest _ _ => .text (ends rest)⟩
  | noItems closed =>
      obtain ⟨front, rfl, again⟩ := closed_again rfl closed
      refine ⟨'[' :: (front ++ [']']), by simp, fun _ rest _ _ => ?_⟩
      rw [List.cons_append, List.append_assoc]
      exact .noItems (again rest)
  | items unclosed read =>
      obtain ⟨parts, nonempty, rfl, writes⟩ := itemsWritten read
      refine ⟨'[' :: ([','].intercalate parts ++ [']']), by simp, fun fuel rest enough _ => ?_⟩
      rw [List.cons_append, List.append_assoc]
      simp only [List.length_cons, List.length_append] at enough
      rw [head?_skipSpace_mark rfl rest] at unclosed
      exact .items unclosed (readItems_parts writes nonempty (by omega))
  | noMembers closed =>
      obtain ⟨front, rfl, again⟩ := closed_again rfl closed
      refine ⟨'{' :: (front ++ ['}']), by simp, fun _ rest _ _ => ?_⟩
      rw [List.cons_append, List.append_assoc]
      exact .noMembers (again rest)
  | members unclosed read =>
      obtain ⟨parts, nonempty, rfl, writes⟩ := membersWritten read
      refine ⟨'{' :: ([','].intercalate parts ++ ['}']), by simp, fun fuel rest enough _ => ?_⟩
      rw [List.cons_append, List.append_assoc]
      simp only [List.length_cons, List.length_append] at enough
      rw [head?_skipSpace_mark rfl rest] at unclosed
      exact .members unclosed (readMembers_parts writes nonempty (by omega))
  | number read =>
      obtain ⟨taken, rfl, takes⟩ := Number.read_again read
      exact ⟨taken, rfl, fun _ rest _ ends => .number (takes rest ends)⟩

theorem valuesWritten_succ (itemsWritten : ItemsWritten fuel)
    (membersWritten : MembersWritten fuel) : ValuesWritten (fuel + 1) := by
  intro text value left read
  obtain ⟨front, shape, blank⟩ := skipSpace_cases text
  obtain ⟨taken, rest, again⟩ :=
    valueStep_again itemsWritten membersWritten (valueStep_of_read read)
  refine ⟨front ++ taken, ?_, writesValue_of_steps blank again⟩
  rw [List.append_assoc, ← rest]
  exact shape

theorem itemsWritten_succ (valuesWritten : ValuesWritten fuel)
    (itemsWritten : ItemsWritten fuel) : ItemsWritten (fuel + 1) := by
  intro text items left read
  cases itemsStep_of_read read with
  | last readItem closed =>
      obtain ⟨taken, rfl, writes⟩ := valuesWritten readItem
      obtain ⟨back, rfl, blank⟩ := behind_mark closed
      refine ⟨[taken ++ back], List.cons_ne_nil _ _, ?_,
        .cons ⟨taken, back, rfl, writes, blank⟩ .nil⟩
      rw [List.intercalate_singleton, List.append_assoc]
  | more readItem comma later =>
      obtain ⟨taken, rfl, writes⟩ := valuesWritten readItem
      obtain ⟨back, rfl, blank⟩ := behind_mark comma
      obtain ⟨parts, nonempty, rfl, writesLater⟩ := itemsWritten later
      refine ⟨(taken ++ back) :: parts, List.cons_ne_nil _ _, ?_,
        .cons ⟨taken, back, rfl, writes, blank⟩ writesLater⟩
      obtain ⟨next, parts, rfl⟩ := List.exists_cons_of_ne_nil nonempty
      simp [List.intercalate_cons_cons]

theorem NameStep.written {name : Option String} {named : List Char}
    (passed : NameStep text name named) :
    ∃ front literal middle content,
      text = front ++ '"' :: (literal ++ (middle ++ ':' :: named)) ∧ AllSpace front ∧
        EndsLiteral none content literal ∧ AllSpace middle ∧
        name = content.map String.ofList := by
  obtain ⟨body, literal, quote, readName, colon, rfl⟩ := passed
  obtain ⟨front, rfl, blankFront⟩ := behind_mark quote
  obtain ⟨taken, rfl, ends⟩ := endsLiteral_of_read readName
  obtain ⟨middle, shape, blankMiddle⟩ := behind_mark colon
  exact ⟨front, taken, middle, literal.content, by rw [shape], blankFront, ends, blankMiddle, rfl⟩

theorem membersWritten_succ (valuesWritten : ValuesWritten fuel)
    (membersWritten : MembersWritten fuel) : MembersWritten (fuel + 1) := by
  intro text members left read
  cases membersStep_of_read read with
  | last passed readValue closed =>
      obtain ⟨front, literal, middle, content, rfl, blankFront, ends, blankMiddle, rfl⟩ :=
        passed.written
      obtain ⟨taken, rfl, writes⟩ := valuesWritten readValue
      obtain ⟨back, rfl, blank⟩ := behind_mark closed
      refine ⟨[front ++ '"' :: (literal ++ (middle ++ ':' :: (taken ++ back)))],
        List.cons_ne_nil _ _, by simp, .cons ?_ .nil⟩
      exact ⟨front, literal, middle, taken, back, content, rfl, blankFront, ends, blankMiddle,
        writes, blank, rfl⟩
  | more passed readValue comma later =>
      obtain ⟨front, literal, middle, content, rfl, blankFront, ends, blankMiddle, rfl⟩ :=
        passed.written
      obtain ⟨taken, rfl, writes⟩ := valuesWritten readValue
      obtain ⟨back, rfl, blank⟩ := behind_mark comma
      obtain ⟨parts, nonempty, rfl, writesLater⟩ := membersWritten later
      refine ⟨(front ++ '"' :: (literal ++ (middle ++ ':' :: (taken ++ back)))) :: parts,
        List.cons_ne_nil _ _, ?_, .cons ?_ writesLater⟩
      · obtain ⟨next, parts, rfl⟩ := List.exists_cons_of_ne_nil nonempty
        simp [List.intercalate_cons_cons]
      · exact ⟨front, literal, middle, taken, back, content, rfl, blankFront, ends, blankMiddle,
          writes, blank, rfl⟩

/-- Whatever is read to its end was written by the grammar, as parts that are read the same before
other rests. -/
theorem written_of_read (fuel : Nat) :
    ValuesWritten fuel ∧ ItemsWritten fuel ∧ MembersWritten fuel := by
  -- The three readers call one another with less fuel, so they are taken together.
  induction fuel with
  | zero =>
      refine ⟨?_, ?_, ?_⟩ <;> intro _ _ _ read <;> cases read
  | succ fuel inductionHypothesis =>
      obtain ⟨values, items, members⟩ := inductionHypothesis
      exact ⟨valuesWritten_succ items members, itemsWritten_succ values items,
        membersWritten_succ values members⟩

end Written

end Json
end ClusterAgent
