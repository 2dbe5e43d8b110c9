import ClusterAgent.Json.Shape
import ClusterAgent.Proofs.Json.Objects
namespace ClusterAgent
namespace Json

/-! ## Further members -/

/-- Members of names other than those known are put between the others. -/
inductive Inserted (known : List String) : List (List Char) → List (List Char) → Prop
  | nil : Inserted known [] []
  | keep (member : List Char) {members longer : List (List Char)} :
      Inserted known members longer → Inserted known (member :: members) (member :: longer)
  | further {name : String} {member : List Char} {members longer : List (List Char)} :
      IsMember name member → name ∉ known → Inserted known members longer →
      Inserted known members (member :: longer)

/-- The longer text has further members, of names other than those known, and differs in nothing
else. -/
structure ObjectText.Widens (known : List String) (object longer : ObjectText) : Prop where
  front : longer.front = object.front
  members : Inserted known object.members longer.members
  behind : longer.behind = object.behind

namespace Shape

section Decoding

variable {shape : Shape} {kind : Kind} {value : Reading} {found : FieldValue}
  {fields earlier : Fields} {name : String} {members longerMembers : List (Option String × Reading)}
  {parts longer : List (List Char)} {text : List Char}

theorem complete_of_decodeText {text : String} (decoded : value.decodeText = .ok text) :
    value.isComplete = true := by
  rw [Reading.decodeText.eq_def] at decoded
  split at decoded
  · rfl
  · cases decoded

theorem allComplete_of_decodeTexts {items : List Reading} {texts : List String}
    (decoded : items.mapM Reading.decodeText = .ok texts) :
    Reading.allComplete items = true := by
  induction items generalizing texts with
  | nil => rfl
  | cons item items inductionHypothesis =>
      rw [List.mapM_cons] at decoded
      cases first : item.decodeText with
      | error error =>
          rw [first] at decoded
          cases decoded
      | ok text =>
          cases later : items.mapM Reading.decodeText with
          | error error =>
              rw [first, later] at decoded
              cases decoded
          | ok texts =>
              rw [Reading.allComplete, complete_of_decodeText first, inductionHypothesis later,
                Bool.and_self]

theorem complete_of_decodeTexts {texts : List String} (decoded : value.decodeTexts = .ok texts) :
    value.isComplete = true := by
  rw [Reading.decodeTexts.eq_def] at decoded
  split at decoded
  · exact allComplete_of_decodeTexts decoded
  · cases decoded

theorem complete_of_decodeFlag {flag : Bool} (decoded : value.decodeFlag = .ok flag) :
    value.isComplete = true := by
  rw [Reading.decodeFlag.eq_def] at decoded
  split at decoded
  · rfl
  · cases decoded

theorem complete_of_decodePort {port : Nat} (decoded : value.decodePort = .ok port) :
    value.isComplete = true := by
  rw [Reading.decodePort.eq_def] at decoded
  split at decoded
  · cases decoded
  · split at decoded
    · rfl
    · rfl
    · cases decoded

theorem complete_of_map {α β : Type} {result : Except DecodeError α} {change : α → β}
    {mapped : β} (decoded : result.map change = .ok mapped)
    (complete : ∀ {inner}, result = .ok inner → value.isComplete = true) :
    value.isComplete = true := by
  cases result with
  | error error => cases decoded
  | ok inner => exact complete rfl

/-- A member that is decoded was read to its end. -/
theorem complete_of_decodeField (decoded : value.decodeField kind = .ok found) :
    value.isComplete = true := by
  rw [Reading.decodeField.eq_def] at decoded
  split at decoded
  · exact complete_of_map decoded complete_of_decodeText
  · exact complete_of_map decoded complete_of_decodeFlag
  · exact complete_of_map decoded complete_of_decodePort
  · exact complete_of_map decoded complete_of_decodeTexts
  · rfl
  · exact complete_of_map decoded complete_of_decodeText
  · rfl
  · exact complete_of_map decoded complete_of_decodeTexts

theorem named_of_decodeMembers (decoded : shape.decodeMembers earlier members = .ok fields) :
    Reading.membersComplete members = true ∧ ∀ member ∈ members, member.1.isSome := by
  induction members generalizing earlier with
  | nil => simp [Reading.membersComplete]
  | cons member members inductionHypothesis =>
      rw [decodeMembers.eq_def] at decoded
      obtain ⟨_ | name, value⟩ := member
      · cases decoded
      · rw [Reading.membersComplete, List.forall_mem_cons]
        dsimp only at decoded
        split at decoded
        · split at decoded
          · rename_i complete
            obtain ⟨allComplete, allNamed⟩ := inductionHypothesis decoded
            exact ⟨by rw [complete, allComplete, Bool.and_self], rfl, allNamed⟩
          · cases decoded
        · split at decoded
          · cases decoded
          · split at decoded
            · cases decoded
            · rename_i decodedValue
              obtain ⟨allComplete, allNamed⟩ := inductionHypothesis decoded
              have complete := complete_of_decodeField decodedValue
              exact ⟨by rw [complete, allComplete, Bool.and_self], rfl, allNamed⟩

theorem field?_of_not_mem (unknown : name ∉ shape.fields.map Field.name) :
    shape.field? name = none := by
  rw [field?, List.find?_eq_none]
  intro field among same
  exact unknown (List.mem_map.mpr ⟨field, among, by simpa using same⟩)

theorem decodeMembers_cons (member : Option String × Reading)
    (same : ∀ earlier,
      shape.decodeMembers earlier longerMembers = shape.decodeMembers earlier members) :
    shape.decodeMembers earlier (member :: longerMembers) =
      shape.decodeMembers earlier (member :: members) := by
  obtain ⟨_ | name, value⟩ := member
  · rfl
  · rw [decodeMembers.eq_def, decodeMembers.eq_def shape earlier (_ :: members)]
    dsimp only
    simp only [same]

theorem decodeMembers_inserted
    (inserted : Inserted (shape.fields.map Field.name) parts longer)
    (writes : List.Forall₂ WritesMember members parts) :
    ∃ longerMembers, List.Forall₂ WritesMember longerMembers longer ∧
      ∀ earlier,
        shape.decodeMembers earlier longerMembers = shape.decodeMembers earlier members := by
  -- What was found earlier differs from step to step, so the equality is for all of it.
  induction inserted generalizing members with
  | nil => exact ⟨members, writes, fun _ => rfl⟩
  | keep part _ inductionHypothesis =>
      cases writes with
      | @cons member _ members _ first later =>
          obtain ⟨longerMembers, writesLonger, same⟩ := inductionHypothesis later
          exact ⟨member :: longerMembers, .cons first writesLonger,
            fun _ => decodeMembers_cons member same⟩
  | @further name part parts longer isMember unknown _ inductionHypothesis =>
      obtain ⟨value, first, complete⟩ := writes_of_isMember isMember
      obtain ⟨longerMembers, writesLonger, same⟩ := inductionHypothesis writes
      refine ⟨(some name, value) :: longerMembers, .cons first writesLonger, fun earlier => ?_⟩
      simp only [decodeMembers, field?_of_not_mem unknown, complete, if_true]
      exact same earlier

variable {object longerObject : ObjectText}

theorem read_widens (widens : object.Widens (shape.fields.map Field.name) longerObject) :
    shape.decodeReading (read longerObject.text).1 = shape.decodeReading (read object.text).1 ∧
      (read longerObject.text).2 = (read object.text).2 := by
  obtain ⟨members, writes⟩ := exists_writes object.areMembers
  obtain ⟨longerMembers, writesLonger, same⟩ := decodeMembers_inserted widens.members writes
  rw [ObjectText.text, ObjectText.text,
    read_parts longerObject.isBlank longerObject.nonempty writesLonger,
    read_parts object.isBlank object.nonempty writes, widens.behind]
  exact ⟨congrArg (· >>= shape.requireFields) (same []), rfl⟩

theorem decodeStart_widens (widens : object.Widens (shape.fields.map Field.name) longerObject) :
    shape.decodeStart longerObject.text = shape.decodeStart object.text :=
  (read_widens widens).1

theorem decode_widens (widens : object.Widens (shape.fields.map Field.name) longerObject) :
    shape.decode longerObject.text = shape.decode object.text := by
  obtain ⟨sameReading, sameEnd⟩ := read_widens widens
  rw [decode, decode, sameReading, sameEnd]

theorem requireFields_nil (required : ∃ field ∈ shape.fields, field.required = true) :
    shape.requireFields [] ≠ .ok fields := by
  obtain ⟨field, among, isRequired⟩ := required
  rw [requireFields]
  split
  · intro same
    cases same
  · rename_i nothingMissed
    have present := List.find?_eq_none.mp nothingMissed field among
    simp [isRequired] at present

/-- An object that is a record with a required field has members. -/
theorem objectText_of_decodeStart (required : ∃ field ∈ shape.fields, field.required = true)
    (isObject : (read text).1 = .object members) (decoded : shape.decodeStart text = .ok fields) :
    ∃ object : ObjectText, object.text = text := by
  rw [decodeStart, isObject, decodeReading] at decoded
  cases decodedMembers : shape.decodeMembers [] members with
  | error error =>
      rw [decodedMembers] at decoded
      cases decoded
  | ok found =>
      rw [decodedMembers] at decoded
      obtain ⟨complete, named⟩ := named_of_decodeMembers decodedMembers
      have nonempty : members ≠ [] := by
        rintro rfl
        cases decodedMembers
        exact requireFields_nil required decoded
      obtain ⟨front, parts, behind, rfl, blank, someParts, writes⟩ :=
        parts_of_read nonempty complete isObject
      exact ⟨⟨front, parts, behind, blank, someParts, exists_isMember writes named⟩, rfl⟩

end Decoding

end Shape
end Json
end ClusterAgent
