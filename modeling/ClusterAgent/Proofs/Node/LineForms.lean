import ClusterAgent.Proofs.Node.EndpointFlag
namespace ClusterAgent
namespace Flags

open Text Endpoints

/-! ## The two forms of a line -/

/-- A flag with its value behind a space. -/
def spacedLine (flag value : List Char) : List Char :=
  flag ++ ' ' :: value

/-- A flag with its value behind an equals sign. -/
def signedLine (flag value : List Char) : List Char :=
  flag ++ '=' :: value

/-- The flag file of the service can be read and has these lines. -/
def HasLines (service : String) (disk : Disk) (items : List (List Char)) : Prop :=
  ∃ text, disk.textOf (Layout.flags service) = .ok text ∧ lines text.toList = items

section Forms

variable {flag value : List Char}

theorem valueOn_signedLine (isFlag : IsFlag flag) (nonempty : value ≠ [])
    (valueSolid : Solid value) : valueOn flag (trim (signedLine flag value)) = some value := by
  have written : lineOf flag value = signedLine flag value := if_neg (by simpa using nonempty)
  rw [← written]
  exact valueOn_lineOf isFlag valueSolid

/-- Behind a space the value is a word of its own, which is split at its own equals sign. -/
theorem valueOn_spacedLine (isFlag : IsFlag flag) (nonempty : value ≠ [])
    (valueSolid : Solid value) (different : value ≠ flag) :
    valueOn flag (trim (spacedLine flag value)) = some (behindSign value) := by
  have trimmed : Trimmed (spacedLine flag value) :=
    trimmed_between isFlag.nonempty isFlag.solid nonempty valueSolid [' ']
  have twoWords : words (spacedLine flag value) = [flag, value] := by
    rw [spacedLine, words_append isFlag.nonempty isFlag.solid rfl,
      words_of_solid nonempty valueSolid]
  have named : nameOf (spacedLine flag value) = flag := nameOf_append isFlag rfl value
  rw [trimmed.trim, valueOn, if_pos named, twoWords, behindSign]
  simp only [List.getLast?_cons_cons, List.getLast?_singleton, Option.map_some]
  rcases splitOnce '=' value with _ | parts
  · rw [if_neg different]
  · rfl

end Forms

section Files

variable {service flag value : String} {spaced signed : Disk} {front back : List (List Char)}

theorem lookup_of_line {disk : Disk} {line : List Char} {found : List Char}
    (file : HasLines service disk (front ++ line :: back))
    (isFirst : ∀ other ∈ front, nameOf (trim other) ≠ flag.toList)
    (onLine : valueOn flag.toList (trim line) = some found) :
    lookup service flag disk = String.ofList found := by
  obtain ⟨text, read, shape⟩ := file
  rw [lookup_of_textOf read, value_of_line shape isFirst onLine]

/-- The form with an equals sign gives the whole value, and the form with a space what follows
the value's own first equals sign. The two forms mean the same exactly for values without
equals signs. -/
theorem forms_agree_iff (isFlag : IsFlag flag.toList) (nonempty : value ≠ "")
    (valueSolid : Solid value.toList) (different : value ≠ flag)
    (others : ∀ line ∈ front ++ back, nameOf (trim line) ≠ flag.toList)
    (spacedFile : HasLines service spaced (front ++ spacedLine flag.toList value.toList :: back))
    (signedFile : HasLines service signed (front ++ signedLine flag.toList value.toList :: back)) :
    lookup service flag signed = value ∧
      lookup service flag spaced = String.ofList (behindSign value.toList) ∧
      (lookup service flag spaced = lookup service flag signed ↔ '=' ∉ value.toList) := by
  have isFirst : ∀ line ∈ front, nameOf (trim line) ≠ flag.toList :=
    fun line member => others line (List.mem_append_left _ member)
  have textNonempty : value.toList ≠ [] := by simpa using nonempty
  have textDifferent : value.toList ≠ flag.toList := fun same =>
    different (String.toList_inj.mp same)
  have fromSigned : lookup service flag signed = value := by
    rw [lookup_of_line signedFile isFirst (valueOn_signedLine isFlag textNonempty valueSolid),
      String.ofList_toList]
  have fromSpaced : lookup service flag spaced = String.ofList (behindSign value.toList) :=
    lookup_of_line spacedFile isFirst
      (valueOn_spacedLine isFlag textNonempty valueSolid textDifferent)
  refine ⟨fromSigned, fromSpaced, ?_⟩
  rw [fromSigned, fromSpaced, ← behindSign_eq_self, ← String.toList_inj, String.toList_ofList]

end Files

/-! ## A label in both forms -/

/-- A flag file of the kubelet with this line between two others. -/
def labelled (line : String) : Disk :=
  { Disk.empty "/data" with
    entries :=
      [(["args"], .directory),
        (["args", "kubelet"], .file ("# labels\n" ++ line ++ "\n--v 2").toUTF8 false)] }

def spacedLabel : List Char := spacedLine "--node-labels".toList "role=node".toList

def signedLabel : List Char := signedLine "--node-labels".toList "role=node".toList

theorem spacedLabel_hasLines :
    HasLines "kubelet" (labelled "--node-labels role=node")
      (["# labels".toList] ++ spacedLabel :: ["--v 2".toList]) :=
  ⟨"# labels\n--node-labels role=node\n--v 2", by decide +kernel, by decide +kernel⟩

theorem signedLabel_hasLines :
    HasLines "kubelet" (labelled "--node-labels=role=node")
      (["# labels".toList] ++ signedLabel :: ["--v 2".toList]) :=
  ⟨"# labels\n--node-labels=role=node\n--v 2", by decide +kernel, by decide +kernel⟩

theorem label_isFlag : IsFlag "--node-labels".toList := by decide +kernel

theorem label_solid : Solid "role=node".toList := by decide +kernel

theorem label_others :
    ∀ line ∈ ["# labels".toList] ++ ["--v 2".toList],
      nameOf (trim line) ≠ "--node-labels".toList := by
  decide +kernel

theorem label_forms_differ :
    HasLines "kubelet" (labelled "--node-labels role=node")
        (["# labels".toList] ++ spacedLabel :: ["--v 2".toList]) ∧
      HasLines "kubelet" (labelled "--node-labels=role=node")
        (["# labels".toList] ++ signedLabel :: ["--v 2".toList]) ∧
      lookup "kubelet" "--node-labels" (labelled "--node-labels=role=node") = "role=node" ∧
      lookup "kubelet" "--node-labels" (labelled "--node-labels role=node") = "node" ∧
      lookup "kubelet" "--node-labels" (labelled "--node-labels role=node") ≠
        lookup "kubelet" "--node-labels" (labelled "--node-labels=role=node") := by
  obtain ⟨fromSigned, fromSpaced, agree⟩ := forms_agree_iff label_isFlag (by decide) label_solid
    (by decide) label_others spacedLabel_hasLines signedLabel_hasLines
  have behind : String.ofList (behindSign "role=node".toList) = "node" := by decide +kernel
  exact ⟨spacedLabel_hasLines, signedLabel_hasLines, fromSigned, fromSpaced.trans behind,
    fun same => agree.mp same (by decide +kernel)⟩

/-- A value with an equals sign loses its front in the form with a space. -/
theorem forms_may_differ :
    ¬∀ (service flag value : String) (front back : List (List Char)) (spaced signed : Disk),
      IsFlag flag.toList → value ≠ "" → Solid value.toList → value ≠ flag →
        (∀ line ∈ front ++ back, nameOf (trim line) ≠ flag.toList) →
          HasLines service spaced
              (front ++ spacedLine flag.toList value.toList :: back) →
            HasLines service signed
                (front ++ signedLine flag.toList value.toList :: back) →
              lookup service flag spaced = value ∧ lookup service flag signed = value := by
  intro sameMeaning
  have read := (sameMeaning "kubelet" "--node-labels" "role=node" ["# labels".toList]
    ["--v 2".toList] _ _ label_isFlag (by decide) label_solid (by decide) label_others
    spacedLabel_hasLines signedLabel_hasLines).1
  have cut : lookup "kubelet" "--node-labels" (labelled "--node-labels role=node") = "node" := by
    decide +kernel
  rw [cut] at read
  exact absurd read (by decide)

end Flags
end ClusterAgent
