import ClusterAgent.Net.HostPort
import ClusterAgent.Proofs.Net.Ip.Characters
import ClusterAgent.Proofs.Text.Words
namespace ClusterAgent
namespace HostPort

/-! ## Splitting what was joined -/

section Joining

variable {host port : List Char}

theorem splitTrimmed_brackets (noClose : ']' ∉ host) :
    splitTrimmed ('[' :: host ++ ']' :: ':' :: port) = (host, nonempty port) := by
  have split := Text.splitOnce_append noClose (':' :: port)
  simp [splitTrimmed, split]

theorem splitTrimmed_colon (noOpen : '[' ∉ host) (noColon : ':' ∉ host) (single : ':' ∉ port) :
    splitTrimmed (host ++ ':' :: port) = (host, nonempty port) := by
  have split := Text.splitOnce_append noColon port
  cases host with
  | nil =>
      rw [List.nil_append] at split ⊢
      simp [splitTrimmed, split, single]
  | cons first host =>
      have notOpen : first ≠ '[' := by
        rintro rfl
        exact noOpen List.mem_cons_self
      rw [List.cons_append] at split ⊢
      rw [splitTrimmed]
      · simp [split, single]
      · rintro rest ⟨⟩
        exact notOpen rfl

theorem splitTrimmed_brackets_only (noClose : ']' ∉ host) :
    splitTrimmed ('[' :: host ++ [']']) = (host, none) := by
  have split := Text.splitOnce_append noClose []
  simp [splitTrimmed, split]

theorem splitTrimmed_bare (noOpen : '[' ∉ host) (noColon : ':' ∉ host) :
    splitTrimmed host = (host, none) := by
  have unsplit := Text.splitOnce_eq_none noColon
  rw [splitTrimmed.eq_def]
  split
  · exact absurd List.mem_cons_self noOpen
  · rw [unsplit]

/-- A text with several colons is a bare address, all of which is host. -/
theorem splitTrimmed_of_count (noOpen : '[' ∉ host) (notSingle : host.count ':' ≠ 1) :
    splitTrimmed host = (host, none) := by
  by_cases colon : ':' ∈ host
  · obtain ⟨front, rest, rfl, noColon⟩ := List.eq_append_cons_of_mem colon
    have another : ':' ∈ rest := by
      rw [List.count_append, List.count_eq_zero_of_not_mem noColon, List.count_cons_self]
        at notSingle
      exact List.count_pos_iff.mp (by omega)
    have split := Text.splitOnce_append noColon rest
    rw [splitTrimmed.eq_def]
    split
    · rename_i opens
      rw [opens] at noOpen
      exact absurd List.mem_cons_self noOpen
    · rw [split]
      exact if_pos another
  · exact splitTrimmed_bare noOpen colon

theorem nonempty_of_splitTrimmed {text port : List Char}
    (found : (splitTrimmed text).2 = some port) : port ≠ [] := by
  have given {part : List Char} (found : nonempty part = some port) : port ≠ [] := by
    rw [nonempty] at found
    split at found
    · cases found
    · rename_i partNonempty
      cases found
      simpa using partNonempty
  rw [splitTrimmed.eq_def] at found
  split at found
  · split at found
    · exact given found
    · cases found
    · cases found
  · split at found
    · split at found
      · cases found
      · exact given found
    · cases found

end Joining

theorem port_ne_empty {text port : String} (found : (split text).port = some port) :
    port ≠ "" := by
  obtain ⟨part, partFound, rfl⟩ := Option.map_eq_some_iff.mp found
  simpa using nonempty_of_splitTrimmed partFound

/-- A host without brackets is found again in the address that it makes with a port. A port
with a colon can only stand behind brackets. -/
theorem split_join {host port : String} (noOpen : '[' ∉ host.toList) (noClose : ']' ∉ host.toList)
    (startsPlain : ∀ first ∈ host.toList.head?, Text.isBlank first = false)
    (single : ':' ∉ host.toList → ':' ∉ port.toList) :
    split (join host port) =
      ⟨host, (nonempty (Text.trimEnd port.toList)).map String.ofList⟩ := by
  have notBlank : Text.isBlank ':' = false := rfl
  rw [split, join]
  split
  · have text : ("[" ++ host ++ "]:" ++ port).toList =
        ('[' :: host.toList ++ [']']) ++ ':' :: port.toList := by
      simp
    have trimmed : Text.trim (('[' :: host.toList ++ [']']) ++ ':' :: port.toList) =
        '[' :: host.toList ++ ']' :: ':' :: Text.trimEnd port.toList := by
      rw [Text.trim_append_mark notBlank (by rintro first ⟨⟩; rfl)]
      simp
    rw [text, trimmed, splitTrimmed_brackets noClose, String.ofList_toList]
  · rename_i noColon
    have text : (host ++ ":" ++ port).toList = host.toList ++ ':' :: port.toList := by simp
    have stillSingle : ':' ∉ Text.trimEnd port.toList := by
      intro member
      refine single noColon ?_
      have inReverse := (List.dropWhile_sublist _).subset (List.mem_reverse.mp member)
      exact List.mem_reverse.mp inReverse
    rw [text, Text.trim_append_mark notBlank startsPlain,
      splitTrimmed_colon noOpen noColon stillSingle, String.ofList_toList]

/-- Without blanks at its ends the port is found again as well, if there is one. -/
theorem split_join_of_trimmed {host port : String} (noOpen : '[' ∉ host.toList)
    (noClose : ']' ∉ host.toList) (hostTrimmed : Text.Trimmed host.toList)
    (portTrimmed : Text.Trimmed port.toList) (single : ':' ∉ port.toList) :
    split (join host port) = ⟨host, if port = "" then none else some port⟩ := by
  have whole : Text.trimEnd port.toList = port.toList := Text.trimEnd_eq_self portTrimmed.last
  rw [split_join noOpen noClose hostTrimmed.first fun _ => single, whole, nonempty]
  by_cases empty : port = ""
  · subst empty
    rfl
  · rw [if_neg (by simpa using empty), if_neg empty, Option.map_some, String.ofList_toList]

/-- A port of digits is found again, with the host that it was joined to. -/
theorem split_join_of_digits {host port : String} (noOpen : '[' ∉ host.toList)
    (noClose : ']' ∉ host.toList) (trimmed : Text.Trimmed host.toList) (given : port ≠ "")
    (digits : ∀ character ∈ port.toList, character.isDigit = true) :
    split (join host port) = ⟨host, some port⟩ := by
  have noColon : ':' ∉ port.toList := by
    intro member
    cases digits ':' member
  have portTrimmed : Text.Trimmed port.toList := Text.trimmed_of_noBlank fun character member =>
    Text.isBlank_of_isDigit (digits character member)
  rw [split_join_of_trimmed noOpen noClose trimmed portTrimmed noColon, if_neg given]

/-- A host that is an address is found again in the text that it makes with a port. -/
theorem host_split_join {host port : String} {address : IpAddress}
    (reads : IpAddress.ofText? host = some address) (single : ':' ∉ port.toList) :
    (split (join host port)).host = host := by
  have plain := IpAddress.isHostCharacter_of_ofChars? reads
  have startsPlain : ∀ first ∈ host.toList.head?, Text.isBlank first = false := by
    intro first isFirst
    have isHost := plain first (List.mem_of_mem_head? isFirst)
    simp only [IpAddress.isHostCharacter, Bool.and_eq_true, Bool.not_eq_true'] at isHost
    exact isHost.1.1
  rw [split_join _ _ startsPlain fun _ => single]
  · intro member
    cases plain _ member
  · intro member
    cases plain _ member

theorem split_surrounded {front back : String}
    (blankFront : ∀ character ∈ front.toList, Text.isBlank character = true)
    (blankBack : ∀ character ∈ back.toList, Text.isBlank character = true) (text : String) :
    split (front ++ text ++ back) = split text := by
  rw [split, split, String.toList_append, String.toList_append,
    Text.trim_surrounded blankFront blankBack]

/-- A host without brackets and without blanks at its ends comes back from the text that it makes
with a port, and so does the port unless it is empty, whatever blanks stand around the text. The
host alone comes back as well when it has no colon or several. -/
theorem split_undoes_join {host port : String} (noOpen : '[' ∉ host.toList)
    (noClose : ']' ∉ host.toList) (hostTrimmed : Text.Trimmed host.toList)
    (single : ':' ∉ port.toList) (portTrimmed : Text.Trimmed port.toList) :
    split (join host port) = ⟨host, if port = "" then none else some port⟩ ∧
      (∀ front back : String,
        (∀ character ∈ front.toList, Text.isBlank character = true) →
          (∀ character ∈ back.toList, Text.isBlank character = true) →
            split (front ++ join host port ++ back) = split (join host port)) ∧
        (host.toList.count ':' ≠ 1 → split host = ⟨host, none⟩) := by
  refine ⟨split_join_of_trimmed noOpen noClose hostTrimmed portTrimmed single,
    fun _ _ blankFront blankBack => split_surrounded blankFront blankBack _,
    fun notSingle => ?_⟩
  rw [split, hostTrimmed.trim, splitTrimmed_of_count noOpen notSingle, Option.map_none,
    String.ofList_toList]

theorem split_undoes_join_of_colons :
    split " [fd00::1]:19001\t" = ⟨"fd00::1", some "19001"⟩ ∧
      split "fd00::1" = ⟨"fd00::1", none⟩ := by
  have hostSolid : Text.Solid "fd00::1".toList := by decide
  have portSolid : Text.Solid "19001".toList := by decide
  have undone := split_undoes_join (by decide : '[' ∉ "fd00::1".toList)
    (by decide : ']' ∉ "fd00::1".toList) (Text.trimmed_of_noBlank hostSolid)
    (by decide : ':' ∉ "19001".toList) (Text.trimmed_of_noBlank portSolid)
  have surrounded := undone.2.1 " " "\t" (List.all_eq_true.mp (by decide))
    (List.all_eq_true.mp (by decide))
  exact ⟨surrounded.trans undone.1, undone.2.2 (by decide)⟩

end HostPort
end ClusterAgent
