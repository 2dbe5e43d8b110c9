import ClusterAgent.Proofs.Files.Renewing
import ClusterAgent.Proofs.Node.AdminToken
namespace ClusterAgent

open Disk Running

namespace NodeState

open Text

/-! ## Rows and their second column -/

/-- What has no comma is appended to the last column. -/
theorem columns_append {back : List Char} (noComma : ',' ∉ back) (row : List Char) :
    ∃ front last,
      columns row = front ++ [last] ∧ columns (row ++ back) = front ++ [last ++ back] := by
  induction row with
  | nil => exact ⟨[], [], rfl, List.splitOn_eq_singleton noComma⟩
  | cons character row inductionHypothesis =>
      obtain ⟨front, last, parts, longer⟩ := inductionHypothesis
      rw [columns] at parts longer
      rw [columns, columns, List.cons_append, List.splitOn_cons_eq_if_modifyHead,
        List.splitOn_cons_eq_if_modifyHead, parts, longer]
      by_cases isComma : (character == ',') = true
      · rw [if_pos isComma, if_pos isComma]
        exact ⟨[] :: front, last, rfl, rfl⟩
      · rw [if_neg isComma, if_neg isComma]
        cases front with
        | nil => exact ⟨[], character :: last, rfl, rfl⟩
        | cons first front => exact ⟨(character :: first) :: front, last, rfl, rfl⟩

/-- A carriage return at the end of a row is a blank around the last column. -/
theorem trim_columns_withoutReturn (row : List Char) :
    (columns (withoutReturn row)).map trim = (columns row).map trim := by
  rcases withoutReturn_eq_or row with same | longer
  · rw [← same]
  · obtain ⟨front, last, parts, longerParts⟩ :=
      columns_append (by decide : ',' ∉ ['\r']) (withoutReturn row)
    rw [← longer] at longerParts
    rw [parts, longerParts, List.map_append, List.map_append, List.map_singleton,
      List.map_singleton, trim_append_blank rfl]

theorem isAdminRow_iff {row : List Char} :
    isAdminRow row = true ↔ ((columns row).map trim)[1]? = some adminName := by
  rw [isAdminRow]
  rcases columns row with _ | ⟨_, _ | ⟨user, _⟩⟩
  · simp
  · simp
  · simp

theorem isAdminRow_withoutReturn (row : List Char) :
    isAdminRow (withoutReturn row) = isAdminRow row := by
  rw [Bool.eq_iff_iff, isAdminRow_iff, isAdminRow_iff, trim_columns_withoutReturn]

/-- A row that gives the administrator's token is one of the administrator. -/
theorem isAdminRow_of_adminTokenOf {row token : List Char}
    (found : adminTokenOf row = some token) : isAdminRow row = true := by
  rw [adminTokenOf] at found
  split at found
  · rename_i columns
    dsimp only at found
    split at found
    · rename_i isAdmin
      rw [isAdminRow, columns]
      exact beq_iff_eq.mpr isAdmin.1
    · cases found
  · cases found

theorem isAdminRow_adminRow {token : List Char} (isToken : IsAdminToken token) :
    isAdminRow (adminRow token) = true :=
  isAdminRow_of_adminTokenOf (adminTokenOf_adminRow isToken)

/-! ## The rows of a table -/

/-- The rows that are not the administrator's. -/
def otherRows (rows : List (List Char)) : List (List Char) :=
  rows.filter fun row => !isAdminRow row

theorem otherRows_map_withoutReturn (rows : List (List Char)) :
    otherRows (rows.map withoutReturn) = (otherRows rows).map withoutReturn := by
  rw [otherRows, otherRows, List.filter_map]
  congr 2
  funext row
  rw [Function.comp_apply, isAdminRow_withoutReturn]

theorem replaceAdminRow_eq (token : List Char) (rows : List (List Char)) :
    replaceAdminRow token rows = otherRows rows ++ [adminRow token] :=
  rfl

section Rows

variable {token : List Char} (isToken : IsAdminToken token) (rows : List (List Char))
include isToken

theorem admins_replaceAdminRow :
    (replaceAdminRow token rows).filter isAdminRow = [adminRow token] := by
  have none : (otherRows rows).filter isAdminRow = [] := by
    rw [otherRows, List.filter_filter]
    simp
  rw [replaceAdminRow_eq, List.filter_append, none,
    List.filter_singleton, isAdminRow_adminRow isToken]
  rfl

theorem otherRows_replaceAdminRow :
    otherRows (replaceAdminRow token rows) = otherRows rows := by
  rw [replaceAdminRow_eq, otherRows, List.filter_append, List.filter_singleton,
    isAdminRow_adminRow isToken, otherRows, List.filter_filter]
  simp

/-- Only the last of the tokens that are set is kept. -/
theorem replaceAdminRow_replaceAdminRow (next : List Char) :
    replaceAdminRow next (replaceAdminRow token rows) = replaceAdminRow next rows := by
  rw [replaceAdminRow_eq, otherRows_replaceAdminRow isToken, replaceAdminRow_eq]

end Rows

theorem map_withoutReturn_replaceAdminRow (token : List Char) (rows : List (List Char)) :
    (replaceAdminRow token rows).map withoutReturn =
      replaceAdminRow token (rows.map withoutReturn) := by
  rw [replaceAdminRow_eq, replaceAdminRow_eq, otherRows_map_withoutReturn, List.map_append,
    List.map_singleton, withoutReturn_adminRow]

/-- What the reader finds in the rows is what was set, whatever other rows hold. -/
theorem findSome?_replaceAdminRow {token : List Char} (isToken : IsAdminToken token)
    (rows : List (List Char)) :
    (replaceAdminRow token rows).findSome? adminTokenOf = some token := by
  have none : (otherRows rows).findSome? adminTokenOf = none := by
    rw [List.findSome?_eq_none_iff]
    intro row member
    rcases found : adminTokenOf row with _ | other
    · rfl
    · have noAdmin := (List.mem_filter.mp member).2
      rw [isAdminRow_of_adminTokenOf found] at noAdmin
      cases noAdmin
  rw [replaceAdminRow_eq, List.findSome?_append, none, List.findSome?_cons,
    adminTokenOf_adminRow isToken]
  rfl

theorem feed_not_mem_replaceAdminRow {token : List Char} (isToken : IsAdminToken token)
    {rows : List (List Char)} (noFeed : ∀ row ∈ rows, '\n' ∉ row) :
    ∀ row ∈ replaceAdminRow token rows, '\n' ∉ row := by
  intro row member
  rw [replaceAdminRow_eq, List.mem_append, List.mem_singleton] at member
  rcases member with kept | rfl
  · exact noFeed row (List.mem_filter.mp kept).1
  · exact feed_not_mem_adminRow isToken

/-! ## The table on disk -/

/-- The rows of the table of tokens; a table that cannot be read has none. -/
def rowsOn (disk : Disk) : List (List Char) :=
  match disk.textOf Layout.knownTokens with
  | .ok content => lines content.toList
  | .error _ => []

/-- The text of a table with these rows. -/
def tableOf (rows : List (List Char)) : String :=
  String.ofList (unlines rows)

section Tables

variable {token : String} {before after : Disk}

theorem feed_not_mem_rowsOn (disk : Disk) : ∀ row ∈ rowsOn disk, '\n' ∉ row := by
  rw [rowsOn]
  split
  · exact feed_not_mem_lines _
  · simp

theorem map_withoutReturn_rowsOn {disk : Disk} (returnFree : disk.ReturnFree Layout.knownTokens) :
    (rowsOn disk).map withoutReturn = rowsOn disk := by
  rw [rowsOn]
  split
  · rename_i content read
    exact map_withoutReturn_eq_self fun row rowMember member =>
      returnFree content read (mem_of_mem_lines _ rowMember member)
  · rfl

/-- The token is set where the table can be read or is not there, and can be written. -/
theorem setAdminToken_iff :
    (setAdminToken token).run before = (.ok (), after) ↔
      (∀ error, before.textOf Layout.knownTokens = .error error → error = .notFound) ∧
        (writeSecret Layout.knownTokens
          (tableOf (replaceAdminRow token.toList (rowsOn before))).toUTF8).run before =
            (.ok (), after) := by
  rw [setAdminToken, run_bind, run_get]
  dsimp only
  rw [run_bind, run_adapt, run_readOptional, rowsOn]
  rcases before.textOf Layout.knownTokens with error | content
  · by_cases missing : error = .notFound
    · simp only [missing, if_true, Except.mapError, Except.error.injEq, forall_eq', true_and]
      rfl
    · simp only [missing, if_false, Except.mapError]
      exact ⟨nofun, fun readable => absurd (readable.1 error rfl) missing⟩
  · simp only [Except.mapError, reduceCtorEq, false_implies, implies_true, true_and]
    rfl

theorem lines_tableOf (isToken : IsAdminToken token.toList) (disk : Disk) :
    lines (tableOf (replaceAdminRow token.toList (rowsOn disk))).toList =
      replaceAdminRow token.toList ((rowsOn disk).map withoutReturn) := by
  rw [tableOf, String.toList_ofList,
    lines_unlines (feed_not_mem_replaceAdminRow isToken (feed_not_mem_rowsOn disk)),
    map_withoutReturn_replaceAdminRow]

theorem allowed_of_setAdminToken (ran : (setAdminToken token).run before = (.ok (), after)) :
    before.refuses .read Layout.knownTokens.names = none := by
  have readable := (setAdminToken_iff.mp ran).1
  rcases read : before.textOf Layout.knownTokens with error | content
  · exact allowed_of_textOf_notFound (read.trans (congrArg _ (readable error read)))
  · exact allowed_of_textOf_ok read

theorem textOf_of_setAdminToken (ran : (setAdminToken token).run before = (.ok (), after)) :
    after.textOf Layout.knownTokens =
      .ok (tableOf (replaceAdminRow token.toList (rowsOn before))) := by
  obtain ⟨renewable, file⟩ := writeSecret_ok (setAdminToken_iff.mp ran).2
  have stored : after.Stores Layout.knownTokens _ := ⟨renewable.way, true, file⟩
  have changes := (setAdminToken_within token).reaches ran
  refine stored.textOf renewable.plain renewable.nonempty ?_
  rw [changes.refuses]
  exact allowed_of_setAdminToken ran

theorem rowsOn_of_setAdminToken (isToken : IsAdminToken token.toList)
    (ran : (setAdminToken token).run before = (.ok (), after)) :
    rowsOn after = replaceAdminRow token.toList ((rowsOn before).map withoutReturn) := by
  rw [rowsOn, textOf_of_setAdminToken ran]
  exact lines_tableOf isToken before

/-- What setting the administrator's token makes of the table. The file holds the rows of others
as they were read, in their order, and then the row of the token; read again, a row has at most
lost a carriage return at its end. -/
structure SetsAdmin (token : String) (before after : Disk) : Prop where
  read : adminToken.run after = (.ok token, after)
  file : after.entryAt? Layout.knownTokens.names =
    some (.file (tableOf (otherRows (rowsOn before) ++ [adminRow token.toList])).toUTF8 true)
  admins : (rowsOn after).filter isAdminRow = [adminRow token.toList]
  others : otherRows (rowsOn after) = (otherRows (rowsOn before)).map withoutReturn

theorem setsAdmin_of_setAdminToken (isToken : IsAdminToken token.toList)
    (ran : (setAdminToken token).run before = (.ok (), after)) : SetsAdmin token before after := by
  have rows := rowsOn_of_setAdminToken isToken ran
  have found : adminTokenIn (tableOf (replaceAdminRow token.toList (rowsOn before))) =
      some token := by
    rw [adminTokenIn, lines_tableOf isToken, findSome?_replaceAdminRow isToken]
    exact congrArg some String.ofList_toList
  refine ⟨adminToken_of_textOf (textOf_of_setAdminToken ran) found,
    (writeSecret_ok (setAdminToken_iff.mp ran).2).2, ?_, ?_⟩
  · rw [rows, admins_replaceAdminRow isToken]
  · rw [rows, otherRows_replaceAdminRow isToken, otherRows_map_withoutReturn]

/-- Another token can be set afterwards, and that the first was set makes no difference then. -/
theorem setAdminToken_again (isToken : IsAdminToken token.toList)
    (ran : (setAdminToken token).run before = (.ok (), after))
    (returnFree : before.ReturnFree Layout.knownTokens) (next : String) :
    ∃ last alone, (setAdminToken next).run after = (.ok (), last) ∧
      (setAdminToken next).run before = (.ok (), alone) ∧
        last.entryAt? Layout.knownTokens.names = alone.entryAt? Layout.knownTokens.names := by
  have rows : replaceAdminRow next.toList (rowsOn after) =
      replaceAdminRow next.toList (rowsOn before) := by
    rw [rowsOn_of_setAdminToken isToken ran, map_withoutReturn_rowsOn returnFree,
      replaceAdminRow_replaceAdminRow isToken]
  obtain ⟨readable, written⟩ := setAdminToken_iff.mp ran
  obtain ⟨_, last, ranLast, _⟩ := writeSecret_renews Layout.knownTokens
    (tableOf (replaceAdminRow next.toList (rowsOn before))) after (writeSecret_ok written).1
  obtain ⟨alone, ranAlone⟩ := writeSecret_another written
    (tableOf (replaceAdminRow next.toList (rowsOn before))).toUTF8
  refine ⟨last, alone, setAdminToken_iff.mpr ⟨?_, ?_⟩,
    setAdminToken_iff.mpr ⟨readable, ranAlone⟩,
    (writeSecret_ok ranLast).2.trans (writeSecret_ok ranAlone).2.symm⟩
  · rw [textOf_of_setAdminToken ran]
    nofun
  · rw [rows]
    exact ranLast

/-- The token that was set is read, it stands in the only row of the administrator and all other
rows are kept; of two tokens that are set, the second leaves what it leaves alone. -/
theorem setAdminToken_lawful (isToken : IsAdminToken token.toList)
    (ran : (setAdminToken token).run before = (.ok (), after)) :
    SetsAdmin token before after ∧
      (before.ReturnFree Layout.knownTokens →
        rowsOn after = otherRows (rowsOn before) ++ [adminRow token.toList] ∧
          ∀ next : String,
            ∃ last alone, (setAdminToken next).run after = (.ok (), last) ∧
              (setAdminToken next).run before = (.ok (), alone) ∧
                last.entryAt? Layout.knownTokens.names =
                  alone.entryAt? Layout.knownTokens.names) := by
  refine ⟨setsAdmin_of_setAdminToken isToken ran, fun returnFree =>
    ⟨?_, setAdminToken_again isToken ran returnFree⟩⟩
  rw [rowsOn_of_setAdminToken isToken ran, map_withoutReturn_rowsOn returnFree,
    replaceAdminRow_eq]

end Tables

/-! ## A table with odd rows -/

/-- The table has two rows of the administrator, one of them padded, a row of the administrator
without a token, a row without columns, an empty row and a last row that is not ended. -/
def unevenTable : Disk :=
  { Disk.empty "/data" with
    entries :=
      [(["credentials"], .directory),
        (["credentials", "known_tokens.csv"],
          .file
            "old,admin,admin\nabc,kubelet,kubelet\n odd , admin \n,admin\nnone\n\nx,y,admin".toUTF8
            false)] }

def unevenTableSet : Disk :=
  ((setAdminToken "new token").run unevenTable).2

theorem setAdminToken_unevenTable :
    IsAdminToken "new token".toList ∧
      (setAdminToken "new token").run unevenTable = (.ok (), unevenTableSet) ∧
      unevenTable.ReturnFree Layout.knownTokens ∧
      SetsAdmin "new token" unevenTable unevenTableSet ∧
      rowsOn unevenTableSet =
        ["abc,kubelet,kubelet".toList, "none".toList, [], "x,y,admin".toList,
          "new token,admin,admin,\"system:masters\"".toList] ∧
      ∃ last alone, (setAdminToken "other").run unevenTableSet = (.ok (), last) ∧
        (setAdminToken "other").run unevenTable = (.ok (), alone) ∧
          last.entryAt? Layout.knownTokens.names = alone.entryAt? Layout.knownTokens.names := by
  have isToken : IsAdminToken "new token".toList := by decide +kernel
  have ran : (setAdminToken "new token").run unevenTable = (.ok (), unevenTableSet) :=
    run_of_toOption (by decide +kernel)
  have read : unevenTable.textOf Layout.knownTokens =
      .ok "old,admin,admin\nabc,kubelet,kubelet\n odd , admin \n,admin\nnone\n\nx,y,admin" := by
    decide +kernel
  have returnFree : unevenTable.ReturnFree Layout.knownTokens := by
    intro content given
    rw [read] at given
    cases given
    decide +kernel
  have others : otherRows (rowsOn unevenTable) =
      ["abc,kubelet,kubelet".toList, "none".toList, [], "x,y,admin".toList] := by
    decide +kernel
  obtain ⟨sets, free⟩ := setAdminToken_lawful isToken ran
  obtain ⟨rows, again⟩ := free returnFree
  refine ⟨isToken, ran, returnFree, sets, ?_, again "other"⟩
  rw [rows, others]
  decide +kernel

end NodeState
end ClusterAgent
