import ClusterAgent.Node.State
import ClusterAgent.Proofs.Files.Storing
import ClusterAgent.Proofs.Text.Lines
namespace ClusterAgent

open Disk Running

namespace NodeState

open Text

/-! ## The administrator's token in a row -/

/-- A token that a row can hold in its first column. -/
structure IsAdminToken (token : List Char) : Prop where
  nonempty : token ≠ []
  trimmed : Trimmed token
  noComma : ',' ∉ token
  noFeed : '\n' ∉ token

theorem isAdminToken_iff {token : List Char} :
    IsAdminToken token ↔ token ≠ [] ∧ trim token = token ∧ ',' ∉ token ∧ '\n' ∉ token := by
  constructor
  · rintro ⟨nonempty, trimmed, noComma, noFeed⟩
    exact ⟨nonempty, trimmed.trim, noComma, noFeed⟩
  · rintro ⟨nonempty, trimmed, noComma, noFeed⟩
    exact ⟨nonempty, trimmed ▸ trimmed_trim token, noComma, noFeed⟩

instance (token : List Char) : Decidable (IsAdminToken token) :=
  decidable_of_iff _ isAdminToken_iff.symm

theorem isAdminToken_of_row {row token : List Char} (noFeed : '\n' ∉ row)
    (found : adminTokenOf row = some token) : IsAdminToken token := by
  rw [adminTokenOf] at found
  split at found
  · rename_i first user others columns
    dsimp only at found
    have member : first ∈ row.splitOn ',' := by
      rw [← NodeState.columns, columns]
      exact List.mem_cons_self
    split at found
    · rename_i isAdmin
      cases found
      refine ⟨isAdmin.2, trimmed_trim _, fun inToken => ?_, fun inToken => ?_⟩
      · exact (mem_splitOn first member ',' (mem_of_mem_trim inToken)).2 rfl
      · exact noFeed (mem_splitOn first member '\n' (mem_of_mem_trim inToken)).1
    · cases found
  · cases found

theorem adminTokenOf_adminRow {token : List Char} (isToken : IsAdminToken token) :
    adminTokenOf (adminRow token) = some token := by
  have parts : columns (adminRow token) =
      token :: columns "admin,admin,\"system:masters\"".toList := by
    exact List.splitOn_append_cons_self_of_not_mem isToken.noComma _
  have others : columns "admin,admin,\"system:masters\"".toList =
      ["admin".toList, "admin".toList, "\"system:masters\"".toList] := by
    decide
  rw [adminTokenOf, parts, others]
  dsimp only
  rw [isToken.trimmed.trim]
  exact if_pos ⟨by decide, isToken.nonempty⟩

theorem feed_not_mem_adminRow {token : List Char} (isToken : IsAdminToken token) :
    '\n' ∉ adminRow token := by
  intro inRow
  rcases List.mem_append.mp inRow with inToken | inRest
  · exact isToken.noFeed inToken
  · exact absurd inRest (by decide)

theorem withoutReturn_adminRow (token : List Char) :
    withoutReturn (adminRow token) = adminRow token := by
  have quote : ",admin,admin,\"system:masters\"".toList.getLast? = some '"' := by decide
  refine withoutReturn_eq_self ?_
  rw [adminRow, List.getLast?_append, quote]
  simp

theorem lines_adminRow {token : List Char} (isToken : IsAdminToken token) :
    lines (unlines [adminRow token]) = [adminRow token] := by
  have noFeed : ∀ line ∈ [adminRow token], '\n' ∉ line := by
    simpa using feed_not_mem_adminRow isToken
  rw [lines_unlines noFeed, List.map_singleton, withoutReturn_adminRow]

/-! ## The administrator's token on disk -/

section Files

variable {token : String} {before after : Disk}

/-- The administrator's token is the first in the rows of its file. -/
def adminTokenIn (content : String) : Option String :=
  ((lines content.toList).findSome? adminTokenOf).map String.ofList

theorem adminToken_ok (ran : adminToken.run before = (.ok token, after)) :
    ∃ content, before.textOf Layout.knownTokens = .ok content ∧
      adminTokenIn content = some token := by
  obtain ⟨_, _, fetched, ran⟩ := bind_ok ran
  cases fetched
  obtain ⟨content, _, read, ran⟩ := bind_ok ran
  have still := (readWhole_within _).reaches (adapt_ok read)
  subst still
  refine ⟨content, readWhole_ok (adapt_ok read), ?_⟩
  rw [adminTokenIn]
  split at ran
  · rename_i found first
    cases ran
    rw [first]
    rfl
  · cases ran

theorem adminToken_of_textOf {content : String}
    (read : before.textOf Layout.knownTokens = .ok content)
    (found : adminTokenIn content = some token) :
    adminToken.run before = (.ok token, before) := by
  obtain ⟨row, first, rfl⟩ := Option.map_eq_some_iff.mp found
  rw [adminToken, run_bind, run_get]
  dsimp only
  rw [run_bind, run_adapt, readWhole_iff.mpr read]
  dsimp only [Except.mapError]
  rw [first]
  rfl

theorem isAdminToken_of_adminTokenIn {content : String}
    (found : adminTokenIn content = some token) : IsAdminToken token.toList := by
  obtain ⟨row, first, rfl⟩ := Option.map_eq_some_iff.mp found
  obtain ⟨_, line, _, shape, onLine, _⟩ := List.findSome?_eq_some_iff.mp first
  have member : line ∈ lines content.toList := by
    rw [shape]
    simp
  rw [String.toList_ofList]
  exact isAdminToken_of_row (feed_not_mem_lines _ line member) onLine

/-- The rows in which the administrator's token is set, when there were none before. -/
def loneAdmin (token : String) : String :=
  String.ofList (unlines [adminRow token.toList])

theorem adminTokenIn_loneAdmin (isToken : IsAdminToken token.toList) :
    adminTokenIn (loneAdmin token) = some token := by
  rw [adminTokenIn, loneAdmin, String.toList_ofList, lines_adminRow isToken,
    List.findSome?_cons, adminTokenOf_adminRow isToken]
  exact congrArg some String.ofList_toList

theorem setAdminToken_within (token : String) :
    Within (ChangesOnly [Layout.knownTokens.names, Layout.knownTokens.temporary])
      (setAdminToken token) :=
  within_bind within_get fun _ =>
    within_bind (within_adapt (within_of_still (readOptional_within _))) fun _ =>
      writeSecret_within _ (by simp) (by simp)

theorem setAdminToken_ok (ran : (setAdminToken token).run before = (.ok (), after))
    (absent : before.entryAt? Layout.knownTokens.names = none) :
    after.Stores Layout.knownTokens (loneAdmin token) := by
  obtain ⟨_, _, fetched, ran⟩ := bind_ok ran
  cases fetched
  obtain ⟨content, _, read, ran⟩ := bind_ok ran
  obtain ⟨rfl, _, given⟩ := readOptional_ok (adapt_ok read)
  rcases given with ⟨text, found, _⟩ | ⟨_, rfl⟩
  · obtain ⟨_, _, present⟩ := entry_of_textOf_ok found
    rw [absent] at present
    cases present
  · exact writeSecret_stores ran

end Files

end NodeState
end ClusterAgent
