import ClusterAgent.Proofs.Tokens.OwnToken
namespace ClusterAgent
namespace Tokens

open Disk Running

/-! ## Calls for the own token -/

/-- What a call for the own token answers, and what it writes. -/
inductive GivesOwn (fresh : String) : Option String → String → Option (ByteArray × Bool) → Prop
  | kept (token : String) : GivesOwn fresh (some token) token none
  | made : GivesOwn fresh none fresh (some (fresh.toUTF8, true))

section Own

variable {fresh token : String} {before after : Disk}

theorem ownCallback_ends (fresh : String) :
    ReplacesWhole Layout.callbackToken [Layout.tokensLock.names]
      (fun before => GivesOwn fresh (ownToken? before)) (ownCallback fresh) := by
  intro before
  refine locked_ends fun locked taken => ?_
  refine Ending.bind_still within_get fun _ _ => ?_
  refine Ending.bind_still (within_adapt (readOptional_within _)) fun content reading => ?_
  have kept := ownToken?_of_read (takeLock_ok taken) (adapt_ok reading)
  rw [ownToken?_congr (file_of_takeLock taken), tokenOf?] at kept
  dsimp only
  rw [kept]
  by_cases blank : Text.trim (content.getD "").toList = []
  · rw [if_pos blank, if_neg (not_not.mpr blank)]
    refine Ending.bind_pure ((write_ends _ _ _ locked).imp fun _ file isFile => ?_)
    rw [isFile, String.ofList_toList]
    exact .made
  · rw [if_neg blank, if_pos blank]
    exact .unwritten (.kept _) (ChangesOnly.refl _ _)

/-- A call for the own token gives the one that is kept, and keeps a fresh one if there is
none. -/
theorem ownCallback_cases (ran : (ownCallback fresh).run before = (.ok token, after)) :
    (ownToken? before = some token ∧ after.fileAt? Layout.callbackToken.names =
        before.fileAt? Layout.callbackToken.names) ∨
      ownToken? before = none ∧ token = fresh ∧
        after.fileAt? Layout.callbackToken.names = some (fresh.toUTF8, true) := by
  have ending := ownCallback_ends fresh before
  rw [ran] at ending
  dsimp only at ending
  generalize ownToken? before = own at ending ⊢
  cases ending with
  | unwritten given changes =>
      cases given with
      | kept => exact .inl ⟨rfl, changes.fileAt? (by decide)⟩
  | written given stored =>
      cases given with
      | made => exact .inr ⟨rfl, rfl, stored⟩

/-- A call that fails leaves the file of the own token as it is. -/
theorem ownCallback_failed {error : TokenError}
    (ran : (ownCallback fresh).run before = (.error error, after)) :
    after.fileAt? Layout.callbackToken.names = before.fileAt? Layout.callbackToken.names := by
  have ending := ownCallback_ends fresh before
  rw [ran] at ending
  exact ending.error_changes.fileAt? (by decide)

end Own

/-! ## All operations that replace a file -/

/-- From every disk a replacement and each of the operations on tokens ends in one of three ways.
It fails, and no file changes but the one beside its target and the lock. It succeeds without a
write, and no file changes but the lock. Or it succeeds, the target has exactly the new content,
nothing is left beside it and no other file changes but the lock. -/
theorem replaced_whole_or_kept :
    (∀ place content,
      ReplacesWhole place [] (fun _ _ file => file.map Prod.fst = some content)
        (writeAtomic place content)) ∧
    (∀ kind token expiry,
      ReplacesWhole kind.place [Layout.tokensLock.names]
        (fun before _ file =>
          file = some (fileOf (linesAt before kind.place.names ++ [(issued token expiry).toLine])))
        (issue kind token expiry)) ∧
    (∀ kind token now,
      ReplacesWhole kind.place [Layout.tokensLock.names]
        (fun before => Spends token now (linesAt before kind.place.names))
        (consume kind token now)) ∧
    (∀ peer token,
      ReplacesWhole Layout.callbackTokens [Layout.tokensLock.names]
        (fun before _ file =>
          file = some (fileOf (replaceCallback peer.toList token.toList
            (linesAt before Layout.callbackTokens.names))))
        (storeCallback peer token)) ∧
    ∀ fresh,
      ReplacesWhole Layout.callbackToken [Layout.tokensLock.names]
        (fun before => GivesOwn fresh (ownToken? before)) (ownCallback fresh) :=
  ⟨fun place content => writeAtomic_ends place content [], issue_ends, consume_ends,
    storeCallback_ends, ownCallback_ends⟩

/-- A disk on which no file takes the place of another. -/
def unmovingDisk : Disk :=
  { Disk.empty "/data" with
    refuses := fun operation _ => if operation = .rename then some "not permitted" else none }

def seeded (disk : Disk) : Except TokenError Unit × Disk :=
  (issue .cluster "seed" none).run disk

example :
    (seeded (.empty "/data")).1.toOption = some () ∧
      (seeded (.empty "/data")).2.fileAt? Layout.clusterTokens.names =
        some ("seed\n".toUTF8, true) ∧
      (seeded (.empty "/data")).2.fileAt? Layout.clusterTokens.temporary = none := by
  decide +kernel

-- What cannot take its place is left beside it.
example :
    (seeded unmovingDisk).1.toOption = none ∧
      (seeded unmovingDisk).2.fileAt? Layout.clusterTokens.names = none ∧
      (seeded unmovingDisk).2.fileAt? Layout.clusterTokens.temporary =
        some ("seed\n".toUTF8, false) := by
  decide +kernel

end Tokens
end ClusterAgent
