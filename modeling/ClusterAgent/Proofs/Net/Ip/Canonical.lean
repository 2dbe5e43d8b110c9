import ClusterAgent.Net.Ip
namespace ClusterAgent
namespace IpAddress

/-! ## Runs of zeros -/

/-- At the position there are this many zeros, one behind another. -/
def ZerosAt (items : List Nat) (position count : Nat) : Prop :=
  List.replicate count 0 <+: items.drop position

/-- There is no longer run of zeros, and none as long in front of this one. -/
structure IsFirstLongest (items : List Nat) (position count : Nat) : Prop where
  zeros : ZerosAt items position count
  longest : ∀ start length, ZerosAt items start length → length ≤ count
  first : ∀ start, ZerosAt items start count → position ≤ start

section Runs

variable {items : List Nat} {position count other otherCount : Nat}

theorem zerosAt_zero_iff : ZerosAt items 0 count ↔ count ≤ zeroRun items := by
  rw [ZerosAt, List.drop_zero]
  induction items generalizing count with
  | nil => simp [zeroRun]
  | cons item rest inductionHypothesis =>
      cases count with
      | zero => simp
      | succ count =>
          rw [List.replicate_succ, List.cons_prefix_cons, inductionHypothesis]
          by_cases isZero : item = 0
          · simp [zeroRun, isZero]
          · simp [zeroRun, isZero, Ne.symm isZero]

theorem ZerosAt.mono (zeros : ZerosAt items position count) (fewer : otherCount ≤ count) :
    ZerosAt items position otherCount :=
  ((List.prefix_replicate_iff).mpr (by simpa using fewer)).trans zeros

theorem ZerosAt.split (zeros : ZerosAt items position count) :
    items = items.take position ++ (List.replicate count 0 ++ items.drop (position + count)) := by
  obtain ⟨behind, parted⟩ := zeros
  have rest : items.drop (position + count) = behind := by
    rw [← List.drop_drop, ← parted]
    simp
  rw [rest, parted, List.take_append_drop]

theorem IsFirstLongest.unique (run : IsFirstLongest items position count)
    (again : IsFirstLongest items other otherCount) : other = position ∧ otherCount = count := by
  have same : otherCount = count :=
    Nat.le_antisymm (run.longest _ _ again.zeros) (again.longest _ _ run.zeros)
  subst same
  exact ⟨Nat.le_antisymm (again.first _ run.zeros) (run.first _ again.zeros), rfl⟩

/-- The search meets the first of the longest runs. -/
theorem longestZeroRun_spec (start : Nat) (items : List Nat) :
    ∃ position,
      (longestZeroRun start items).1 = start + position ∧
        IsFirstLongest items position (longestZeroRun start items).2 := by
  -- A run starts here or in the rest, where it is known what there is.
  induction items generalizing start with
  | nil =>
      refine ⟨0, rfl, List.prefix_rfl, fun position length zeros => ?_, fun _ _ => Nat.zero_le _⟩
      rw [ZerosAt, List.drop_nil, List.prefix_nil, List.replicate_eq_nil_iff] at zeros
      exact Nat.le_of_eq zeros
  | cons item rest inductionHypothesis =>
      obtain ⟨position, found, later⟩ := inductionHypothesis (start + 1)
      rw [longestZeroRun]
      split
      · rename_i longEnough
        refine ⟨0, rfl, zerosAt_zero_iff.mpr (Nat.le_refl _), ?_, fun _ _ => Nat.zero_le _⟩
        rintro (_ | other) length zeros
        · exact zerosAt_zero_iff.mp zeros
        · exact Nat.le_trans (later.longest other length zeros) longEnough
      · rename_i longerLater
        refine ⟨position + 1, by omega, later.zeros, ?_, ?_⟩
        · rintro (_ | other) length zeros
          · exact Nat.le_trans (zerosAt_zero_iff.mp zeros) (Nat.le_of_not_le longerLater)
          · exact later.longest other length zeros
        · rintro (_ | other) zeros
          · exact absurd (zerosAt_zero_iff.mp zeros) longerLater
          · exact Nat.succ_le_succ (later.first other zeros)

theorem isFirstLongest_longestZeroRun (items : List Nat) :
    IsFirstLongest items (longestZeroRun 0 items).1 (longestZeroRun 0 items).2 := by
  obtain ⟨position, found, run⟩ := longestZeroRun_spec 0 items
  rwa [found, Nat.zero_add]

theorem compressed_of_noRun (noRun : ∀ position, ¬ZerosAt items position 2) :
    compressed items = colonSeparated items := by
  have short : (longestZeroRun 0 items).2 < 2 :=
    Nat.lt_of_not_le fun long =>
      noRun _ ((isFirstLongest_longestZeroRun items).zeros.mono long)
  exact if_pos short

theorem compressed_of_run (run : IsFirstLongest items position count) (several : 2 ≤ count) :
    compressed items = colonSeparated (items.take position) ++
      ':' :: ':' :: colonSeparated (items.drop (position + count)) := by
  obtain ⟨samePosition, sameCount⟩ := run.unique (isFirstLongest_longestZeroRun items)
  rw [compressed, samePosition, sameCount, if_neg (Nat.not_lt.mpr several), List.append_assoc]
  rfl

end Runs

/-! ## The canonical text -/

/-- The address is the other one behind ::ffff. -/
def IsMapped (bits : BitVec 128) (inner : BitVec 32) : Prop :=
  bits.toNat = 0xFFFF00000000 + inner.toNat

theorem mapped?_eq_some_iff {bits : BitVec 128} {inner : BitVec 32} :
    mapped? bits = some inner ↔ IsMapped bits inner := by
  have bound := inner.isLt
  rw [mapped?, IsMapped, Nat.shiftRight_eq_div_pow]
  constructor
  · intro isSome
    split at isSome
    · cases isSome
      rw [BitVec.truncate_eq_setWidth, BitVec.toNat_setWidth]
      omega
    · cases isSome
  · intro isMapped
    have high : bits.toNat / 2 ^ 32 = 0xFFFF := by omega
    rw [if_pos high, Option.some.injEq, BitVec.truncate_eq_setWidth]
    apply BitVec.eq_of_toNat_eq
    rw [BitVec.toNat_setWidth]
    omega

/-- An address and its canonical text. A mapped address ends with the dotted form of the one it
maps. In any other address of the larger family, a double colon stands for the first of the longest
runs of at least two zero groups; without such a run the groups are written one by one. -/
inductive Canonical : IpAddress → List Char → Prop
  | v4 (bits : BitVec 32) : Canonical (.v4 bits) (dotted bits)
  | mapped {bits : BitVec 128} {inner : BitVec 32} (isMapped : IsMapped bits inner) :
      Canonical (.v6 bits) ("::ffff:".toList ++ dotted inner)
  | plain {bits : BitVec 128} (notMapped : ∀ inner, ¬IsMapped bits inner)
      (noRun : ∀ position, ¬ZerosAt (groups bits) position 2) :
      Canonical (.v6 bits) (colonSeparated (groups bits))
  | shortened {bits : BitVec 128} {position count : Nat}
      (notMapped : ∀ inner, ¬IsMapped bits inner) (several : 2 ≤ count)
      (run : IsFirstLongest (groups bits) position count) :
      Canonical (.v6 bits) (colonSeparated ((groups bits).take position) ++
        ':' :: ':' :: colonSeparated ((groups bits).drop (position + count)))

theorem toChars_of_notMapped {bits : BitVec 128} (notMapped : ∀ inner, ¬IsMapped bits inner) :
    toChars (.v6 bits) = compressed (groups bits) := by
  have unmapped : mapped? bits = none :=
    Option.eq_none_iff_forall_ne_some.mpr fun inner isMapped =>
      notMapped inner (mapped?_eq_some_iff.mp isMapped)
  rw [toChars, unmapped]

theorem canonical_toChars (address : IpAddress) : Canonical address address.toChars := by
  cases address with
  | v4 bits => exact .v4 bits
  | v6 bits =>
      by_cases isMapped : ∃ inner, IsMapped bits inner
      · obtain ⟨inner, isMapped⟩ := isMapped
        rw [toChars, mapped?_eq_some_iff.mpr isMapped]
        exact .mapped isMapped
      · have notMapped := not_exists.mp isMapped
        have run := isFirstLongest_longestZeroRun (groups bits)
        rw [toChars_of_notMapped notMapped]
        by_cases several : 2 ≤ (longestZeroRun 0 (groups bits)).2
        · rw [compressed_of_run run several]
          exact .shortened notMapped several run
        · have noRun : ∀ position, ¬ZerosAt (groups bits) position 2 :=
            fun position zeros => several (run.longest position 2 zeros)
          rw [compressed_of_noRun noRun]
          exact .plain notMapped noRun

/-- Of two runs that are equally long the first is left out. -/
example : toText (.v6 0x20010DB8000000000001000000000001) = "2001:db8::1:0:0:1" := by
  rfl

end IpAddress
end ClusterAgent
