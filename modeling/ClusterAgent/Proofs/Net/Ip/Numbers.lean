import ClusterAgent.Net.Ip.Parser
import ClusterAgent.Proofs.Text.Numeral
namespace ClusterAgent

open Text

namespace IpAddress

/-! ## Numbers in addresses -/

/-- A text that does not begin with a digit of the base. -/
def EndsDigits (base : Nat) (text : List Char) : Prop :=
  ∀ next ∈ text.head?, digitValue? base next = none

section Digits

variable {base value limit : Nat} {most : Option Nat} {leadingZeros : Bool}
  {digits text rest : List Char}

theorem takeWhile_digits (areDigits : ∀ character ∈ digits, (digitValue? base character).isSome)
    (ends : EndsDigits base rest) :
    (digits ++ rest).takeWhile (fun next => (digitValue? base next).isSome) = digits ∧
      (digits ++ rest).dropWhile (fun next => (digitValue? base next).isSome) = rest := by
  rw [List.takeWhile_append_of_pos areDigits, List.dropWhile_append_of_pos areDigits]
  cases rest with
  | nil => simp
  | cons next rest => simp [ends next rfl]

theorem endsDigits_dropWhile :
    EndsDigits base (text.dropWhile fun next => (digitValue? base next).isSome) := by
  intro next isNext
  have notDigit := List.head?_dropWhile_not (fun next => (digitValue? base next).isSome) text
  rw [Option.mem_def.mp isNext] at notDigit
  simpa using notDigit

/-- A number is read where no further digit follows it. -/
theorem readNumber_numeral (numeral : Numeral base digits value)
    (short : ∀ bound ∈ most, digits.length ≤ bound)
    (unpadded : leadingZeros = false → Unpadded digits) (small : value < limit)
    (ends : EndsDigits base rest) :
    readNumber base most leadingZeros limit (digits ++ rest) = some (value, rest) := by
  obtain ⟨taken, dropped⟩ := takeWhile_digits numeral.areDigits ends
  have nonempty : digits.isEmpty = false := by simp [numeral.ne_nil]
  have tooLong : most.any (fun bound => decide (bound < digits.length)) = false := by
    cases most with
    | none => rfl
    | some bound => simpa using short bound rfl
  have padded : (!leadingZeros && digits.head? == some '0' && decide (1 < digits.length)) =
      false := by
    cases leadingZeros with
    | true => rfl
    | false =>
        by_cases isZero : digits.head? = some '0'
        · simp [unpadded rfl isZero]
        · simp [isZero]
  have whole := numeral.extended_eq
  rw [extended] at whole
  simp only [readNumber, taken, dropped, whole, nonempty, tooLong, padded,
    Nat.not_le.mpr small, Bool.false_eq_true, if_false]

theorem numeral_of_readNumber
    (read : readNumber base most leadingZeros limit text = some (value, rest)) :
    ∃ digits,
      text = digits ++ rest ∧ Numeral base digits value ∧
        (∀ bound ∈ most, digits.length ≤ bound) ∧ (leadingZeros = false → Unpadded digits) ∧
          value < limit ∧ EndsDigits base rest := by
  simp only [readNumber, Option.ite_none_left_eq_some, Option.some.injEq, Prod.mk.injEq] at read
  obtain ⟨nonempty, notTooLong, notPadded, small, rfl, rfl⟩ := read
  refine ⟨text.takeWhile fun next => (digitValue? base next).isSome,
    List.takeWhile_append_dropWhile.symm, .of_digits ?_ ?_, ?_, ?_, Nat.lt_of_not_le small,
    endsDigits_dropWhile⟩
  · simpa using nonempty
  · exact List.all_eq_true.mp List.all_takeWhile
  · rintro bound ⟨⟩
    simpa using notTooLong
  · rintro rfl isZero
    have atMostOne :
        (text.takeWhile fun next => (digitValue? base next).isSome).length ≤ 1 := by
      simpa [isZero] using notPadded
    have atLeastOne := List.length_pos_of_mem (List.mem_of_mem_head? isZero)
    omega

/-- Nothing is read from a text that does not begin with a digit. -/
theorem readNumber_eq_none (ends : EndsDigits base text) :
    readNumber base most leadingZeros limit text = none := by
  have noneTaken : text.takeWhile (fun next => (Text.digitValue? base next).isSome) = [] := by
    cases text with
    | nil => rfl
    | cons next text => simp [ends next rfl]
  simp [readNumber, noneTaken]

end Digits

/-! ## Numbers put together -/

section Assembling

variable {base : Nat} {items left right : List Nat}

theorem assemble_eq_ofDigits : assemble base items = Nat.ofDigits base items.reverse := by
  rw [Nat.ofDigits_eq_foldr, List.foldr_reverse, assemble]
  simp only [Nat.add_comm, Nat.mul_comm, Nat.cast_id]

theorem assemble_lt (atLeastTwo : 1 < base) (small : ∀ item ∈ items, item < base) :
    assemble base items < base ^ items.length := by
  rw [assemble_eq_ofDigits, ← List.length_reverse]
  exact Nat.ofDigits_lt_base_pow_length atLeastTwo (by simpa using small)

theorem assemble_inj (atLeastTwo : 1 < base) (lengths : left.length = right.length)
    (smallLeft : ∀ item ∈ left, item < base) (smallRight : ∀ item ∈ right, item < base)
    (same : assemble base left = assemble base right) : left = right := by
  rw [assemble_eq_ofDigits, assemble_eq_ofDigits] at same
  exact List.reverse_inj.mp (Nat.ofDigits_inj_of_len_eq atLeastTwo (by simpa using lengths)
    (by simpa using smallLeft) (by simpa using smallRight) same)

/-- The lowest `count` pieces of a number of `width` bits each, the highest first. -/
def cut (width count value : Nat) : List Nat :=
  (List.range count).reverse.map fun index => (value >>> (width * index)) % 2 ^ width

section Cutting

variable (width count : Nat) {value : Nat}

theorem length_cut : (cut width count value).length = count := by
  simp [cut]

theorem lt_of_mem_cut : ∀ item ∈ cut width count value, item < 2 ^ width := by
  intro item member
  obtain ⟨index, _, rfl⟩ := List.mem_map.mp member
  exact Nat.mod_lt _ (Nat.two_pow_pos width)

theorem foldl_cut (start : Nat) :
    (cut width count value).foldl (fun total digit => total * 2 ^ width + digit) start =
      start * 2 ^ (width * count) + value % 2 ^ (width * count) := by
  rw [cut]
  induction count generalizing start with
  | zero => simp [Nat.mod_one]
  | succ count inductionHypothesis =>
      have power : 2 ^ (width * (count + 1)) = 2 ^ (width * count) * 2 ^ width := by
        rw [Nat.mul_succ, Nat.pow_add]
      rw [List.range_succ, List.reverse_append, List.reverse_singleton, List.singleton_append,
        List.map_cons, List.foldl_cons, inductionHypothesis, power, Nat.mod_mul,
        Nat.shiftRight_eq_div_pow, Nat.add_mul, Nat.mul_assoc,
        Nat.mul_comm (2 ^ width), Nat.mul_comm (value / _ % _), Nat.add_assoc,
        Nat.add_comm (value % _)]

/-- The pieces put the number together again. -/
theorem assemble_cut (small : value < 2 ^ (width * count)) :
    assemble (2 ^ width) (cut width count value) = value := by
  rw [assemble, foldl_cut, Nat.zero_mul, Nat.zero_add, Nat.mod_eq_of_lt small]

/-- What was put together is cut into the same pieces. -/
theorem cut_assemble (positive : 0 < width) (lengths : items.length = count)
    (small : ∀ item ∈ items, item < 2 ^ width) :
    cut width count (assemble (2 ^ width) items % 2 ^ (width * count)) = items := by
  have atLeastTwo : 1 < 2 ^ width := Nat.one_lt_two_pow (Nat.ne_of_gt positive)
  have bounded : assemble (2 ^ width) items < 2 ^ (width * count) := by
    rw [Nat.pow_mul, ← lengths]
    exact assemble_lt atLeastTwo small
  rw [Nat.mod_eq_of_lt bounded]
  exact assemble_inj atLeastTwo
    ((length_cut width count).trans lengths.symm) (lt_of_mem_cut width count) small
    (assemble_cut width count bounded)

end Cutting

-- The octets of an address are four pieces of eight bits, its groups eight of sixteen.

theorem octet_lt_of_mem {bits : BitVec 32} : ∀ octet ∈ octets bits, octet < 256 :=
  lt_of_mem_cut 8 4

theorem group_lt_of_mem {bits : BitVec 128} : ∀ group ∈ groups bits, group < 65536 :=
  lt_of_mem_cut 16 8

theorem assemble_octets (bits : BitVec 32) : assemble 256 (octets bits) = bits.toNat :=
  assemble_cut 8 4 bits.isLt

theorem assemble_groups (bits : BitVec 128) : assemble 65536 (groups bits) = bits.toNat :=
  assemble_cut 16 8 bits.isLt

theorem octets_ofNat_assemble (four : items.length = 4) (small : ∀ octet ∈ items, octet < 256) :
    octets (BitVec.ofNat 32 (assemble 256 items)) = items :=
  cut_assemble 8 4 (by decide) four small

theorem groups_ofNat_assemble (eight : items.length = 8)
    (small : ∀ group ∈ items, group < 65536) :
    groups (BitVec.ofNat 128 (assemble 65536 items)) = items :=
  cut_assemble 16 8 (by decide) eight small

end Assembling

end IpAddress
end ClusterAgent
