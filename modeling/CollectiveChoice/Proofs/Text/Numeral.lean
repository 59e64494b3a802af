import CollectiveChoice.Text.Blank
import CollectiveChoice.Text.Numeral

/-!
# Spellings of integers

An integer is written in one way and read from many: zeros may stand in front of its digits, and a
minus sign in front of a zero.  Without such idle zeros, and without a plus sign, one spelling is
left, the one that is written (`toList_decimalInt_eq_iff`).
-/

namespace CollectiveChoice.Text

set_option autoImplicit false

/-- Whether a text has a zero in front of other characters, or behind a minus sign.  In an integer
such a zero says nothing. -/
def hasIdleZero : List Char → Bool
  | '-' :: '0' :: _ => true
  | '0' :: _ :: _ => true
  | _ => false

/-! ## Digits -/

theorem readDigits?_eq_some_iff {digits : List Char} {n : Nat} :
    readDigits? digits = some n
      ↔ digits ≠ [] ∧ (∀ c ∈ digits, c.isDigit = true) ∧ Nat.ofDigitChars 10 digits 0 = n := by
  simp [readDigits?, and_assoc]

theorem exists_digitChar_eq {c : Char} (digit : c.isDigit = true) :
    ∃ value < 10, Nat.digitChar value = c := by
  have bounds := toNat_of_isDigit digit
  have small : c.toNat - 48 < 10 := by omega
  refine ⟨c.toNat - 48, small, Char.toNat_inj.mp ?_⟩
  rw [Nat.toNat_digitChar_of_lt_ten small]
  omega

/-- Digits that go on behind a number other than zero are written behind it. -/
theorem toDigits_ofDigitChars_of_pos {digits : List Char} (all : ∀ c ∈ digits, c.isDigit = true)
    {start : Nat} (positive : 0 < start) :
    Nat.toDigits 10 (Nat.ofDigitChars 10 digits start) = Nat.toDigits 10 start ++ digits := by
  induction digits generalizing start with
  | nil => simp
  | cons c rest ih =>
      obtain ⟨digit, others⟩ := List.forall_mem_cons.mp all
      obtain ⟨value, small, rfl⟩ := exists_digitChar_eq digit
      rw [Nat.ofDigitChars_cons_digitChar_of_lt_ten small, ih others (by omega),
        ← Nat.toDigits_append_toDigits (by decide) positive small, Nat.toDigits_of_lt_base small,
        List.append_assoc, List.singleton_append]

theorem ofDigitChars_pos {digits : List Char} {start : Nat} (positive : 0 < start) :
    0 < Nat.ofDigitChars 10 digits start := by
  induction digits generalizing start with
  | nil => simpa using positive
  | cons c rest ih =>
      rw [Nat.ofDigitChars_cons]
      exact ih (by omega)

/-- Digits that do not begin with a zero are those that are written for their number. -/
theorem toDigits_ofDigitChars {digits : List Char} (nonempty : digits ≠ [])
    (all : ∀ c ∈ digits, c.isDigit = true) (plain : digits.head? ≠ some '0') :
    0 < Nat.ofDigitChars 10 digits 0 ∧
      Nat.toDigits 10 (Nat.ofDigitChars 10 digits 0) = digits := by
  obtain ⟨c, rest, rfl⟩ := List.exists_cons_of_ne_nil nonempty
  obtain ⟨digit, others⟩ := List.forall_mem_cons.mp all
  obtain ⟨value, small, rfl⟩ := exists_digitChar_eq digit
  have positive : 0 < value := by
    refine Nat.pos_of_ne_zero ?_
    rintro rfl
    exact plain rfl
  rw [Nat.ofDigitChars_cons_digitChar_of_lt_ten small, Nat.mul_zero, Nat.zero_add]
  refine ⟨ofDigitChars_pos positive, ?_⟩
  rw [toDigits_ofDigitChars_of_pos others positive, Nat.toDigits_of_lt_base small,
    List.singleton_append]

/-! ## Integers -/

theorem toDigits_eq_iff {digits : List Char} {n : Nat} (read : readDigits? digits = some n) :
    Nat.toDigits 10 n = digits ↔ hasIdleZero digits = false := by
  obtain ⟨nonempty, all, rfl⟩ := readDigits?_eq_some_iff.mp read
  by_cases zero : digits.head? = some '0'
  · obtain ⟨rest, rfl⟩ := List.head?_eq_some_iff.mp zero
    cases rest with
    | nil => exact iff_of_true rfl rfl
    | cons next more =>
        refine iff_of_false (fun same => ?_) Bool.noConfusion
        rcases Nat.eq_zero_or_pos (Nat.ofDigitChars 10 ('0' :: next :: more) 0) with none | positive
        · rw [none] at same
          cases same
        · rw [← same] at zero
          exact head?_toDigits_ne positive zero
  · refine iff_of_true (toDigits_ofDigitChars nonempty all zero).2 ?_
    unfold hasIdleZero
    split
    · exact absurd (all '-' List.mem_cons_self) (by decide)
    · exact absurd rfl zero
    · rfl

theorem toList_decimalInt_neg_eq_iff {digits : List Char} {n : Nat}
    (read : readDigits? digits = some n) :
    (decimalInt (-Int.ofNat n)).toList = '-' :: digits ↔ hasIdleZero ('-' :: digits) = false := by
  obtain ⟨nonempty, all, value⟩ := readDigits?_eq_some_iff.mp read
  by_cases zero : digits.head? = some '0'
  · obtain ⟨rest, rfl⟩ := List.head?_eq_some_iff.mp zero
    refine iff_of_false (fun same => ?_) Bool.noConfusion
    cases n with
    | zero => cases same
    | succ below =>
        have written : Nat.toDigits 10 (below + 1) = '0' :: rest :=
          (List.cons.inj ((decimalInt_negSucc below).symm.trans same)).2
        exact head?_toDigits_ne (Nat.succ_pos below) (congrArg List.head? written)
  · obtain ⟨positive, written⟩ := toDigits_ofDigitChars nonempty all zero
    rw [value] at positive written
    obtain ⟨below, rfl⟩ := Nat.exists_eq_add_one_of_ne_zero (Nat.ne_of_gt positive)
    refine iff_of_true ?_ ?_
    · exact (decimalInt_negSucc below).trans (congrArg _ written)
    · unfold hasIdleZero
      split
      · rename_i behind
        cases behind
        exact absurd rfl zero
      · rename_i front
        cases front
      · rfl

/-- Without a plus sign, an integer is written as it was read just if it has no idle zero. -/
theorem toList_decimalInt_eq_iff {chars : List Char} {n : Int} (read : readSigned? chars = some n)
    (unsigned : chars.head? ≠ some '+') :
    (decimalInt n).toList = chars ↔ hasIdleZero chars = false := by
  unfold readSigned? at read
  split at read
  · obtain ⟨magnitude, digits, rfl⟩ := Option.map_eq_some_iff.mp read
    exact toList_decimalInt_neg_eq_iff digits
  · exact absurd rfl unsigned
  · obtain ⟨magnitude, digits, rfl⟩ := Option.map_eq_some_iff.mp read
    rw [decimalInt_ofNat]
    exact toDigits_eq_iff digits

end CollectiveChoice.Text
