/-!
# Decimal integers in text

Integers are written without leading zeros and with a minus sign where they are negative.  Reading
is more liberal: a plus sign and leading zeros are accepted, blanks and other marks are not, and
the value has to fit the machine word the domain uses.

Main statement: what is written is read back (`readInt64?_decimalInt`).  That nothing is written
with a zero in front except zero itself (`head?_toDigits_ne`) matters to stricter readers.
-/

namespace CollectiveChoice.Text

set_option autoImplicit false

/-! ## Writing -/

/-- The decimal digits of a natural number. -/
def decimalNat (n : Nat) : String :=
  String.ofList (Nat.toDigits 10 n)

/-- The decimal text of an integer. -/
def decimalInt (n : Int) : String :=
  match n with
  | .ofNat magnitude => decimalNat magnitude
  | .negSucc below => String.ofList ('-' :: Nat.toDigits 10 (below + 1))

/-! ## Reading -/

/-- The number a non-empty run of decimal digits stands for. -/
def readDigits? (digits : List Char) : Option Nat :=
  if !digits.isEmpty && digits.all Char.isDigit then some (Nat.ofDigitChars 10 digits 0) else none

/-- Whether an integer fits a signed word of 64 bits. -/
def isInt64 (n : Int) : Bool :=
  -9223372036854775808 ≤ n && n ≤ 9223372036854775807

/-- Whether a natural number fits an unsigned word of 64 bits. -/
def isWord64 (n : Nat) : Bool :=
  n ≤ 18446744073709551615

/-- Reads a signed integer with an optional sign. -/
def readSigned? : List Char → Option Int
  | '-' :: digits => (readDigits? digits).map fun n => -Int.ofNat n
  | '+' :: digits => (readDigits? digits).map Int.ofNat
  | digits => (readDigits? digits).map Int.ofNat

/-- Reads an integer that fits a signed word of 64 bits. -/
def readInt64? (chars : List Char) : Option Int :=
  (readSigned? chars).filter isInt64

/-- Reads a natural number that fits an unsigned word of 64 bits. -/
def readWord64? (chars : List Char) : Option Nat :=
  match chars with
  | '+' :: digits => (readDigits? digits).filter isWord64
  | digits => (readDigits? digits).filter isWord64

/-! ## Written digits -/

theorem isDigit_of_mem_toDigits {n : Nat} : ∀ c ∈ Nat.toDigits 10 n, c.isDigit = true :=
  fun _ => Nat.isDigit_of_mem_toDigits (by decide) (by decide)

/-- Only zero is written with a zero in front. -/
theorem head?_toDigits_ne {n : Nat} (positive : 0 < n) : (Nat.toDigits 10 n).head? ≠ some '0' := by
  have single : ∀ digit < 10, 0 < digit → Nat.digitChar digit ≠ '0' := by decide
  induction n using Nat.strongRecOn with
  | _ n ih =>
      by_cases short : n < 10
      · rw [Nat.toDigits_of_lt_base short]
        simpa using single n short positive
      · have shorter := ih (n / 10) (by omega) (by omega)
        obtain ⟨first, more, digits⟩ :=
          List.exists_cons_of_ne_nil (@Nat.toDigits_ne_nil (n / 10) 10)
        rw [Nat.toDigits_of_base_le (by decide) (Nat.le_of_not_lt short), digits]
        rwa [digits] at shorter

theorem decimalInt_ofNat (n : Nat) : (decimalInt (Int.ofNat n)).toList = Nat.toDigits 10 n :=
  String.toList_ofList

theorem decimalInt_negSucc (n : Nat) :
    (decimalInt (Int.negSucc n)).toList = '-' :: Nat.toDigits 10 (n + 1) :=
  String.toList_ofList

theorem mem_decimalInt {n : Int} {c : Char} (inside : c ∈ (decimalInt n).toList) :
    c.isDigit = true ∨ c = '-' := by
  cases n with
  | ofNat n =>
      rw [decimalInt_ofNat] at inside
      exact Or.inl (isDigit_of_mem_toDigits c inside)
  | negSucc n =>
      rw [decimalInt_negSucc] at inside
      rcases List.mem_cons.mp inside with minus | inside
      · exact Or.inr minus
      · exact Or.inl (isDigit_of_mem_toDigits c inside)

theorem exists_decimalInt_eq_cons (n : Int) :
    ∃ c rest, (decimalInt n).toList = c :: rest ∧ (c.isDigit = true ∨ c = '-') := by
  have nonempty : (decimalInt n).toList ≠ [] := by
    cases n with
    | ofNat n =>
        rw [decimalInt_ofNat]
        exact Nat.toDigits_ne_nil
    | negSucc n =>
        rw [decimalInt_negSucc]
        exact List.cons_ne_nil _ _
  obtain ⟨c, rest, written⟩ := List.exists_cons_of_ne_nil nonempty
  exact ⟨c, rest, written, mem_decimalInt (by rw [written]; exact List.mem_cons_self)⟩

/-! ## Runs of digits -/

section

variable {digits rest : List Char} (all : ∀ c ∈ digits, c.isDigit = true)
  (stops : ∀ c ∈ rest.head?, c.isDigit = false)

include all stops

theorem takeWhile_isDigit_append : (digits ++ rest).takeWhile Char.isDigit = digits := by
  rw [List.takeWhile_append_of_pos all]
  cases rest with
  | nil => simp
  | cons c rest => simp [stops c rfl]

theorem dropWhile_isDigit_append : (digits ++ rest).dropWhile Char.isDigit = rest := by
  rw [List.dropWhile_append_of_pos all]
  cases rest with
  | nil => rfl
  | cons c rest => simp [stops c rfl]

end

/-! ## What is no integer -/

theorem readDigits?_eq_none {chars : List Char} {c : Char} (inside : c ∈ chars)
    (other : c.isDigit = false) : readDigits? chars = none := by
  have fails : chars.all Char.isDigit = false :=
    List.all_eq_false.mpr ⟨c, inside, by simp [other]⟩
  simp [readDigits?, fails]

/-- An integer has no characters but digits and a sign. -/
theorem readInt64?_eq_none {chars : List Char} {c : Char} (inside : c ∈ chars)
    (other : c.isDigit = false) (minus : c ≠ '-') (plus : c ≠ '+') : readInt64? chars = none := by
  have signed : readSigned? chars = none := by
    unfold readSigned?
    split
    · rw [readDigits?_eq_none (List.mem_of_ne_of_mem minus inside) other]
      rfl
    · rw [readDigits?_eq_none (List.mem_of_ne_of_mem plus inside) other]
      rfl
    · rw [readDigits?_eq_none inside other]
      rfl
  rw [readInt64?, signed]
  rfl

theorem isInt64_of_readInt64? {chars : List Char} {n : Int} (read : readInt64? chars = some n) :
    isInt64 n = true :=
  (Option.filter_eq_some_iff.mp read).2

/-! ## Round trip -/

theorem readDigits?_toDigits (n : Nat) : readDigits? (Nat.toDigits 10 n) = some n := by
  have digits : (Nat.toDigits 10 n).all Char.isDigit = true :=
    List.all_eq_true.mpr isDigit_of_mem_toDigits
  simp [readDigits?, digits, Nat.toDigits_ne_nil]

theorem readSigned?_minus (digits : List Char) :
    readSigned? ('-' :: digits) = (readDigits? digits).map fun n => -Int.ofNat n :=
  rfl

theorem readSigned?_of_isDigit {digits : List Char} (all : ∀ c ∈ digits, c.isDigit = true) :
    readSigned? digits = (readDigits? digits).map Int.ofNat := by
  unfold readSigned?
  split
  · exact absurd (all '-' List.mem_cons_self) (by decide)
  · exact absurd (all '+' List.mem_cons_self) (by decide)
  · rfl

/-- A written integer is read back. -/
theorem readInt64?_decimalInt {n : Int} (fits : isInt64 n = true) :
    readInt64? (decimalInt n).toList = some n := by
  have signed : readSigned? (decimalInt n).toList = some n := by
    cases n with
    | ofNat n =>
        rw [decimalInt_ofNat, readSigned?_of_isDigit isDigit_of_mem_toDigits, readDigits?_toDigits]
        rfl
    | negSucc n =>
        rw [decimalInt_negSucc, readSigned?_minus, readDigits?_toDigits]
        rfl
  simp [readInt64?, signed, fits]

end CollectiveChoice.Text
