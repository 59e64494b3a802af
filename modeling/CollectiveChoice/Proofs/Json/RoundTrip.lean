import CollectiveChoice.Json.Reader

/-!
# Values are read back as they are written

Reading the compact text of a value gives the draft of the value and leaves nothing behind
(`Draft.Document.read_write`).  So the text of a value determines it (`Json.write_injective`).

The condition is that every significand fits a machine word, since the reader keeps no more digits
of a number with an exponent.  Integers are not concerned, they are read with all their digits.

Every part of a text is followed by something.  Behind a string that can be anything, but a number
goes on with the digits, the point and the mark of an exponent it finds; the lemmas on values ask
that no such character follows.
-/

namespace CollectiveChoice

set_option autoImplicit false

/-! ## Significands -/

namespace Magnitude

theorem le_ofDigitChars (digits : List Char) (start : Nat) :
    start ≤ Nat.ofDigitChars 10 digits start := by
  induction digits generalizing start with
  | nil => exact Nat.le_refl start
  | cons digit rest ih =>
      rw [Nat.ofDigitChars_cons]
      exact Nat.le_trans (by omega) (ih _)

/-- Digits that make up a machine word are all taken. -/
theorem takeDigits_of_isWord64 {digits : List Char} {start : Nat}
    (word : Text.isWord64 (Nat.ofDigitChars 10 digits start) = true) :
    takeDigits start digits = (Nat.ofDigitChars 10 digits start, []) := by
  induction digits generalizing start with
  | nil => rfl
  | cons digit rest ih =>
      rw [Nat.ofDigitChars_cons] at word
      have longer : Text.isWord64 (10 * start + (digit.toNat - '0'.toNat)) = true :=
        decide_eq_true (Nat.le_trans (le_ofDigitChars rest _) (of_decide_eq_true word))
      rw [takeDigits, if_pos longer, Nat.ofDigitChars_cons, ih word]

theorem kept_toDigits {n : Nat} (word : Text.isWord64 n = true) :
    kept (Nat.toDigits 10 n) [] = (n, 0) := by
  have taken : takeDigits 0 (Nat.toDigits 10 n) = (n, []) := by
    have digits := Nat.ofDigitChars_ten_toDigits (n := n)
    rw [takeDigits_of_isWord64 (by rw [digits]; exact word), digits]
  simp [kept, taken, takeDigits]

end Magnitude

namespace Draft

open Json

/-! ## Strings -/

section

attribute [local simp] readPieces joinPieces?

theorem readPieces_cons {seen : List Piece} {c : Char} {rest : List Char} (quote : c ≠ '"')
    (backslash : c ≠ '\\') (shown : ¬ c.toNat < 0x20) :
    readPieces seen (c :: rest) = readPieces (.char c :: seen) rest := by
  rw [readPieces, if_neg shown]
  · exact quote
  all_goals
    intros
    exact backslash ‹c = '\\'›

theorem readPieces_unit {seen : List Piece} {a b c d : Char} {code : Nat} (rest : List Char)
    (unit : hexUnit? a b c d = some code) :
    readPieces seen ('\\' :: 'u' :: a :: b :: c :: d :: rest)
      = readPieces (.unit code :: seen) rest := by
  simp [unit]

/-- A character of a string is written as one piece, which stands for it. -/
theorem exists_piece (c : Char) :
    ∃ piece : Piece,
      (∀ seen rest, readPieces seen (stringChar c ++ rest) = readPieces (piece :: seen) rest) ∧
      ∀ pieces, joinPieces? (piece :: pieces) = (joinPieces? pieces).map (c :: ·) := by
  unfold stringChar
  split
  · exact ⟨.char '"', fun _ _ => rfl, fun _ => rfl⟩
  · exact ⟨.char '\\', fun _ _ => rfl, fun _ => rfl⟩
  · exact ⟨.char '\x08', fun _ _ => rfl, fun _ => rfl⟩
  · exact ⟨.char '\x0c', fun _ _ => rfl, fun _ => rfl⟩
  · exact ⟨.char '\n', fun _ _ => rfl, fun _ => rfl⟩
  · exact ⟨.char '\r', fun _ _ => rfl, fun _ => rfl⟩
  · exact ⟨.char '\t', fun _ _ => rfl, fun _ => rfl⟩
  · split
    · rename_i control
      refine ⟨.unit c.toNat, fun seen rest => ?_, fun pieces => ?_⟩
      · have digits : ∀ code < 0x20,
            hexUnit? '0' '0' (Nat.digitChar (code / 16)) (Nat.digitChar (code % 16)) = some code := by
          decide
        exact readPieces_unit rest (digits c.toNat control)
      · have noHigh : ¬ 0xD800 ≤ c.toNat := by omega
        have noLow : ¬ 0xDC00 ≤ c.toNat := by omega
        cases pieces with
        | nil => simp [noHigh]
        | cons piece pieces => cases piece <;> simp [noHigh, noLow]
    · rename_i quote backslash _ _ _ _ _ shown
      exact ⟨.char c, fun _ _ => readPieces_cons quote backslash shown, fun _ => rfl⟩

theorem exists_pieces (content : List Char) :
    ∃ pieces : List Piece,
      (∀ seen rest, readPieces seen (content.flatMap stringChar ++ '"' :: rest)
        = some (seen.reverse ++ pieces, rest)) ∧
      joinPieces? pieces = some content := by
  induction content with
  | nil => exact ⟨[], fun seen rest => by rw [List.append_nil]; rfl, rfl⟩
  | cons c content ih =>
      obtain ⟨piece, reads, joins⟩ := exists_piece c
      obtain ⟨pieces, readsRest, joinsRest⟩ := ih
      refine ⟨piece :: pieces, fun seen rest => ?_, ?_⟩
      · rw [List.flatMap_cons, List.append_assoc, reads, readsRest]
        simp
      · rw [joins, joinsRest, Option.map_some]

/-- A string is read as its content. -/
theorem readString_flatMap (content : String) (rest : List Char) :
    readString (content.toList.flatMap stringChar ++ '"' :: rest) = some (some content, rest) := by
  obtain ⟨pieces, reads, joins⟩ := exists_pieces content.toList
  rw [readString, reads]
  simp [joins]

end

/-! ## Numbers -/

/-- Whether a number goes on with a character behind its digits. -/
def extendsNumber (c : Char) : Bool :=
  c.isDigit || c == '.' || c == 'e' || c == 'E'

/-- Whether a number ends where it is followed by a text. -/
def EndsNumber (rest : List Char) : Prop :=
  ∀ c ∈ rest.head?, extendsNumber c = false

theorem endsNumber_cons {c : Char} {rest : List Char} (ends : extendsNumber c = false) :
    EndsNumber (c :: rest) := by
  intro other first
  cases first
  exact ends

theorem EndsNumber.not_isDigit {rest : List Char} (ends : EndsNumber rest) :
    ∀ c ∈ rest.head?, c.isDigit = false := by
  intro c first
  have all := ends c first
  simp only [extendsNumber, Bool.or_eq_false_iff] at all
  exact all.1.1.1

theorem readWhole_toDigits (n : Nat) {rest : List Char}
    (stops : ∀ c ∈ rest.head?, c.isDigit = false) :
    readWhole (Nat.toDigits 10 n ++ rest) = some (Nat.toDigits 10 n, rest) := by
  rw [readWhole, Text.takeWhile_isDigit_append Text.isDigit_of_mem_toDigits stops,
    Text.dropWhile_isDigit_append Text.isDigit_of_mem_toDigits stops]
  split
  · rename_i digits
    exact absurd digits Nat.toDigits_ne_nil
  · rfl
  · rename_i more digits
    rcases Nat.eq_zero_or_pos n with rfl | positive
    · exact absurd (List.cons.inj digits).2.symm more
    · exact absurd (by rw [digits]; rfl) (Text.head?_toDigits_ne positive)
  · rfl

theorem readFraction_of_ne {rest : List Char} (point : rest.head? ≠ some '.') :
    readFraction rest = some ([], rest) := by
  unfold readFraction
  split
  · exact absurd rfl point
  · rfl

/-- Digits alone are an integer, unless they are a negative zero. -/
theorem readMagnitude_toDigits (negative : Bool) {n : Nat} {rest : List Char}
    (ends : EndsNumber rest) (zero : negative = true → 0 < n) :
    readMagnitude negative (Nat.toDigits 10 n ++ rest)
      = some (.integer (if negative then -(n : Int) else n), rest) := by
  have point : rest.head? ≠ some '.' := fun first => absurd (ends '.' first) (by decide)
  simp only [readMagnitude, readWhole_toDigits n ends.not_isDigit, readFraction_of_ne point]
  split
  · exact absurd (ends 'e' rfl) (by decide)
  · exact absurd (ends 'E' rfl) (by decide)
  · have signed : negative = true → n ≠ 0 := fun minus => Nat.ne_of_gt (zero minus)
    simpa [Nat.ofDigitChars_ten_toDigits] using signed

/-- Digits with an exponent are kept as a significand. -/
theorem readMagnitude_toDigits_exponent (negative : Bool) {n : Nat} {exponent : Int}
    {behind rest : List Char} (word : Text.isWord64 n = true)
    (scale : readExponent behind = some (exponent, rest)) :
    readMagnitude negative (Nat.toDigits 10 n ++ 'e' :: behind)
      = some (.decimal (if negative then -(n : Int) else n) exponent, rest) := by
  have stops : ∀ c ∈ ('e' :: behind).head?, c.isDigit = false := by
    rintro c ⟨⟩
    rfl
  have point : ('e' :: behind).head? ≠ some '.' := by simp
  simp only [readMagnitude, readWhole_toDigits n stops, readFraction_of_ne point,
    Magnitude.kept_toDigits word, scale]
  simp

/-- Digits have no sign in front. -/
theorem toDigits_append_ne {n : Nat} {rest more : List Char} {c : Char}
    (other : c.isDigit = false) : Nat.toDigits 10 n ++ rest ≠ c :: more := by
  intro starts
  obtain ⟨first, digits, written⟩ := List.exists_cons_of_ne_nil (@Nat.toDigits_ne_nil n 10)
  have plain := @Text.isDigit_of_mem_toDigits n first (by rw [written]; exact List.mem_cons_self)
  rw [written, List.cons_append] at starts
  cases starts
  rw [plain] at other
  cases other

theorem readExponent_decimalInt (n : Int) {rest : List Char} (ends : EndsNumber rest) :
    readExponent ((Text.decimalInt n).toList ++ rest) = some (n, rest) := by
  have take (m : Nat) := @Text.takeWhile_isDigit_append _ rest
    (@Text.isDigit_of_mem_toDigits m) ends.not_isDigit
  have drop (m : Nat) := @Text.dropWhile_isDigit_append _ rest
    (@Text.isDigit_of_mem_toDigits m) ends.not_isDigit
  cases n with
  | ofNat n =>
      rw [Text.decimalInt_ofNat, readExponent]
      · have filled : (Nat.toDigits 10 n).isEmpty = false :=
          List.isEmpty_eq_false_iff.mpr Nat.toDigits_ne_nil
        simp only [take, drop, filled, Nat.ofDigitChars_ten_toDigits]
        rfl
      · exact fun _ => toDigits_append_ne rfl
      · exact fun _ => toDigits_append_ne rfl
  | negSucc n =>
      have filled : (Nat.toDigits 10 (n + 1)).isEmpty = false :=
        List.isEmpty_eq_false_iff.mpr Nat.toDigits_ne_nil
      rw [Text.decimalInt_negSucc, List.cons_append, readExponent]
      simp only [take, drop, filled, Nat.ofDigitChars_ten_toDigits]
      rfl

theorem readNumber_toDigits (n : Nat) (rest : List Char) :
    readNumber (Nat.toDigits 10 n ++ rest) = readMagnitude false (Nat.toDigits 10 n ++ rest) := by
  unfold readNumber
  split
  · rename_i starts
    exact absurd starts (toDigits_append_ne rfl)
  · rfl

/-- An integer is read as itself. -/
theorem readNumber_decimalInt (n : Int) {rest : List Char} (ends : EndsNumber rest) :
    readNumber ((Text.decimalInt n).toList ++ rest) = some (.integer n, rest) := by
  cases n with
  | ofNat n =>
      rw [Text.decimalInt_ofNat, readNumber_toDigits, readMagnitude_toDigits false ends nofun]
      rfl
  | negSucc n =>
      rw [Text.decimalInt_negSucc]
      exact readMagnitude_toDigits true ends fun _ => Nat.succ_pos n

/-- A number with an exponent is read as itself, where its significand is kept as a whole. -/
theorem readNumber_decimal {significand : Int} (word : Text.isWord64 significand.natAbs = true)
    (exponent : Int) {rest : List Char} (ends : EndsNumber rest) :
    readNumber ((Text.decimalInt significand).toList
        ++ 'e' :: ((Text.decimalInt exponent).toList ++ rest))
      = some (.decimal significand exponent, rest) := by
  have scale := readExponent_decimalInt exponent ends
  cases significand with
  | ofNat n =>
      rw [Text.decimalInt_ofNat, readNumber_toDigits]
      exact readMagnitude_toDigits_exponent false word scale
  | negSucc n =>
      rw [Text.decimalInt_negSucc]
      exact readMagnitude_toDigits_exponent true word scale

/-! ## First characters -/

/-- Whether a value can start with a character. -/
def opensValue (c : Char) : Bool :=
  c.isDigit || ['-', '"', '[', '\x7b', 'n', 't', 'f'].contains c

/-- Whether a number can start with a character. -/
def OpensNumber (c : Char) : Prop :=
  c.isDigit = true ∨ c = '-'

theorem OpensNumber.opensValue {c : Char} (number : OpensNumber c) : opensValue c = true := by
  rcases number with digit | rfl
  · simp [Draft.opensValue, digit]
  · rfl

theorem OpensNumber.ne {c other : Char} (number : OpensNumber c) (noDigit : other.isDigit = false)
    (noSign : other ≠ '-') : c ≠ other := by
  rintro rfl
  rcases number with digit | minus
  · rw [noDigit] at digit
    cases digit
  · exact noSign minus

theorem exists_chars_eq_cons (value : Json) :
    ∃ c rest, value.chars = c :: rest ∧ opensValue c = true := by
  have number (n : Int) (more : List Char) : ∃ c rest,
      (Text.decimalInt n).toList ++ more = c :: rest ∧ opensValue c = true := by
    obtain ⟨c, rest, written, first⟩ := Text.exists_decimalInt_eq_cons n
    exact ⟨c, rest ++ more, by rw [written, List.cons_append], OpensNumber.opensValue first⟩
  cases value with
  | null | string | array | object => exact ⟨_, _, rfl, rfl⟩
  | bool value => cases value <;> exact ⟨_, _, rfl, rfl⟩
  | integer value => simpa [Json.chars] using number value []
  | decimal significand exponent => exact number significand _

theorem skipSpace_cons {c : Char} (rest : List Char) (shown : isSpace c = false) :
    skipSpace (c :: rest) = c :: rest :=
  List.dropWhile_cons_of_neg (by simp [shown])

theorem isSpace_of_opensValue {c : Char} (opens : opensValue c = true) : isSpace c = false := by
  refine Bool.eq_false_iff.mpr fun space => ?_
  simp only [isSpace, Bool.or_eq_true, beq_iff_eq, or_assoc] at space
  rcases space with rfl | rfl | rfl | rfl <;> cases opens

section

attribute [local simp] readValue readItems readMembers

/-! ## Scalars -/

theorem readValue_of_readScalar {c : Char} {rest behind : List Char} {scalar : Draft}
    (opens : opensValue c = true) (list : c ≠ '[') (record : c ≠ '\x7b')
    (read : readScalar (c :: rest) = some (scalar, behind)) (fuel : Nat) :
    readValue (fuel + 1) (c :: rest) = (scalar, some behind) := by
  simp only [readValue, skipSpace_cons _ (isSpace_of_opensValue opens)]
  split
  · exact absurd (List.cons.inj ‹_›).1 list
  · exact absurd (List.cons.inj ‹_›).1 record
  · rw [read]

theorem OpensNumber.readScalar {c : Char} (number : OpensNumber c) (rest : List Char) :
    readScalar (c :: rest) = readNumber (c :: rest) := by
  unfold Draft.readScalar
  split
  · exact absurd (List.cons.inj ‹_›).1 (number.ne rfl (by decide))
  · exact absurd (List.cons.inj ‹_›).1 (number.ne rfl (by decide))
  · exact absurd (List.cons.inj ‹_›).1 (number.ne rfl (by decide))
  · exact absurd (List.cons.inj ‹_›).1 (number.ne rfl (by decide))
  · rfl

theorem readValue_of_readNumber {n : Int} {more behind : List Char} {number : Draft}
    (read : readNumber ((Text.decimalInt n).toList ++ more) = some (number, behind)) (fuel : Nat) :
    readValue (fuel + 1) ((Text.decimalInt n).toList ++ more) = (number, some behind) := by
  obtain ⟨c, rest, written, first⟩ := Text.exists_decimalInt_eq_cons n
  have number : OpensNumber c := first
  rw [written, List.cons_append] at read ⊢
  rw [← number.readScalar] at read
  exact readValue_of_readScalar number.opensValue (number.ne rfl (by decide))
    (number.ne rfl (by decide)) read fuel

theorem readValue_stringChars (content : String) (rest : List Char) (fuel : Nat) :
    readValue (fuel + 1) (stringChars content ++ rest) = (.text content, some rest) := by
  rw [stringChars, List.append_assoc, List.cons_append, List.singleton_append]
  refine readValue_of_readScalar rfl (by decide) (by decide) ?_ fuel
  rw [readScalar, readString_flatMap]
  rfl

/-! ## Arrays and objects -/

section

variable {fuel : Nat} {chars more : List Char} {behind : Option (List Char)}

theorem readItems_last {item : Draft} (read : readValue fuel chars = (item, some (']' :: more))) :
    readItems (fuel + 1) chars = ([item], some more) := by
  simp [read, skipSpace_cons more (show isSpace ']' = false from rfl)]

theorem readItems_next {item : Draft} {items : List Draft}
    (read : readValue fuel chars = (item, some (',' :: more)))
    (others : readItems fuel more = (items, behind)) :
    readItems (fuel + 1) chars = (item :: items, behind) := by
  simp [read, skipSpace_cons more (show isSpace ',' = false from rfl), others]

theorem readMembers_last {key : String} {value : Draft}
    (read : readValue fuel chars = (value, some ('\x7d' :: more))) :
    readMembers (fuel + 1) (stringChars key ++ ':' :: chars)
      = ([(some key, value)], some more) := by
  simp [stringChars, readString_flatMap, skipSpace_cons _ (show isSpace '"' = false from rfl),
    skipSpace_cons chars (show isSpace ':' = false from rfl), read,
    skipSpace_cons more (show isSpace '\x7d' = false from rfl)]

theorem readMembers_next {key : String} {value : Draft} {members : List (Option String × Draft)}
    (read : readValue fuel chars = (value, some (',' :: more)))
    (others : readMembers fuel more = (members, behind)) :
    readMembers (fuel + 1) (stringChars key ++ ':' :: chars)
      = ((some key, value) :: members, behind) := by
  simp [stringChars, readString_flatMap, skipSpace_cons _ (show isSpace '"' = false from rfl),
    skipSpace_cons chars (show isSpace ':' = false from rfl), read,
    skipSpace_cons more (show isSpace ',' = false from rfl), others]

theorem readValue_array {c : Char} {items : List Draft} (opens : opensValue c = true)
    (read : readItems fuel (c :: chars) = (items, behind)) :
    readValue (fuel + 1) ('[' :: c :: chars) = (.list items, behind) := by
  simp only [readValue, skipSpace_cons _ (show isSpace '[' = false from rfl),
    skipSpace_cons chars (isSpace_of_opensValue opens), read]
  split
  · rename_i closed
    cases closed
    cases opens
  · rfl

theorem readValue_object {members : List (Option String × Draft)}
    (read : readMembers fuel ('"' :: chars) = (members, behind)) :
    readValue (fuel + 1) ('\x7b' :: '"' :: chars) = (.record members, behind) := by
  simp [skipSpace_cons _ (show isSpace '\x7b' = false from rfl),
    skipSpace_cons chars (show isSpace '"' = false from rfl), read]

end

end

end Draft

/-! ## Values -/

namespace Json

mutual

/-- Whether every significand in a value fits a machine word. -/
def fitsWords : Json → Bool
  | .decimal significand _ => Text.isWord64 significand.natAbs
  | .array items => itemsFitWords items
  | .object members => membersFitWords members
  | _ => true

/-- Whether every significand in the items of an array fits a machine word. -/
def itemsFitWords : List Json → Bool
  | [] => true
  | item :: rest => fitsWords item && itemsFitWords rest

/-- Whether every significand in the values of members fits a machine word. -/
def membersFitWords : List (String × Json) → Bool
  | [] => true
  | (_, value) :: rest => fitsWords value && membersFitWords rest

end

theorem itemsFitWords_eq_true_iff {items : List Json} :
    itemsFitWords items = true ↔ ∀ item ∈ items, item.fitsWords = true := by
  induction items with
  | nil => simp [itemsFitWords]
  | cons item rest ih => simp [itemsFitWords, ih]

end Json

namespace Draft

open Json

theorem exists_itemsChars_eq_cons (item : Json) (items : List Json) :
    ∃ c rest, itemsChars (item :: items) = c :: rest ∧ opensValue c = true := by
  obtain ⟨c, rest, written, opens⟩ := exists_chars_eq_cons item
  cases items with
  | nil => exact ⟨c, rest, by rw [itemsChars, written], opens⟩
  | cons next items => exact ⟨c, _, by rw [itemsChars, written, List.cons_append], opens⟩

theorem exists_membersChars_eq_cons (key : String) (value : Json)
    (members : List (String × Json)) :
    ∃ rest, membersChars ((key, value) :: members) = '"' :: rest := by
  cases members with
  | nil => exact ⟨_, rfl⟩
  | cons next members => exact ⟨_, rfl⟩

-- Along a text the fuel is twice what is left, with one more for a list that is not read yet: an
-- item takes from it no less than its own characters and the comma behind it.
mutual

/-- The text of a value is read as the value, and what follows is left. -/
theorem readValue_chars_append : ∀ (value : Json) {fuel : Nat} {rest : List Char},
    value.fitsWords = true → 2 * value.chars.length ≤ fuel → EndsNumber rest →
      readValue fuel (value.chars ++ rest) = (ofJson value, some rest)
  | value, 0, _, _, enough, _ => by
      obtain ⟨c, more, written, _⟩ := exists_chars_eq_cons value
      simp [written] at enough
  | .null, fuel + 1, rest, _, _, _ => readValue_of_readScalar rfl (by decide) (by decide) rfl fuel
  | .bool true, fuel + 1, rest, _, _, _ =>
      readValue_of_readScalar rfl (by decide) (by decide) rfl fuel
  | .bool false, fuel + 1, rest, _, _, _ =>
      readValue_of_readScalar rfl (by decide) (by decide) rfl fuel
  | .integer value, fuel + 1, rest, _, _, ends =>
      readValue_of_readNumber (readNumber_decimalInt value ends) fuel
  | .decimal significand exponent, fuel + 1, rest, fits, _, ends => by
      rw [Json.chars, List.append_assoc, List.cons_append]
      exact readValue_of_readNumber (readNumber_decimal fits exponent ends) fuel
  | .string content, fuel + 1, rest, _, _, _ => readValue_stringChars content rest fuel
  | .array [], fuel + 1, rest, _, _, _ => rfl
  | .array (item :: items), fuel + 1, rest, fits, enough, _ => by
      obtain ⟨c, more, written, opens⟩ := exists_itemsChars_eq_cons item items
      rw [Json.chars, List.length_append, List.length_cons, List.length_singleton] at enough
      have read := @readItems_itemsChars_append item items fuel rest fits (by omega)
      rw [written, List.cons_append] at read
      rw [Json.chars, written, List.append_assoc]
      exact readValue_array opens read
  | .object [], fuel + 1, rest, _, _, _ => rfl
  | .object ((key, value) :: members), fuel + 1, rest, fits, enough, _ => by
      obtain ⟨more, written⟩ := exists_membersChars_eq_cons key value members
      rw [Json.chars, List.length_append, List.length_cons, List.length_singleton] at enough
      have read := @readMembers_membersChars_append key value members fuel rest fits (by omega)
      rw [written, List.cons_append] at read
      rw [Json.chars, written, List.append_assoc]
      exact readValue_object read

theorem readItems_itemsChars_append : ∀ (item : Json) (items : List Json) {fuel : Nat}
    {rest : List Char}, itemsFitWords (item :: items) = true →
      2 * (itemsChars (item :: items)).length + 1 ≤ fuel →
      readItems fuel (itemsChars (item :: items) ++ ']' :: rest)
        = (ofItems (item :: items), some rest)
  | item, [], fuel + 1, rest, fits, enough => by
      rw [itemsFitWords, Bool.and_eq_true] at fits
      rw [itemsChars] at enough ⊢
      exact readItems_last
        (readValue_chars_append item fits.1 (by omega) (endsNumber_cons rfl))
  | item, next :: items, fuel + 1, rest, fits, enough => by
      rw [itemsFitWords, Bool.and_eq_true] at fits
      rw [itemsChars, List.length_append, List.length_cons] at enough
      rw [itemsChars, List.append_assoc, List.cons_append]
      exact readItems_next
        (readValue_chars_append item fits.1 (by omega) (endsNumber_cons rfl))
        (readItems_itemsChars_append next items fits.2 (by omega))

theorem readMembers_membersChars_append : ∀ (key : String) (value : Json)
    (members : List (String × Json)) {fuel : Nat} {rest : List Char},
    membersFitWords ((key, value) :: members) = true →
      2 * (membersChars ((key, value) :: members)).length + 1 ≤ fuel →
      readMembers fuel (membersChars ((key, value) :: members) ++ '\x7d' :: rest)
        = (ofMembers ((key, value) :: members), some rest)
  | key, value, [], fuel + 1, rest, fits, enough => by
      rw [membersFitWords, Bool.and_eq_true] at fits
      rw [membersChars, List.length_append, List.length_cons] at enough
      rw [membersChars, List.append_assoc, List.cons_append]
      exact readMembers_last
        (readValue_chars_append value fits.1 (by omega) (endsNumber_cons rfl))
  | key, value, (nextKey, next) :: members, fuel + 1, rest, fits, enough => by
      rw [membersFitWords, Bool.and_eq_true] at fits
      rw [membersChars, List.length_append, List.length_cons, List.length_append,
        List.length_cons] at enough
      rw [membersChars, List.append_assoc, List.cons_append, List.append_assoc, List.cons_append]
      exact readMembers_next
        (readValue_chars_append value fits.1 (by omega) (endsNumber_cons rfl))
        (readMembers_membersChars_append nextKey next members fits.2 (by omega))

end

/-- **A value is read back as it is written**, and nothing is left behind it. -/
theorem Document.read_write {value : Json} (fits : value.fitsWords = true) :
    Document.read value.write = ⟨ofJson value, true⟩ := by
  have read := @readValue_chars_append value (2 * value.chars.length + 2) [] fits (by omega) nofun
  rw [List.append_nil] at read
  simp only [Document.read, write, String.toList_ofList, read]
  rfl

/-! ## The text determines the value -/

mutual

theorem ofJson_injective : ∀ {left right : Json}, ofJson left = ofJson right → left = right
  | .null, right, same => by cases right <;> cases same; rfl
  | .bool _, right, same => by cases right <;> cases same; rfl
  | .integer _, right, same => by cases right <;> cases same; rfl
  | .decimal _ _, right, same => by cases right <;> cases same; rfl
  | .string _, right, same => by cases right <;> cases same; rfl
  | .array items, .array others, same => by rw [ofItems_injective (Draft.list.inj same)]
  | .object members, .object others, same => by rw [ofMembers_injective (Draft.record.inj same)]

theorem ofItems_injective : ∀ {left right : List Json}, ofItems left = ofItems right → left = right
  | [], [], _ => rfl
  | item :: items, other :: others, same => by
      obtain ⟨first, rest⟩ := List.cons.inj same
      rw [ofJson_injective first, ofItems_injective rest]

theorem ofMembers_injective : ∀ {left right : List (String × Json)},
    ofMembers left = ofMembers right → left = right
  | [], [], _ => rfl
  | (key, value) :: members, (otherKey, other) :: others, same => by
      obtain ⟨first, rest⟩ := List.cons.inj same
      obtain ⟨sameKey, sameValue⟩ := Prod.mk.inj first
      rw [Option.some.inj sameKey, ofJson_injective sameValue, ofMembers_injective rest]

end

end Draft

theorem Json.write_injective {left right : Json} (fitsLeft : left.fitsWords = true)
    (fitsRight : right.fitsWords = true) (same : left.write = right.write) : left = right := by
  have readLeft := Draft.Document.read_write fitsLeft
  rw [same, Draft.Document.read_write fitsRight] at readLeft
  exact (Draft.ofJson_injective (congrArg Draft.Document.root readLeft)).symm

end CollectiveChoice
