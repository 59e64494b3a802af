/-!
# Blank characters, trimming and splitting

Blank characters are those with the Unicode property `White_Space`, which goes beyond ASCII: the
next-line control, the no-break space, the typographic spaces and the line and paragraph
separators all count.  The zero width space and the byte order mark do not.
-/

namespace CollectiveChoice.Text

set_option autoImplicit false

/-- Whether a character is white space in the sense of Unicode. -/
def isBlank (c : Char) : Bool :=
  let n := c.toNat
  (9 ≤ n && n ≤ 13) || n == 0x20 || n == 0x85 || n == 0xA0 || n == 0x1680 ||
    (0x2000 ≤ n && n ≤ 0x200A) || n == 0x2028 || n == 0x2029 || n == 0x202F || n == 0x205F ||
    n == 0x3000

/-- Every blank of ASCII is a blank. -/
theorem isBlank_of_isWhitespace {c : Char} (blank : c.isWhitespace = true) : isBlank c = true := by
  simp only [Char.isWhitespace, Bool.or_eq_true, decide_eq_true_eq] at blank
  rcases blank with ((rfl | rfl) | rfl) | rfl <;> rfl

/-- No character of ASCII with a shape is a blank. -/
theorem isBlank_eq_false {c : Char} (above : 0x20 < c.toNat) (below : c.toNat < 0x7F) :
    isBlank c = false := by
  simp only [isBlank, Bool.or_eq_false_iff, Bool.and_eq_false_iff, beq_eq_false_iff_ne,
    decide_eq_false_iff_not]
  omega

theorem toNat_of_isAlpha {c : Char} (alpha : c.isAlpha = true) : 65 ≤ c.toNat ∧ c.toNat ≤ 122 := by
  have upperOrLower : (decide (65 ≤ c.val ∧ c.val ≤ 90)
      || (decide (97 ≤ c.val) && decide (c.val ≤ 122))) = true := alpha
  simp [UInt32.le_iff_toNat_le] at upperOrLower
  omega

theorem toNat_of_isDigit {c : Char} (digit : c.isDigit = true) : 48 ≤ c.toNat ∧ c.toNat ≤ 57 :=
  Char.isDigit_iff_toNat.mp digit

theorem isBlank_of_isAlphanum {c : Char} (alphanumeric : c.isAlphanum = true) :
    isBlank c = false := by
  rcases Bool.or_eq_true_iff.mp alphanumeric with alpha | digit
  · have bounds := toNat_of_isAlpha alpha
    exact isBlank_eq_false (by omega) (by omega)
  · have bounds := toNat_of_isDigit digit
    exact isBlank_eq_false (by omega) (by omega)

/-! ## Trimming -/

/-- Drops the longest run of characters of a class at the end. -/
def dropEndWhile (drop : Char → Bool) (chars : List Char) : List Char :=
  (chars.reverse.dropWhile drop).reverse

/-- Drops blanks at both ends. -/
def trimChars (chars : List Char) : List Char :=
  dropEndWhile isBlank (chars.dropWhile isBlank)

/-- A text without the blanks at both ends. -/
def trim (text : String) : String :=
  String.ofList (trimChars text.toList)

/-- Characters without a blank at either end. -/
structure Trimmed (chars : List Char) : Prop where
  front : ∀ c ∈ chars.head?, isBlank c = false
  back : ∀ c ∈ chars.getLast?, isBlank c = false

theorem trimmed_of_forall {chars : List Char} (shown : ∀ c ∈ chars, isBlank c = false) :
    Trimmed chars where
  front := fun c first => shown c (List.mem_of_head? first)
  back := fun c last => shown c (List.mem_of_getLast? last)

theorem trimmed_of_ends {first last : Char} (firstShown : isBlank first = false)
    (lastShown : isBlank last = false) (middle : List Char) :
    Trimmed (first :: (middle ++ [last])) where
  front := by simpa using firstShown
  back := by
    rw [← List.cons_append, List.getLast?_concat]
    simpa using lastShown

theorem head?_dropWhile_eq_false {drop : Char → Bool} {chars : List Char} {c : Char}
    (first : c ∈ (chars.dropWhile drop).head?) : drop c = false := by
  have stops := List.head?_dropWhile_not drop chars
  rwa [Option.mem_def.mp first] at stops

/-- What is dropped at the end is of the class. -/
theorem exists_eq_dropEndWhile_append (drop : Char → Bool) (chars : List Char) :
    ∃ back, chars = dropEndWhile drop chars ++ back ∧ ∀ c ∈ back, drop c = true := by
  refine ⟨(chars.reverse.takeWhile drop).reverse, ?_, fun c inside => ?_⟩
  · rw [dropEndWhile, ← List.reverse_append, List.takeWhile_append_dropWhile,
      List.reverse_reverse]
  · exact List.all_eq_true.mp List.all_takeWhile c (List.mem_reverse.mp inside)

/-- Only blanks are dropped. -/
theorem exists_eq_append_trimChars (chars : List Char) :
    ∃ front back, chars = front ++ (trimChars chars ++ back) ∧
      (∀ c ∈ front, isBlank c = true) ∧ ∀ c ∈ back, isBlank c = true := by
  obtain ⟨back, cut, blanks⟩ := exists_eq_dropEndWhile_append isBlank (chars.dropWhile isBlank)
  refine ⟨chars.takeWhile isBlank, back, ?_, ?_, blanks⟩
  · rw [trimChars, ← cut, List.takeWhile_append_dropWhile]
  · exact fun c inside => List.all_eq_true.mp List.all_takeWhile c inside

theorem trimmed_trimChars (chars : List Char) : Trimmed (trimChars chars) := by
  refine ⟨fun c first => ?_, fun c last => ?_⟩
  · obtain ⟨back, cut, -⟩ := exists_eq_dropEndWhile_append isBlank (chars.dropWhile isBlank)
    have unchanged : c ∈ (chars.dropWhile isBlank).head? := by
      rw [trimChars, Option.mem_def] at first
      rw [cut, List.head?_append, first]
      rfl
    exact head?_dropWhile_eq_false unchanged
  · rw [trimChars, dropEndWhile, List.getLast?_reverse] at last
    exact head?_dropWhile_eq_false last

theorem trimChars_of_trimmed {chars : List Char} (trimmed : Trimmed chars) :
    trimChars chars = chars := by
  have keeps : ∀ kept : List Char, (∀ c ∈ kept.head?, isBlank c = false) →
      kept.dropWhile isBlank = kept := by
    intro kept first
    cases kept with
    | nil => rfl
    | cons c rest => exact List.dropWhile_cons_of_neg (by simp [first c rfl])
  rw [trimChars, keeps chars trimmed.front, dropEndWhile, keeps, List.reverse_reverse]
  rw [List.head?_reverse]
  exact trimmed.back

/-! ## Splitting -/

/-- The stretches between the characters of a class, empty ones included. -/
def splitWhere (separates : Char → Bool) : List Char → List (List Char)
  | [] => [[]]
  | c :: rest =>
    match splitWhere separates rest with
    | [] => [[c]]
    | part :: parts => if separates c then [] :: part :: parts else (c :: part) :: parts

/-- The words of a text: its non-empty stretches between blanks. -/
def words (text : String) : List String :=
  ((splitWhere isBlank text.toList).filter fun part => !part.isEmpty).map String.ofList

/-- A line without a carriage return at its end. -/
def dropReturn (line : List Char) : List Char :=
  if line.getLast? = some '\r' then line.dropLast else line

/-- The lines among the stretches between line feeds.  All but the last one are ended by a line feed,
which a carriage return may precede; an empty last stretch is no line. -/
def linesOf : List (List Char) → List (List Char)
  | [] => []
  | [last] => if last.isEmpty then [] else [last]
  | line :: next :: rest => dropReturn line :: linesOf (next :: rest)

/-- The lines of a text. -/
def lines (text : String) : List (List Char) :=
  linesOf (splitWhere (· == '\n') text.toList)

/-! ## Measuring -/

/-- The number of bytes characters take in UTF-8. -/
def byteLength (chars : List Char) : Nat :=
  (chars.map Char.utf8Size).foldr (· + ·) 0

theorem byteLength_nil : byteLength [] = 0 := rfl

theorem byteLength_cons (c : Char) (rest : List Char) :
    byteLength (c :: rest) = c.utf8Size + byteLength rest := rfl

theorem byteLength_append (chars rest : List Char) :
    byteLength (chars ++ rest) = byteLength chars + byteLength rest := by
  induction chars with
  | nil => rw [List.nil_append, byteLength_nil, Nat.zero_add]
  | cons c more ih => rw [List.cons_append, byteLength_cons, ih, byteLength_cons, Nat.add_assoc]

theorem byteLength_toList (text : String) : byteLength text.toList = text.utf8ByteSize := by
  have ofList (chars : List Char) : byteLength chars = (String.ofList chars).utf8ByteSize := by
    induction chars with
    | nil => rfl
    | cons c rest ih =>
        rw [String.ofList_cons, String.utf8ByteSize_append, String.utf8ByteSize_singleton, ← ih,
          byteLength_cons]
  rw [ofList, String.ofList_toList]

end CollectiveChoice.Text
