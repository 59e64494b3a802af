import Mathlib.Data.List.Chain
import CollectiveChoice.Proofs.Success
import CollectiveChoice.Template

/-!
# The grammar of templates

A list of segments has one text (`printed`): literals with their braces doubled, and names between
single braces.  Not every list is one a text is read into, two literals side by side are read as one;
a list that can be is normal (`Normal`).

The reader accepts the texts of normal lists and nothing else, and reads each of them into its list
(`parse_iff_normal_printed`).
That a normal list is read back from its text (`readSegments_printedChars`) goes literal by literal
and name by name, whatever follows them (`readSegments_printedChars_append`); that nothing else is
accepted (`normal_and_eq_printedChars_of_readSegments`) goes along the recursion of the reader.  Runs
of braces need no case of their own in either direction, as the reader takes a doubled brace wherever
there is one.
-/

namespace CollectiveChoice

set_option autoImplicit false

namespace Template

/-! ## The text of segments -/

/-- Whether a character is a brace. -/
def isBrace (c : Char) : Bool :=
  c == '\x7b' || c == '\x7d'

/-- How a character of a literal is written: a brace twice, any other character once. -/
def escapedChar (c : Char) : List Char :=
  if isBrace c then [c, c] else [c]

/-- Characters with their braces doubled. -/
def escapedChars (chars : List Char) : List Char :=
  chars.flatMap escapedChar

/-- How a segment is written. -/
def printedSegment : Segment → List Char
  | .literal chars => escapedChars chars
  | .placeholder name => '\x7b' :: name.toList ++ ['\x7d']

/-- The characters of the text of segments. -/
def printedChars (segments : List Segment) : List Char :=
  segments.flatMap printedSegment

/-- The text of segments. -/
def printed (segments : List Segment) : String :=
  String.ofList (printedChars segments)

/-- A text with its braces doubled. -/
def escaped (text : String) : String :=
  String.ofList (escapedChars text.toList)

/-- Whether a segment is a literal. -/
def isLiteral : Segment → Bool
  | .literal _ => true
  | .placeholder _ => false

/-- Segments that a text can be read into. -/
structure Normal (segments : List Segment) : Prop where
  /-- No literal is empty. -/
  filled : Segment.literal [] ∉ segments
  /-- No two literals stand side by side. -/
  apart : segments.IsChain fun left right => (isLiteral left && isLiteral right) = false
  /-- Every name is an identifier. -/
  named : ∀ name, Segment.placeholder name ∈ segments → isIdentifier name.toList = true

theorem normal_nil : Normal [] :=
  ⟨List.not_mem_nil, .nil, nofun⟩

theorem normal_literal_iff {chars : List Char} {rest : List Segment} :
    Normal (.literal chars :: rest)
      ↔ chars ≠ [] ∧ (∀ next ∈ rest.head?, isLiteral next = false) ∧ Normal rest := by
  constructor
  · rintro ⟨filled, apart, named⟩
    obtain ⟨first, apart⟩ := List.isChain_cons.mp apart
    simp only [List.mem_cons, not_or] at filled
    refine ⟨?_, fun next head => by simpa [isLiteral] using first next head, filled.2, apart,
      fun name inside => named name (List.mem_cons_of_mem _ inside)⟩
    rintro rfl
    exact filled.1 rfl
  · rintro ⟨nonempty, first, filled, apart, named⟩
    refine ⟨?_, List.isChain_cons.mpr ⟨fun next head => by simp [first next head], apart⟩, ?_⟩
    · simp only [List.mem_cons, Segment.literal.injEq, not_or]
      exact ⟨nonempty ∘ Eq.symm, filled⟩
    · intro name inside
      rcases List.mem_cons.mp inside with same | inside
      · cases same
      · exact named name inside

theorem normal_placeholder_iff {name : String} {rest : List Segment} :
    Normal (.placeholder name :: rest) ↔ isIdentifier name.toList = true ∧ Normal rest := by
  constructor
  · rintro ⟨filled, apart, named⟩
    exact ⟨named name List.mem_cons_self, fun inside => filled (List.mem_cons_of_mem _ inside),
      apart.tail, fun other inside => named other (List.mem_cons_of_mem _ inside)⟩
  · rintro ⟨identifier, filled, apart, named⟩
    refine ⟨?_, List.isChain_cons.mpr ⟨fun _ _ => rfl, apart⟩, ?_⟩
    · simpa using filled
    · intro other inside
      rcases List.mem_cons.mp inside with same | inside
      · cases same
        exact identifier
      · exact named other inside

/-! ## Growing a literal -/

theorem printedChars_growLiteral (c : Char) (segments : List Segment) :
    printedChars (growLiteral c segments) = escapedChar c ++ printedChars segments := by
  unfold growLiteral
  split
  · simp [printedChars, printedSegment, escapedChars]
  · simp [printedChars, printedSegment, escapedChars]

theorem Normal.growLiteral {segments : List Segment} (normal : Normal segments) (c : Char) :
    Normal (Template.growLiteral c segments) := by
  unfold Template.growLiteral
  split
  · rename_i chars rest
    exact normal_literal_iff.mpr ⟨List.cons_ne_nil c chars, (normal_literal_iff.mp normal).2⟩
  · rename_i noLiteral
    refine normal_literal_iff.mpr ⟨List.cons_ne_nil c [], fun next head => ?_, normal⟩
    obtain ⟨rest, rfl⟩ := List.head?_eq_some_iff.mp head
    cases next with
    | literal chars => exact absurd rfl (noLiteral chars rest)
    | placeholder name => rfl

theorem foldr_growLiteral {chars : List Char} {segments : List Segment} (nonempty : chars ≠ [])
    (apart : ∀ next ∈ segments.head?, isLiteral next = false) :
    chars.foldr growLiteral segments = .literal chars :: segments := by
  induction chars with
  | nil => exact absurd rfl nonempty
  | cons c rest ih =>
      rcases eq_or_ne rest [] with rfl | more
      · rcases segments with _ | ⟨_ | _, others⟩
        case nil => rfl
        case cons.literal => exact absurd (apart _ rfl) nofun
        case cons.placeholder => rfl
      · rw [List.foldr_cons, ih more]
        rfl

/-! ## Texts of normal lists are read back -/

section

attribute [local simp] readSegments readName

/-- Reading a doubled brace, or any other character as it is, grows the literal in front. -/
theorem readSegments_escapedChar (c : Char) (position : Nat) (rest : List Char) :
    readSegments position (escapedChar c ++ rest)
      = (readSegments (position + Text.byteLength (escapedChar c)) rest).map (growLiteral c) := by
  unfold escapedChar isBrace
  by_cases opening : c = '\x7b'
  · subst opening
    exact readSegments.eq_2 position rest
  by_cases closing : c = '\x7d'
  · subst closing
    exact readSegments.eq_3 position rest
  · simp only [opening, closing, beq_iff_eq, Bool.or_eq_true, or_self, if_false]
    exact readSegments.eq_6 position c rest (fun _ same _ => opening same)
      (fun _ same _ => closing same) opening closing

theorem readSegments_escapedChars (chars : List Char) (position : Nat) (rest : List Char) :
    readSegments position (escapedChars chars ++ rest)
      = (readSegments (position + Text.byteLength (escapedChars chars)) rest).map
          (chars.foldr growLiteral ·) := by
  induction chars generalizing position with
  | nil =>
      show readSegments position rest = (readSegments position rest).map fun segments => segments
      cases readSegments position rest <;> rfl
  | cons c more ih =>
      rw [escapedChars, List.flatMap_cons, List.append_assoc, ← escapedChars,
        readSegments_escapedChar, ih, Text.byteLength_append, Nat.add_assoc]
      exact map_map _ _ _

/-- A name is read up to the first closing brace. -/
theorem readName_append {start : Nat} {name : List Char} (unclosed : '\x7d' ∉ name)
    (seen : List Char) (position : Nat) (rest : List Char) :
    readName start seen position (name ++ '\x7d' :: rest)
      = if isIdentifier (seen.reverse ++ name) then
          (readSegments (position + Text.byteLength name + 1) rest).map
            (.placeholder (String.ofList (seen.reverse ++ name)) :: ·)
        else .error (.invalidName (String.ofList (seen.reverse ++ name))) := by
  induction name generalizing seen position with
  | nil => simp [Text.byteLength_nil]
  | cons c name ih =>
      obtain ⟨differs, unclosed⟩ := List.ne_and_not_mem_of_not_mem_cons unclosed
      have read := ih unclosed (c :: seen) (position + c.utf8Size)
      rw [List.cons_append, readName, read, Text.byteLength_cons, Nat.add_assoc position]
      · simp
      · exact differs ∘ Eq.symm

/-- No character of an identifier is a brace. -/
theorem isBrace_of_mem_identifier {name : List Char} (identifier : isIdentifier name = true)
    {c : Char} (inside : c ∈ name) : isBrace c = false := by
  have allowed : continuesName c = true := by
    cases name with
    | nil => cases inside
    | cons first rest =>
        simp only [isIdentifier, Bool.and_eq_true, List.all_eq_true] at identifier
        rcases List.mem_cons.mp inside with rfl | inside
        · have starts := identifier.1
          simp only [startsName, Bool.or_eq_true] at starts
          rcases starts with letter | underscore
          · simp [continuesName, letter]
          · simp [continuesName, underscore]
        · exact identifier.2 c inside
  rcases brace : isBrace c with _ | _
  · rfl
  · simp only [isBrace, Bool.or_eq_true, beq_iff_eq] at brace
    rcases brace with rfl | rfl <;> exact absurd allowed (by decide)

theorem readSegments_placeholder {name : String} (identifier : isIdentifier name.toList = true)
    (position : Nat) (rest : List Char) :
    readSegments position (printedSegment (.placeholder name) ++ rest)
      = (readSegments (position + Text.byteLength (printedSegment (.placeholder name))) rest).map
          (.placeholder name :: ·) := by
  have noBrace : ∀ c ∈ name.toList, isBrace c = false := fun _ =>
    isBrace_of_mem_identifier identifier
  have closes : '\x7d' ∉ name.toList := fun inside => absurd (noBrace _ inside) (by decide)
  have single : ∀ more, name.toList ++ '\x7d' :: rest ≠ '\x7b' :: more := by
    -- The name begins with a letter or an underscore, so the brace in front of it is a single one.
    intro more same
    cases chars : name.toList with
    | nil => simp [chars, isIdentifier] at identifier
    | cons first others =>
        rw [chars, List.cons_append] at same
        cases same
        exact absurd (noBrace '\x7b' (by simp [chars])) (by decide)
  have read := @readName_append position _ closes [] (position + 1) rest
  rw [List.reverse_nil, List.nil_append, if_pos identifier, String.ofList_toList] at read
  have bytes : position + Text.byteLength (printedSegment (.placeholder name))
      = position + 1 + Text.byteLength name.toList + 1 := by
    rw [printedSegment, Text.byteLength_append, Text.byteLength_cons]
    show position + (1 + Text.byteLength name.toList + 1) = _
    omega
  rw [bytes, ← read, printedSegment, List.cons_append, List.cons_append, List.append_assoc,
    List.singleton_append, readSegments]
  exact single

/-- Puts a segment in front of the segments behind it, a literal character by character. -/
def putSegment : Segment → List Segment → List Segment
  | .literal chars, rest => chars.foldr growLiteral rest
  | .placeholder name, rest => .placeholder name :: rest

/-- The text of segments is read before what follows it, at the position behind it. -/
theorem readSegments_printedChars_append {segments : List Segment}
    (named : ∀ name, Segment.placeholder name ∈ segments → isIdentifier name.toList = true)
    (position : Nat) (rest : List Char) :
    readSegments position (printedChars segments ++ rest)
      = (readSegments (position + Text.byteLength (printedChars segments)) rest).map
          (segments.foldr putSegment ·) := by
  induction segments generalizing position with
  | nil =>
      show readSegments position rest = (readSegments position rest).map fun segments => segments
      cases readSegments position rest <;> rfl
  | cons segment others ih =>
      have later := fun name inside => named name (List.mem_cons_of_mem _ inside)
      rw [printedChars, List.flatMap_cons, List.append_assoc, ← printedChars,
        Text.byteLength_append, ← Nat.add_assoc]
      cases segment with
      | literal chars =>
          rw [printedSegment, readSegments_escapedChars, ih later]
          exact map_map _ _ _
      | placeholder name =>
          rw [readSegments_placeholder (named name List.mem_cons_self), ih later]
          exact map_map _ _ _

/-- A normal list is what its segments are put together to. -/
theorem Normal.foldr_putSegment {segments : List Segment} (normal : Normal segments) :
    segments.foldr putSegment [] = segments := by
  induction segments with
  | nil => rfl
  | cons segment rest ih =>
      cases segment with
      | literal chars =>
          obtain ⟨nonempty, apart, normal⟩ := normal_literal_iff.mp normal
          rw [List.foldr_cons, ih normal]
          exact foldr_growLiteral nonempty apart
      | placeholder name =>
          rw [List.foldr_cons, ih (normal_placeholder_iff.mp normal).2]
          rfl

/-- **The text of a normal list of segments is read into that list.** -/
theorem readSegments_printedChars {segments : List Segment} (normal : Normal segments)
    (position : Nat) : readSegments position (printedChars segments) = .ok segments := by
  have read := readSegments_printedChars_append normal.named position []
  rw [List.append_nil] at read
  rw [read]
  simp [map_ok, normal.foldr_putSegment]

/-- A run of three braces is a brace of the text and one of the placeholder. -/
example : readSegments 0 "\x7b\x7b\x7buser\x7d\x7d\x7d".toList
    = .ok [.literal ['\x7b'], .placeholder "user", .literal ['\x7d']] := by
  rfl

end

/-! ## Nothing else is accepted -/

theorem normal_and_eq_printedChars_of_growLiteral {c : Char} {chars : List Char}
    {read : Except TemplateFault (List Segment)} {segments : List Segment}
    (rest : ∀ others, read = .ok others → Normal others ∧ chars = printedChars others)
    (grown : read.map (growLiteral c) = .ok segments) :
    Normal segments ∧ escapedChar c ++ chars = printedChars segments := by
  obtain ⟨others, success, rfl⟩ := map_eq_ok_iff.mp grown
  obtain ⟨normal, rfl⟩ := rest others success
  exact ⟨normal.growLiteral c, (printedChars_growLiteral c others).symm⟩

/-- The segments that are read are normal and have the text that was read. -/
theorem normal_and_eq_printedChars_of_readSegments :
    ∀ (position : Nat) (chars : List Char) (segments : List Segment),
      readSegments position chars = .ok segments →
        Normal segments ∧ chars = printedChars segments := by
  -- Within a placeholder the reader has seen the beginning of a name and goes on with the rest.
  refine readSegments.induct
    (fun position chars => ∀ segments, readSegments position chars = .ok segments →
      Normal segments ∧ chars = printedChars segments)
    (fun start seen position chars => ∀ segments, readName start seen position chars = .ok segments →
      ∃ name others, isIdentifier (seen.reverse ++ name) = true ∧ Normal others ∧
        segments = .placeholder (String.ofList (seen.reverse ++ name)) :: others ∧
        chars = name ++ '\x7d' :: printedChars others)
    ?_ ?_ ?_ ?_ ?_ ?_ ?_ ?_ ?_ ?_
  case refine_1 =>
    rintro position segments read
    cases read
    exact ⟨normal_nil, rfl⟩
  case refine_2 =>
    intro position rest ih segments read
    rw [readSegments] at read
    exact normal_and_eq_printedChars_of_growLiteral ih read
  case refine_3 =>
    intro position rest ih segments read
    rw [readSegments] at read
    exact normal_and_eq_printedChars_of_growLiteral ih read
  case refine_4 =>
    intro position rest single ih segments read
    rw [readSegments.eq_4 position rest single] at read
    obtain ⟨name, others, identifier, normal, rfl, rfl⟩ := ih segments read
    refine ⟨normal_placeholder_iff.mpr ⟨by simpa using identifier, normal⟩, ?_⟩
    simp [printedChars, printedSegment]
  case refine_5 =>
    intro position tail single segments read
    rw [readSegments.eq_5 position tail single] at read
    cases read
  case refine_6 =>
    intro position c rest openPair closePair opening closing ih segments read
    rw [readSegments.eq_6 position c rest openPair closePair opening closing] at read
    have plain : escapedChar c = [c] := if_neg (by simpa [isBrace] using ⟨opening, closing⟩)
    have grown := normal_and_eq_printedChars_of_growLiteral ih read
    rwa [plain] at grown
  case refine_7 =>
    intro start seen position segments read
    cases read
  case refine_8 =>
    intro start seen position rest name identifier ih segments read
    rw [readName, if_pos identifier] at read
    obtain ⟨others, readRest, rfl⟩ := map_eq_ok_iff.mp read
    obtain ⟨normal, rfl⟩ := ih others readRest
    exact ⟨[], others, by simpa using identifier, normal, by simp, rfl⟩
  case refine_9 =>
    intro start seen position rest name invalid segments read
    rw [readName, if_neg invalid] at read
    cases read
  case refine_10 =>
    intro start seen position c rest differs ih segments read
    rw [readName] at read
    · obtain ⟨name, others, identifier, normal, rfl, rfl⟩ := ih segments read
      exact ⟨c :: name, others, by simpa using identifier, normal, by simp, rfl⟩
    · exact differs

/-! ## Templates -/

theorem exists_parse_iff {source : String} {segments : List Segment} :
    (∃ template, parse source = .ok template ∧ template.segments = segments)
      ↔ readSegments 0 source.toList = .ok segments := by
  constructor
  · rintro ⟨template, parsed, rfl⟩
    unfold parse at parsed
    split at parsed
    · rename_i reads
      cases parsed
      exact reads
    · cases parsed
  · intro reads
    exact ⟨⟨source, segments, reads⟩, parse_source ⟨source, segments, reads⟩, rfl⟩

/-- The segments of a text in which no brace stands for itself. -/
def literally (text : String) : List Segment :=
  if text.toList = [] then [] else [.literal text.toList]

theorem normal_literally (text : String) : Normal (literally text) := by
  unfold literally
  split
  · exact normal_nil
  · rename_i nonempty
    exact normal_literal_iff.mpr ⟨nonempty, nofun, normal_nil⟩

theorem printed_literally (text : String) : printed (literally text) = escaped text := by
  unfold literally
  split
  · rename_i empty
    rw [escaped, empty]
    rfl
  · simp [printed, printedChars, printedSegment, escaped]

/-- **The texts of normal lists of segments are templates, and nothing else is**: a text is read into
a list of segments just if the list is normal and the text is its own.  So any text whatever can be
put into a template by doubling its braces, and comes out as it is. -/
theorem parse_iff_normal_printed :
    (∀ (source : String) (segments : List Segment),
      (∃ template, parse source = .ok template ∧ template.segments = segments)
        ↔ Normal segments ∧ source = printed segments) ∧
    ∀ text : String, ∃ template, parse (escaped text) = .ok template ∧
      template.placeholders = [] ∧ ∀ lookup, template.render lookup = text := by
  have accepts : ∀ (source : String) (segments : List Segment),
      (∃ template, parse source = .ok template ∧ template.segments = segments)
        ↔ Normal segments ∧ source = printed segments := by
    intro source segments
    rw [exists_parse_iff]
    constructor
    · intro reads
      obtain ⟨normal, chars⟩ := normal_and_eq_printedChars_of_readSegments 0 _ _ reads
      exact ⟨normal, by rw [printed, ← chars, String.ofList_toList]⟩
    · rintro ⟨normal, rfl⟩
      rw [printed, String.toList_ofList, readSegments_printedChars normal]
  refine ⟨accepts, fun text => ?_⟩
  obtain ⟨template, parsed, segments⟩ :=
    (accepts (escaped text) (literally text)).mpr ⟨normal_literally text, (printed_literally text).symm⟩
  refine ⟨template, parsed, ?_, fun lookup => ?_⟩
  · rw [placeholders, segments, literally]
    split <;> rfl
  · rw [render, segments, literally]
    split
    · rename_i empty
      rw [List.flatMap_nil, ← empty, String.ofList_toList]
    · simp [segmentChars]

end Template

end CollectiveChoice
