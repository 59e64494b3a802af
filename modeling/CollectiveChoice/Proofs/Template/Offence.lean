import CollectiveChoice.Proofs.Template.Grammar

/-!
# The first offence in a text

A text that is no template is one up to some point, and there it offends in one of three ways
(`Offence`): a brace is closed that was not opened, a brace is opened and never closed, or what stands
between the braces is no name.  The error says which way it is, and where, or what the name is.

The point is the first one at which the text offends, and the only one.  Up to it the text is the one
of some segments (`exists_eq_printedChars_append`), and whatever follows such a text is read at the
position behind it, counted in bytes.  From there on, no beginning of the rest is any better than the
rest as a whole (`Offence.Begins.of_append`), so no longer part of the text is a template.
-/

namespace CollectiveChoice

set_option autoImplicit false

namespace Template

/-! ## Offences -/

/-- The ways in which a text can offend. -/
inductive Offence where
  /-- A brace is closed that was not opened. -/
  | closing
  /-- A brace is opened and never closed. -/
  | opening
  /-- What stands between the braces is no identifier. -/
  | naming

/-- Whether characters at a position begin with an offence, and which fault it is. -/
def Offence.Begins (offence : Offence) (position : Nat) (chars : List Char)
    (fault : TemplateFault) : Prop :=
  match offence with
  | .closing =>
    ∃ rest, chars = '\x7d' :: rest ∧ rest.head? ≠ some '\x7d' ∧ fault = .unmatched position
  | .opening =>
    ∃ rest, chars = '\x7b' :: rest ∧ rest.head? ≠ some '\x7b' ∧ '\x7d' ∉ rest ∧
      fault = .unclosed position
  | .naming =>
    ∃ name rest, chars = '\x7b' :: (name ++ '\x7d' :: rest) ∧ name.head? ≠ some '\x7b' ∧
      '\x7d' ∉ name ∧ isIdentifier name = false ∧ fault = .invalidName (String.ofList name)

variable {position : Nat} {chars : List Char} {fault : TemplateFault}

/-- The offence a fault is about. -/
def offenceOf : TemplateFault → Offence
  | .unmatched _ => .closing
  | .unclosed _ => .opening
  | .invalidName _ => .naming

theorem Offence.Begins.eq_offenceOf {offence : Offence}
    (begins : offence.Begins position chars fault) : offence = offenceOf fault := by
  cases offence with
  | closing =>
      obtain ⟨rest, -, -, rfl⟩ := begins
      rfl
  | opening =>
      obtain ⟨rest, -, -, -, rfl⟩ := begins
      rfl
  | naming =>
      obtain ⟨name, rest, -, -, -, -, rfl⟩ := begins
      rfl

theorem head?_ne_some_iff {c : Char} {chars : List Char} :
    chars.head? ≠ some c ↔ ∀ rest, chars ≠ c :: rest := by
  simp [List.head?_eq_some_iff]

/-- A name that begins with no brace is not taken for a doubled one. -/
theorem head?_append_ne_some {name : List Char} (single : name.head? ≠ some '\x7b')
    (rest : List Char) : (name ++ '\x7d' :: rest).head? ≠ some '\x7b' := by
  cases name with
  | nil => exact fun same => absurd (Option.some.inj same) (by decide)
  | cons first more => exact single

/-- A brace that is never closed is found at the end of the text. -/
theorem readName_of_not_mem {start : Nat} {seen : List Char} (unclosed : '\x7d' ∉ chars) :
    readName start seen position chars = .error (.unclosed start) := by
  induction chars generalizing seen position with
  | nil => rfl
  | cons c rest ih =>
      obtain ⟨differs, unclosed⟩ := List.ne_and_not_mem_of_not_mem_cons unclosed
      rw [readName]
      · exact ih unclosed
      · exact differs ∘ Eq.symm

/-- Reading stops at an offence, with its fault. -/
theorem Offence.Begins.readSegments_eq {offence : Offence}
    (begins : offence.Begins position chars fault) :
    readSegments position chars = .error fault := by
  cases offence with
  | closing =>
      obtain ⟨rest, rfl, single, rfl⟩ := begins
      exact readSegments.eq_5 position rest (head?_ne_some_iff.mp single)
  | opening =>
      obtain ⟨rest, rfl, single, unclosed, rfl⟩ := begins
      rw [readSegments.eq_4 position rest (head?_ne_some_iff.mp single)]
      exact readName_of_not_mem unclosed
  | naming =>
      obtain ⟨name, rest, rfl, single, unclosed, invalid, rfl⟩ := begins
      have alone := head?_append_ne_some single rest
      rw [readSegments.eq_4 position _ (head?_ne_some_iff.mp alone), readName_append unclosed,
        List.reverse_nil, List.nil_append, invalid, if_neg Bool.false_ne_true]

/-! ## Where a text offends -/

/-- What does not offend right away begins with a segment. -/
theorem exists_begins_or_printedSegment (c : Char) (chars : List Char) :
    (∃ offence : Offence, ∀ position, ∃ fault, offence.Begins position (c :: chars) fault) ∨
      ∃ segment rest, c :: chars = printedSegment segment ++ rest ∧
        rest.length ≤ chars.length ∧
        ∀ name, segment = .placeholder name → isIdentifier name.toList = true := by
  have literal : ∀ content name, Segment.literal content = .placeholder name →
      isIdentifier name.toList = true := by
    intro content name same
    cases same
  by_cases opens : c = '\x7b'
  · subst opens
    by_cases doubled : chars.head? = some '\x7b'
    · obtain ⟨rest, rfl⟩ := List.head?_eq_some_iff.mp doubled
      exact .inr ⟨.literal ['\x7b'], rest, rfl, by simp, literal _⟩
    by_cases closed : '\x7d' ∈ chars
    · obtain ⟨name, rest, rfl, unclosed⟩ := List.eq_append_cons_of_mem closed
      cases identifier : isIdentifier name with
      | true =>
          refine .inr ⟨.placeholder (String.ofList name), rest, ?_, by simp; omega, ?_⟩
          · simp [printedSegment]
          · rintro _ ⟨⟩
            rwa [String.toList_ofList]
      | false =>
          refine .inl ⟨.naming, fun position => ⟨_, name, rest, rfl, ?_, unclosed, identifier, rfl⟩⟩
          cases name with
          | nil => decide
          | cons first more => exact doubled
    · exact .inl ⟨.opening, fun position => ⟨_, chars, rfl, doubled, closed, rfl⟩⟩
  by_cases closes : c = '\x7d'
  · subst closes
    by_cases doubled : chars.head? = some '\x7d'
    · obtain ⟨rest, rfl⟩ := List.head?_eq_some_iff.mp doubled
      exact .inr ⟨.literal ['\x7d'], rest, rfl, by simp, literal _⟩
    · exact .inl ⟨.closing, fun position => ⟨_, chars, rfl, doubled, rfl⟩⟩
  · have plain : escapedChar c = [c] := if_neg (by simp [isBrace, opens, closes])
    exact .inr ⟨.literal [c], chars, by simp [printedSegment, escapedChars, plain], Nat.le_refl _,
      literal _⟩

/-- Every text is the one of some segments, up to its end or to an offence. -/
theorem exists_eq_printedChars_append (chars : List Char) :
    ∃ segments rest,
      (∀ name, Segment.placeholder name ∈ segments → isIdentifier name.toList = true) ∧
      chars = printedChars segments ++ rest ∧
      (rest = [] ∨
        ∃ offence : Offence, ∀ position, ∃ fault, offence.Begins position rest fault) := by
  induction length : chars.length using Nat.strongRecOn generalizing chars with
  | ind bound ih =>
      subst length
      cases chars with
      | nil => exact ⟨[], [], nofun, rfl, .inl rfl⟩
      | cons c more =>
          rcases exists_begins_or_printedSegment c more with
            offends | ⟨segment, rest, split, shorter, named⟩
          · exact ⟨[], c :: more, nofun, rfl, .inr offends⟩
          · obtain ⟨segments, last, allNamed, rfl, ends⟩ :=
              ih rest.length (Nat.lt_succ_of_le shorter) rest rfl
            refine ⟨segment :: segments, last, ?_, ?_, ends⟩
            · intro name inside
              rcases List.mem_cons.mp inside with same | inside
              · exact named name same.symm
              · exact allNamed name inside
            · rw [split, ← List.append_assoc]
              rfl

/-- What stands before the first closing brace. -/
theorem takeWhile_append_closing {name : List Char} (unclosed : '\x7d' ∉ name)
    (rest : List Char) : (name ++ '\x7d' :: rest).takeWhile (· ≠ '\x7d') = name := by
  rw [List.takeWhile_append_of_pos]
  · exact List.append_nil name
  · exact fun c inside => decide_eq_true fun same => unclosed (same ▸ inside)

/-- Any beginning of a text that offends does so as well, if not always in the same way. -/
theorem Offence.Begins.of_append {offence : Offence} {rest : List Char}
    (begins : offence.Begins position (chars ++ rest) fault) (nonempty : chars ≠ []) :
    ∃ (other : Offence) (fault : TemplateFault), other.Begins position chars fault := by
  obtain ⟨c, more, rfl⟩ := List.exists_cons_of_ne_nil nonempty
  have head {d : Char} (single : (more ++ rest).head? ≠ some d) : more.head? ≠ some d := by
    cases more with
    | nil => nofun
    | cons first others => exact single
  cases offence with
  | closing =>
      obtain ⟨tail, same, single, rfl⟩ := begins
      cases same
      exact ⟨.closing, _, more, rfl, head single, rfl⟩
  | opening =>
      obtain ⟨tail, same, single, unclosed, rfl⟩ := begins
      cases same
      exact ⟨.opening, _, more, rfl, head single,
        fun inside => unclosed (List.mem_append_left _ inside), rfl⟩
  | naming =>
      obtain ⟨name, tail, same, single, unclosed, invalid, rfl⟩ := begins
      rw [List.cons_append, List.cons.injEq] at same
      obtain ⟨rfl, same⟩ := same
      -- Cut off before the name ends, the text offends by a brace that is never closed.
      by_cases closed : '\x7d' ∈ more
      · obtain ⟨front, behind, rfl, free⟩ := List.eq_append_cons_of_mem closed
        rw [List.append_assoc, List.cons_append] at same
        have names : front = name := by
          rw [← takeWhile_append_closing free, same, takeWhile_append_closing unclosed]
        subst names
        exact ⟨.naming, _, front, behind, rfl, single, unclosed, invalid, rfl⟩
      · refine ⟨.opening, _, more, rfl, head ?_, closed, rfl⟩
        rw [same]
        exact head?_append_ne_some single tail

/-! ## Errors -/

theorem parse_eq_error_iff_readSegments {source : String} {error : TemplateError} :
    parse source = .error error
      ↔ error.template = source ∧ readSegments 0 source.toList = .error error.fault := by
  unfold parse
  split
  · rename_i reads
    simp [reads]
  · rename_i fault reads
    rw [reads]
    constructor
    · intro same
      cases same
      exact ⟨rfl, rfl⟩
    · rintro ⟨rfl, same⟩
      cases same
      rfl

/-- A text is a template just if it is the text of some segments. -/
theorem exists_parse_eq_ok_iff {source : String} :
    (∃ template, parse source = .ok template)
      ↔ ∃ segments, (∀ name, Segment.placeholder name ∈ segments →
          isIdentifier name.toList = true) ∧ source.toList = printedChars segments := by
  constructor
  · rintro ⟨template, parsed⟩
    have reads := exists_parse_iff.mp ⟨template, parsed, rfl⟩
    obtain ⟨normal, written⟩ := normal_and_eq_printedChars_of_readSegments 0 _ _ reads
    exact ⟨template.segments, normal.named, written⟩
  · rintro ⟨segments, named, written⟩
    have read := readSegments_printedChars_append named 0 []
    rw [List.append_nil, ← written] at read
    obtain ⟨template, parsed, -⟩ := exists_parse_iff.mpr read
    exact ⟨template, parsed⟩

/-- An offence behind a template is where reading stops. -/
theorem readSegments_append_of_begins {before rest : String} {offence : Offence}
    {fault : TemplateFault} (accepted : ∃ template, parse before = .ok template)
    (begins : offence.Begins before.utf8ByteSize rest.toList fault) :
    readSegments 0 (before ++ rest).toList = .error fault := by
  obtain ⟨segments, named, written⟩ := exists_parse_eq_ok_iff.mp accepted
  rw [← Text.byteLength_toList, written] at begins
  rw [String.toList_append, written, readSegments_printedChars_append named, Nat.zero_add,
    begins.readSegments_eq]
  rfl

/-- Behind an offence there is no longer template. -/
theorem eq_empty_of_begins {before middle rest : String} {offence : Offence}
    {fault : TemplateFault} (accepted : ∃ template, parse before = .ok template)
    (begins : offence.Begins before.utf8ByteSize (middle ++ rest).toList fault)
    (longer : ∃ template, parse (before ++ middle) = .ok template) : middle = "" := by
  by_contra more
  rw [String.toList_append] at begins
  obtain ⟨other, fault, begins⟩ := begins.of_append (mt String.toList_eq_nil_iff.mp more)
  have stops := readSegments_append_of_begins accepted begins
  obtain ⟨template, parsed⟩ := longer
  rw [exists_parse_iff.mp ⟨template, parsed, rfl⟩] at stops
  cases stops

/-- Two beginnings of a text, one of which goes on where the other one ends. -/
theorem exists_middle_of_append_eq {before rest other last : String}
    (same : before ++ rest = other ++ last) :
    (∃ middle, other = before ++ middle ∧ rest = middle ++ last) ∨
      ∃ middle, before = other ++ middle ∧ last = middle ++ rest := by
  have chars := congrArg String.toList same
  rw [String.toList_append, String.toList_append, List.append_eq_append_iff] at chars
  rcases chars with ⟨middle, first, second⟩ | ⟨middle, first, second⟩
  · refine .inl ⟨String.ofList middle, ?_, ?_⟩ <;> apply String.toList_injective
    · rw [first, String.toList_append, String.toList_ofList]
    · rw [second, String.toList_append, String.toList_ofList]
  · refine .inr ⟨String.ofList middle, ?_, ?_⟩ <;> apply String.toList_injective
    · rw [first, String.toList_append, String.toList_ofList]
    · rw [second, String.toList_append, String.toList_ofList]

/-- **The error of a text that is no template names its first offence.**  The text is reported as it
is.  There is exactly one point up to which it is a template and at which it offends, and it offends
there in exactly one way: with the fault that is reported, which gives the number of bytes in front
of the point, or the name. -/
theorem parse_eq_error_iff_offends (source : String) (error : TemplateError) :
    parse source = .error error
      ↔ error.template = source ∧
        ∃! before : String, (∃ template, parse before = .ok template) ∧
          ∃ rest, source = before ++ rest ∧
            ∃! offence : Offence, offence.Begins before.utf8ByteSize rest.toList error.fault := by
  rw [parse_eq_error_iff_readSegments]
  refine and_congr_right fun _ => ⟨fun stops => ?_, ?_⟩
  · obtain ⟨segments, chars, named, written, ends⟩ := exists_eq_printedChars_append source.toList
    have split : source = String.ofList (printedChars segments) ++ String.ofList chars := by
      rw [← String.ofList_append, ← written, String.ofList_toList]
    have accepted : ∃ template, parse (String.ofList (printedChars segments)) = .ok template :=
      exists_parse_eq_ok_iff.mpr ⟨segments, named, String.toList_ofList⟩
    rcases ends with rfl | ⟨offence, begins⟩
    · rw [String.ofList_nil, String.append_empty] at split
      obtain ⟨template, parsed⟩ := accepted
      rw [← split] at parsed
      rw [exists_parse_iff.mp ⟨template, parsed, rfl⟩] at stops
      cases stops
    · obtain ⟨fault, begins⟩ := begins (String.ofList (printedChars segments)).utf8ByteSize
      rw [← @String.toList_ofList chars] at begins
      have stopsThere := readSegments_append_of_begins accepted begins
      rw [← split, stops] at stopsThere
      cases stopsThere
      refine ⟨_, ⟨accepted, _, split, offence, begins, fun other also =>
        also.eq_offenceOf.trans begins.eq_offenceOf.symm⟩, ?_⟩
      rintro other ⟨otherAccepted, rest, otherSplit, otherOffence, otherBegins, -⟩
      rcases exists_middle_of_append_eq (split.symm.trans otherSplit) with
        ⟨middle, rfl, tail⟩ | ⟨middle, same, rfl⟩
      · rw [tail] at begins
        rw [eq_empty_of_begins accepted begins otherAccepted, String.append_empty]
      · rw [same] at accepted ⊢
        rw [eq_empty_of_begins otherAccepted otherBegins accepted, String.append_empty]
  · rintro ⟨before, ⟨accepted, rest, rfl, offence, begins, -⟩, -⟩
    exact readSegments_append_of_begins accepted begins

/-- Positions count bytes, doubled braces and placeholders included. -/
example : parse "\x7b\x7bé\x7bx\x7d\x7d!"
    = .error ⟨"\x7b\x7bé\x7bx\x7d\x7d!", .unmatched 7⟩ := by
  rfl

end Template

end CollectiveChoice
