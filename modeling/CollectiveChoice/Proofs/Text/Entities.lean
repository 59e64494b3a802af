import CollectiveChoice.Page.Facts
import CollectiveChoice.Proofs.Page.Markup
import CollectiveChoice.Proofs.Page.Sources

/-!
# Escaped text is read back

Characters with a meaning in markup are replaced by entities, and the ampersand that an entity begins
with is one of them.  So an escaped text has no ampersand that does not begin an entity
(`Text.exists_entity_prefix`), whatever entities or parts of them were in the text before, and
replacing entities from left to right gives that text back (`Text.decodeEntities_flatMap_append`).

The button that hands out facts keeps them in an attribute.  Read as markup, the value of an attribute
goes from one quote to the next, and then entities are replaced in it (`Text.attributes`).  As
escaping leaves no quote in a text, the attributes of the button are the four it is made with, and the
facts are among them as they are (`escaping_lossless`).
-/

namespace CollectiveChoice

set_option autoImplicit false

namespace Text

/-! ## Entities -/

/-- The entities that escaping puts in. -/
def entities : List String :=
  ["&amp;", "&lt;", "&gt;", "&quot;", "&#39;"]

/-- Replaces entities by the characters they stand for, from left to right. -/
def decodeEntities : List Char → List Char
  | [] => []
  | '&' :: 'a' :: 'm' :: 'p' :: ';' :: rest => '&' :: decodeEntities rest
  | '&' :: 'l' :: 't' :: ';' :: rest => '<' :: decodeEntities rest
  | '&' :: 'g' :: 't' :: ';' :: rest => '>' :: decodeEntities rest
  | '&' :: 'q' :: 'u' :: 'o' :: 't' :: ';' :: rest => '"' :: decodeEntities rest
  | '&' :: '#' :: '3' :: '9' :: ';' :: rest => '\'' :: decodeEntities rest
  | c :: rest => c :: decodeEntities rest

/-- A text with its entities replaced. -/
def unescapeMarkup (text : String) : String :=
  String.ofList (decodeEntities text.toList)

/-- A character is written as an entity or, if it is no ampersand, as itself. -/
theorem markupChar_entity_or_self (c : Char) :
    (∃ entity ∈ entities, markupChar c = entity.toList) ∨ c ≠ '&' ∧ markupChar c = [c] := by
  unfold markupChar
  split
  case h_1 => exact Or.inl ⟨"&amp;", by decide, rfl⟩
  case h_2 => exact Or.inl ⟨"&lt;", by decide, rfl⟩
  case h_3 => exact Or.inl ⟨"&gt;", by decide, rfl⟩
  case h_4 => exact Or.inl ⟨"&quot;", by decide, rfl⟩
  case h_5 => exact Or.inl ⟨"&#39;", by decide, rfl⟩
  case h_6 ampersand _ _ _ _ => exact Or.inr ⟨ampersand, rfl⟩

/-- An entity has its ampersand in front and no other. -/
theorem eq_nil_of_entity_eq {entity : String} (known : entity ∈ entities)
    {before body : List Char} (cut : entity.toList = before ++ '&' :: body) : before = [] := by
  have single : ∀ entity ∈ entities, '&' ∉ entity.toList.tail := by decide
  cases before with
  | nil => rfl
  | cons c rest =>
      refine absurd ?_ (single entity known)
      rw [cut]
      exact List.mem_append_right rest List.mem_cons_self

/-- Every ampersand of an escaped text begins an entity. -/
theorem exists_entity_prefix {chars before after : List Char}
    (cut : chars.flatMap markupChar = before ++ '&' :: after) :
    ∃ entity ∈ entities, entity.toList <+: '&' :: after := by
  induction chars generalizing before with
  | nil => exact absurd cut (by simp)
  | cons c rest ih =>
      rw [List.flatMap_cons] at cut
      rcases List.append_eq_append_iff.mp cut with ⟨middle, -, later⟩ | ⟨middle, here, later⟩
      · exact ih later
      · cases middle with
        | nil => exact @ih [] later.symm
        | cons head body =>
            obtain ⟨rfl, rfl⟩ := List.cons.inj later
            rcases markupChar_entity_or_self c with ⟨entity, known, written⟩ | ⟨other, self⟩
            · have whole := written.symm.trans here
              rw [eq_nil_of_entity_eq known whole, List.nil_append] at whole
              exact ⟨entity, known, whole ▸ List.prefix_append _ _⟩
            · rw [self] at here
              have inside : '&' ∈ [c] := by
                rw [here]
                exact List.mem_append_right before List.mem_cons_self
              exact absurd (List.mem_singleton.mp inside).symm other

theorem decodeEntities_cons {c : Char} (other : c ≠ '&') (rest : List Char) :
    decodeEntities (c :: rest) = c :: decodeEntities rest := by
  rw [decodeEntities.eq_def (c :: rest)]
  split
  case h_1 none => cases none
  case h_7 same =>
    obtain ⟨rfl, rfl⟩ := List.cons.inj same
    rfl
  all_goals
    rename_i same
    exact absurd (List.cons.inj same).1 other

theorem decodeEntities_markupChar_append (c : Char) (rest : List Char) :
    decodeEntities (markupChar c ++ rest) = c :: decodeEntities rest := by
  unfold markupChar
  split
  case h_6 ampersand _ _ _ _ => exact decodeEntities_cons ampersand rest
  all_goals rfl

/-- An escaped text is read back, whatever follows it. -/
theorem decodeEntities_flatMap_append (chars rest : List Char) :
    decodeEntities (chars.flatMap markupChar ++ rest) = chars ++ decodeEntities rest := by
  induction chars with
  | nil => rfl
  | cons c chars ih =>
      rw [List.flatMap_cons, List.append_assoc, decodeEntities_markupChar_append, ih,
        List.cons_append]

theorem unescapeMarkup_escapeMarkup (text : String) :
    unescapeMarkup (escapeMarkup text) = text := by
  have read := decodeEntities_flatMap_append text.toList []
  rw [List.append_nil, show decodeEntities [] = [] from rfl, List.append_nil] at read
  rw [unescapeMarkup, escapeMarkup, String.toList_ofList, read, String.ofList_toList]

/-- The word before an equals sign at the end. -/
def wordBefore (chars : List Char) : String :=
  let word := (dropEndWhile (· == '=') chars).reverse.takeWhile (· != ' ')
  String.ofList word.reverse

/-- The attributes of a text that is cut at its quotes: what is between two of them is the value of
the attribute whose name is before the first. -/
def attributesBetween : List (List Char) → List (String × String)
  | front :: value :: rest =>
    (wordBefore front, String.ofList (decodeEntities value)) :: attributesBetween rest
  | _ => []

/-- The attributes of a text in which quotes are around values only, with entities replaced. -/
def attributes (text : String) : List (String × String) :=
  attributesBetween (splitWhere (· == '"') text.toList)

end Text

open Text

/-- The button cut at its quotes. -/
def CopyButton.pieces (button : CopyButton) (view : ModelView) : List (List Char) :=
  ["<button type=".toList, "button".toList, " class=".toList, "clipboard".toList,
    " data-atoms=".toList, (escapeMarkup (selectedFacts button.predicates view.model)).toList,
    " onclick=".toList, "navigator.clipboard.writeText(this.dataset.atoms)".toList,
    '>' :: ((escapeMarkup button.label).toList ++ "</button>".toList)]

theorem CopyButton.toList_onModel (button : CopyButton) (view : ModelView) :
    (button.onModel view).toList = ['"'].intercalate (button.pieces view) := by
  have opening : "<button type=\"button\" class=\"clipboard\" data-atoms=\"".toList
      = "<button type=".toList ++ '"' :: ("button".toList ++ '"' :: (" class=".toList ++
        '"' :: ("clipboard".toList ++ '"' :: (" data-atoms=".toList ++ ['"'])))) := by
    simp
  have closing : "\" onclick=\"navigator.clipboard.writeText(this.dataset.atoms)\">".toList
      = '"' :: (" onclick=".toList ++ '"' ::
        ("navigator.clipboard.writeText(this.dataset.atoms)".toList ++ ['"', '>'])) := by
    simp
  rw [onModel, String.toList_join]
  simp [pieces, opening, closing, List.intercalate]

theorem CopyButton.splitWhere_onModel (button : CopyButton) (view : ModelView) :
    splitWhere (· == '"') (button.onModel view).toList = button.pieces view := by
  rw [toList_onModel]
  refine splitWhere_intercalate (List.cons_ne_nil _ _) ?_
  have facts : '"' ∉ (escapeMarkup (selectedFacts button.predicates view.model)).toList :=
    not_mem_escapeMarkup rfl
  have label : '"' ∉ (escapeMarkup button.label).toList := not_mem_escapeMarkup rfl
  simp [pieces, facts, label]

/-- **Escaping loses nothing.**  An escaped text has no brackets or quotes, each of its ampersands
begins an entity, and with the entities replaced it is the text it was made from.  So the button of a
model, read as markup, has its facts in an attribute as they are. -/
theorem escaping_lossless :
    (∀ text : String,
      ('<' ∉ (escapeMarkup text).toList ∧ '>' ∉ (escapeMarkup text).toList ∧
        '"' ∉ (escapeMarkup text).toList ∧ '\'' ∉ (escapeMarkup text).toList) ∧
      (∀ before after : List Char, (escapeMarkup text).toList = before ++ '&' :: after →
        ∃ entity ∈ entities, entity.toList <+: '&' :: after) ∧
      unescapeMarkup (escapeMarkup text) = text) ∧
    ∀ (button : CopyButton) (view : ModelView),
      attributes (button.onModel view)
        = [("type", "button"), ("class", "clipboard"),
          ("data-atoms", selectedFacts button.predicates view.model),
          ("onclick", "navigator.clipboard.writeText(this.dataset.atoms)")] := by
  constructor
  · intro text
    refine ⟨⟨?_, ?_, ?_, ?_⟩, ?_, unescapeMarkup_escapeMarkup text⟩
    iterate 4 exact not_mem_escapeMarkup rfl
    intro before after cut
    rw [escapeMarkup, String.toList_ofList] at cut
    exact exists_entity_prefix cut
  · intro button view
    have facts := unescapeMarkup_escapeMarkup (selectedFacts button.predicates view.model)
    rw [unescapeMarkup] at facts
    rw [attributes, CopyButton.splitWhere_onModel, CopyButton.pieces]
    simp only [attributesBetween, facts]
    rfl

/-- A model with a string that has an entity, a bracket and a quote of its own. -/
def tavern : Model :=
  .ofAtoms [⟨"name", [.str "O'Neil &amp; <Sons"]⟩] 1

theorem tavern_escaping_lossless :
    (escapeMarkup "&lt;<").toList = "&amp;lt;".toList ++ '&' :: "lt;".toList ∧
      (∃ entity ∈ entities, entity.toList <+: '&' :: "lt;".toList) ∧
      unescapeMarkup (escapeMarkup "&lt;<") = "&lt;<" ∧
      escapeMarkup (selectedFacts [] tavern)
        = "name(&quot;O&#39;Neil &amp;amp; &lt;Sons&quot;)." ∧
      ("data-atoms", "name(\"O'Neil &amp; <Sons\").")
        ∈ attributes (CopyButton.standard.onModel ⟨1, tavern⟩) := by
  obtain ⟨texts, buttons⟩ := escaping_lossless
  obtain ⟨-, ampersands, read⟩ := texts "&lt;<"
  have cut : (escapeMarkup "&lt;<").toList = "&amp;lt;".toList ++ '&' :: "lt;".toList := by
    decide +kernel
  have facts : selectedFacts [] tavern = "name(\"O'Neil &amp; <Sons\")." := by decide +kernel
  refine ⟨cut, ampersands _ _ cut, read, by decide +kernel, ?_⟩
  rw [buttons, ← facts]
  exact List.mem_cons_of_mem _ (List.mem_cons_of_mem _ List.mem_cons_self)

end CollectiveChoice
