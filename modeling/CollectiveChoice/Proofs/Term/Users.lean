import CollectiveChoice.Page.Association
import CollectiveChoice.Proofs.Encoding.Shape
import CollectiveChoice.Proofs.Term.RoundTrip
import CollectiveChoice.Proofs.Text.Numeral

/-!
# Users as terms

Users go into a program by their ids, and come back from the solver as terms, whose keys say under
which label they are shown.  An id that is a name, or an integer of more than 64 bits, comes back as
it is.  An integer comes back as its value, and its key is the usual spelling of it.

So the ids that stand for themselves are those in the usual spelling: they are told apart as terms,
and each gets its own label.  The key of any other id is one of these (`key_parse_of_isUserId`).  An
id with idle zeros, such as `007`, is accepted all the same, and its user is taken for another one
(`agents_key_parse_ne`).
-/

namespace CollectiveChoice

set_option autoImplicit false

/-- Whether an id is an integer of 64 bits in another spelling than the usual one. -/
def isRespelled (id : String) : Bool :=
  (Text.readInt64? id.toList).isSome && Text.hasIdleZero id.toList

/-! ## Ids as terms -/

/-- A name is read as an integer of 64 bits or kept as it is. -/
theorem Value.ofChars_of_isName {chars : List Char} (name : IsName chars) :
    ofChars chars = (Text.readInt64? chars).elim (.sym (String.ofList chars)) .int := by
  have shown : ∀ c ∈ chars, Text.isBlank c = false := fun c inside =>
    isBlank_of_isNameChar (name.named c inside)
  refine ofChars_of_unquoted (Text.trimmed_of_forall shown) fun quote => ?_
  cases name.named '"' (List.mem_of_head? quote)

theorem isUserId_decimalInt (n : Int) : isUserId (Text.decimalInt n) = true := by
  unfold isUserId
  cases n with
  | ofNat magnitude =>
      rw [Text.decimalInt_ofNat]
      have digits : (Nat.toDigits 10 magnitude).all Char.isDigit = true :=
        List.all_eq_true.mpr Text.isDigit_of_mem_toDigits
      obtain ⟨first, rest, written⟩ :=
        List.exists_cons_of_ne_nil (@Nat.toDigits_ne_nil magnitude 10)
      rw [written] at digits ⊢
      split
      · cases ‹first :: rest = []›
      · rename_i front
        cases front
        cases digits
      · rename_i shown
        cases shown
        exact Bool.or_eq_true_iff.mpr (Or.inr digits)
  | negSucc below =>
      rw [Text.decimalInt_negSucc]
      have digits : (Nat.toDigits 10 (below + 1)).all Char.isDigit = true :=
        List.all_eq_true.mpr Text.isDigit_of_mem_toDigits
      simp [digits, Nat.toDigits_ne_nil]

/-- What an accepted id is as a term. -/
theorem parse_of_isUserId {user : String} (accepted : isUserId user = true) :
    Value.parse user = (Text.readInt64? user.toList).elim (.sym user) .int := by
  rw [Value.parse, Value.ofChars_of_isName (isName_of_isUserId accepted), String.ofList_toList]

theorem key_parse_eq_iff {user : String} (accepted : isUserId user = true) :
    (Value.parse user).key = user ↔ isRespelled user = false := by
  rw [parse_of_isUserId accepted, isRespelled]
  cases read : Text.readInt64? user.toList with
  | none => exact iff_of_true rfl rfl
  | some number =>
      have unsigned : user.toList.head? ≠ some '+' := by
        intro plus
        cases (isName_of_isUserId accepted).named '+' (List.mem_of_head? plus)
      have signed := (Option.filter_eq_some_iff.mp read).1
      rw [Option.isSome_some, Bool.true_and, ← Text.toList_decimalInt_eq_iff signed unsigned,
        String.toList_inj, Option.elim_some, Value.key]

/-- The key of an accepted id is an accepted id of the same term. -/
theorem isUserId_key_parse {user : String} (accepted : isUserId user = true) :
    isUserId (Value.parse user).key = true ∧
      Value.parse (Value.parse user).key = Value.parse user := by
  have known := parse_of_isUserId accepted
  cases read : Text.readInt64? user.toList with
  | none =>
      rw [read, Option.elim_none] at known
      rw [known, Value.key]
      exact ⟨accepted, known⟩
  | some number =>
      rw [read, Option.elim_some] at known
      rw [known, Value.key]
      exact ⟨isUserId_decimalInt number,
        Value.ofChars_decimalInt (Text.isInt64_of_readInt64? read)⟩

/-- **Users whose ids are in the usual spelling are told apart.**  The key of a user is an id in the
usual spelling, of the same term, and it is the id of the user just if that is in the usual spelling
itself.  Different ids of this kind are different terms, and each is shown under its own label. -/
theorem key_parse_of_isUserId {user : String} (accepted : isUserId user = true) :
    (isUserId (Value.parse user).key = true ∧ isRespelled (Value.parse user).key = false ∧
      Value.parse (Value.parse user).key = Value.parse user) ∧
    ((Value.parse user).key = user ↔ isRespelled user = false) ∧
    (isRespelled user = false →
      (∀ other, isUserId other = true → isRespelled other = false → other ≠ user →
        Value.parse other ≠ Value.parse user) ∧
      ∀ labels place, Axis.user.labelText labels (Value.parse user) place = labels.user user) := by
  obtain ⟨usual, again⟩ := isUserId_key_parse accepted
  have plain : isRespelled (Value.parse user).key = false := by
    rw [← key_parse_eq_iff usual, again]
  refine ⟨⟨usual, plain, again⟩, key_parse_eq_iff accepted, ?_⟩
  intro own
  have key : (Value.parse user).key = user := (key_parse_eq_iff accepted).mpr own
  constructor
  · intro other otherAccepted otherOwn different same
    have otherKey : (Value.parse other).key = other :=
      (key_parse_eq_iff otherAccepted).mpr otherOwn
    rw [same, key] at otherKey
    exact different otherKey.symm
  · intro labels place
    rw [Axis.labelText, key]

/-- Beyond 64 bits there are no spellings of one integer any more, only different terms. -/
theorem vast_key_parse_of_isUserId :
    isUserId "00099999999999999999999" = true ∧ isRespelled "00099999999999999999999" = false ∧
      (Value.parse "00099999999999999999999").key = "00099999999999999999999" ∧
      Value.parse "99999999999999999999" ≠ Value.parse "00099999999999999999999" :=
  have accepted : isUserId "00099999999999999999999" = true := by decide
  have own : isRespelled "00099999999999999999999" = false := by decide
  have known := key_parse_of_isUserId accepted
  ⟨accepted, own, known.2.1.mpr own,
    (known.2.2 own).1 "99999999999999999999" (by decide) (by decide) (by decide)⟩

/-- Two users with accepted ids, the second of which is a spelling of the first. -/
def agents : Labels :=
  ⟨.ofList [("7", "Seven"), ("007", "James")], .empty⟩

/-- Both are one term, which is shown under the label of the first. -/
theorem agents_key_parse_ne :
    isUserId "7" = true ∧ isUserId "007" = true ∧ Value.parse "007" = Value.parse "7" ∧
      (Value.parse "007").key ≠ "007" ∧ agents.user "007" = "James" ∧
      Axis.user.labelText agents (Value.parse "007") 0 = "Seven" := by
  decide

end CollectiveChoice
