import CollectiveChoice.Configuration.Basic
import CollectiveChoice.Text.Quoted

/-!
# Which choices are accepted

A choice names a user, a group and a selection.  It is accepted if there is the group, the user may
choose, the group has every selected item, and the number of items lies within the bounds of the
group.  The checks are made in this order and the first one that fails is reported.
-/

namespace CollectiveChoice

set_option autoImplicit false

/-! ## Ids of users -/

/-- Whether an id is a term of the solver that stands for itself: an identifier that starts with a
small letter, or an integer.  Only letters and digits of ASCII count. -/
def isUserId (id : String) : Bool :=
  match id.toList with
  | [] => false
  | '-' :: digits => !digits.isEmpty && digits.all Char.isDigit
  | first :: rest =>
    (first.isLower && rest.all fun c => c.isAlphanum || c == '_') ||
      (first :: rest).all Char.isDigit

/-! ## Refused choices -/

/-- Why a choice is refused. -/
inductive ChoiceError where
  | unknownGroup (group groups : Nat)
  /-- Only listed users may choose, and this is none of them. -/
  | unknownUser (user : String)
  /-- Everybody may choose, but this is no id. -/
  | malformedUser (user : String)
  /-- The group has no such item. -/
  | unknownItem (group : Nat) (item : String)
  /-- The selection has too few or too many items. -/
  | cardinality (group count : Nat) (bounds : Cardinality)
deriving DecidableEq

/-- Bounds in words. -/
def Cardinality.inWords (cardinality : Cardinality) : String :=
  let least := Text.decimalNat cardinality.min.toNat
  match cardinality.max with
  | none => "at least " ++ least
  | some greatest =>
    if greatest = cardinality.min then least
    else least ++ "..=" ++ Text.decimalNat greatest.toNat

/-- The message of an error. -/
def ChoiceError.message : ChoiceError → String
  | .unknownGroup group groups =>
    "unknown choice group " ++ Text.decimalNat group ++ " (instance has " ++
      Text.decimalNat groups ++ ")"
  | .unknownUser user => "unknown user " ++ Text.quoted user
  | .malformedUser user =>
    "malformed user id " ++ Text.quoted user ++ ": expected a lowercase identifier or an integer"
  | .unknownItem group item =>
    "choice group " ++ Text.decimalNat group ++ " has no item " ++ Text.quoted item
  | .cardinality group count bounds =>
    "choice group " ++ Text.decimalNat group ++ " accepts " ++ bounds.inWords ++
      " items, got " ++ Text.decimalNat count

/-! ## Checks -/

namespace Configuration

/-- Checks that a user may choose. -/
def checkUser (config : Configuration) (user : String) : Except ChoiceError Unit :=
  match config.users.mode with
  | .restricted =>
    if config.allowedIds.contains user then .ok () else .error (.unknownUser user)
  | .everyone => if isUserId user then .ok () else .error (.malformedUser user)

/-- Checks a selection in a group. -/
def checkSelection (index : Nat) (group : ChoiceGroup) (selection : Selection) :
    Except ChoiceError Unit :=
  match selection.toList.find? fun item => !group.hasItem item with
  | some item => .error (.unknownItem index item)
  | none =>
    if group.cardinality.allows selection.size then .ok ()
    else .error (.cardinality index selection.size group.cardinality)

/-- Checks a choice. -/
def checkChoice (config : Configuration) (user : String) (group : Nat) (selection : Selection) :
    Except ChoiceError Unit :=
  match config.choiceGroups[group]? with
  | none => .error (.unknownGroup group config.choiceGroups.length)
  | some chosen => do
    config.checkUser user
    checkSelection group chosen selection

/-! ## Accepted choices -/

theorem checkUser_eq_ok_iff {config : Configuration} {user : String} :
    config.checkUser user = .ok ()
      ↔ match config.users.mode with
        | .restricted => user ∈ config.allowedIds
        | .everyone => isUserId user = true := by
  unfold checkUser
  cases config.users.mode with
  | restricted => by_cases listed : user ∈ config.allowedIds <;> simp [listed]
  | everyone => cases isUserId user <;> simp

theorem checkSelection_eq_ok_iff {index : Nat} {group : ChoiceGroup} {selection : Selection} :
    checkSelection index group selection = .ok ()
      ↔ selection.toList.all group.hasItem = true ∧
        group.cardinality.allows selection.size = true := by
  unfold checkSelection
  cases found : selection.toList.find? fun item => !group.hasItem item with
  | some item =>
      have unknown := List.find?_some found
      have inside := List.mem_of_find?_eq_some found
      refine iff_of_false nofun fun accepted => ?_
      have known := List.all_eq_true.mp accepted.1 item inside
      rw [known] at unknown
      cases unknown
  | none =>
      have known : selection.toList.all group.hasItem = true := by
        simpa [List.find?_eq_none] using found
      cases group.cardinality.allows selection.size <;> simp [known]

/-- A choice is accepted if there is the group and both the user and the selection are. -/
theorem checkChoice_eq_ok_iff {config : Configuration} {user : String} {group : Nat}
    {selection : Selection} :
    config.checkChoice user group selection = .ok ()
      ↔ ∃ chosen, config.choiceGroups[group]? = some chosen ∧
        config.checkUser user = .ok () ∧ checkSelection group chosen selection = .ok () := by
  unfold checkChoice
  cases config.choiceGroups[group]? with
  | none => simp
  | some chosen =>
      cases config.checkUser user with
      | error error => exact iff_of_false nofun (by simp)
      | ok done =>
          constructor
          · intro accepted
            exact ⟨chosen, rfl, rfl, accepted⟩
          · rintro ⟨other, same, -, accepted⟩
            cases same
            exact accepted

end Configuration

end CollectiveChoice
