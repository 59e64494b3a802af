import CollectiveChoice.Page.Chart
import CollectiveChoice.Page.Context

/-!
# Counts over all models

The header or footer may report how many different atoms the models hold together, how many all of
them share, and how many there are of each signature, as a list or as a bar chart.
-/

namespace CollectiveChoice

set_option autoImplicit false

/-- A report of counts. -/
structure CountReport where
  /-- Whether the number of different atoms is reported. -/
  union : Bool
  /-- Whether the number of shared atoms is reported. -/
  intersection : Bool
  /-- Whether the number of atoms of each signature is reported. -/
  counts : Bool
  /-- Whether these numbers are drawn instead of listed. -/
  plotCounts : Bool
  title : String
  /-- The width of the chart, where zero leaves it to the number of bars. -/
  width : UInt32
  /-- The height of the chart, where zero leaves it open. -/
  height : UInt32
  /-- The label of the vertical axis. -/
  yLabel : String
deriving DecidableEq

namespace CountReport

/-- The report of everything, with a chart. -/
def standard : CountReport where
  union := true
  intersection := true
  counts := true
  plotCounts := true
  title := "barplot of atom counts"
  width := 0
  height := 0
  yLabel := "number of atoms across models"

/-- How many atoms there are of each signature. -/
def signatureCounts (atoms : List Atom) : SortedMap String Nat :=
  atoms.foldl
    (fun counts atom => counts.alter atom.signature fun count => count.getD 0 + 1)
    .empty

/-- The report on the counts by signature. -/
def signatureReport (report : CountReport) (counts : List (String × Nat)) : String :=
  if report.plotCounts then
    let bars := counts.map fun entry => (⟨entry.1, entry.2⟩ : Chart.Bar)
    Chart.bars report.title report.yLabel bars report.width report.height
  else
    let listed := counts.map fun entry =>
      Text.escapeMarkup entry.1 ++ ": " ++ Text.decimalNat entry.2
    "Atom counts: " ++ ", ".intercalate listed

/-- The report for header or footer, nothing where there is no model. -/
def render (report : CountReport) (context : PageContext) : String :=
  if context.models.isEmpty then ""
  else
    let all := Model.union context.models
    let parts :=
      (if report.union then
        ["A total of " ++ Text.decimalNat all.size ++ " different atoms were generated."]
      else []) ++
      (if report.intersection then
        ["All models have " ++ Text.decimalNat context.statistics.commonCount ++
          " atoms in common."]
      else []) ++
      (if report.counts then [report.signatureReport (signatureCounts all.toList).toList] else [])
    "<br/>\n".intercalate parts

end CountReport

end CollectiveChoice
