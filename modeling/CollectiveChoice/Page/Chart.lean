import CollectiveChoice.Number.Rounding
import CollectiveChoice.Text.Markup

/-!
# Charts

Two kinds of charts are drawn as vector graphics: bars for counts and labelled points for pairs of
scores.  Coordinates are computed in double precision, each operation rounded, and written with one
decimal.
-/

namespace CollectiveChoice.Chart

set_option autoImplicit false

/-! ## Coordinates -/

/-- A sum in double precision. -/
def add (left right : Rat) : Rat := Number.toDouble (left + right)

/-- A difference in double precision. -/
def sub (left right : Rat) : Rat := Number.toDouble (left - right)

/-- A product in double precision. -/
def mul (left right : Rat) : Rat := Number.toDouble (left * right)

/-- A quotient in double precision. -/
def div (left right : Rat) : Rat := Number.toDouble (left / right)

/-- A natural number in double precision. -/
def ofNat (n : Nat) : Rat := Number.toDouble (n : Rat)

/-- An integer in double precision. -/
def ofInt (n : Int) : Rat := Number.toDouble (n : Rat)

/-- A coordinate as it is written. -/
def coordinate (number : Rat) : String := Number.fixed 1 number

/-- The blank space around the plotted area. -/
def margin : Rat := 40

/-- The opening of a chart with its title. -/
def opening (title : String) (width height : Rat) : String :=
  let size := "width=\"" ++ Number.fixed 0 width ++ "\" height=\"" ++ Number.fixed 0 height
  let box := "0 0 " ++ Number.fixed 0 width ++ " " ++ Number.fixed 0 height
  let shown := Text.escapeMarkup title
  String.join [
    "<svg xmlns=\"http://www.w3.org/2000/svg\" ", size, "\" viewBox=\"", box, "\" role=\"img\">",
    "<title>", shown, "</title><text x=\"", coordinate (div width 2),
    "\" y=\"20\" font-size=\"13\" text-anchor=\"middle\">", shown, "</text>"]

/-- A centred text at a place. -/
def centred (x y size shown : String) : String :=
  String.join [
    "<text x=\"", x, "\" y=\"", y, "\" font-size=\"", size, "\" text-anchor=\"middle\">", shown,
    "</text>"]

/-- The label along the vertical axis, whose middle is given. -/
def sideLabel (middle shown : String) : String :=
  String.join [
    "<text x=\"12\" y=\"", middle, "\" font-size=\"11\" transform=\"rotate(-90 12 ", middle,
    ")\" text-anchor=\"middle\">", shown, "</text>"]

/-! ## Bars -/

/-- One bar of a bar chart. -/
structure Bar where
  label : String
  count : Nat

/-- One bar, given its place, the greatest count, the width of a slot and the height of the plotted
area. -/
def bar (slot height greatest : Rat) (place : Nat) (shown : Bar) : String :=
  let length := div (mul height (ofNat shown.count)) greatest
  let left := add (add margin (mul slot (ofNat place))) (mul slot (Number.toDouble (1 / 10)))
  let top := sub (add margin height) length
  let middle := coordinate (add left (mul slot (Number.toDouble (4 / 10))))
  let width := coordinate (mul slot (Number.toDouble (8 / 10)))
  let label := Text.escapeMarkup shown.label
  let count := Text.decimalNat shown.count
  String.join [
    "<rect x=\"", coordinate left, "\" y=\"", coordinate top, "\" width=\"", width, "\" height=\"",
    coordinate length, "\" fill=\"#4c78a8\"><title>", label, ": ", count, "</title></rect>",
    centred middle (coordinate (sub top 4)) "11" count,
    centred middle (coordinate (add (add margin height) 14)) "11" label]

/-- A length that is one at least. -/
def atLeastOne (length : Rat) : Rat :=
  if length < 1 then 1 else length

/-- A bar chart.  A width or height of zero asks for a size that suits the number of bars. -/
def bars (title yLabel : String) (shown : List Bar) (width height : UInt32) : String :=
  let width := if width = 0 then ofNat (80 + 60 * shown.length) else ofNat width.toNat
  let height := if height = 0 then 240 else ofNat height.toNat
  let greatest := ofNat (max 1 ((shown.map Bar.count).foldl max 0))
  let plotWidth := atLeastOne (sub width 80)
  let plotHeight := atLeastOne (sub height 80)
  let slot := div plotWidth (ofNat (max 1 shown.length))
  String.join [
    opening title width height,
    sideLabel (coordinate (div height 2)) (Text.escapeMarkup yLabel),
    String.join (shown.mapIdx (bar slot plotHeight greatest)),
    "</svg>"]

/-! ## Points -/

/-- One point of a scatter plot. -/
structure Point where
  x : Int
  y : Int
  label : String

/-- The least and the greatest of some integers, zero where there is none. -/
def bounds : List Int → Int × Int
  | [] => (0, 0)
  | first :: rest => rest.foldl (fun (low, high) n => (min low n, max high n)) (first, first)

/-- How far along a stretch a value lies between bounds. -/
def along (stretch : Rat) (limits : Int × Int) (value : Int) : Rat :=
  div (mul stretch (ofInt (value - limits.1))) (ofInt (max (limits.2 - limits.1) 1))

/-- One point, given the extent of the plotted area and the bounds of the scores. -/
def point (plotWidth plotHeight : Rat) (xLimits yLimits : Int × Int) (shown : Point) : String :=
  let x := add margin (along plotWidth xLimits shown.x)
  let y := sub (add margin plotHeight) (along plotHeight yLimits shown.y)
  let label := Text.escapeMarkup shown.label
  String.join [
    "<circle cx=\"", coordinate x, "\" cy=\"", coordinate y,
    "\" r=\"4\" fill=\"#e45756\"><title>", label, " (", Text.decimalInt shown.x, ", ",
    Text.decimalInt shown.y, ")</title></circle>",
    centred (coordinate x) (coordinate (sub y 7)) "10" label]

/-- A line of the frame. -/
def frameLine (x1 y1 x2 y2 : String) : String :=
  String.join [
    "<line x1=\"", x1, "\" y1=\"", y1, "\" x2=\"", x2, "\" y2=\"", y2, "\" stroke=\"#888\"/>"]

/-- A scatter plot of points with integer scores. -/
def points (title xLabel yLabel : String) (shown : List Point) (width height : UInt32) : String :=
  let width := ofNat (max width.toNat 120)
  let height := ofNat (max height.toNat 120)
  let xLimits := bounds (shown.map Point.x)
  let yLimits := bounds (shown.map Point.y)
  let plotWidth := sub width 80
  let plotHeight := sub height 80
  let start := coordinate margin
  let bottom := coordinate (add margin plotHeight)
  let right := coordinate (add margin plotWidth)
  String.join [
    opening title width height,
    frameLine start bottom right bottom,
    frameLine start start start bottom,
    centred (coordinate (div width 2)) (coordinate (sub height 8)) "11" (Text.escapeMarkup xLabel),
    sideLabel (coordinate (div height 2)) (Text.escapeMarkup yLabel),
    String.join (shown.map (point plotWidth plotHeight xLimits yLimits)),
    "</svg>"]

end CollectiveChoice.Chart
