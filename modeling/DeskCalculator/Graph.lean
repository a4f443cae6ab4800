import DeskCalculator.Evaluation
import DeskCalculator.Platform

/-!
# The graph panel

The panel draws `y = f(x)`, where `f` is written like any entry with the name
`x` in it.  One sample is taken for each column of pixels; columns without a
finite sample divide the curve into polylines.  The middle of the canvas has to
be a float and the platform has to list its columns, so an immense canvas is
refused.
-/

namespace DeskCalculator.Graph

open Text

/-! ## The expression of the panel -/

/-- Whether a text consists of letters and blanks, at least one of them. -/
def isWords (text : List Char) : Bool :=
  !text.isEmpty && text.all fun c => c.isAlpha || isBlank c

/-- The expression that the panel takes over from the display: what stands behind `y=`, nothing of
a zero or of mere words, and otherwise all of it. -/
def ofDisplay (display : List Char) : List Char :=
  match display with
  | 'y' :: '=' :: rest => rest
  | _ => if display = ['0'] ∨ isWords display then [] else display

/-- Applies one key of the panel.  An operator replaces an operator at the end. -/
def edit (expression : List Char) (label : String) : List Char :=
  match label with
  | "C" => []
  | "DEL" => expression.dropLast
  | _ =>
    let isOperator := Entry.operators.any fun c => label == c.toString
    if isOperator ∧ expression.getLast?.any (· ∈ Entry.operators) then
      expression.dropLast ++ label.toList
    else expression ++ label.toList

/-! ## Sampling -/

/-- A point on the canvas. -/
structure Point where
  x : Float
  y : Float

/-- The canvas: its size in pixels, and how many pixels make up a unit. -/
structure Canvas where
  width : Int
  height : Int
  scale : Float

/-- The canvas of the panel. -/
def Canvas.default : Canvas := ⟨500, 500, 20.0⟩

/-- Why nothing is drawn on a canvas. -/
inductive CanvasFault where
  /-- Half of a side is too large for a float. -/
  | sideTooLong
  /-- The platform does not list the columns. -/
  | columnsRefused (message : String)
  /-- The calculation of a sample breaks down. -/
  | breakdown (breakdown : Breakdown)
  deriving DecidableEq, Repr

/-- Half of a side of a canvas. -/
def half (side : Int) : Float :=
  withSign (side < 0) (nearestQuotient side.natAbs 2)

/-- The columns of a canvas, unless it is immense. -/
def Canvas.columns [Platform] (canvas : Canvas) : Except CanvasFault (List Float) :=
  if !(half canvas.width).isFinite || !(half canvas.height).isFinite then .error .sideTooLong
  else (Platform.columns canvas.width).mapError .columnsRefused

/-- The tree of an expression that has a value at one; any other has no curve. -/
def curve? (expression : List Char) : Except Breakdown (Option Expr) :=
  let body := trim expression
  if body.isEmpty then .ok none
  else
    match Expr.parse (String.ofList (Entry.canonical body)) with
    | .ok tree =>
      match tree.evaluate [("x", 1.0)] with
      | .ok _ => .ok (some tree)
      | .error (.fault _) => .ok none
      | .error (.breakdown breakdown) => .error breakdown
    | .error _ => .ok none

/-- The number that a column of pixels stands for. -/
def Canvas.abscissa (canvas : Canvas) (column : Float) : Float :=
  (column - half canvas.width) / canvas.scale

/-- The point of a curve in a column, if the curve has a finite value there. -/
def Canvas.sample (canvas : Canvas) (tree : Expr) (column : Float) :
    Except Breakdown (Option Point) :=
  match tree.evaluate [("x", canvas.abscissa column)] with
  | .ok y =>
    .ok (if y.isFinite then some ⟨column, half canvas.height - y * canvas.scale⟩ else none)
  | .error (.fault _) => .ok none
  | .error (.breakdown breakdown) => .error breakdown

/-- The run of present items at the start of a list, and the further runs. -/
def firstRun {α : Type} : List (Option α) → List α × List (List α)
  | [] => ([], [])
  | some item :: rest =>
    let (run, others) := firstRun rest
    (item :: run, others)
  | none :: rest =>
    let (run, others) := firstRun rest
    ([], if run.isEmpty then others else run :: others)

/-- The maximal runs of present items in a list. -/
def runs {α : Type} (items : List (Option α)) : List (List α) :=
  let (run, others) := firstRun items
  if run.isEmpty then others else run :: others

/-- The polylines of an expression, which has none if it has no curve. -/
def polylines [Platform] (expression : List Char) (canvas : Canvas) :
    Except CanvasFault (List (List Point)) := do
  match ← (curve? expression).mapError .breakdown with
  | some tree =>
    let columns ← canvas.columns
    let samples ← (columns.mapM (canvas.sample tree)).mapError .breakdown
    return runs samples
  | none => return []

end DeskCalculator.Graph
