import QuadraticTrials.Decimal.NumberText
import QuadraticTrials.InteriorPoint.Run

/-!
The table that a run can show: one row for each visited point, under a header.
-/

namespace QuadraticTrials

/-- A text moved to the right end of a column. -/
def alignRight (width : Nat) (text : String) : String :=
  String.ofList (List.replicate (width - text.length) ' ') ++ text

namespace Run

/-- The titles and widths of the columns. -/
def columns : List (String × Nat) :=
  [("iter", 4), ("pobj", 14), ("pres", 10), ("dres", 10), ("gap", 10), ("step", 8)]

def line (cells : List String) : String :=
  String.intercalate " " ((columns.zip cells).map fun ((_, width), cell) => alignRight width cell)

def header : String :=
  line (columns.map Prod.fst)

variable {K : Type} [Scalar K] [NumberText K] {n m p : Nat}

/-- The row of a visited point. -/
def row (r : Record K n m p) : String :=
  line [toString r.index, NumberText.scientific 6 r.objective,
    NumberText.scientific 2 r.residuals.primalNorm, NumberText.scientific 2 r.residuals.dualNorm,
    NumberText.scientific 2 r.gap, NumberText.fixed 4 r.step]

/-- The table of a run. -/
def table (run : Run K n m p) : List String :=
  header :: run.records.map row

end Run

end QuadraticTrials
