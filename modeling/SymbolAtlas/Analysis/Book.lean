/-
# SymbolAtlas.Analysis.Book — analyses under names, and reports that go on

A book keeps one analysis under each name. An analysis that others are merged into stays the same
analysis; one that is entered under its name takes its place. A report is taken from an analysis at
some time and shows what the analysis held then, save for the anomalies: their list is the one that
the analysis goes on writing, so a report shows every anomaly noted before it is read.
-/
import SymbolAtlas.Analysis

namespace SymbolAtlas

/-- Analyses in the order in which they were entered, and the number of the one under each name. -/
structure Book where
  analyses : List Analysis := []
  numbers : List (Text × Nat) := []

/-- A report with the number of the analysis that it was taken from. -/
structure Report where
  number : Nat
  withAnomalies : List Anomaly → Json

namespace Book

/-- The analysis with a number. -/
def analysis (b : Book) (number : Nat) : Analysis := b.analyses.getD number {}

/-- Enters an analysis under a name, in place of the one that was there. -/
def enter (b : Book) (name : Text) (a : Analysis) : Book where
  analyses := b.analyses ++ [a]
  numbers := (name, b.analyses.length) :: b.numbers

/-- The number of the analysis under a name. An empty analysis is entered if there is none. -/
def openNumber (b : Book) (name : Text) : Nat × Book :=
  match b.numbers.lookup name with
  | some number => (number, b)
  | none => (b.analyses.length, b.enter name {})

/-- Puts the analysis with a number into a new state. -/
def update (b : Book) (number : Nat) (a : Analysis) : Book :=
  { b with analyses := b.analyses.set number a }

/-- Takes a report from the analysis with a number. -/
def report (b : Book) (number : Nat) : Report := ⟨number, (b.analysis number).report⟩

/-- What a report shows when it is read. -/
def read (b : Book) (r : Report) : Json := r.withAnomalies (b.analysis r.number).anomalies

end Book

end SymbolAtlas
