/-! # Places in a source text -/

namespace FunctionMetrics

/-- A point of a text; rows and columns count from zero. -/
structure Position where
  row : Int
  column : Int := 0
deriving DecidableEq, Repr, Inhabited

namespace Position

/-- Earlier in the text: an earlier row, or the same row and an earlier column. -/
def lt (p q : Position) : Prop := p.row < q.row ∨ (p.row = q.row ∧ p.column < q.column)

def le (p q : Position) : Prop := p.row < q.row ∨ (p.row = q.row ∧ p.column ≤ q.column)

instance : LT Position := ⟨lt⟩
instance : LE Position := ⟨le⟩
instance (p q : Position) : Decidable (p < q) :=
  inferInstanceAs (Decidable (p.row < q.row ∨ (p.row = q.row ∧ p.column < q.column)))
instance (p q : Position) : Decidable (p ≤ q) :=
  inferInstanceAs (Decidable (p.row < q.row ∨ (p.row = q.row ∧ p.column ≤ q.column)))

def origin : Position := ⟨0, 0⟩

/-- Sorted from the start of the text to its end; equal points keep their order. -/
def sort (ps : List Position) : List Position := ps.mergeSort fun p q => p ≤ q

end Position

structure Range where
  start : Position
  stop : Position
deriving DecidableEq, Repr, Inhabited

namespace Range

/-- Whether a row touches the range; columns play no part. -/
def spansRow (r : Range) (row : Int) : Bool := r.start.row ≤ row ∧ row ≤ r.stop.row

def spans (r : Range) (p : Position) : Bool := r.spansRow p.row

def toList (r : Range) : List Int := [r.start.row, r.start.column, r.stop.row, r.stop.column]

end Range

end FunctionMetrics
