import SketchHelp.Text.Decimal

/-!
Stretches of source text. A `Range` is any pair of offsets that somebody asks about. A
`Span` is one that something occupies: it starts inside the text and does not end
before it starts.
-/

namespace SketchHelp

/-- Offsets asked about, from `start` up to but not including `stop`. -/
structure Range where
  start : Int
  stop : Int
  deriving DecidableEq, Repr

structure Span where
  start : Nat
  stop : Nat
  start_le_stop : start ≤ stop
  deriving DecidableEq, Repr

namespace Span

/-- Why two offsets are no span. -/
inductive Fault where
  | negativeStart (start : Int)
  | reversed (start stop : Int)
  deriving DecidableEq, Repr

/-- Says what is wrong, given the names of the two offsets. -/
def Fault.message (startName stopName : String) (stopReference : String) : Fault → Text
  | .negativeStart start => Text.orLimit do
    return Text.ofString startName ++ Text.ofString " must be >= 0, got " ++
      (← Text.ofInt? start)
  | .reversed start stop => Text.orLimit do
    return Text.ofString stopName ++ Text.ofString " (" ++ (← Text.ofInt? stop) ++
      Text.ofString ") must be >= " ++ Text.ofString stopReference ++ Text.ofString " (" ++
      (← Text.ofInt? start) ++ Text.ofString ")"

def ofBounds (start stop : Int) : Except Fault Span :=
  if hstart : start < 0 then .error (.negativeStart start)
  else if hstop : stop < start then .error (.reversed start stop)
  else .ok ⟨start.toNat, stop.toNat, by omega⟩

def toRange (s : Span) : Range :=
  ⟨s.start, s.stop⟩

def isEmpty (s : Span) : Bool :=
  s.start = s.stop

/-- Every offset of the range belongs to the span. -/
def covers (s : Span) (r : Range) : Bool :=
  s.start ≤ r.start && r.stop ≤ s.stop

/-- The span lies inside the range. -/
def isInside (s : Span) (r : Range) : Bool :=
  r.start ≤ s.start && s.stop ≤ r.stop

/-- The span and the range have an offset in common. -/
def overlaps (s : Span) (r : Range) : Bool :=
  s.start < r.stop && r.start < s.stop

theorem ofBounds_eq_ok_iff {start stop : Int} {s : Span} :
    ofBounds start stop = .ok s ↔ s.start = start ∧ s.stop = stop := by
  obtain ⟨low, high, ordered⟩ := s
  unfold ofBounds
  split
  · simp; omega
  · split
    · simp; omega
    · simp; omega

end Span

end SketchHelp
