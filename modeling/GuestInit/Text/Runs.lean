/-! Sets of code points, written as closed runs in ascending order. A lookup stops at the first run
that begins too late. -/

namespace GuestInit

/-- First and last code point of each run. -/
abbrev Runs := List (Nat × Nat)

def Runs.covers : Runs → Nat → Bool
  | [], _ => false
  | run :: rest, n => if n < run.1 then false else n ≤ run.2 || covers rest n

end GuestInit
