import Toolpath.Decimal.Fixed

/-!
The numbers in G-code: so many decimals at most, and none that could be left out.
-/

namespace Toolpath.Gcode

open Decimal (Content leastText)

/-- A number with at most `places` decimals. -/
def numberText (places : Nat) (v : Float) : String :=
  match Content.ofFloat v with
  | .undefined => "NaN"
  | .infinite negative => if negative then "-inf" else "inf"
  | .finite negative b => String.ofList (leastText negative places (b.units places))

/-- Coordinates, feeds and temperatures have six decimals. -/
def valueText (v : Float) : String := numberText 6 v

/-- Speeds have one decimal. -/
def speedText (v : Float) : String := numberText 1 v

end Toolpath.Gcode
