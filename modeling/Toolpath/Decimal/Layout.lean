import Toolpath.Decimal.Shortest

/-!
How the fewest digits of a float are laid out as text: where the point stands, when an exponent is
written, and what a whole number ends in.
-/

namespace Toolpath.Decimal

/-- The decisions of one number format. -/
structure Layout where
  /-- The powers of ten of the leading digit, from and to, that are written without an exponent;
  none means all. -/
  positional : Option (Int × Int)
  /-- Whether a whole number without an exponent ends in `.0`. -/
  wholePoint : Bool
  /-- Which of two equally near shortest texts is taken. -/
  tie : Tie

/-- Messages show numbers in full, and whole numbers without a point. -/
def Layout.plain : Layout := ⟨none, false, .up⟩

/-- Documents keep a number recognisable as a fraction, and write very large and very small ones
with a signed exponent. -/
def Layout.document : Layout := ⟨some (-5, 15), true, .toEven⟩

/-- The power of ten of the leading digit. -/
def Scientific.lead (s : Scientific) : Int := s.exponent + (digits s.figures).length - 1

/-- The digits on both sides of the point, without an exponent. -/
def Scientific.positional (s : Scientific) (wholePoint : Bool) : List Char :=
  let shown := digits s.figures
  if 0 ≤ s.exponent then
    shown ++ List.replicate s.exponent.toNat '0' ++ (if wholePoint then ['.', '0'] else [])
  else
    let behind := (-s.exponent).toNat
    if behind < shown.length then
      shown.take (shown.length - behind) ++ '.' :: shown.drop (shown.length - behind)
    else '0' :: '.' :: List.replicate (behind - shown.length) '0' ++ shown

/-- One digit before the point, and the exponent with its sign. -/
def Scientific.exponential (s : Scientific) : List Char :=
  let shown := digits s.figures
  let sign := if s.lead < 0 then '-' else '+'
  pointed (shown.take 1) (shown.drop 1) ++ 'e' :: sign :: digits s.lead.natAbs

/-- The text of a finite number without its sign. -/
def Layout.size (layout : Layout) (b : Binary) : List Char :=
  if b.mantissa = 0 then if layout.wholePoint then ['0', '.', '0'] else ['0']
  else
    let s := shortest layout.tie b
    match layout.positional with
    | none => s.positional layout.wholePoint
    | some (least, greatest) =>
      if least ≤ s.lead ∧ s.lead ≤ greatest then s.positional layout.wholePoint else s.exponential

/-- The text of what a float stands for. -/
def Layout.text (layout : Layout) : Content → String
  | .undefined => "NaN"
  | .infinite negative => if negative then "-inf" else "inf"
  | .finite negative b => String.ofList (if negative then '-' :: layout.size b else layout.size b)

/-- A float as messages show it. -/
def plain (v : Float) : String := Layout.plain.text (.ofFloat v)

/-- A finite float as documents hold it. -/
def document (v : Float) : String := Layout.document.text (.ofFloat v)

end Toolpath.Decimal
