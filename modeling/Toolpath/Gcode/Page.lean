import Toolpath.Motion.Run
import Toolpath.Gcode.Word
import Toolpath.Text.Lines
import Toolpath.Decimal.Layout
import Toolpath.Scalar.Float

/-!
G-code text from the emissions of a walk.

An axis is written only where its text differs from the one written last, and a move with no axis to
write is not written at all, so that no coordinate is lost and none is repeated.
-/

namespace Toolpath.Gcode

/-- The texts last written for the axes. -/
structure Axes where
  x : Option String := none
  y : Option String := none
  z : Option String := none
deriving DecidableEq, Repr

/-- The lines written so far, the last one first, and the texts of the axes. -/
structure Page where
  lines : List String := []
  axes : Axes := {}

/-- The word for an axis, unless its text is the one written last. -/
def axisWord (always : Bool) (letter : String) (written : Option String) (text : String) : String :=
  if always || written != some text then " " ++ letter ++ text else ""

/-- The words for the axes of a position. -/
def axisWords (always : Bool) (axes : Axes) (target : Position Float) : String :=
  axisWord always "X" axes.x (valueText target.x) ++ axisWord always "Y" axes.y (valueText target.y)
    ++ axisWord always "Z" axes.z (valueText target.z)

/-- The texts for the axes of a position. -/
def Axes.ofPosition (p : Position Float) : Axes :=
  ⟨some (valueText p.x), some (valueText p.y), some (valueText p.z)⟩

/-- The command of a move. -/
def MoveForm.command : MoveForm → String
  | .rapid => "G0"
  | .linear => "G1"

/-- The line for a move, unless it has no axis to write. -/
def moveLine? (axes : Axes) (move : Move Float) : Option String :=
  let words := axisWords move.kind.isOrigin axes move.target
  if words.isEmpty then none
  else
    let feed := match move.feed with
      | some feed => " E" ++ valueText feed
      | none => ""
    some (MoveForm.command move.form ++ words ++ feed ++ " F" ++ speedText move.speed)

/-- The line for a speed of the fan: eight bits, and a command of its own for none. -/
def fanLine (percent : Float) : String :=
  let level := (percent * 255.0 / 100.0).round
  if level ≤ 0.0 then "M107" else "M106 S" ++ Decimal.plain level

/-- The line for a temperature of the hotend. -/
def hotendLine (celsius : Float) (wait : Bool) (tool : Option UInt32) : String :=
  let word := match tool with
    | some number => " T" ++ toString number
    | none => ""
  (if wait then "M109" else "M104") ++ word ++ " S" ++ valueText celsius

/-- The line for a temperature of the bed. -/
def bedLine (celsius : Float) (wait : Bool) : String :=
  (if wait then "M190" else "M140") ++ " S" ++ valueText celsius

namespace Page

/-- Writes lines below the others. -/
def write (page : Page) (lines : List String) : Page :=
  { page with lines := lines.reverse ++ page.lines }

/-- Writes a move. -/
def writeMove (page : Page) (move : Move Float) : Page :=
  match moveLine? page.axes move with
  | some line => { lines := line :: page.lines, axes := .ofPosition move.target }
  | none => page

/-- Puts a note at the end of the last line; on an empty page it is a line of its own. -/
def writeNote (page : Page) (note : String) : Page :=
  match page.lines with
  | last :: before => { page with lines := (last ++ " ; " ++ note) :: before }
  | [] => page.write ["; " ++ note]

/-- Writes a comment: the note first, then the text on a line of its own. -/
def writeComment (page : Page) (text note : Option String) : Page :=
  let noted := match note with
    | some note => page.writeNote note
    | none => page
  match text with
  | some text => noted.write ["; " ++ text]
  | none => noted

/-- Writes an action. -/
def take (page : Page) : Action Float → Page
  | .move move => page.writeMove move
  | .toggled _ => page
  | .announced relative => page.write (if relative then ["M83"] else ["M82", "G92 E0"])
  | .instruction text => page.write (Text.filledLines text)
  | .comment text note => page.writeComment text note
  | .extruded feed speed => page.write ["G1 E" ++ valueText feed ++ " F" ++ speedText speed]
  | .fan percent => page.write [fanLine percent]
  | .hotend celsius wait tool => page.write [hotendLine celsius wait tool]
  | .bed celsius wait => page.write [bedLine celsius wait]
  | .marker _ _ => page

/-- The page of some emissions. -/
def ofEmissions (emissions : List (Emission Float)) : Page :=
  emissions.foldl (fun page emission => page.take emission.action) {}

/-- The text of a page, without a line break at its end. -/
def text (page : Page) : String := "\n".intercalate page.lines.reverse

end Page

/-- The G-code of some emissions. -/
def ofEmissions (emissions : List (Emission Float)) : String := (Page.ofEmissions emissions).text

/-- The G-code of a design, with nothing around it. -/
def ofDesign (commands : CommandTable) (initialization : Initialization Float)
    (design : Design Float) : Except (Fault Float) (Transformed Float String) :=
  Motion.render ofEmissions commands initialization design

end Toolpath.Gcode
