import Toolpath.Job.Message
import Toolpath.Job.Controls.Document
import Toolpath.Geometry.Shape
import Toolpath.Geometry.Wave
import Toolpath.Geometry.Message
import Toolpath.Proofs.Motion.FeedAxis
import Toolpath.Proofs.Job.Agreement
import Toolpath.Proofs.Job.Nesting
import Toolpath.Proofs.Motion.Legs
import Toolpath.Proofs.Motion.Meaning
import Toolpath.Proofs.Gcode.Extrusion
import Toolpath.Proofs.Design.Decode
import Toolpath.Proofs.Design.RoundTrip
import Toolpath.Proofs.Job.Comments
import Toolpath.Proofs.Job.Printerless
import Toolpath.Proofs.Motion.Protocol
import Toolpath.Proofs.Motion.Speeds
import Toolpath.Proofs.Motion.Remarks
import Toolpath.Proofs.Plot.Colors
import Toolpath.Proofs.Design.Leaves
import Toolpath.Proofs.Motion.Seeding
import Toolpath.Proofs.Job.Places
import Toolpath.Proofs.Job.PlotOnly
import Toolpath.Proofs.Erasure
import Toolpath.Proofs.Plot.Drawn
import Toolpath.Proofs.Job.MachineOnly
import Toolpath.Proofs.Geometry.Circle
import Toolpath.Proofs.Scalar.Real
import Toolpath.Proofs.Geometry.Polar
import Toolpath.Proofs.Geometry.Arc
import Toolpath.Proofs.Job.Handover
import Toolpath.Proofs.Motion.Gain
import Toolpath.Proofs.Motion.TravelTo
import Toolpath.Proofs.Job.Exchange
import Toolpath.Proofs.Plot.Vertices
import Toolpath.Proofs.Plot.Extent
import Toolpath.Proofs.Gcode.Number
import Toolpath.Proofs.Geometry.Circumcentre
import Toolpath.Proofs.Geometry.Reflection
import Toolpath.Proofs.Geometry.Placement
import Toolpath.Proofs.Geometry.Count
import Toolpath.Proofs.Geometry.Helix
import Toolpath.Proofs.Geometry.SineWave
import Toolpath.Proofs.Geometry.Turning
import Toolpath.Proofs.Geometry.AlikeArcs
import Toolpath.Proofs.Motion.Measure
