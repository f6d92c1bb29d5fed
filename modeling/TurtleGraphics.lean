import TurtleGraphics.Drawing
import TurtleGraphics.Proofs.Text.Letters
import TurtleGraphics.Proofs.Text.Words
import TurtleGraphics.Proofs.Program.Blocks
import TurtleGraphics.Proofs.Program.Pieces
import TurtleGraphics.Proofs.Program.Brackets
import TurtleGraphics.Proofs.Program.Closing
import TurtleGraphics.Proofs.Program.Nodes
import TurtleGraphics.Proofs.Program.Unrolling
import TurtleGraphics.Proofs.Program.Room
import TurtleGraphics.Proofs.Program.Visits
import TurtleGraphics.Proofs.Program.Execution
import TurtleGraphics.Proofs.Program.Loops
import TurtleGraphics.Proofs.Program.Simulation
import TurtleGraphics.Proofs.Program.Raising
import TurtleGraphics.Proofs.Session.Erasure
import TurtleGraphics.Proofs.Program.Invariants
import TurtleGraphics.Proofs.Session.Picture
import TurtleGraphics.Proofs.Turtle.Walks
import TurtleGraphics.Proofs.Drawing.Recording
import TurtleGraphics.Proofs.Session.Board
import TurtleGraphics.Proofs.Program.Printing
import TurtleGraphics.Proofs.Decimal.Doubles
import TurtleGraphics.Proofs.Drawing.Markup
import TurtleGraphics.Proofs.Session.Document
import TurtleGraphics.Proofs.Session.Memory
import TurtleGraphics.Proofs.Session.Views
import TurtleGraphics.Proofs.Session.Pipeline
import TurtleGraphics.Proofs.Geometry.Reals
import TurtleGraphics.Proofs.Session.Visibility
import TurtleGraphics.Proofs.Session.Flat
import TurtleGraphics.Proofs.Program.Endings
import TurtleGraphics.Proofs.Program.Depths
import TurtleGraphics.Proofs.Turtle.Companions
import TurtleGraphics.Proofs.Session.Steering
import TurtleGraphics.Proofs.Session.Variants
import TurtleGraphics.Proofs.Program.Layout
import TurtleGraphics.Proofs.Session.Magnification
import TurtleGraphics.Proofs.Geometry.Angles
import TurtleGraphics.Proofs.Session.Retracing
import TurtleGraphics.Proofs.Turtle.Strokes
import TurtleGraphics.Proofs.Session.Growth
import TurtleGraphics.Proofs.Turtle.Calls
import TurtleGraphics.Proofs.Fractal.Unfolding
import TurtleGraphics.Proofs.Turtle.Excursions
import TurtleGraphics.Proofs.Fractal.Levels
import TurtleGraphics.Proofs.Geometry.Triangles
import TurtleGraphics.Proofs.Turtle.Routes
import TurtleGraphics.Proofs.Fractal.Hulls
import TurtleGraphics.Proofs.Fractal.Frames
import TurtleGraphics.Proofs.Turtle.Turns
import TurtleGraphics.Proofs.Turtle.Travels
import TurtleGraphics.Proofs.Turtle.Leeway
import TurtleGraphics.Proofs.Fractal.Circuits
import TurtleGraphics.Proofs.Session.Headings
import TurtleGraphics.Proofs.Fractal.Tallies
import TurtleGraphics.Proofs.Decimal.Spellings
import TurtleGraphics.Proofs.Program.Arguments
import TurtleGraphics.Proofs.Program.Grammar
import TurtleGraphics.Proofs.Session.Checks
import TurtleGraphics.Proofs.View.Rendering
import TurtleGraphics.Proofs.View.Perspective
import TurtleGraphics.Proofs.Program.Skipping
import TurtleGraphics.Proofs.Program.Passes
import TurtleGraphics.Proofs.Geometry.Rigidity
import TurtleGraphics.Proofs.Geometry.Averages
import TurtleGraphics.Proofs.Geometry.Cubes
