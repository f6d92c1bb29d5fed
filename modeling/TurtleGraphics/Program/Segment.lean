/-
  Segments: the statements of a program before they are put into blocks.

  A program is cut at its semicolons; each piece is trimmed, lowercased and
  split into words, and pieces without words are dropped.  The first word says
  what a segment is: `repeat` opens a block, `end` closes one, and everything
  else is a single statement.

  * `wordLists` are the words of the pieces of a program;
  * `Segment.ofWords` reads one of them;
  * `segments` are the segments of a program.
-/
import TurtleGraphics.Program.Command
import TurtleGraphics.Text.Blank
import TurtleGraphics.Text.Lowercase

namespace TurtleGraphics

/-- A piece of a program between semicolons, with its normalized text: its
    words with one space between them. -/
inductive Segment (α : Type) where
  /-- The `end` of a block. -/
  | close (text : String)
  /-- The `repeat` of a block, with its count or what is wrong with it. -/
  | opening (text : String) (count : Except (Ignored α) UInt32)
  /-- Any other statement, with its command or what is wrong with it. -/
  | single (text : String) (command : Except (Ignored α) (Command α))

/-- The text of words: one space between them. -/
def joinWords (words : List Word) : String :=
  String.ofList ([' '].intercalate words)

/-- The words of every piece of a program that has any, in lower case. -/
def wordLists (program : String) : List (List Word) :=
  (splitOn (· = ';') program.toList).filterMap fun piece =>
    match words (lowercase (trim piece)) with
    | [] => none
    | head :: arguments => some (head :: arguments)

variable {α : Type} [Scalar α]

namespace Segment

/-- The segment with the given words. -/
def ofWords (head : Word) (arguments : List Word) : Segment α :=
  let text := joinWords (head :: arguments)
  if head = "end".toList then .close text
  else if head = "repeat".toList then .opening text (countArgument arguments[0]?)
  else match Keyword.ofWord? head with
    | some keyword => .single text (Command.read keyword arguments)
    | none => .single text (.error (.unknownCommand (String.ofList head)))

end Segment

/-- The segments of a program. -/
def segments (program : String) : List (Segment α) :=
  (wordLists program).filterMap fun
    | [] => none
    | head :: arguments => some (.ofWords head arguments)

end TurtleGraphics
