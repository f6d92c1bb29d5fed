/-
  Commands: the instructions of the turtle language.

  A command is a keyword with its arguments.  `Command.read` makes it from the
  words of a statement; the first argument that is absent or of the wrong form
  is the reason for ignoring the statement, and further words do not matter.

  * `Keyword.ofWord?_name`: the name of a keyword is read as that keyword;
  * `Command.keyword_of_read`: what is read behind a keyword is its command.
-/
import TurtleGraphics.Decimal.Numeral
import TurtleGraphics.Turtle.Outcome

namespace TurtleGraphics

/-- A word of a program. -/
abbrev Word := List Char

/-! ## Keywords -/

/-- The words that commands begin with. -/
inductive Keyword where
  | forward | backward | right | left | up | down | penUp | penDown
  | setColor | setWidth | koch | sierpinski | clearScreen
deriving DecidableEq

namespace Keyword

/-- The spelling of a keyword. -/
def name : Keyword → String
  | forward => "fd"
  | backward => "bk"
  | right => "rt"
  | left => "lt"
  | up => "ut"
  | down => "dt"
  | penUp => "pu"
  | penDown => "pd"
  | setColor => "sc"
  | setWidth => "ss"
  | koch => "koch"
  | sierpinski => "sierp"
  | clearScreen => "cs"

/-- All keywords. -/
def all : List Keyword :=
  [forward, backward, right, left, up, down, penUp, penDown, setColor, setWidth, koch, sierpinski,
    clearScreen]

/-- The keyword that a word spells. -/
def ofWord? (word : Word) : Option Keyword :=
  all.find? fun keyword => keyword.name.toList = word

theorem ofWord?_name (keyword : Keyword) : ofWord? keyword.name.toList = some keyword := by
  cases keyword <;> decide

end Keyword

/-! ## Commands -/

/-- One instruction, with its arguments. -/
inductive Command (α : Type) where
  | forward (distance : α)
  | backward (distance : α)
  | right (degrees : α)
  | left (degrees : α)
  | up (degrees : α)
  | down (degrees : α)
  | penUp
  | penDown
  | setColor (color : String)
  | setWidth (width : α)
  | koch (level : UInt32) (length : α)
  | sierpinski (level : UInt32) (length : α)
  | clearScreen
deriving DecidableEq

variable {α : Type}

/-- The keyword of a command. -/
def Command.keyword : Command α → Keyword
  | forward _ => .forward
  | backward _ => .backward
  | right _ => .right
  | left _ => .left
  | up _ => .up
  | down _ => .down
  | penUp => .penUp
  | penDown => .penDown
  | setColor _ => .setColor
  | setWidth _ => .setWidth
  | koch _ _ => .koch
  | sierpinski _ _ => .sierpinski
  | clearScreen => .clearScreen

/-! ## Arguments -/

/-- An argument that may be any word. -/
def wordArgument : Option Word → Except (Ignored α) String
  | none => .error .missingArgument
  | some word => .ok (String.ofList word)

/-- A repeat count or a level. -/
def countArgument : Option Word → Except (Ignored α) UInt32
  | none => .error .missingArgument
  | some word => match readCount? word with
    | some count => .ok count
    | none => .error (.invalidArgument (String.ofList word))

variable [Scalar α]

/-- An argument that is a finite number. -/
def numberArgument : Option Word → Except (Ignored α) α
  | none => .error .missingArgument
  | some word => match Numeral.read? word with
    | some numeral =>
      if Scalar.isFinite (numeral.value : α) then .ok numeral.value
      else .error (.invalidArgument (String.ofList word))
    | none => .error (.invalidArgument (String.ofList word))

/-- The command with the given keyword and the words behind it. -/
def Command.read (keyword : Keyword) (arguments : List Word) :
    Except (Ignored α) (Command α) :=
  let number (build : α → Command α) := (numberArgument arguments[0]?).map build
  let fractal (build : UInt32 → α → Command α) := do
    let level ← countArgument arguments[0]?
    let length ← numberArgument arguments[1]?
    return build level length
  match keyword with
  | .forward => number .forward
  | .backward => number .backward
  | .right => number .right
  | .left => number .left
  | .up => number .up
  | .down => number .down
  | .penUp => .ok .penUp
  | .penDown => .ok .penDown
  | .setColor => (wordArgument arguments[0]?).map .setColor
  | .setWidth => number .setWidth
  | .koch => fractal .koch
  | .sierpinski => fractal .sierpinski
  | .clearScreen => .ok .clearScreen

/-- What is read behind a keyword is its command. -/
theorem Command.keyword_of_read {keyword : Keyword} {arguments : List Word} {c : Command α}
    (h : read keyword arguments = .ok c) : c.keyword = keyword := by
  have hmap : ∀ {β : Type} {build : β → Command α} {argument : Except (Ignored α) β},
      argument.map build = .ok c → ∃ value, build value = c := by
    intro β build argument h
    cases argument with
    | error reason => cases h
    | ok value => exact ⟨value, Except.ok.inj h⟩
  cases keyword with
  | forward | backward | right | left | up | down | setColor | setWidth =>
    obtain ⟨value, rfl⟩ := hmap h
    rfl
  | koch | sierpinski =>
    unfold read at h
    dsimp only at h
    cases hlevel : (countArgument arguments[0]? : Except (Ignored α) UInt32) with
    | error reason => rw [hlevel] at h; cases h
    | ok level =>
      rw [hlevel] at h
      obtain ⟨length, rfl⟩ := hmap h
      rfl
  | penUp | penDown | clearScreen =>
    cases h
    rfl

end TurtleGraphics
