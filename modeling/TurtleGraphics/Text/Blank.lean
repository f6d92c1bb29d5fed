/-
  Blank characters and words.

  Two classes of characters set pieces of text apart.  `isBlank` is white
  space in the sense of Unicode (`White_Space`); it is trimmed from the ends of
  a text.  `isSeparator` is the smaller class of characters that stand between
  words; the other blanks may be part of a word.

  * `trim` cuts the blanks off both ends;
  * `splitOn` cuts a text at every character of a class, and `words` are the
    pieces between separators that are not empty.
-/
namespace TurtleGraphics

/-- White space in the sense of Unicode. -/
def isBlank (c : Char) : Bool :=
  let code := c.toNat
  (9 ≤ code && code ≤ 13) || code = 0x20 || code = 0x85 || code = 0xA0 || code = 0x1680
    || (0x2000 ≤ code && code ≤ 0x200A) || code = 0x2028 || code = 0x2029 || code = 0x202F
    || code = 0x205F || code = 0x3000

/-- The characters that stand between words: space, tab, carriage return,
    line feed and form feed. -/
def isSeparator (c : Char) : Bool :=
  c = ' ' || c = '\t' || c = '\r' || c = '\n' || c = '\x0c'

/-- Every separator is blank. -/
theorem isBlank_of_isSeparator {c : Char} (h : isSeparator c = true) : isBlank c = true := by
  simp only [isSeparator, Bool.or_eq_true, decide_eq_true_eq] at h
  rcases h with (((rfl | rfl) | rfl) | rfl) | rfl <;> decide

/-- A text without the blanks at its ends. -/
def trim (text : List Char) : List Char :=
  ((text.dropWhile isBlank).reverse.dropWhile isBlank).reverse

/-- The pieces of a text between the characters of a class, empty ones
    included: one more than there are such characters. -/
def splitOn (cut : Char → Bool) (text : List Char) : List (List Char) :=
  text.foldr (fun c pieces =>
    if cut c then [] :: pieces
    else match pieces with
      | [] => [[c]]
      | piece :: rest => (c :: piece) :: rest) [[]]

/-- The words of a text: its longest pieces without a separator. -/
def words (text : List Char) : List (List Char) :=
  (splitOn isSeparator text).filter fun word => !word.isEmpty

example : words ['a', ' ', '\t', 'b', 'c', ' '] = [['a'], ['b', 'c']] := by decide

end TurtleGraphics
