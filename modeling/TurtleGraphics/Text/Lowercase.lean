/-
  Lowercasing.

  Every letter becomes its lowercase counterpart.  Two letters are special: a
  capital I with a dot above becomes an i and a combining dot, and a capital
  sigma becomes the final form of the small sigma at the end of a word, which
  the letters around it decide.

  * `lowercaseChar` is the counterpart of a character in itself;
  * `lowercase` is the lowercase form of a text.
-/
import TurtleGraphics.Text.CaseTable

namespace TurtleGraphics

/-- Whether a character is a letter with case, in the sense of Unicode. -/
def isCased (c : Char) : Bool :=
  inRanges casedRanges c.toNat

/-- Whether a character is passed over when looking for the letter next to a
    sigma, in the sense of Unicode. -/
def isCaseIgnorable (c : Char) : Bool :=
  inRanges caseIgnorableRanges c.toNat

/-- The counterpart of a character other than the capital sigma. -/
def lowercaseChar (c : Char) : List Char :=
  if c.toNat < 0x80 then [c.toLower]
  else if c = 'İ' then ['i', '\u0307']
  else match lowercaseRanges.findSome? fun r => r.apply? c.toNat with
    | some code => [Char.ofNat code]
    | none => [c]

/-- Whether the next character that counts is a letter with case. -/
def meetsCased (text : List Char) : Bool :=
  match text.dropWhile isCaseIgnorable with
  | [] => false
  | c :: _ => isCased c

/-- The small sigma for a capital one that stands between `before`, read
    backwards, and `after`: the final form behind a letter, unless another
    letter follows. -/
def smallSigma (before after : List Char) : Char :=
  if meetsCased before && !meetsCased after then 'ς' else 'σ'

/-- The lowercase form of `text`, which follows `before`, read backwards. -/
def lowercaseAfter (before : List Char) : List Char → List Char
  | [] => []
  | c :: text =>
    let counterpart := if c = 'Σ' then [smallSigma before text] else lowercaseChar c
    counterpart ++ lowercaseAfter (c :: before) text

/-- The lowercase form of a text. -/
def lowercase (text : List Char) : List Char :=
  lowercaseAfter [] text

example : lowercase ['Σ', 'Ο', 'Σ'] = ['σ', 'ο', 'ς'] := by decide +kernel
example : lowercase ['K', 'İ', 'Z'] = ['k', 'i', '\u0307', 'z'] := by decide +kernel

end TurtleGraphics
