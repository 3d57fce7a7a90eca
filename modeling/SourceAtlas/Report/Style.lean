import SourceAtlas.Text.Basic

/-!
# Styled text

Text for a terminal, in colors or without. A style is a list of codes; the codes stand before the
text, and the reset code behind it. Where the text itself resets the style, the codes are repeated.
-/

namespace SourceAtlas

inductive Style where
  | bold
  | dimmed
  | green
  | yellow
  | blue
  | cyan
  deriving DecidableEq, Repr

namespace Style

def code : Style → Text
  | bold => "1".toList
  | dimmed => "2".toList
  | green => "32".toList
  | yellow => "33".toList
  | blue => "34".toList
  | cyan => "36".toList

/-- What starts a sequence of codes. -/
def introducer : Text := ['\x1b', '[']

def reset : Text := introducer ++ ['0', 'm']

def opening (styles : List Style) : Text :=
  introducer ++ Text.join [';'] (styles.map code) ++ ['m']

/-- The text with a text put behind each occurrence of `mark`. The characters of an occurrence that
are still to come are counted by `pending`. -/
def addBehind (mark addition : Text) : Nat → Text → Text
  | _, [] => []
  | 0, c :: t =>
    if mark.isPrefixOf (c :: t) then
      if mark.length ≤ 1 then c :: addition ++ addBehind mark addition 0 t
      else c :: addBehind mark addition (mark.length - 1) t
    else c :: addBehind mark addition 0 t
  | 1, c :: t => c :: addition ++ addBehind mark addition 0 t
  | pending + 2, c :: t => c :: addBehind mark addition (pending + 1) t

/-- A text in some styles; without colors it stays as it is. -/
def apply (colors : Bool) (styles : List Style) (t : Text) : Text :=
  if colors then opening styles ++ addBehind reset (opening styles) 0 t ++ reset else t

/-- A text made at least `width` characters long by blanks behind it. -/
def padEnd (width : Nat) (t : Text) : Text := t ++ List.replicate (width - t.length) ' '

/-- A text made at least `width` characters long by blanks before it. -/
def padStart (width : Nat) (t : Text) : Text := List.replicate (width - t.length) ' ' ++ t

end Style

end SourceAtlas
