import SourceAtlas.Unicode.CaseFolding
import SourceAtlas.Unicode.Property

/-!
# Sets of characters in patterns

A set is its membership test. `ranges` estimates how many ranges of characters beyond ASCII the
set has; only the size limit of patterns looks at it.
-/

namespace SourceAtlas.Pattern

structure CharSet where
  mem : Char → Bool
  ranges : Nat

namespace CharSet

def none : CharSet := ⟨fun _ => false, 0⟩

def all : CharSet := ⟨fun _ => true, 4⟩

def range (lo hi : Char) : CharSet :=
  ⟨fun c => lo ≤ c && c ≤ hi, if hi.toNat < 128 then 0 else 1⟩

def single (c : Char) : CharSet := range c c

def union (s t : CharSet) : CharSet := ⟨fun c => s.mem c || t.mem c, s.ranges + t.ranges⟩

def inter (s t : CharSet) : CharSet := ⟨fun c => s.mem c && t.mem c, s.ranges + t.ranges⟩

def diff (s t : CharSet) : CharSet := ⟨fun c => s.mem c && !t.mem c, s.ranges + t.ranges⟩

def symmDiff (s t : CharSet) : CharSet := ⟨fun c => s.mem c != t.mem c, s.ranges + t.ranges⟩

def compl (s : CharSet) : CharSet := ⟨fun c => !s.mem c, s.ranges + 4⟩

def complIf (negated : Bool) (s : CharSet) : CharSet := if negated then s.compl else s

/-- Closes a set under simple case folding. -/
def fold (s : CharSet) : CharSet :=
  ⟨fun c => s.mem c || (Unicode.foldOrbit c.toNat).any fun n => s.mem (Char.ofNat n), 2 * s.ranges⟩

/-- Closes a set under the case of ASCII letters. -/
def foldAscii (s : CharSet) : CharSet :=
  ⟨fun c => s.mem c || s.mem c.toLower || s.mem c.toUpper, s.ranges⟩

/-! ## The sets of escapes -/

def word : CharSet := ⟨Unicode.isWord, 760⟩

def digit : CharSet := ⟨Unicode.isDigit, 70⟩

def space : CharSet := ⟨Text.isSpace, 10⟩

def asciiWord : CharSet := ⟨fun c => c.isAlphanum || c == '_', 0⟩

def asciiDigit : CharSet := range '0' '9'

def asciiSpace : CharSet :=
  ⟨fun c => c == ' ' || (9 ≤ c.toNat && c.toNat ≤ 13), 0⟩

/-- The classes that are written by name inside brackets. -/
def asciiNamed? : String → Option CharSet
  | "alnum" => some ⟨Char.isAlphanum, 0⟩
  | "alpha" => some ⟨Char.isAlpha, 0⟩
  | "ascii" => some ⟨fun c => c.toNat < 128, 0⟩
  | "blank" => some ⟨fun c => c == ' ' || c == '\t', 0⟩
  | "cntrl" => some ⟨fun c => c.toNat < 32 || c.toNat == 127, 0⟩
  | "digit" => some asciiDigit
  | "graph" => some (range '!' '~')
  | "lower" => some (range 'a' 'z')
  | "print" => some (range ' ' '~')
  | "punct" => some ⟨fun c => '!' ≤ c && c ≤ '~' && !c.isAlphanum, 0⟩
  | "space" => some asciiSpace
  | "upper" => some (range 'A' 'Z')
  | "word" => some asciiWord
  | "xdigit" => some ⟨fun c => (Unicode.hexDigit? c).isSome, 0⟩
  | _ => Option.none

end CharSet

end SourceAtlas.Pattern
