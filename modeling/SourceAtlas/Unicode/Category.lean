import SourceAtlas.Unicode.CategoryTable
import SourceAtlas.Unicode.Ranges

/-!
# General categories

Every code point has one general category. The groups of categories are those that the one-letter
names of the standard stand for.
-/

namespace SourceAtlas.Unicode

inductive Category where
  | Lu | Ll | Lt | Lm | Lo
  | Mn | Mc | Me
  | Nd | Nl | No
  | Pc | Pd | Ps | Pe | Pi | Pf | Po
  | Sm | Sc | Sk | So
  | Zs | Zl | Zp
  | Cc | Cf | Cs | Co | Cn
  deriving DecidableEq, Repr, Inhabited

namespace Category

def letters : List Category := [.Lu, .Ll, .Lt, .Lm, .Lo]
def marks : List Category := [.Mn, .Mc, .Me]
def numbers : List Category := [.Nd, .Nl, .No]
def punctuation : List Category := [.Pc, .Pd, .Ps, .Pe, .Pi, .Pf, .Po]
def symbols : List Category := [.Sm, .Sc, .Sk, .So]
def separators : List Category := [.Zs, .Zl, .Zp]
def others : List Category := [.Cc, .Cf, .Cs, .Co, .Cn]

def ofAbbreviation? : String → Option Category
  | "Lu" => some .Lu | "Ll" => some .Ll | "Lt" => some .Lt | "Lm" => some .Lm | "Lo" => some .Lo
  | "Mn" => some .Mn | "Mc" => some .Mc | "Me" => some .Me
  | "Nd" => some .Nd | "Nl" => some .Nl | "No" => some .No
  | "Pc" => some .Pc | "Pd" => some .Pd | "Ps" => some .Ps | "Pe" => some .Pe | "Pi" => some .Pi
  | "Pf" => some .Pf | "Po" => some .Po
  | "Sm" => some .Sm | "Sc" => some .Sc | "Sk" => some .Sk | "So" => some .So
  | "Zs" => some .Zs | "Zl" => some .Zl | "Zp" => some .Zp
  | "Cc" => some .Cc | "Cf" => some .Cf | "Cs" => some .Cs | "Co" => some .Co | "Cn" => some .Cn
  | _ => none

/-- The categories that a name stands for, as it is looked up: in lower case, without blanks,
underscores and hyphens. Surrogates are no characters, so they have no name here. -/
def named? : String → Option (List Category)
  | "lu" | "uppercaseletter" => some [.Lu]
  | "ll" | "lowercaseletter" => some [.Ll]
  | "lt" | "titlecaseletter" => some [.Lt]
  | "lm" | "modifierletter" => some [.Lm]
  | "lo" | "otherletter" => some [.Lo]
  | "lc" | "casedletter" => some [.Lu, .Ll, .Lt]
  | "l" | "letter" => some letters
  | "mn" | "nonspacingmark" => some [.Mn]
  | "mc" | "spacingmark" => some [.Mc]
  | "me" | "enclosingmark" => some [.Me]
  | "m" | "mark" | "combiningmark" => some marks
  | "nd" | "decimalnumber" | "digit" => some [.Nd]
  | "nl" | "letternumber" => some [.Nl]
  | "no" | "othernumber" => some [.No]
  | "n" | "number" => some numbers
  | "pc" | "connectorpunctuation" => some [.Pc]
  | "pd" | "dashpunctuation" => some [.Pd]
  | "ps" | "openpunctuation" => some [.Ps]
  | "pe" | "closepunctuation" => some [.Pe]
  | "pi" | "initialpunctuation" => some [.Pi]
  | "pf" | "finalpunctuation" => some [.Pf]
  | "po" | "otherpunctuation" => some [.Po]
  | "p" | "punct" | "punctuation" => some punctuation
  | "sm" | "mathsymbol" => some [.Sm]
  | "sc" | "currencysymbol" => some [.Sc]
  | "sk" | "modifiersymbol" => some [.Sk]
  | "so" | "othersymbol" => some [.So]
  | "s" | "symbol" => some symbols
  | "zs" | "spaceseparator" => some [.Zs]
  | "zl" | "lineseparator" => some [.Zl]
  | "zp" | "paragraphseparator" => some [.Zp]
  | "z" | "separator" => some separators
  | "cc" | "cntrl" | "control" => some [.Cc]
  | "cf" | "format" => some [.Cf]
  | "co" | "privateuse" => some [.Co]
  | "cn" | "unassigned" => some [.Cn]
  | "c" | "other" => some others
  | _ => none

/-- The table with its numbers read. -/
def runs : Array (Nat × Category) :=
  categoryRuns.foldl
    (fun acc row => (Text.words row.toList).foldl
      (fun a w =>
        let cut := w.length - 2
        a.push (hexValue (w.take cut),
          (ofAbbreviation? (String.ofList (w.drop cut))).getD .Cn))
      acc)
    #[]

/-- The general category of a character. -/
def ofChar (c : Char) : Category :=
  (runs.getD (lastAtMost (fun i => (runs.getD i (0, .Cn)).1) c.toNat 0 runs.size) (0, .Cn)).2

end Category

end SourceAtlas.Unicode
