import SourceAtlas.Unicode.Category
import SourceAtlas.Unicode.PropertyTable
import SourceAtlas.Unicode.ScriptTable

/-!
# Properties of characters

Predicates on characters: the derived properties, the classes that patterns have short names
for, which characters a quoted text shows as they are, and the look-up of a property by its
name.
-/

namespace SourceAtlas.Unicode

/-- A property of characters. -/
abbrev Property := Char → Bool

def inCategories (categories : List Category) : Property :=
  fun c => categories.contains (Category.ofChar c)

def inRanges (ranges : Ranges) : Property := fun c => ranges.contains c.toNat

/-! ## Derived properties -/

def isLowercase : Property := fun c => Category.ofChar c == .Ll || inRanges otherLowercase c

def isUppercase : Property := fun c => Category.ofChar c == .Lu || inRanges otherUppercase c

def isCased : Property :=
  fun c => Category.ofChar c == .Lt || isLowercase c || isUppercase c

def isAlphabetic : Property :=
  fun c => inCategories (.Nl :: Category.letters) c || inRanges otherAlphabetic c ||
    inRanges otherLowercase c || inRanges otherUppercase c

def isNumeric : Property := inCategories Category.numbers

def isGraphemeExtend : Property :=
  fun c => inCategories [.Mn, .Me] c || inRanges otherGraphemeExtend c

def isGraphemeBase : Property :=
  fun c => !inCategories [.Cc, .Cf, .Cs, .Co, .Cn, .Zl, .Zp] c && !isGraphemeExtend c

def isMath : Property := fun c => Category.ofChar c == .Sm || inRanges otherMath c

def isPatternCharacter : Property :=
  fun c => inRanges patternSyntax c || inRanges patternWhiteSpace c

def isIdStart : Property :=
  fun c => (inCategories (.Nl :: Category.letters) c && !isPatternCharacter c) ||
    inRanges otherIdStart c

def isIdContinue : Property :=
  fun c => isIdStart c || inCategories [.Mn, .Mc, .Nd, .Pc] c || inRanges otherIdContinue c

def isXidStart : Property := fun c => isIdStart c && !inRanges xidStartExcluded c

def isXidContinue : Property := fun c => isIdContinue c && !inRanges xidContinueExcluded c

def isCaseIgnorable : Property :=
  fun c => inCategories [.Mn, .Me, .Cf, .Lm, .Sk] c || inRanges otherCaseIgnorable c

def changesWhenLowercased : Property :=
  fun c => (Category.ofChar c == .Lu) != inRanges lowercasedDelta c

def changesWhenUppercased : Property :=
  fun c => (Category.ofChar c == .Ll) != inRanges uppercasedDelta c

def changesWhenTitlecased : Property :=
  fun c => changesWhenUppercased c != inRanges titlecasedDelta c

def changesWhenCasefolded : Property :=
  fun c => changesWhenLowercased c != inRanges casefoldedDelta c

def changesWhenCasemapped : Property :=
  fun c => changesWhenLowercased c || changesWhenUppercased c || changesWhenTitlecased c

/-! ## Classes with short names -/

/-- Characters of words: letters, marks, decimal digits, connectors and joiners. -/
def isWord : Property :=
  fun c =>
    if c.toNat < 128 then c.isAlphanum || c == '_'
    else isAlphabetic c || inCategories ([.Nd, .Pc] ++ Category.marks) c || inRanges joinControl c

def isDigit : Property := fun c => Category.ofChar c == .Nd

/-! ## Printing -/

/-- Whether a quoted text shows a character as it is, as far as its category goes: no control,
format, private or unassigned character and no separator but the blank. -/
def isPrintable : Property :=
  fun c => c == ' ' || !inCategories (Category.separators ++ Category.others) c

/-! ## Properties by name -/

/-- A name as it is looked up: ASCII in lower case, without a leading `is` and without blanks,
underscores and hyphens. The name `isc` is no letter `c`. -/
def normalizeName (name : Text) : String :=
  let (isPrefixed, body) :=
    match name with
    | i :: s :: rest =>
      if (i == 'i' || i == 'I') && (s == 's' || s == 'S') then (true, rest) else (false, name)
    | _ => (false, name)
  let kept :=
    (body.filter fun c => c.toNat < 128 && c != ' ' && c != '_' && c != '-').map Char.toLower
  if isPrefixed && kept == ['c'] then "isc" else String.ofList kept

/-- The binary properties, by normalised name. -/
def binary? : String → Option Property
  | "ahex" | "asciihexdigit" => some (inRanges asciiHexDigit)
  | "alpha" | "alphabetic" => some isAlphabetic
  | "bidic" | "bidicontrol" => some (inRanges bidiControl)
  | "bidim" | "bidimirrored" => some (inRanges bidiMirrored)
  | "ci" | "caseignorable" => some isCaseIgnorable
  | "cased" => some isCased
  | "cwcf" | "changeswhencasefolded" => some changesWhenCasefolded
  | "cwcm" | "changeswhencasemapped" => some changesWhenCasemapped
  | "cwl" | "changeswhenlowercased" => some changesWhenLowercased
  | "cwt" | "changeswhentitlecased" => some changesWhenTitlecased
  | "cwu" | "changeswhenuppercased" => some changesWhenUppercased
  | "dash" => some (inRanges dash)
  | "di" | "defaultignorablecodepoint" => some (inRanges defaultIgnorableCodePoint)
  | "dep" | "deprecated" => some (inRanges deprecated)
  | "dia" | "diacritic" => some (inRanges diacritic)
  | "emoji" => some (inRanges emoji)
  | "ecomp" | "emojicomponent" => some (inRanges emojiComponent)
  | "emod" | "emojimodifier" => some (inRanges emojiModifier)
  | "ebase" | "emojimodifierbase" => some (inRanges emojiModifierBase)
  | "epres" | "emojipresentation" => some (inRanges emojiPresentation)
  | "extpict" | "extendedpictographic" => some (inRanges extendedPictographic)
  | "ext" | "extender" => some (inRanges extender)
  | "grbase" | "graphemebase" => some isGraphemeBase
  | "grext" | "graphemeextend" => some isGraphemeExtend
  | "grlink" | "graphemelink" => some (inRanges graphemeLink)
  | "hex" | "hexdigit" => some (inRanges hexDigit)
  | "hyphen" => some (inRanges hyphen)
  | "idsb" | "idsbinaryoperator" => some (inRanges idsBinaryOperator)
  | "idst" | "idstrinaryoperator" => some (inRanges idsTrinaryOperator)
  | "idc" | "idcontinue" => some isIdContinue
  | "ids" | "idstart" => some isIdStart
  | "ideo" | "ideographic" => some (inRanges ideographic)
  | "joinc" | "joincontrol" => some (inRanges joinControl)
  | "loe" | "logicalorderexception" => some (inRanges logicalOrderException)
  | "lower" | "lowercase" => some isLowercase
  | "math" => some isMath
  | "nchar" | "noncharactercodepoint" => some (inRanges noncharacterCodePoint)
  | "oalpha" | "otheralphabetic" => some (inRanges otherAlphabetic)
  | "odi" | "otherdefaultignorablecodepoint" => some (inRanges otherDefaultIgnorableCodePoint)
  | "ogrext" | "othergraphemeextend" => some (inRanges otherGraphemeExtend)
  | "oidc" | "otheridcontinue" => some (inRanges otherIdContinue)
  | "oids" | "otheridstart" => some (inRanges otherIdStart)
  | "olower" | "otherlowercase" => some (inRanges otherLowercase)
  | "omath" | "othermath" => some (inRanges otherMath)
  | "oupper" | "otheruppercase" => some (inRanges otherUppercase)
  | "patsyn" | "patternsyntax" => some (inRanges patternSyntax)
  | "patws" | "patternwhitespace" => some (inRanges patternWhiteSpace)
  | "pcm" | "prependedconcatenationmark" => some (inRanges prependedConcatenationMark)
  | "qmark" | "quotationmark" => some (inRanges quotationMark)
  | "radical" => some (inRanges radical)
  | "ri" | "regionalindicator" => some (inRanges regionalIndicator)
  | "sterm" | "sentenceterminal" => some (inRanges sentenceTerminal)
  | "sd" | "softdotted" => some (inRanges softDotted)
  | "term" | "terminalpunctuation" => some (inRanges terminalPunctuation)
  | "uideo" | "unifiedideograph" => some (inRanges unifiedIdeograph)
  | "upper" | "uppercase" => some isUppercase
  | "vs" | "variationselector" => some (inRanges variationSelector)
  | "space" | "wspace" | "whitespace" => some Text.isSpace
  | "xidc" | "xidcontinue" => some isXidContinue
  | "xids" | "xidstart" => some isXidStart
  | _ => none

/-- The general categories and their groups, by normalised name. -/
def category? : String → Option Property
  | "any" => some fun _ => true
  | "assigned" => some fun c => Category.ofChar c != .Cn
  | "ascii" => some fun c => c.toNat < 128
  | name => (Category.named? name).map inCategories

/-- The scripts, by normalised name. -/
def script? (name : String) : Option Property :=
  (scripts.find? fun entry =>
      (entry.name :: entry.aliases).any fun n => normalizeName n.toList == name).map fun entry =>
    inRanges (Ranges.ofHex entry.ranges)

/-- The property of a name that stands alone: a binary property, a general category or a
script. -/
def named? (name : Text) : Option Property :=
  let key := normalizeName name
  (binary? key).or ((category? key).or (script? key))

/-- The property of a name and a value, such as the script `Greek`. -/
def valued? (name value : Text) : Option Property :=
  match normalizeName name with
  | "gc" | "generalcategory" => category? (normalizeName value)
  | "sc" | "script" => script? (normalizeName value)
  | _ => none

end SourceAtlas.Unicode
