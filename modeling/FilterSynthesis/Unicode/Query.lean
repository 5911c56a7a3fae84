import FilterSynthesis.Unicode.Break
import FilterSynthesis.Unicode.Property
import FilterSynthesis.Unicode.Script
import FilterSynthesis.Unicode.Version

/-!
Sets of characters by the names that the Unicode standard has for categories, properties, scripts
and versions. What is asked for is answered as in version 16.0.
-/

namespace FilterSynthesis.Unicode

def knownVersions : List Version := Version.every.filter fun version => version.major < 17

def tooNew : CharSet :=
  Version.charsOf (Version.every.filter fun version => 17 ≤ version.major)

def known (set : CharSet) : CharSet := set \ tooNew

def unassigned : CharSet := (known assigned).complement

/-- A name in small letters, with nothing between the words and without an `is` in front. Names
are of ASCII characters; others count for nothing. -/
def plainName (name : String) : String :=
  let chars := name.toList
  let led := (chars.take 2).map Char.toLower == ['i', 's']
  let kept := (if led then chars.drop 2 else chars).filter fun char =>
    char.toNat < 0x80 && char != ' ' && char != '_' && char != '-'
  let plain := String.ofList (kept.map Char.toLower)
  if led && plain == "c" then "isc" else plain

def Category.named? : String → Option (List Category)
  | "lu" | "uppercaseletter" => some [.uppercaseLetter]
  | "ll" | "lowercaseletter" => some [.lowercaseLetter]
  | "lt" | "titlecaseletter" => some [.titlecaseLetter]
  | "lc" | "casedletter" => some [.uppercaseLetter, .lowercaseLetter, .titlecaseLetter]
  | "lm" | "modifierletter" => some [.modifierLetter]
  | "lo" | "otherletter" => some [.otherLetter]
  | "l" | "letter" => some letters
  | "mn" | "nonspacingmark" => some [.nonspacingMark]
  | "mc" | "spacingmark" => some [.spacingMark]
  | "me" | "enclosingmark" => some [.enclosingMark]
  | "m" | "mark" | "combiningmark" => some marks
  | "nd" | "decimalnumber" | "digit" => some [.decimalNumber]
  | "nl" | "letternumber" => some [.letterNumber]
  | "no" | "othernumber" => some [.otherNumber]
  | "n" | "number" => some numbers
  | "pc" | "connectorpunctuation" => some [.connectorPunctuation]
  | "pd" | "dashpunctuation" => some [.dashPunctuation]
  | "ps" | "openpunctuation" => some [.openPunctuation]
  | "pe" | "closepunctuation" => some [.closePunctuation]
  | "pi" | "initialpunctuation" => some [.initialPunctuation]
  | "pf" | "finalpunctuation" => some [.finalPunctuation]
  | "po" | "otherpunctuation" => some [.otherPunctuation]
  | "p" | "punctuation" | "punct" => some punctuation
  | "sm" | "mathsymbol" => some [.mathSymbol]
  | "sc" | "currencysymbol" => some [.currencySymbol]
  | "sk" | "modifiersymbol" => some [.modifierSymbol]
  | "so" | "othersymbol" => some [.otherSymbol]
  | "s" | "symbol" => some symbols
  | "zs" | "spaceseparator" => some [.spaceSeparator]
  | "zl" | "lineseparator" => some [.lineSeparator]
  | "zp" | "paragraphseparator" => some [.paragraphSeparator]
  | "z" | "separator" => some separators
  | "cc" | "control" | "cntrl" => some [.control]
  | "cf" | "format" => some [.format]
  | "co" | "privateuse" => some [.privateUse]
  | _ => none

def charsOfCategory? : (name : String) → Option CharSet
  | "any" => some .all
  | "ascii" => some .ascii
  | "assigned" => some (known assigned)
  | "cn" | "unassigned" => some unassigned
  | "c" | "other" => some (known (Category.charsOf Category.controls) ∪ unassigned)
  | name => (Category.named? name).map fun categories => known (Category.charsOf categories)

/-- The characters with a property. Some properties are settled for codes without a character,
too, and are not touched by later versions. -/
def charsOfProperty? (name : String) : Option CharSet :=
  match name with
  | "patsyn" | "patternsyntax" | "nchar" | "noncharactercodepoint" | "di"
  | "defaultignorablecodepoint" | "extpict" | "extendedpictographic" => Property.named? name
  | _ => (Property.named? name).map known

def charsOfScript? (name : String) : Option CharSet :=
  (Script.named? name).map fun script => known script.chars

/-- A name, or the name of something with several values and one of the values. -/
structure Query where
  name : String
  value : Option String
  deriving DecidableEq, Repr

namespace Query

def chars? (query : Query) : Option CharSet :=
  let name := plainName query.name
  match query.value.map plainName with
  | none =>
      (charsOfProperty? name).or ((charsOfCategory? name).or (charsOfScript? name))
  | some value =>
      match name with
      | "gc" | "generalcategory" => charsOfCategory? value
      | "sc" | "script" => charsOfScript? value
      | "scx" | "scriptextensions" =>
          (Script.named? value).map fun script => known script.used
      | "gcb" | "graphemeclusterbreak" => (Break.cluster? value).map known
      | "wb" | "wordbreak" => (Break.word? value).map known
      | "sb" | "sentencebreak" => (Break.sentence? value).map known
      | "age" => (Version.upTo? value knownVersions).map Version.charsOf
      | _ => none

end Query

end FilterSynthesis.Unicode
