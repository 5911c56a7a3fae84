import FilterSynthesis.Unicode.Query

namespace FilterSynthesis.Text

open Unicode

def wordChars : CharSet :=
  known (Property.alphabetic ∪ Property.joinControl ∪
    Category.charsOf (.decimalNumber :: .connectorPunctuation :: Category.marks))

def digitChars : CharSet := known (Category.chars .decimalNumber)

def blankChars : CharSet := Property.whitespace

end FilterSynthesis.Text
