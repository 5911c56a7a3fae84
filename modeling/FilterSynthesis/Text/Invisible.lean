import FilterSynthesis.Unicode.Property

namespace FilterSynthesis.Text

open Unicode

/-- All characters but letters, marks, numbers, punctuation, symbols and the space; besides, those
that extend the character in front and those that are not meant to be seen. -/
def invisibleChars : CharSet :=
  (Category.charsOf (Category.letters ++ Category.marks ++ Category.numbers ++
    Category.punctuation ++ Category.symbols)).complement \ .single ' ' ∪
    Property.graphemeExtend ∪ Property.defaultIgnorable

end FilterSynthesis.Text
