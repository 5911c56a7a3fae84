import FilterSynthesis.Regex.Meaning
import FilterSynthesis.Regex.Parser
import FilterSynthesis.Regex.Size

namespace FilterSynthesis.Regex

def depthLimit : Nat := 250

/-- A phrase that keeps to the limits: not nested too deep, and with no name for two groups. -/
def Phrase.isSound (phrase : Phrase) : Bool :=
  phrase.depth .none ≤ depthLimit && phrase.names.eraseDups.length == phrase.names.length

def ofText? (text : String) : Option Regex := do
  let phrase ← Phrase.ofText? text
  if !phrase.isSound then none
  else
    let (regex, _) ← phrase.meaning? {}
    if regex.isSmall then some regex else none

end FilterSynthesis.Regex
