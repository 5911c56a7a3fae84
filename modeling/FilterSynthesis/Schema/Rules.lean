import FilterSynthesis.Schema.Basic
import FilterSynthesis.Program.Basic

/-!
Which operators make sense on a value of a given schema, in the order in which they are tried, and
what they lead to.
-/

namespace FilterSynthesis

structure Rule where
  operator : Operator
  output : Schema

namespace Schema

def comparable (constants : Constants) : Schema → List Literal
  | .bool => constants.boolLiterals
  | .int => constants.intLiterals
  | .str => constants.strLiterals
  | .any => constants.all
  | _ => []

def fieldRules (constants : Constants) (dict : Schema) (key : String) (field : Schema) :
    List Rule :=
  ⟨.index key, field⟩ ::
    (field.comparable constants).map fun literal => ⟨.select key literal, dict⟩

def elementRules (list : Schema) : Schema → List Rule
  | .bool => [⟨.all, .bool⟩, ⟨.any, .bool⟩]
  | .any => [⟨.all, .bool⟩, ⟨.any, .bool⟩]
  | .dict fields _ =>
      (Entries.keys fields).flatMap fun key => [⟨.groupBy key, .list list⟩, ⟨.sortBy key, list⟩]
  | _ => []

def rules (constants : Constants) : Schema → List Rule
  | .dict fields values =>
      (fields.flatMap fun entry => fieldRules constants (.dict fields values) entry.1 entry.2) ++
        [⟨.forEach, values⟩, ⟨.keys, .list .str⟩]
  | .list element =>
      elementRules (.list element) element ++ [⟨.forEach, element⟩, ⟨.sort, .list element⟩]
  | _ => []

end Schema

end FilterSynthesis
