import FilterSynthesis.Json.Basic

namespace FilterSynthesis

inductive Filter where
  | identity
  | index (key : String)
  /-- The elements of an array or the values of an object. -/
  | iterate
  | literal (value : Json)
  | all
  | any
  | keys
  | sort
  | select (condition : Filter)
  | sortBy (key : Filter)
  | groupBy (key : Filter)
  | equals (filter : Filter) (value : Json)
  | pipe (first second : Filter)
  | record (entries : List (String × Filter))
  /-- A call of a name that stands for nothing at this number of arguments. -/
  | unknown (name : String) (arguments : List Filter)
  deriving Repr, Inhabited

namespace Filter

def ofCall (name : String) (arguments : List Filter) : Filter :=
  match arguments with
  | [] =>
      if name = "all" then .all
      else if name = "any" then .any
      else if name = "keys" then .keys
      else if name = "sort" then .sort
      else .unknown name []
  | [argument] =>
      if name = "select" then .select argument
      else if name = "sort_by" then .sortBy argument
      else if name = "group_by" then .groupBy argument
      else .unknown name [argument]
  | _ => .unknown name arguments

def thenParts (filter : Filter) (parts : List Filter) : Filter := parts.foldl .pipe filter

/-! The unknown names of a filter with their numbers of arguments, from left to right and arguments
before the name that they are given to. -/

mutual

def unknownNames : Filter → List (String × Nat)
  | .select condition => condition.unknownNames
  | .sortBy key => key.unknownNames
  | .groupBy key => key.unknownNames
  | .equals filter _ => filter.unknownNames
  | .pipe first second => first.unknownNames ++ second.unknownNames
  | .record entries => unknownNamesOfEntries entries
  | .unknown name arguments => unknownNamesOfList arguments ++ [(name, arguments.length)]
  | _ => []

def unknownNamesOfList : List Filter → List (String × Nat)
  | [] => []
  | filter :: rest => filter.unknownNames ++ unknownNamesOfList rest

def unknownNamesOfEntries : List (String × Filter) → List (String × Nat)
  | [] => []
  | (_, filter) :: rest => filter.unknownNames ++ unknownNamesOfEntries rest

end

end Filter

end FilterSynthesis
