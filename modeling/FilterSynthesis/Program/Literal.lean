namespace FilterSynthesis

inductive Literal where
  | bool (value : Bool)
  | int (value : Int64)
  | str (value : String)
  deriving DecidableEq, Repr

structure Constants where
  bools : List Bool
  ints : List Int64
  strs : List String
  deriving DecidableEq, Repr

namespace Constants

def ofLiterals : List Literal → Constants
  | [] => ⟨[], [], []⟩
  | literal :: rest =>
      let constants := ofLiterals rest
      match literal with
      | .bool value => { constants with bools := value :: constants.bools }
      | .int value => { constants with ints := value :: constants.ints }
      | .str value => { constants with strs := value :: constants.strs }

def boolLiterals (constants : Constants) : List Literal := constants.bools.map .bool

def intLiterals (constants : Constants) : List Literal := constants.ints.map .int

def strLiterals (constants : Constants) : List Literal := constants.strs.map .str

def all (constants : Constants) : List Literal :=
  constants.boolLiterals ++ constants.intLiterals ++ constants.strLiterals

end Constants

end FilterSynthesis
