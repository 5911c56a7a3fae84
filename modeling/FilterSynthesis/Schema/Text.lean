import FilterSynthesis.Schema.Basic

namespace FilterSynthesis.Schema

/-! The text of a schema for readers: the fields of a dict in braces, then what they have in common
in braces. -/

mutual

def text : Schema → String
  | .none => "None"
  | .any => "Any"
  | .bool => "Bool"
  | .int => "Int"
  | .str => "Str"
  | .list element => "List[" ++ element.text ++ "]"
  | .dict fields values =>
      "Dict\x7b" ++ textOfFields fields ++ "\x7d\x7b" ++ values.text ++ "\x7d"

def textOfFields : List (String × Schema) → String
  | [] => ""
  | [(key, field)] => key ++ ": " ++ field.text
  | (key, field) :: rest => key ++ ": " ++ field.text ++ ", " ++ textOfFields rest

end

/-! The JSON form of a schema: an object that names its kind under `type`. -/

mutual

def toJson : Schema → Json
  | .none => .object [("type", .string "none")]
  | .any => .object [("type", .string "any")]
  | .bool => .object [("type", .string "bool")]
  | .int => .object [("type", .string "int")]
  | .str => .object [("type", .string "str")]
  | .list element => .object [("type", .string "list"), ("elem", element.toJson)]
  | .dict fields values =>
      .object [("type", .string "dict"), ("fields", .object (toJsonFields fields)),
        ("values", values.toJson)]

def toJsonFields : List (String × Schema) → List (String × Json)
  | [] => []
  | (key, field) :: rest => (key, field.toJson) :: toJsonFields rest

end

end FilterSynthesis.Schema
