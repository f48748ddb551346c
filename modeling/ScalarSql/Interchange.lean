import ScalarSql.Analysis.Limits
import ScalarSql.Catalog.Table
import ScalarSql.Json.Quoted
import ScalarSql.Json.Reader

/-!
Types, columns and limits as JSON texts. A record is an object with the fields as members, or an
array of the fields in their order. Members of other names are passed over; a field may not occur
twice.
-/
namespace ScalarSql

/-- The values of the fields of a record, `none` for a field that is left out. -/
def recordFields? (fields : List String) : Json → Option (List (Option Json))
  | .object members => do
    guard (Json.named members)
    fields.mapM fun field =>
      match Json.valuesOf field members with
      | [] => some none
      | [value] => some (some value)
      | _ => none
  | .array items => do
    guard (items.length ≤ fields.length)
    return items.map some ++ List.replicate (fields.length - items.length) none
  | _ => none

def writeRecord (fields : List (String × String)) : String :=
  "\x7b" ++ ",".intercalate (fields.map fun (name, value) => Json.quoted name ++ ":" ++ value)
    ++ "\x7d"

namespace DataType

def jsonName : DataType → String
  | invalid => "Invalid"
  | null => "Null"
  | boolean => "Boolean"
  | tinyInt => "TinyInt"
  | smallInt => "SmallInt"
  | int => "Int"
  | bigInt => "BigInt"
  | float => "Float"
  | double => "Double"
  | date => "Date"
  | dateTime => "DateTime"
  | timestamp => "Timestamp"
  | string => "String"

def ofJsonName? (s : String) : Option DataType := all.find? (·.jsonName == s)

/-- The name of the type, or an object with the name as its only member and no value. -/
def ofJson? : Json → Option DataType
  | .string text => text.bind ofJsonName?
  | .object [(name, .null)] => name.bind ofJsonName?
  | _ => none

def jsonText (t : DataType) : String := Json.quoted t.jsonName

end DataType

namespace Column

/-- All fields are required. -/
def ofJson? (value : Json) : Option Column := do
  let [some name, some ty, some position] ← recordFields? ["name", "ty", "position"] value
    | none
  return {
    name := ← name.text?
    ty := ← DataType.ofJson? ty
    position := UInt32.ofNat (← position.naturalBelow? UInt32.size) }

def jsonText (c : Column) : String :=
  writeRecord [("name", Json.quoted c.name), ("ty", c.ty.jsonText),
    ("position", toString c.position.toNat)]

end Column

namespace Limits

/-- A field that is left out has its default. -/
def ofJson? (value : Json) : Option Limits := do
  let [depth, children] ← recordFields? ["max_expr_depth", "max_expr_children"] value | none
  let limit (default : Nat) : Option Json → Option Nat
    | none => some default
    | some value => value.naturalBelow? UInt64.size
  return {
    maxDepth := ← limit ({} : Limits).maxDepth depth
    maxChildren := ← limit ({} : Limits).maxChildren children }

def jsonText (limits : Limits) : String :=
  writeRecord [("max_expr_depth", toString limits.maxDepth),
    ("max_expr_children", toString limits.maxChildren)]

end Limits
end ScalarSql
