import SpannerSchema.ColumnType.Keyword
import SpannerSchema.CompileError
import SpannerSchema.Number.Numeral

/-! Column types of the target: which keyword is of which kind, and how each kind is written. -/

namespace SpannerSchema

/-- A kind of column type of the target, with the rule for its size. -/
inductive TypeKind where
  | string
  | text
  | longText
  | numeric
  | float64
  | bool
  | tinyint
  | int64
  | date
  | timestamp
  | time
  | enumeration
  | year
  | set
  | blob
  | tinyblob
  | bytes
  | unsupported
deriving DecidableEq, Repr

/-- A column type of the target as it is written, with the options that follow it. -/
structure TargetType where
  fragment : String
  options : Option String := none
deriving DecidableEq, Repr

namespace TypeKind

/-- The keywords of 64-bit integers, each of which may be qualified as unsigned. -/
def integerKeywords : List String :=
  ["int", "integer", "smallint", "mediumint", "bigint", "smallinteger", "mediuminteger", "biginteger"]

/-- The keywords of shapes, which the target keeps as text. -/
def shapeKeywords : List String :=
  ["geometry", "geometrycollection", "point", "linestring", "polygon", "multipoint", "multipolygon"]

/-- Every keyword with the kind of its type. -/
def keywords : List (String × TypeKind) :=
  [ ("char", string), ("varchar", string), ("tinytext", string), ("text", text), ("mediumtext", longText),
    ("longtext", longText), ("json", longText), ("decimal", numeric), ("double", float64), ("float", float64),
    ("bool", bool), ("boolean", bool), ("tinyint", tinyint), ("tinyintunsigned", tinyint), ("date", date),
    ("datetime", timestamp), ("timestamp", timestamp), ("time", time), ("enum", enumeration), ("year", year),
    ("set", set), ("blob", blob), ("tinyblob", tinyblob), ("mediumblob", bytes), ("longblob", bytes),
    ("varbinary", bytes), ("binary", bytes) ]
  ++ integerKeywords.map (·, int64)
  ++ integerKeywords.map (fun k => (k ++ "unsigned", int64))
  ++ shapeKeywords.map (·, unsupported)

/-- The kind that a keyword names by itself. -/
def named? (keyword : String) : Option TypeKind := keywords.lookup keyword

/-- The keyword without the qualifier at its end. -/
def unqualified? (keyword : String) : Option String :=
  let cs := keyword.toList
  if Keyword.unsigned.isSuffixOf cs then
    some (String.ofList (cs.take (cs.length - Keyword.unsigned.length)))
  else none

/-- The kind of a keyword: the one that it names, or the one named without one qualifier at its end. -/
def resolve? (keyword : String) : Option TypeKind :=
  match named? keyword with
  | some kind => some kind
  | none => (unqualified? keyword).bind named?

/-- A text type of the given length, where an empty one stands for the usual length. -/
def stringOf (size : Option String) : String :=
  match size with
  | some s => if s.isEmpty then "STRING(255)" else "STRING(" ++ s ++ ")"
  | none => "STRING(255)"

/-- A binary type of the given length. -/
def bytesOf (size : Option String) (usual : Int) : Except CompileError String :=
  match size with
  | some s =>
    if s.isEmpty then .ok ("BYTES(" ++ String.ofList (Numeral.ofInt usual) ++ ")")
    else
      match Numeral.toInt? s.toList with
      | some n => .ok ("BYTES(" ++ String.ofList (Numeral.ofInt n) ++ ")")
      | none => .error (.malformedSize s)
  | none => .ok ("BYTES(" ++ String.ofList (Numeral.ofInt usual) ++ ")")

/-- Is the size that of a truth value? -/
def isOne (size : Option String) : Bool :=
  match size with
  | some s => Text.strip Text.isBlank s.toList == ['1']
  | none => false

/-- The option of a column that is set to the time of its commit. -/
def commitTimestamp : String := " OPTIONS (allow_commit_timestamp=true)"

/-- A type of the kind, with the size in its parameter list and the initial value of its column. -/
def render (size initial : Option String) : TypeKind → Except CompileError TargetType
  | string => .ok ⟨stringOf size, none⟩
  | text => .ok ⟨"STRING(65535)", none⟩
  | longText => .ok ⟨"STRING(2621440)", none⟩
  | numeric => .ok ⟨"NUMERIC", none⟩
  | float64 => .ok ⟨"FLOAT64", none⟩
  | bool => .ok ⟨"BOOL", none⟩
  | tinyint => .ok ⟨if isOne size then "BOOL" else "INT64", none⟩
  | int64 => .ok ⟨"INT64", none⟩
  | date => .ok ⟨"DATE", none⟩
  | timestamp => .ok ⟨"TIMESTAMP", if initial == some "CURRENT_TIMESTAMP" then some commitTimestamp else none⟩
  | time => .ok ⟨"STRING(50)", none⟩
  | enumeration => .ok ⟨"STRING(255)", none⟩
  | year => .ok ⟨"STRING(4)", none⟩
  | set => .ok ⟨"ARRAY<STRING(255)>", none⟩
  | blob => (bytesOf size 65535).map (⟨·, none⟩)
  | tinyblob => (bytesOf size 255).map (⟨·, none⟩)
  | bytes => (bytesOf size 10485760).map (⟨·, none⟩)
  | unsupported => .ok ⟨"STRING(1000)", none⟩

end TypeKind

namespace SourceType

/-- The keyword of a source type. -/
def keyword (type : String) : String := String.ofList (Keyword.ofType type.toList)

/-- The keyword of a source type without its qualifier. -/
def bareKeyword (type : String) : String := String.ofList (Keyword.bare type.toList)

/-- The text of the first parameter list of a source type. -/
def size? (type : String) : Option String := (ParameterList.first? type.toList).map String.ofList

/-- The target type of a source type. -/
def toTarget (type : String) (initial : Option String) : Except CompileError TargetType :=
  match TypeKind.resolve? (keyword type) with
  | some kind => kind.render (size? type) initial
  | none => .error (.unmappedType type)

/-- Are values of the source type converted to decimals? -/
def isNumeric (type : String) : Bool := bareKeyword type == "decimal"

end SourceType
end SpannerSchema
