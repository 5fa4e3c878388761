import SpannerSchema.Number.Binary64.Shortest
import SpannerSchema.Text.Quoted
import SpannerSchema.Value

/-! The text of a value. A text shows as itself, and quoted inside a list or a record. -/

namespace SpannerSchema
namespace Value
open Text

/-- The texts `parts` with `separator` between them. -/
def joined (separator : List Char) (parts : List (List Char)) : List Char :=
  (parts.intersperse separator).flatten

/-- A text in quotes, or the word for none. -/
def quotedText? : Option String → List Char
  | some s => quoted s.toList
  | none => "None".toList

/-- The attributes of a validated row of a table description, each with its quoted value. -/
def describedParts (r : DescribedRow) : List (List Char) :=
  [ "name=".toList ++ quoted r.name.toList, "type=".toList ++ quoted r.type.toList,
    "null=".toList ++ quoted (if r.nullable then "YES" else "NO").toList,
    "key=".toList ++ quotedText? r.key, "default=".toList ++ quotedText? r.initial,
    "extra=".toList ++ quotedText? r.extra ]

/-- The attributes of a validated key usage row, each with its quoted value. -/
def usageParts (k : KeyUsage) : List (List Char) :=
  [ "table_name=".toList ++ quoted k.table.toList, "column_name=".toList ++ quoted k.column.toList,
    "constraint_name=".toList ++ quoted k.constraint.toList,
    "referenced_table_name=".toList ++ quotedText? k.referencedTable,
    "referenced_column_name=".toList ++ quotedText? k.referencedColumn ]

mutual

/-- A value as it appears in a message, a list or a record. -/
def quotedChars : Value → List Char
  | null => "None".toList
  | bool b => if b then "True".toList else "False".toList
  | int n => Numeral.ofInt n
  | float x => x.chars
  | decimal d => "Decimal('".toList ++ d.chars ++ "')".toList
  | text s => quoted s.toList
  | bytes bs => quotedBytes bs
  | list items => '[' :: (joined [',', ' '] (quotedItems items) ++ [']'])
  | record fields => '\x7b' :: (joined [',', ' '] (quotedFields fields) ++ ['\x7d'])
  | object attributes => "namespace(".toList ++ joined [',', ' '] (quotedAttributes attributes) ++ [')']
  | described r => "DescribedColumnModel(".toList ++ joined [',', ' '] (describedParts r) ++ [')']
  | usage k => "KeyUsageModel(".toList ++ joined [',', ' '] (usageParts k) ++ [')']

/-- The items of a list, each quoted. -/
def quotedItems : List Value → List (List Char)
  | [] => []
  | v :: rest => quotedChars v :: quotedItems rest

/-- The fields of a record, each with its quoted name before its value. -/
def quotedFields : List (String × Value) → List (List Char)
  | [] => []
  | (name, v) :: rest => (quoted name.toList ++ ':' :: ' ' :: quotedChars v) :: quotedFields rest

/-- The attributes of an object that have a name, each with its quoted value. -/
def quotedAttributes : List (String × Value) → List (List Char)
  | [] => []
  | (name, v) :: rest =>
    if name.isEmpty then quotedAttributes rest
    else (name.toList ++ '=' :: quotedChars v) :: quotedAttributes rest

end

/-- A value as it appears in a message. -/
def quotedText (v : Value) : String := String.ofList (quotedChars v)

/-- The text of a value. -/
def display : Value → String
  | text s => s
  | decimal d => d.text
  | described r => String.ofList (joined [' '] (describedParts r))
  | usage k => String.ofList (joined [' '] (usageParts k))
  | v => quotedText v

end Value
end SpannerSchema
