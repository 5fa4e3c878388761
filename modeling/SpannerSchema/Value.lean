import SpannerSchema.Column
import SpannerSchema.KeyUsage
import SpannerSchema.Number.Binary64

/-! Values of rows: what the source database and data files hold. Rows come in several forms, and a record keeps
    the order of its fields. -/

namespace SpannerSchema

/-- A value. `record` is a row by field names, `object` a row by attributes; `described` and `usage` are rows
that have been validated before. -/
inductive Value where
  | null
  | bool (b : Bool)
  | int (n : Int)
  | float (x : Binary64)
  | decimal (d : Decimal)
  | text (s : String)
  | bytes (bs : List UInt8)
  | list (items : List Value)
  | record (fields : List (String × Value))
  | object (attributes : List (String × Value))
  | described (row : DescribedRow)
  | usage (row : KeyUsage)
deriving Repr, Inhabited

namespace Value

/-- A text, or null where there is none. -/
def ofText? : Option String → Value
  | some s => text s
  | none => null

/-- The fields of a validated row of a table description. -/
def describedFields (r : DescribedRow) : List (String × Value) :=
  [("Field", text r.name), ("Type", text r.type), ("Null", text (if r.nullable then "YES" else "NO")),
    ("Key", ofText? r.key), ("Default", ofText? r.initial), ("Extra", ofText? r.extra)]

/-- The fields of a validated key usage row. -/
def usageFields (k : KeyUsage) : List (String × Value) :=
  [("TABLE_NAME", text k.table), ("COLUMN_NAME", text k.column), ("CONSTRAINT_NAME", text k.constraint),
    ("REFERENCED_TABLE_NAME", ofText? k.referencedTable), ("REFERENCED_COLUMN_NAME", ofText? k.referencedColumn)]

/-- Does a value count as true? Null, false, zero and what is empty do not. -/
def countsAsTrue : Value → Bool
  | null => false
  | bool b => b
  | int n => n != 0
  | float x => !x.isZero
  | decimal d => !d.isZero
  | text s => !s.isEmpty
  | bytes bs => !bs.isEmpty
  | list items => !items.isEmpty
  | record fields => !fields.isEmpty
  | object _ | described _ | usage _ => true

/-- The key marker that a value stands for: null marks nothing, and only a text names a marker. -/
def keyMarker? : Value → Option KeyMarker
  | null => some .unmarked
  | text s => KeyMarker.ofText? s
  | _ => none

/-- The fields of a row; none for a value that is not a row. -/
def fields? : Value → Option (List (String × Value))
  | record fields => some fields
  | object attributes => some attributes
  | described r => some (describedFields r)
  | usage k => some (usageFields k)
  | _ => none

/-- The fields with the value of `name` set: at the place of the field of that name, else at the end. -/
def setField (fields : List (String × Value)) (name : String) (v : Value) : List (String × Value) :=
  if fields.any fun f => f.1 == name then fields.map fun f => if f.1 == name then (name, v) else f
  else fields ++ [(name, v)]

end Value
end SpannerSchema
