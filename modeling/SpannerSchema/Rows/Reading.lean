import SpannerSchema.Rows.Issue
import SpannerSchema.Value.Display

/-! Reading the rows of a table description and of its key usage. Each row is read on its own; the first one with
    an issue ends the reading, and all its issues are reported: those of the expected fields in their order, then
    the unknown fields in the order of the row. -/

namespace SpannerSchema
namespace Rows

/-- The text of a value; bytes count as the text they encode. -/
def readText : Value → Except IssueKind String
  | .text s => .ok s
  | .bytes bs =>
    match String.fromUTF8? ⟨bs.toArray⟩ with
    | some s => .ok s
    | none => .error .notUnicode
  | _ => .error .notText

/-- The text of a value that may be null. -/
def readText? : Value → Except IssueKind (Option String)
  | .null => .ok none
  | v => (readText v).map some

/-- The answer of a value to a question. -/
def readYesNo : Value → Except IssueKind Bool
  | .text s => if s == "YES" then .ok true else if s == "NO" then .ok false else .error .notYesNo
  | _ => .error .notYesNo

/-- An initial value: null, or the text of any other value. -/
def readInitial : Value → Except IssueKind (Option String)
  | .null => .ok none
  | v => .ok (some v.display)

/-- The value of a field, as `read` takes it. -/
def field {α : Type} (fields : List (String × Value)) (read : Value → Except IssueKind α) (name : String) :
    Except Issue α :=
  match fields.lookup name with
  | none => .error ⟨name, .missing⟩
  | some v =>
    match read v with
    | .ok a => .ok a
    | .error kind => .error ⟨name, kind⟩

/-- The issue of a field that could not be read. -/
def issue {α : Type} : Except Issue α → List Issue
  | .ok _ => []
  | .error i => [i]

/-- The issues of fields that no row of the shape has. -/
def unknown (known : List String) (fields : List (String × Value)) : List Issue :=
  (fields.filter fun f => !known.contains f.1).map fun f => ⟨f.1, .unknown⟩

def describedNames : List String := ["Field", "Type", "Null", "Key", "Default", "Extra"]

/-- The row of a table description with the given fields, or all that is wrong with them. -/
def readDescribed (fields : List (String × Value)) : Except (List Issue) DescribedRow :=
  let name := field fields readText "Field"
  let type := field fields readText "Type"
  let nullable := field fields readYesNo "Null"
  let key := field fields readText? "Key"
  let initial := field fields readInitial "Default"
  let extra := field fields readText? "Extra"
  let extras := unknown describedNames fields
  match name, type, nullable, key, initial, extra, extras with
  | .ok name, .ok type, .ok nullable, .ok key, .ok initial, .ok extra, [] =>
    .ok { name, type, nullable, key, initial, extra }
  | _, _, _, _, _, _, _ =>
    .error (issue name ++ issue type ++ issue nullable ++ issue key ++ issue initial ++ issue extra ++ extras)

def usageNames : List String :=
  ["TABLE_NAME", "COLUMN_NAME", "CONSTRAINT_NAME", "REFERENCED_TABLE_NAME", "REFERENCED_COLUMN_NAME"]

/-- The key usage record with the given fields, or all that is wrong with them. -/
def readUsage (fields : List (String × Value)) : Except (List Issue) KeyUsage :=
  let table := field fields readText "TABLE_NAME"
  let column := field fields readText "COLUMN_NAME"
  let constraint := field fields readText "CONSTRAINT_NAME"
  let referencedTable := field fields readText? "REFERENCED_TABLE_NAME"
  let referencedColumn := field fields readText? "REFERENCED_COLUMN_NAME"
  let extras := unknown usageNames fields
  match table, column, constraint, referencedTable, referencedColumn, extras with
  | .ok table, .ok column, .ok constraint, .ok referencedTable, .ok referencedColumn, [] =>
    .ok { table, column, constraint, referencedTable, referencedColumn }
  | _, _, _, _, _, _ =>
    .error (issue table ++ issue column ++ issue constraint ++ issue referencedTable ++ issue referencedColumn
      ++ extras)

/-- The items of a value that holds several: a list has its items, and a record, or a validated row, names or
pairs that are no rows themselves. -/
def items? : Value → Option (List Value)
  | .list vs => some vs
  | .record fields => some (fields.map fun f => .text f.1)
  | .described r => some ((Value.describedFields r).map fun f => .list [.text f.1, f.2])
  | .usage k => some ((Value.usageFields k).map fun f => .list [.text f.1, f.2])
  | _ => none

/-- What `read` makes of each row, the first of which has the number `row`. -/
def readFrom {α : Type} (origin : RowOrigin) (read : List (String × Value) → Except (List Issue) α) (row : Nat) :
    List Value → Except RowError (List α)
  | [] => .ok []
  | v :: rest =>
    match v.fields? with
    | none => .error (.notRecord origin row)
    | some fields =>
      match read fields with
      | .error issues => .error (.malformed origin row issues)
      | .ok a =>
        match readFrom origin read (row + 1) rest with
        | .error e => .error e
        | .ok as => .ok (a :: as)

/-- What `read` makes of each row of `rows`. -/
def readAll {α : Type} (origin : RowOrigin) (read : List (String × Value) → Except (List Issue) α) (rows : Value) :
    Except RowError (List α) :=
  match items? rows with
  | none => .error (.notRows origin)
  | some vs => readFrom origin read 0 vs

/-- The columns of a table description. -/
def columns (rows : Value) : Except RowError (List Column) :=
  (readAll .describedTable readDescribed rows).map (·.map DescribedRow.column)

/-- The records of a key usage. -/
def keyUsage (rows : Value) : Except RowError (List KeyUsage) := readAll .describedKeys readUsage rows

end Rows
end SpannerSchema
