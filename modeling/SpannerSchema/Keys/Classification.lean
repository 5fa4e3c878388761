import SpannerSchema.CompileError
import SpannerSchema.Keys.Buckets

/-! Sorting the marked columns of a table into buckets with the help of its key usage records. The sort stops at
    the first column that it cannot place, and what came before that column stays in the buckets. A table left
    without a primary key is given one. -/

namespace SpannerSchema

/-- What becomes of a column of a non-unique key whose record names no referenced table. -/
inductive IndexMode where
  | unique
  | secondary
deriving DecidableEq, Repr

namespace IndexMode

def text : IndexMode → String
  | unique => "unique"
  | secondary => "secondary"

/-- The mode of a name. -/
def ofText? (s : String) : Option IndexMode := [unique, secondary].find? fun m => m.text == s

theorem ofText?_text (m : IndexMode) : ofText? m.text = some m := by
  cases m <;> rfl

end IndexMode

namespace Classification

/-- May the first described column of the name hold nulls? A column that is not described may. -/
def isNullable (columns : List Column) (name : String) : Bool :=
  match columns.find? fun c => c.name == name with
  | some c => c.nullable
  | none => true

/-- The columns that the records give to a constraint, in the order of the records. -/
def members (keys : List KeyUsage) (constraint : String) : List String :=
  (keys.filter fun k => k.constraint == constraint).map (·.column)

/-- The buckets with a column in the unique group of its record. A new group starts with all columns that the
records give to the constraint. -/
def addUnique (columns : List Column) (keys : List KeyUsage) (b : Buckets) (detail : KeyUsage) (column : String) :
    Buckets :=
  let seed := if (b.group? detail.constraint).isSome then [] else members keys detail.constraint
  b.modifyGroup detail.constraint fun g =>
    let g := (g.insertAll seed).insert column
    { g with nullFiltered := g.columns.any (isNullable columns) }

/-- Where a column goes, with the record that tells its constraint. -/
inductive Route where
  | nowhere
  | primary
  | foreign (detail : KeyUsage)
  | secondary
  | unique (detail : KeyUsage)
deriving DecidableEq, Repr

/-- The route of a column: read off its marker, its first record and the mode, whatever the buckets hold. -/
def route (mode : IndexMode) (keys : List KeyUsage) (c : Column) : Except CompileError Route :=
  match c.marker? with
  | none => .error (.invalidMarker (c.key.getD ""))
  | some .unmarked => .ok .nowhere
  | some .primary => .ok .primary
  | some .unique =>
    match KeyUsage.firstFor? keys c.name with
    | none => .error (.missingKeyDetail c.name)
    | some detail => .ok (.unique detail)
  | some .multiple =>
    match KeyUsage.firstFor? keys c.name with
    | none => .ok .secondary
    | some detail =>
      if detail.isForeign then .ok (.foreign detail)
      else
        match mode with
        | .secondary => .ok .secondary
        | .unique => .ok (.unique detail)

/-- The buckets with a column at the end of its route. -/
def follow (columns : List Column) (keys : List KeyUsage) (b : Buckets) (c : Column) : Route → Buckets
  | .nowhere => b
  | .primary => b.addPrimary c.name
  | .foreign detail => b.addForeign detail
  | .secondary => b.addSecondary c.name
  | .unique detail => addUnique columns keys b detail c.name

/-- The buckets with one column put in its place. -/
def place (mode : IndexMode) (columns : List Column) (keys : List KeyUsage) (b : Buckets) (c : Column) :
    Except CompileError Buckets :=
  (route mode keys c).map (follow columns keys b c)

/-- The buckets after the columns `todo`, with the error of the first column that has no place. -/
def placeAll (mode : IndexMode) (columns : List Column) (keys : List KeyUsage) :
    Buckets → List Column → Buckets × Option CompileError
  | b, [] => (b, none)
  | b, c :: todo =>
    match place mode columns keys b c with
    | .error e => (b, some e)
    | .ok b' => placeAll mode columns keys b' todo

/-- The columns of a table that has no primary key: a described column of the usual name becomes the key, else a
new column comes before the others. -/
def withKey (columns : List Column) (idName : String) : List Column :=
  if columns.any fun c => c.name == idName then columns else Column.synthesized idName :: columns

end Classification

/-- How keys are sorted. -/
structure ClassifyOptions where
  idName : String := "id"
  synthesis : Bool := true
deriving DecidableEq, Repr

/-- The columns of the table with the keys in `b` and those of `columns`, and the buckets that are left: also on
failure. -/
def classify (mode : IndexMode) (o : ClassifyOptions) (columns : List Column) (keys : List KeyUsage) (b : Buckets) :
    Buckets × Except CompileError (List Column) :=
  match Classification.placeAll mode columns keys b columns with
  | (b, some e) => (b, .error e)
  | (b, none) =>
    if !b.primaryKeys.isEmpty then (b, .ok columns)
    else if !o.synthesis then (b, .error .noPrimaryKey)
    else (b.addPrimary o.idName, .ok (Classification.withKey columns o.idName))

end SpannerSchema
