/-! Key usage records: one for every column of every constraint of a table, with the column that a foreign key
    refers to. -/

namespace SpannerSchema

/-- The use of a column by a constraint. -/
structure KeyUsage where
  table : String
  column : String
  constraint : String
  referencedTable : Option String := none
  referencedColumn : Option String := none
deriving DecidableEq, Repr

namespace KeyUsage

/-- A record with a referenced table belongs to a foreign key. -/
def isForeign (k : KeyUsage) : Bool := k.referencedTable.isSome

/-- The first record for a column. -/
def firstFor? (keys : List KeyUsage) (column : String) : Option KeyUsage :=
  keys.find? fun k => k.column == column

theorem firstFor?_eq_none_iff {keys : List KeyUsage} {column : String} :
    firstFor? keys column = none ↔ ∀ k ∈ keys, k.column ≠ column := by
  simp [firstFor?]

theorem column_of_firstFor? {keys : List KeyUsage} {column : String} {k : KeyUsage}
    (h : firstFor? keys column = some k) : k.column = column :=
  beq_iff_eq.mp (List.find?_some (p := fun k : KeyUsage => k.column == column) h)

end KeyUsage
end SpannerSchema
