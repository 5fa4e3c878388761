import SpannerSchema.ColumnType.Mapping
import SpannerSchema.Keys.Buckets
import SpannerSchema.Text.Case

/-! The statements that declare a table and its keys, and the file they make up. -/

namespace SpannerSchema

/-- A column as it is declared. -/
structure CompiledColumn where
  name : String
  nullable : Bool
  size : Option String := none
  isLast : Bool := false
  fragment : String := ""
  options : Option String := none
deriving DecidableEq, Repr

/-- The statements of a table. -/
structure Schema where
  tables : List String := []
  indexes : List String := []
  constraints : List String := []
deriving DecidableEq, Repr

namespace Ddl

/-- A name in the quotes of the target. -/
def quote (name : String) : String := "`" ++ name ++ "`"

/-- Names in quotes, in one list. -/
def quoteList (names : List String) : String := ", ".intercalate (names.map quote)

/-- A name with its first letter in upper case. -/
def capitalized (name : String) : String := String.ofList (Text.upperFirst name.toList)

/-- The name of the index of a column that is not unique. -/
def secondaryIndexName (table column : String) : String := capitalized table ++ "By" ++ capitalized column

/-- What follows the type of a column. -/
def suffix (c : CompiledColumn) : String :=
  (if c.nullable then "" else " NOT NULL") ++ c.options.getD ""

/-- The line of a column. Every line but the last ends with a comma and a line break. -/
def columnLine (c : CompiledColumn) : String :=
  quote c.name ++ " " ++ c.fragment ++ suffix c ++ (if c.isLast then "" else ",\n")

/-- The end of a statement. -/
def terminator (terminated : Bool) : String := if terminated then ";" else ""

def createTable (terminated : Bool) (table : String) (columns : List CompiledColumn) (keys : List String) : String :=
  "CREATE TABLE " ++ quote table ++ " (\n" ++ String.join (columns.map columnLine) ++ "\n) PRIMARY KEY ("
    ++ ",".intercalate keys ++ ")" ++ terminator terminated

def createUniqueIndex (terminated : Bool) (table : String) (g : UniqueGroup) : String :=
  "CREATE UNIQUE" ++ (if g.nullFiltered then " NULL_FILTERED" else "") ++ " INDEX " ++ quote g.name ++ " ON "
    ++ quote table ++ " (" ++ quoteList g.columns ++ ")" ++ terminator terminated

def createSecondaryIndex (terminated : Bool) (table column : String) : String :=
  "CREATE INDEX " ++ quote (secondaryIndexName table column) ++ " ON " ++ quote table ++ " (" ++ quote column ++ ")"
    ++ terminator terminated

def addForeignKey (terminated : Bool) (table : String) (key : KeyUsage) : String :=
  "ALTER TABLE " ++ quote table ++ " ADD CONSTRAINT " ++ quote key.constraint ++ " FOREIGN KEY ("
    ++ quote key.column ++ ") REFERENCES " ++ quote (key.referencedTable.getD "") ++ " ("
    ++ quote (key.referencedColumn.getD "") ++ ")" ++ terminator terminated

/-- The statements of a table: the table, its unique and then its other indexes, its foreign keys. -/
def assemble (terminated : Bool) (table : String) (columns : List CompiledColumn) (b : Buckets) : Schema where
  tables := [createTable terminated table columns b.primaryKeys]
  indexes := b.uniqueGroups.map (createUniqueIndex terminated table)
    ++ b.secondaryIndexes.map (createSecondaryIndex terminated table)
  constraints := b.foreignKeys.map (addForeignKey terminated table)

end Ddl

namespace Schema

/-- All statements in the order in which they are to be run. -/
def statements (s : Schema) : List String := s.tables ++ s.indexes ++ s.constraints

/-- The file of the statements, with a blank line between two and a line break at the end. -/
def toSql (s : Schema) : String :=
  if s.statements.isEmpty then "" else "\n\n".intercalate s.statements ++ "\n"

end Schema
end SpannerSchema
