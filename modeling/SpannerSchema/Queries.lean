/-! The queries whose answers describe a table of the source database. -/

namespace SpannerSchema
namespace Queries

def terminator (terminated : Bool) : String := if terminated then ";" else ""

/-- The query for the columns of a table. -/
def describe (table : String) (terminated : Bool) : String := "DESCRIBE " ++ table ++ terminator terminated

/-- The columns of a key usage record. -/
def usageColumns : List String :=
  ["TABLE_NAME", "COLUMN_NAME", "CONSTRAINT_NAME", "REFERENCED_TABLE_NAME", "REFERENCED_COLUMN_NAME"]

/-- The query for the key usage of a table, in one database if one is named. -/
def keyUsage (table : String) (database : Option String) (terminated : Bool) : String :=
  let database := database.getD ""
  "SELECT " ++ ", ".intercalate usageColumns
    ++ "\nFROM INFORMATION_SCHEMA.KEY_COLUMN_USAGE WHERE TABLE_NAME = '" ++ table ++ "'"
    ++ (if database.isEmpty then "" else " AND CONSTRAINT_SCHEMA = '" ++ database ++ "'") ++ terminator terminated

end Queries
end SpannerSchema
