import SpannerSchema.CompileError
import SpannerSchema.Rows.Conversion
import SpannerSchema.Rows.Issue
import SpannerSchema.Workspace

/-! Everything that can go wrong, in one type. A failure that has a title is reported to the user; any other ends
    the program. -/

namespace SpannerSchema

/-- Why a table cannot be built. -/
inductive BuildError where
  | compilerAndMode
  | noDescribedTable
  | noTableName
deriving DecidableEq, Repr

/-- The wording of a failure to build. -/
def BuildError.message : BuildError → String
  | compilerAndMode => "Pass either a compiler or mul_without_reference, not both"
  | noDescribedTable => "You must define a described table to parse"
  | noTableName => "You must define a table name to parse"

/-- A cause of failure. -/
inductive Failure where
  | compile (e : CompileError)
  | rows (e : RowError)
  | conversion (e : ConversionError)
  | build (e : BuildError)
  | notJson (path reason : String)
  | notRows (path : String)
  | unknownMode
  | unknownLevel (level : String)
  | nameNotText
  | keyNameNotText
  | file (e : FileError)
deriving DecidableEq, Repr

namespace Failure

/-- The title under which a failure is reported. -/
def title? : Failure → Option String
  | compile (.invalidMarker _) => some "InvalidKeyMarkerError"
  | compile (.missingKeyDetail _) => some "MissingKeyDetailError"
  | compile .noPrimaryKey => some "PrimaryKeyNotFoundError"
  | compile (.unmappedType _) => some "UnmappedTypeError"
  | compile (.malformedSize _) => none
  | rows _ => some "MalformedInputError"
  | conversion (.notNumeric ..) => some "MalformedInputError"
  | conversion .notRow => none
  | build _ => some "ParserError"
  | notJson .. => some "MalformedInputError"
  | notRows _ => some "MalformedInputError"
  | unknownMode => none
  | unknownLevel _ => none
  | nameNotText => none
  | keyNameNotText => none
  | file _ => none

/-- The wording of a failure, where it has one. -/
def message? : Failure → Option String
  | compile e => some e.message
  | rows e => some e.message
  | conversion e => e.message?
  | build e => some e.message
  | notJson path reason => some (path ++ " is not valid JSON: " ++ reason)
  | notRows path => some (path ++ " must contain a JSON list of rows")
  | unknownMode => some "mul_without_reference must be 'unique' or 'secondary'"
  | unknownLevel level => some ("Unknown level: " ++ String.ofList (Text.quoted level.toList))
  | nameNotText => none
  | keyNameNotText => none
  | file .nulInPath => some "embedded null byte"
  | file _ => none

end Failure
end SpannerSchema
