import SpannerSchema.Text.Quoted

/-! Why a table cannot be compiled. -/

namespace SpannerSchema

/-- A cause of failure, with what it is about: a marker, a column, a type, and last the size of a binary type that is
not an integer. -/
inductive CompileError where
  | invalidMarker (marker : String := "")
  | missingKeyDetail (column : String)
  | noPrimaryKey
  | unmappedType (type : String)
  | malformedSize (size : String)
deriving DecidableEq, Repr

/-- The wording of a failure. A malformed size is quoted up to its two hundredth character. -/
def CompileError.message : CompileError → String
  | invalidMarker _ => "Column key type must be \"PRI\", \"MUL\" or \"UNI\""
  | missingKeyDetail column => "Details for the key " ++ column ++ " not found, provide it on \"set_keys\""
  | noPrimaryKey => "There's no primary key available for the table!"
  | unmappedType type =>
    "No Cloud Spanner type available for the MySQL type " ++ String.ofList (Text.quoted type.toList)
  | malformedSize size =>
    "invalid literal for int() with base 10: " ++ String.ofList ((Text.quoted size.toList).take 200)

end SpannerSchema
