/-! What can be wrong with the rows of a table description or of its key usage. -/

namespace SpannerSchema

/-- Where rows come from. -/
inductive RowOrigin where
  | describedTable
  | describedKeys
deriving DecidableEq, Repr

namespace RowOrigin

def text : RowOrigin → String
  | describedTable => "described table"
  | describedKeys => "described keys"

/-- The name of the shape that the rows should have. -/
def shape : RowOrigin → String
  | describedTable => "DescribedColumnModel"
  | describedKeys => "KeyUsageModel"

end RowOrigin

/-- What is wrong with a field. -/
inductive IssueKind where
  | missing
  | notText
  | notUnicode
  | notYesNo
  | unknown
deriving DecidableEq, Repr

/-- The wording of what is wrong with a field. -/
def IssueKind.message : IssueKind → String
  | missing => "Field required"
  | notText => "Input should be a valid string"
  | notUnicode => "Input should be a valid string, unable to parse raw data as a unicode string"
  | notYesNo => "Input should be 'YES' or 'NO'"
  | unknown => "Extra inputs are not permitted"

/-- A field of a row with what is wrong with it. -/
structure Issue where
  field : String
  kind : IssueKind
deriving DecidableEq, Repr

/-- Why rows are refused. Rows count from zero. -/
inductive RowError where
  | notRows (origin : RowOrigin)
  | notRecord (origin : RowOrigin) (row : Nat)
  | malformed (origin : RowOrigin) (row : Nat) (issues : List Issue)
deriving DecidableEq, Repr

namespace RowError

/-- The row that is refused. -/
def place (origin : RowOrigin) (row : Nat) : String :=
  "There's invalid column keys for the " ++ origin.text ++ " (row " ++ Nat.repr row ++ ")"

/-- The wording of a refusal, without the issues. -/
def headline : RowError → String
  | notRows origin => "The " ++ origin.text ++ " must be a list of records"
  | notRecord origin row => place origin row ++ ": not a record"
  | malformed origin row _ => place origin row

/-- The wording of a refusal, with the number of issues. -/
def message : RowError → String
  | malformed origin row issues =>
    place origin row ++ ": " ++ Nat.repr issues.length ++ " validation error"
      ++ (if issues.length == 1 then "" else "s") ++ " for " ++ origin.shape
  | e => e.headline

end RowError
end SpannerSchema
