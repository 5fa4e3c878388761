import SpannerSchema.ColumnType.Mapping
import SpannerSchema.Value.Display

/-! Converting the values of rows. In columns of decimal type a value becomes the decimal that its text denotes;
    all other values stay as they are. -/

namespace SpannerSchema

/-- Why rows cannot be converted. The value that is no decimal is given as it appears in messages. -/
inductive ConversionError where
  | notNumeric (column value : String)
  | notRow
deriving DecidableEq, Repr

namespace Conversion

/-- The wording for a value that is no decimal. -/
def notNumericText (value : String) : String := value ++ " is not a NUMERIC value"

/-- The decimal of a value: null and decimals stay, any other value is read by its text. The failure is the value
as it appears in messages. -/
def toNumeric : Value → Except String Value
  | .null => .ok .null
  | .decimal d => .ok (.decimal d)
  | v =>
    match Decimal.ofText? v.display with
    | some d => .ok (.decimal d)
    | none => .error v.quotedText

/-- The names of the columns whose values are converted. -/
def convertedNames (columns : List Column) : List String :=
  ((columns.filter fun c => SourceType.isNumeric c.type).map (·.name)).eraseDups

/-- The value of the field `name`, converted if it is one of `names`. -/
def convertField (names : List String) (name : String) (v : Value) : Except ConversionError Value :=
  if names.contains name then
    match toNumeric v with
    | .ok v => .ok v
    | .error shown => .error (.notNumeric name shown)
  else .ok v

/-- The fields with their values converted, up to the first that cannot be. -/
def convertFields (names : List String) :
    List (String × Value) → Except ConversionError (List (String × Value))
  | [] => .ok []
  | (name, v) :: rest =>
    match convertField names name v with
    | .error e => .error e
    | .ok v =>
      match convertFields names rest with
      | .error e => .error e
      | .ok rest => .ok ((name, v) :: rest)

/-- The attributes `copy` of an object's copy in which the attributes of the object that are to be converted are
set one after the other, up to the first that cannot be. -/
def setConverted (names : List String) (copy : List (String × Value)) :
    List (String × Value) → Except ConversionError (List (String × Value))
  | [] => .ok copy
  | (name, v) :: rest =>
    if names.contains name then
      match convertField names name v with
      | .error e => .error e
      | .ok v => setConverted names (Value.setField copy name v) rest
    else setConverted names copy rest

/-- A row with its values converted. A record is made anew; an object is copied. -/
def convertRow (names : List String) : Value → Except ConversionError Value
  | .record fields => (convertFields names fields).map .record
  | .object attributes => (setConverted names attributes attributes).map .object
  | _ => .error .notRow

/-- Rows with their values converted, up to the first that cannot be. -/
def convertRows (names : List String) : List Value → Except ConversionError (List Value)
  | [] => .ok []
  | v :: rest =>
    match convertRow names v with
    | .error e => .error e
    | .ok v =>
      match convertRows names rest with
      | .error e => .error e
      | .ok rest => .ok (v :: rest)

end Conversion

/-- The wording of a failure to convert, where it has one. -/
def ConversionError.message? : ConversionError → Option String
  | notNumeric column value => some ("Column " ++ column ++ ": " ++ Conversion.notNumericText value)
  | notRow => none

end SpannerSchema
