/-! What can be wrong with a JSON text, and where. -/

namespace SpannerSchema
namespace Json

/-- A way in which a text fails to be JSON. -/
inductive Problem where
  | byteOrderMark
  | expectedValue
  | expectedName
  | expectedComma
  | expectedColon
  | extraData
  | unterminatedString
  | controlCharacter
  | badEscape
  | badCodePoint
deriving DecidableEq, Repr

/-- The wording of a problem. -/
def Problem.message : Problem → String
  | byteOrderMark => "Unexpected UTF-8 BOM (decode using utf-8-sig)"
  | expectedValue => "Expecting value"
  | expectedName => "Expecting property name enclosed in double quotes"
  | expectedComma => "Expecting ',' delimiter"
  | expectedColon => "Expecting ':' delimiter"
  | extraData => "Extra data"
  | unterminatedString => "Unterminated string starting at"
  | controlCharacter => "Invalid control character at"
  | badEscape => "Invalid \\escape"
  | badCodePoint => "Invalid \\uXXXX escape"

/-- A problem at the point of a text where `remaining` characters follow. -/
structure Fault where
  problem : Problem
  remaining : Nat
deriving DecidableEq, Repr

/-- The characters of the last line of `before`. -/
def lastLine (before : List Char) : List Char := (before.reverse.takeWhile (· != '\n')).reverse

/-- The wording of a fault of the text `cs`: the problem with its line and column, both from one, and the number
of characters before it. -/
def Fault.message (cs : List Char) (f : Fault) : String :=
  let before := cs.take (cs.length - f.remaining)
  let line := before.count '\n' + 1
  let column := (lastLine before).length + 1
  f.problem.message ++ ": line " ++ Nat.repr line ++ " column " ++ Nat.repr column ++ " (char "
    ++ Nat.repr before.length ++ ")"

end Json
end SpannerSchema
