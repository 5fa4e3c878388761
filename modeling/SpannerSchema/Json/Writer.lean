import SpannerSchema.Value.Display

/-! Writing JSON, two blanks deeper for each level. What JSON has no form for is written as its text. -/

namespace SpannerSchema
namespace Json
open Text

/-- A character inside a string. -/
def escapeChar (c : Char) : List Char :=
  if c == '"' then ['\\', '"']
  else if c == '\\' then ['\\', '\\']
  else if c == '\n' then ['\\', 'n']
  else if c == '\r' then ['\\', 'r']
  else if c == '\t' then ['\\', 't']
  else if c == '\x08' then ['\\', 'b']
  else if c == '\x0c' then ['\\', 'f']
  else if c.toNat < 0x20 then '\\' :: 'u' :: hex 4 c.toNat
  else [c]

/-- A string in its quotes. -/
def stringChars (cs : List Char) : List Char := '"' :: (cs.flatMap escapeChar ++ ['"'])

/-- A binary number, with words of its own for the infinities and for NaN. -/
def floatChars : Binary64 → List Char
  | .infinite negative => Decimal.signText negative ++ "Infinity".toList
  | .nan => "NaN".toList
  | x => x.chars

/-- A line break and `depth` levels of blanks. -/
def newline (depth : Nat) : List Char := '\n' :: List.replicate (2 * depth) ' '

/-- The parts of a list or record between its brackets, each on a line of its own. -/
def block (opening closing : Char) (depth : Nat) (parts : List (List Char)) : List Char :=
  match parts with
  | [] => [opening, closing]
  | _ =>
    opening :: (newline (depth + 1) ++ (parts.intersperse (',' :: newline (depth + 1))).flatten
      ++ newline depth ++ [closing])

mutual

/-- A value inside `depth` lists and records. -/
def valueChars (depth : Nat) : Value → List Char
  | .null => "null".toList
  | .bool b => if b then "true".toList else "false".toList
  | .int n => Numeral.ofInt n
  | .float x => floatChars x
  | .text s => stringChars s.toList
  | .decimal d => stringChars d.chars
  | .list vs => block '[' ']' depth (itemChars (depth + 1) vs)
  | .record fields => block '\x7b' '\x7d' depth (fieldChars (depth + 1) fields)
  | .bytes bs => stringChars (quotedBytes bs)
  | .object fields => stringChars (Value.object fields).display.toList
  | .described r => stringChars (Value.described r).display.toList
  | .usage k => stringChars (Value.usage k).display.toList

/-- The items of a list, each at `depth`. -/
def itemChars (depth : Nat) : List Value → List (List Char)
  | [] => []
  | v :: rest => valueChars depth v :: itemChars depth rest

/-- The fields of a record, each at `depth` with its name before it. -/
def fieldChars (depth : Nat) : List (String × Value) → List (List Char)
  | [] => []
  | (name, v) :: rest => (stringChars name.toList ++ ':' :: ' ' :: valueChars depth v) :: fieldChars depth rest

end

/-- The text of a value, with a line break at its end. -/
def render (v : Value) : String := String.ofList (valueChars 0 v ++ ['\n'])

end Json
end SpannerSchema
