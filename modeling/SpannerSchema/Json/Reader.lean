import SpannerSchema.Json.Fault
import SpannerSchema.Number.Binary64
import SpannerSchema.Value

/-! Reading JSON. Beside the standard's values the words `NaN`, `Infinity` and `-Infinity` are numbers; a number
    with a fraction or an exponent is a binary one, any other is an integer of any size. Of fields with one name
    the last gives the value, at the place of the first. -/

namespace SpannerSchema
namespace Json

/-- A value read, with the text that follows it. -/
abbrev Read (α : Type) := Except Fault (α × List Char)

/-- The fault of finding `problem` where `cs` follows. -/
def faultAt (problem : Problem) (cs : List Char) : Fault := ⟨problem, cs.length⟩

def isSpace (c : Char) : Bool := c == ' ' || c == '\t' || c == '\n' || c == '\r'

def skipSpace (cs : List Char) : List Char := cs.dropWhile isSpace

/-! ### Strings -/

/-- The value of a hexadecimal digit. -/
def hexDigit? (c : Char) : Option Nat :=
  if '0' ≤ c && c ≤ '9' then some (c.toNat - 48)
  else if 'a' ≤ c && c ≤ 'f' then some (c.toNat - 87)
  else if 'A' ≤ c && c ≤ 'F' then some (c.toNat - 55)
  else none

/-- The number that four hexadecimal digits make. -/
def hexFour? (a b c d : Char) : Option Nat := do
  let a ← hexDigit? a
  let b ← hexDigit? b
  let c ← hexDigit? c
  let d ← hexDigit? d
  return ((a * 16 + b) * 16 + c) * 16 + d

/-- The character that stands behind a backslash for another one. -/
def escaped? (c : Char) : Option Char :=
  if c == '"' || c == '\\' || c == '/' then some c
  else if c == 'b' then some '\x08'
  else if c == 'f' then some '\x0c'
  else if c == 'n' then some '\n'
  else if c == 'r' then some '\r'
  else if c == 't' then some '\t'
  else none

/-- Puts `unit` before the units of a string read. -/
def consUnit (unit : Nat) : Read (List Nat) → Read (List Nat)
  | .ok (units, rest) => .ok (unit :: units, rest)
  | .error f => .error f

/-- The code points of a string up to its closing quote, where `opening` is the text from its opening quote on. An
escape by number may give half of a pair. A backslash with `u` needs four digits and one more character. -/
def stringUnits (opening : List Char) : List Char → Read (List Nat)
  | [] => .error (faultAt .unterminatedString opening)
  | '"' :: rest => .ok ([], rest)
  | ['\\'] => .error (faultAt .unterminatedString opening)
  | '\\' :: 'u' :: a :: b :: c :: d :: rest =>
    match (if rest.isEmpty then none else hexFour? a b c d) with
    | some n => consUnit n (stringUnits opening rest)
    | none => .error (faultAt .badCodePoint ('u' :: a :: b :: c :: d :: rest))
  | '\\' :: 'u' :: rest => .error (faultAt .badCodePoint ('u' :: rest))
  | '\\' :: e :: rest =>
    match escaped? e with
    | some c => consUnit c.toNat (stringUnits opening rest)
    | none => .error (faultAt .badEscape ('\\' :: e :: rest))
  | c :: rest =>
    if c.toNat < 0x20 then .error (faultAt .controlCharacter (c :: rest))
    else consUnit c.toNat (stringUnits opening rest)

/-- The characters of code points in which two halves of a pair stand for one character. A half alone is replaced
by the replacement character. -/
def joinPairs : List Nat → List Char
  | [] => []
  | [n] => [if 0xD800 ≤ n && n < 0xE000 then '\ufffd' else Char.ofNat n]
  | n :: m :: rest =>
    if 0xD800 ≤ n && n < 0xDC00 && 0xDC00 ≤ m && m < 0xE000 then
      Char.ofNat (0x10000 + (n - 0xD800) * 0x400 + (m - 0xDC00)) :: joinPairs rest
    else (if 0xD800 ≤ n && n < 0xE000 then '\ufffd' else Char.ofNat n) :: joinPairs (m :: rest)

/-- The string that opens before `cs`. -/
def readString (cs : List Char) : Read String :=
  match stringUnits ('"' :: cs) cs with
  | .ok (units, rest) => .ok (String.ofList (joinPairs units), rest)
  | .error f => .error f

/-! ### Numbers and words -/

/-- The whole part of a number: a zero alone, or digits that do not start with it. -/
def wholePart (cs : List Char) : List Char :=
  match cs with
  | [] => []
  | c :: _ => if c == '0' then ['0'] else cs.takeWhile Char.isDigit

/-- The digits after a point, where there are any. -/
def fractionPart : List Char → List Char
  | '.' :: rest => rest.takeWhile Char.isDigit
  | _ => []

/-- A point with the digits after it, if any follow. -/
def fractionLength (cs : List Char) : Nat :=
  let digits := fractionPart cs
  if digits.isEmpty then 0 else digits.length + 1

/-- The exponent that `cs` starts with, with the number of its characters. -/
def exponentPart? : List Char → Option (Int × Nat)
  | c :: rest =>
    if c == 'e' || c == 'E' then
      let signs := rest.take 1 |>.filter fun s => s == '-' || s == '+'
      let digits := (rest.drop signs.length).takeWhile Char.isDigit
      if digits.isEmpty then none
      else
        let n : Int := Text.ofDigits (digits.map fun d => d.toNat - 48)
        some (if signs == ['-'] then -n else n, 1 + signs.length + digits.length)
    else none
  | [] => none

/-- The number without its sign that `cs` starts with. -/
def unsigned? (negative : Bool) (cs : List Char) : Option (Value × List Char) :=
  let whole := wholePart cs
  if whole.isEmpty then none
  else
    let afterWhole := cs.drop whole.length
    let fraction := fractionPart afterWhole
    let afterFraction := afterWhole.drop (fractionLength afterWhole)
    let c := Text.ofDigits ((whole ++ fraction).map fun d => d.toNat - 48)
    match exponentPart? afterFraction with
    | some (x, size) =>
      some (.float (Binary64.ofScientific negative c (x - fraction.length)), afterFraction.drop size)
    | none =>
      if fraction.isEmpty then some (.int (if negative then -c else c), afterFraction)
      else some (.float (Binary64.ofScientific negative c (-fraction.length)), afterFraction)

/-- The number that `cs` starts with. -/
def number? : List Char → Option (Value × List Char)
  | '-' :: rest => unsigned? true rest
  | cs => unsigned? false cs

/-- The words that stand for values. -/
def words : List (List Char × Value) :=
  [("null".toList, .null), ("true".toList, .bool true), ("false".toList, .bool false),
    ("NaN".toList, .float .nan), ("Infinity".toList, .float (.infinite false)),
    ("-Infinity".toList, .float (.infinite true))]

/-- The word or number that `cs` starts with. -/
def atom (cs : List Char) : Read Value :=
  match words.find? fun w => w.1.isPrefixOf cs with
  | some (word, v) => .ok (v, cs.drop word.length)
  | none =>
    match number? cs with
    | some r => .ok r
    | none => .error (faultAt .expectedValue cs)

/-! ### Values -/

mutual

/-- The value that the text starts with, read with at most `fuel` steps. -/
def value : Nat → List Char → Read Value
  | 0, cs => .error (faultAt .expectedValue cs)
  | fuel + 1, cs =>
    match cs with
    | '"' :: rest =>
      match readString rest with
      | .ok (s, rest) => .ok (.text s, rest)
      | .error f => .error f
    | '[' :: rest =>
      match skipSpace rest with
      | ']' :: rest => .ok (.list [], rest)
      | rest =>
        match items fuel rest with
        | .ok (vs, rest) => .ok (.list vs, rest)
        | .error f => .error f
    | '\x7b' :: rest =>
      match skipSpace rest with
      | '\x7d' :: rest => .ok (.record [], rest)
      | rest =>
        match members fuel [] rest with
        | .ok (fields, rest) => .ok (.record fields, rest)
        | .error f => .error f
    | cs => atom cs

/-- The items of a list up to its closing bracket; at least one. -/
def items : Nat → List Char → Read (List Value)
  | 0, cs => .error (faultAt .expectedValue cs)
  | fuel + 1, cs =>
    match value fuel cs with
    | .error f => .error f
    | .ok (v, rest) =>
      match skipSpace rest with
      | ']' :: rest => .ok ([v], rest)
      | ',' :: rest =>
        match items fuel (skipSpace rest) with
        | .ok (vs, rest) => .ok (v :: vs, rest)
        | .error f => .error f
      | rest => .error (faultAt .expectedComma rest)

/-- The fields of a record up to its closing brace, after the `fields` before; at least one. -/
def members : Nat → List (String × Value) → List Char → Read (List (String × Value))
  | 0, _, cs => .error (faultAt .expectedValue cs)
  | fuel + 1, fields, cs =>
    match cs with
    | '"' :: rest =>
      match readString rest with
      | .error f => .error f
      | .ok (name, rest) =>
        match skipSpace rest with
        | ':' :: rest =>
          match value fuel (skipSpace rest) with
          | .error f => .error f
          | .ok (v, rest) =>
            match skipSpace rest with
            | '\x7d' :: rest => .ok (Value.setField fields name v, rest)
            | ',' :: rest => members fuel (Value.setField fields name v) (skipSpace rest)
            | rest => .error (faultAt .expectedComma rest)
        | rest => .error (faultAt .expectedColon rest)
    | cs => .error (faultAt .expectedName cs)

end

/-- The value that a text is, with space around. A value takes two steps for each of its characters at most. -/
def document (cs : List Char) : Except Fault Value :=
  if cs.head? == some '\ufeff' then .error (faultAt .byteOrderMark cs)
  else
    match value (2 * cs.length + 2) (skipSpace cs) with
    | .error f => .error f
    | .ok (v, rest) =>
      match skipSpace rest with
      | [] => .ok v
      | rest => .error (faultAt .extraData rest)

/-- The value of a text, or the wording of its fault. -/
def parse (s : String) : Except String Value :=
  match document s.toList with
  | .ok v => .ok v
  | .error f => .error (f.message s.toList)

end Json
end SpannerSchema
