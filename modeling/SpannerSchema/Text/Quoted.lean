import SpannerSchema.Text.Printable

/-! Quoted texts and byte strings, as they appear in messages. The quotation mark is the apostrophe, unless the
    text has an apostrophe and no double quote. -/

namespace SpannerSchema
namespace Text

def apostrophe : Char := '\''

def doubleQuote : Char := '"'

/-- The mark that stands around `cs`. -/
def quoteMark (cs : List Char) : Char :=
  if cs.contains apostrophe && !cs.contains doubleQuote then doubleQuote else apostrophe

/-- The last `width` hexadecimal digits of `n`. -/
def hex (width n : Nat) : List Char :=
  let digits := Nat.toDigits 16 n
  List.replicate (width - digits.length) '0' ++ digits

/-- A character by its number, in the shortest of the three forms that holds it. -/
def numbered (c : Char) : List Char :=
  if c.toNat < 0x100 then '\\' :: 'x' :: hex 2 c.toNat
  else if c.toNat < 0x10000 then '\\' :: 'u' :: hex 4 c.toNat
  else '\\' :: 'U' :: hex 8 c.toNat

/-- A character inside a text quoted with `mark`, where `shown` says which characters stand for themselves. -/
def quotedChar (shown : Char → Bool) (mark c : Char) : List Char :=
  if c == '\\' || c == mark then ['\\', c]
  else if c == '\t' then ['\\', 't']
  else if c == '\n' then ['\\', 'n']
  else if c == '\r' then ['\\', 'r']
  else if shown c then [c]
  else numbered c

/-- A quoted text. -/
def quoted (cs : List Char) : List Char :=
  let mark := quoteMark cs
  mark :: (cs.flatMap (quotedChar isPrintable mark) ++ [mark])

/-- A quoted byte string, after the letter that tells it from a text. Only printable ASCII stands for itself. -/
def quotedBytes (bs : List UInt8) : List Char :=
  let cs := bs.map fun b => Char.ofNat b.toNat
  let mark := quoteMark cs
  'b' :: mark :: (cs.flatMap (quotedChar (fun c => 32 ≤ c.toNat && c.toNat < 127) mark) ++ [mark])

end Text
end SpannerSchema
