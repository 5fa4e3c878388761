import SpannerSchema.Text.Blank
import SpannerSchema.Text.LineBreak

/-! Environment files: lines that bind a name to a value. A value may stand in quotes, with escapes and over
    several lines; comments start with a hash; a value may refer to variables bound before it or outside. A line
    of another form is skipped. -/

namespace SpannerSchema
namespace EnvironmentFile
open Text

/-- A blank within a line. -/
def isGap (c : Char) : Bool := isBlank c && c != '\n'

def skipGap (cs : List Char) : List Char := cs.dropWhile isGap

/-! ### Values -/

/-- The text before the first quote, and what follows the quote. A backslash takes the character after it along. -/
def quotedValue? (mark : Char) : List Char → Option (List Char × List Char)
  | [] => none
  | '\\' :: c :: rest => (quotedValue? mark rest).map fun r => ('\\' :: c :: r.1, r.2)
  | c :: rest => if c == mark then some ([], rest) else (quotedValue? mark rest).map fun r => (c :: r.1, r.2)

/-- What stands behind a backslash between double quotes for another character. -/
def escapedDouble? (c : Char) : Option Char :=
  if c == '\\' || c == '\'' || c == '"' then some c
  else if c == 'a' then some '\x07'
  else if c == 'b' then some '\x08'
  else if c == 'f' then some '\x0c'
  else if c == 'n' then some '\n'
  else if c == 'r' then some '\r'
  else if c == 't' then some '\t'
  else if c == 'v' then some '\x0b'
  else none

/-- What stands behind a backslash between apostrophes for another character. -/
def escapedSingle? (c : Char) : Option Char := if c == '\\' || c == '\'' then some c else none

/-- A text with its escapes resolved; a backslash that opens none stays. -/
def unescape (escaped? : Char → Option Char) : List Char → List Char
  | '\\' :: c :: rest =>
    match escaped? c with
    | some d => d :: unescape escaped? rest
    | none => '\\' :: unescape escaped? (c :: rest)
  | c :: rest => c :: unescape escaped? rest
  | [] => []

/-- A text up to the blanks before its first hash. -/
def withoutComment : List Char → List Char
  | [] => []
  | c :: rest =>
    if isBlank c && ((c :: rest).dropWhile isBlank).head? == some '#' then [] else c :: withoutComment rest

/-- A value without quotes: the rest of its line, less a comment and the blanks at its ends. -/
def bareValue (cs : List Char) : List Char := strip isBlank (withoutComment (cs.takeWhile (· != '\n')))

/-- The value after an equals sign, and what follows it. -/
def value? (cs : List Char) : Option (List Char × List Char) :=
  match skipGap cs with
  | '\'' :: rest => (quotedValue? '\'' rest).map fun r => (unescape escapedSingle? r.1, r.2)
  | '"' :: rest => (quotedValue? '"' rest).map fun r => (unescape escapedDouble? r.1, r.2)
  | _ => some (bareValue cs, cs.dropWhile (· != '\n'))

/-! ### Lines -/

/-- What follows the word that may stand before a name. -/
def skipExport (cs : List Char) : List Char :=
  if "export".toList.isPrefixOf cs && ((cs.drop 6).head?.any isGap) then skipGap (cs.drop 6) else cs

/-- The name that `cs` starts with, and what follows it. -/
def name? : List Char → Option (List Char × List Char)
  | '\'' :: rest =>
    let name := rest.takeWhile (· != '\'')
    match rest.dropWhile (· != '\'') with
    | _ :: after => if name.isEmpty then none else some (name, after)
    | [] => none
  | cs =>
    let inName (c : Char) := c != '=' && c != '#' && !isBlank c
    let name := cs.takeWhile inName
    if name.isEmpty then none else some (name, cs.dropWhile inName)

/-- What follows the comment that `cs` starts with, if it starts with one. -/
def skipComment (cs : List Char) : List Char :=
  match skipGap cs with
  | '#' :: rest => rest.dropWhile (· != '\n')
  | _ => cs

/-- What follows the end of the line, if nothing but blanks comes before it. -/
def lineEnd? (cs : List Char) : Option (List Char) :=
  match skipGap cs with
  | [] => some []
  | '\n' :: rest => some rest
  | _ => none

/-- What follows the line of `cs`. -/
def skipLine (cs : List Char) : List Char := (cs.dropWhile (· != '\n')).drop 1

/-- A name with its value, if it has one. -/
abbrev Binding := String × Option (List Char)

/-- The binding of one line, and what follows the line. A line without a name, or of another form, binds
nothing. -/
def line (cs : List Char) : Option Binding × List Char :=
  let cs := skipExport cs
  if cs.head? == some '#' then (none, skipLine cs)
  else
    match name? cs with
    | none => (none, skipLine cs)
    | some (name, afterName) =>
      let afterName := skipGap afterName
      match afterName with
      | '=' :: rest =>
        match value? rest with
        | none => (none, skipLine rest)
        | some (value, afterValue) =>
          match lineEnd? (skipComment afterValue) with
          | some rest => (some (String.ofList name, some value), rest)
          | none => (none, skipLine (skipComment afterValue))
      | _ =>
        match lineEnd? (skipComment afterName) with
        | some rest => (some (String.ofList name, none), rest)
        | none => (none, skipLine (skipComment afterName))

/-- The bindings of a text, in at most `fuel` lines. -/
def linesOf : Nat → List Char → List Binding
  | 0, _ => []
  | fuel + 1, cs =>
    match cs.dropWhile isBlank with
    | [] => []
    | cs =>
      match line cs with
      | (some b, rest) => b :: linesOf fuel rest
      | (none, rest) => linesOf fuel rest

/-! ### References -/

/-- A reference to a variable: its name, what it stands for without a value, and what follows it. -/
def reference? : List Char → Option (List Char × List Char × List Char)
  | '$' :: '\x7b' :: cs =>
    let inName (c : Char) := c != '\x7d' && c != ':'
    let name := cs.takeWhile inName
    match cs.dropWhile inName with
    | '\x7d' :: rest => some (name, [], rest)
    | ':' :: '-' :: rest =>
      match rest.dropWhile (· != '\x7d') with
      | _ :: after => some (name, rest.takeWhile (· != '\x7d'), after)
      | [] => none
    | _ => none
  | _ => none

/-- A value with its references replaced by what they stand for, in at most `fuel` steps. -/
def resolve (outside : List (String × Option String)) : Nat → List Char → List Char
  | 0, cs => cs
  | _, [] => []
  | fuel + 1, c :: cs =>
    match reference? (c :: cs) with
    | some (name, usual, rest) =>
      let meaning :=
        match outside.lookup (String.ofList name) with
        | some (some s) => s.toList
        | some none => []
        | none => usual
      meaning ++ resolve outside fuel rest
    | none => c :: resolve outside fuel cs

/-- The variables of bindings in their order. A value may refer to those before it and to those `outside`. -/
def variablesOf (outside : List (String × Option String)) : List Binding → List (String × Option String)
  | [] => []
  | (name, value) :: rest =>
    let v := (name, value.map fun cs => String.ofList (resolve outside cs.length cs))
    v :: variablesOf (v :: outside) rest

/-- The variables with one more bound. A name that is bound again keeps its place. -/
def bind (bound : List (String × Option String)) (v : String × Option String) : List (String × Option String) :=
  if bound.any fun w => w.1 == v.1 then bound.map fun w => if w.1 == v.1 then v else w
  else bound ++ [v]

/-- The text `cs` without the mark that may say that it is in Unicode. -/
def withoutByteOrderMark : List Char → List Char
  | '\ufeff' :: rest => rest
  | cs => cs

/-- The variables that a file binds among those of the environment, each name once. -/
def read (environment : List (String × String)) (s : String) : List (String × Option String) :=
  let bindings := linesOf (s.length + 1) (normalizeBreaks (withoutByteOrderMark s.toList))
  (variablesOf (environment.map fun v => (v.1, some v.2)) bindings).foldl bind []

end EnvironmentFile
end SpannerSchema
