import SpannerSchema.Text.Width

/-! Texts for the user. A line that is shown has no control characters, and its tabs are filled up to the next
    eighth column; a text that is handed on loses the sequences that steer a terminal. -/

namespace SpannerSchema
namespace Console

/-! ### Lines -/

/-- A character that moves the cursor and is not shown. -/
def isCursorControl (c : Char) : Bool :=
  c == '\x07' || c == '\x08' || c == '\x0b' || c == '\x0c' || c == '\r'

/-- The text `cs` with its tabs filled up. The characters `part`, nearest first, come before it, from the last tab or
line break on. -/
def fillTabs (part : List Char) : List Char → List Char
  | [] => []
  | '\t' :: rest =>
    let column := Text.width (' ' :: part).reverse
    ' ' :: (List.replicate ((8 - column % 8) % 8) ' ' ++ fillTabs [] rest)
  | '\n' :: rest => '\n' :: fillTabs [] rest
  | c :: rest => c :: fillTabs (c :: part) rest

/-- A text as it is shown. -/
def shown (s : String) : String := String.ofList (fillTabs [] (s.toList.filter fun c => !isCursorControl c))

/-- A text as a line of its own. -/
def line (s : String) : String := shown s ++ "\n"

/-! ### Reports of failures -/

/-- May `c` stand first in a tag of the display's markup? -/
def opensTag (c : Char) : Bool := c.isLower || c == '#' || c == '/' || c == '@'

/-- Does a tag go on with `cs` after its bracket? It holds no other bracket. -/
def isTag : List Char → Bool
  | [] => false
  | c :: rest => opensTag c && (rest.dropWhile fun d => d != '[' && d != ']').head? == some ']'

/-- The text `cs` without the backslashes right before brackets that open no tag: the display takes them for its
own. -/
def withoutBracketMarks : List Char → List Char
  | [] => []
  | '\\' :: '[' :: rest =>
    if isTag rest then '\\' :: '[' :: withoutBracketMarks rest else '[' :: withoutBracketMarks rest
  | c :: rest => c :: withoutBracketMarks rest

/-- The line that reports a failure. -/
def report (title message : String) : String :=
  shown (title ++ ": " ++ String.ofList (withoutBracketMarks message.toList))

/-! ### Texts that are handed on -/

/-- May `c` stand among the numbers of a sequence that steers a terminal? -/
def isParameter (c : Char) : Bool := c.isDigit || c == ';' || c == '?'

/-- What follows the sequence that `cs` starts with and that steers a terminal: an escape and a bracket, numbers,
and a letter. -/
def afterSequence? : List Char → Option (List Char)
  | '\x1b' :: '[' :: rest =>
    match rest.dropWhile isParameter with
    | c :: after => if c.isAlpha then some after else none
    | [] => none
  | _ => none

theorem length_lt_of_afterSequence? {cs after : List Char} (h : afterSequence? cs = some after) :
    after.length < cs.length := by
  unfold afterSequence? at h
  split at h
  · next rest =>
    split at h
    · next c after' hd =>
      split at h
      · cases h
        have hle := (List.dropWhile_sublist (l := rest) isParameter).length_le
        rw [hd] at hle
        simp only [List.length_cons] at hle ⊢
        omega
      · cases h
    · cases h
  · cases h

/-- The text `cs` without the sequences that steer a terminal. What comes to stand together is not looked at
again. -/
def withoutSequences (cs : List Char) : List Char :=
  match _h : afterSequence? cs with
  | some after => withoutSequences after
  | none =>
    match cs with
    | [] => []
    | c :: rest => c :: withoutSequences rest
termination_by cs.length
decreasing_by
  · exact length_lt_of_afterSequence? _h
  · simp

/-- The text `cs` with every line break of two characters written as a line feed. -/
def joinBreaks : List Char → List Char
  | [] => []
  | '\r' :: '\n' :: rest => '\n' :: joinBreaks rest
  | c :: rest => c :: joinBreaks rest

/-- A text as it is handed on. -/
def plain (s : String) : String := String.ofList (joinBreaks (withoutSequences s.toList))

end Console
end SpannerSchema
