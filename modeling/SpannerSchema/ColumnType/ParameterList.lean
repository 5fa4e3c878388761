import SpannerSchema.Text.Blank

/-! Parameter lists of column types: the text between parentheses after a type's name. Inside a list, quoted
    strings hold any character but their quote; outside them there is neither a quote nor a parenthesis. A
    parenthesis that opens no such list is an ordinary character. -/

namespace SpannerSchema
namespace ParameterList
open Text

/-- A mark that opens and closes a quoted string. -/
def isQuote (c : Char) : Bool := c == '\'' || c == '"'

/-- The rest of an open list: its text up to the closing parenthesis, and what follows that. `quote` is the mark
of the string that the rest starts in, if it starts in one. -/
def rest? (quote : Option Char) : List Char → Option (List Char × List Char)
  | [] => none
  | c :: cs =>
    match quote with
    | some q => (rest? (if c == q then none else some q) cs).map fun r => (c :: r.1, r.2)
    | none =>
      if c == ')' then some ([], cs)
      else if c == '(' then none
      else (rest? (if isQuote c then some c else none) cs).map fun r => (c :: r.1, r.2)

/-- The list that `cs` starts with, blanks before it allowed: its text, and what follows it. -/
def ahead? (cs : List Char) : Option (List Char × List Char) :=
  match cs.dropWhile isBlank with
  | '(' :: inner => rest? none inner
  | _ => none

theorem eq_of_rest? {quote : Option Char} {cs p after : List Char} (h : rest? quote cs = some (p, after)) :
    cs = p ++ ')' :: after := by
  induction cs generalizing quote p with
  | nil => simp [rest?] at h
  | cons c cs ih =>
    cases quote with
    | some q =>
      simp only [rest?, Option.map_eq_some_iff] at h
      obtain ⟨⟨p', after'⟩, h', heq⟩ := h
      simp only [Prod.mk.injEq] at heq
      obtain ⟨rfl, rfl⟩ := heq
      simp [ih h']
    | none =>
      simp only [rest?] at h
      split at h
      · simp_all
      · split at h
        · simp at h
        · simp only [Option.map_eq_some_iff] at h
          obtain ⟨⟨p', after'⟩, h', heq⟩ := h
          simp only [Prod.mk.injEq] at heq
          obtain ⟨rfl, rfl⟩ := heq
          simp [ih h']

theorem eq_of_ahead? {cs p after : List Char} (h : ahead? cs = some (p, after)) :
    cs = cs.takeWhile isBlank ++ '(' :: (p ++ ')' :: after) := by
  unfold ahead? at h
  split at h
  · next inner hd =>
    conv => lhs; rw [← List.takeWhile_append_dropWhile (p := isBlank) (l := cs), hd]
    rw [eq_of_rest? h]
  · simp at h

theorem length_lt_of_ahead? {cs p after : List Char} (h : ahead? cs = some (p, after)) :
    after.length < cs.length := by
  have := congrArg List.length (eq_of_ahead? h)
  simp only [List.length_append, List.length_cons] at this
  omega

/-- The text of the first list in `cs`. -/
def first? : List Char → Option (List Char)
  | [] => none
  | c :: cs =>
    match ahead? (c :: cs) with
    | some (p, _) => some p
    | none => first? cs

/-- The text `cs` without its lists and the blanks before each. -/
def remove (cs : List Char) : List Char :=
  match _h : ahead? cs with
  | some (_, after) => remove after
  | none =>
    match cs with
    | [] => []
    | c :: cs => c :: remove cs
termination_by cs.length
decreasing_by
  · exact length_lt_of_ahead? _h
  · simp

end ParameterList
end SpannerSchema
