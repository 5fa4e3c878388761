import SpannerSchema.ColumnType.ParameterList
import SpannerSchema.Text.Case
import SpannerSchema.Text.Word

/-! Keywords of column types: what is left of a type when its parameter lists, its blanks, its display words and
    the case of its letters are taken away. -/

namespace SpannerSchema
namespace Keyword
open Text

/-- The word that only sets how a number is displayed. -/
def displayWord : List Char := "zerofill".toList

/-- Is `c` the letter `letter` in either case? The capital with a dot and the small one without count as `i`. -/
def isLetter (letter c : Char) : Bool :=
  c == letter || c == letter.toUpper || (letter == 'i' && (c == 'İ' || c == 'ı'))

/-- What follows `word`, in any case, at the start of `cs`. -/
def after? : List Char → List Char → Option (List Char)
  | [], cs => some cs
  | _ :: _, [] => none
  | letter :: word, c :: cs => if isLetter letter c then after? word cs else none

theorem length_of_after? {word cs rest : List Char} (h : after? word cs = some rest) :
    cs.length = word.length + rest.length := by
  induction word generalizing cs with
  | nil => simp_all [after?]
  | cons letter word ih =>
    cases cs with
    | nil => simp [after?] at h
    | cons c cs =>
      simp only [after?] at h
      split at h
      · simp [ih h]; omega
      · simp at h

/-- Does a word character start `cs`? -/
def startsWord : List Char → Bool
  | c :: _ => isWord c
  | [] => false

/-- What follows the display word at the start of `cs`, if it ends there. -/
def afterDisplayWord? (cs : List Char) : Option (List Char) :=
  match after? displayWord cs with
  | some rest => if startsWord rest then none else some rest
  | none => none

theorem length_lt_of_afterDisplayWord? {cs rest : List Char} (h : afterDisplayWord? cs = some rest) :
    rest.length < cs.length := by
  unfold afterDisplayWord? at h
  split at h
  · next r hr =>
    split at h
    · simp at h
    · have := length_of_after? hr
      simp only [Option.some.injEq] at h
      subst h
      have : displayWord.length = 8 := by decide
      omega
  · simp at h

/-- The text `cs` without its display words, where `inWord` says that a word character comes before it. -/
def withoutDisplayWords (inWord : Bool) (cs : List Char) : List Char :=
  match _h : (if inWord then none else afterDisplayWord? cs) with
  | some rest => withoutDisplayWords true rest
  | none =>
    match cs with
    | [] => []
    | c :: cs => c :: withoutDisplayWords (isWord c) cs
termination_by cs.length
decreasing_by
  · split at _h
    · simp at _h
    · exact length_lt_of_afterDisplayWord? _h
  · simp

/-- The keyword of a type. -/
def ofType (cs : List Char) : List Char :=
  lower (withoutBlanks (withoutDisplayWords false (ParameterList.remove cs)))

/-- The qualifier of a type without negative numbers. -/
def unsigned : List Char := "unsigned".toList

/-- The text `cs` without the qualifier, wherever it stands. -/
def withoutUnsigned (cs : List Char) : List Char :=
  if _h : unsigned.isPrefixOf cs then withoutUnsigned (cs.drop unsigned.length)
  else
    match cs with
    | [] => []
    | c :: cs => c :: withoutUnsigned cs
termination_by cs.length
decreasing_by
  · have hl := (List.isPrefixOf_iff_prefix.mp _h).length_le
    have : unsigned.length = 8 := by decide
    simp only [List.length_drop]
    omega
  · simp

/-- The keyword of a type without its qualifier. -/
def bare (cs : List Char) : List Char := withoutUnsigned (ofType cs)

end Keyword
end SpannerSchema
