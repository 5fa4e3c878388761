import Mathlib.Data.List.Basic
import SpannerSchema.ColumnType.Mapping

/-! Parameter lists by a grammar, and what taking them out of a type comes to. Reading a list is decided character by
    character, so that at an opening parenthesis there is one text that the grammar allows, or none. Blanks before a list
    go with it, and any other character stays. What comes after a type and has no parenthesis changes none of its lists:
    it can close none that the type left open. A type that is a word and a list has the keyword of the word, and the list
    for its size. -/

namespace SpannerSchema
namespace ParameterList
open Text

/-- The text of a list: complete quoted strings, and single characters that are neither a quote nor a parenthesis. -/
inductive WellFormed : List Char → Prop where
  | nil : WellFormed []
  | plain {c : Char} {cs : List Char} (hc : c ∉ ['(', ')', '\'', '"']) (h : WellFormed cs) : WellFormed (c :: cs)
  | quoted {q : Char} {s cs : List Char} (hq : q = '\'' ∨ q = '"') (hs : q ∉ s) (h : WellFormed cs) :
      WellFormed (q :: (s ++ q :: cs))

variable {cs p after tail : List Char} {c q : Char} {quote : Option Char}

/-! ### Reading a list -/

theorem isQuote_iff : isQuote c = true ↔ c = '\'' ∨ c = '"' := by
  simp [isQuote]

/-- Inside a quoted string everything up to its mark is read. -/
theorem rest?_string {s : List Char} (hs : q ∉ s) (cs : List Char) :
    rest? (some q) (s ++ q :: cs) = (rest? none cs).map fun r => (s ++ q :: r.1, r.2) := by
  induction s with
  | nil => simp [rest?]
  | cons c s ih =>
    rw [List.mem_cons, not_or] at hs
    obtain ⟨hc, hs⟩ := hs
    have hmark : (c == q) = false := by simpa using Ne.symm hc
    rw [List.cons_append, rest?]
    simp only [hmark, Bool.false_eq_true, if_false]
    rw [ih hs, Option.map_map]
    rfl

theorem rest?_of_wellFormed (h : WellFormed p) (after : List Char) : rest? none (p ++ ')' :: after) = some (p, after) := by
  induction h with
  | nil => rfl
  | @plain c cs hc _ ih =>
    simp only [List.mem_cons, List.not_mem_nil, or_false, not_or] at hc
    obtain ⟨hopen, hclose, hsingle, hdouble⟩ := hc
    simp [rest?, isQuote, hopen, hclose, hsingle, hdouble, ih]
  | @quoted q s cs hq hs _ ih =>
    have hquote := isQuote_iff.mpr hq
    have hopen : (q == '(') = false := by rcases hq with rfl | rfl <;> rfl
    have hclose : (q == ')') = false := by rcases hq with rfl | rfl <;> rfl
    rw [List.cons_append, List.append_assoc, List.cons_append, rest?]
    simp only [hopen, hclose, hquote, Bool.false_eq_true, if_false, if_true]
    rw [rest?_string hs, ih]
    rfl

/-- What may follow in a list after a part of it that ends in a string with the mark `quote`, or in none. -/
def Continues : Option Char → List Char → Prop
  | none, p => WellFormed p
  | some q, p => ∃ s rest, p = s ++ q :: rest ∧ q ∉ s ∧ WellFormed rest

theorem continues_of_rest? (hquote : ∀ q ∈ quote, q = '\'' ∨ q = '"') (h : rest? quote cs = some (p, after)) :
    Continues quote p := by
  induction cs generalizing quote p with
  | nil => cases h
  | cons c cs ih =>
    cases quote with
    | some q =>
      rw [rest?] at h
      obtain ⟨⟨p', after'⟩, h', heq⟩ := Option.map_eq_some_iff.mp h
      obtain ⟨rfl, rfl⟩ := Prod.mk.inj heq
      by_cases hc : c = q
      · subst hc
        rw [if_pos (beq_self_eq_true c)] at h'
        exact ⟨[], p', rfl, List.not_mem_nil, ih (by simp) h'⟩
      · rw [if_neg (by simpa using hc)] at h'
        obtain ⟨s, rest, rfl, hs, hrest⟩ := ih hquote h'
        exact ⟨c :: s, rest, rfl, by simpa using ⟨Ne.symm hc, hs⟩, hrest⟩
    | none =>
      rw [rest?] at h
      split at h
      · cases h
        exact .nil
      · next hclose =>
        split at h
        · cases h
        · next hopen =>
          obtain ⟨⟨p', after'⟩, h', heq⟩ := Option.map_eq_some_iff.mp h
          obtain ⟨rfl, rfl⟩ := Prod.mk.inj heq
          by_cases hc : isQuote c = true
          · rw [if_pos hc] at h'
            obtain ⟨s, rest, rfl, hs, hrest⟩ := ih (by simpa using isQuote_iff.mp hc) h'
            exact .quoted (isQuote_iff.mp hc) hs hrest
          · rw [if_neg hc] at h'
            refine .plain ?_ (ih (by simp) h')
            simp only [isQuote, Bool.or_eq_true, beq_iff_eq, not_or] at hc hopen hclose
            simp [hopen, hclose, hc.1, hc.2]

/-- An open list is read if and only if it starts with a well-formed text that is closed. -/
theorem rest?_eq_some_iff : rest? none cs = some (p, after) ↔ WellFormed p ∧ cs = p ++ ')' :: after := by
  constructor
  · intro h
    have hp : Continues none p := continues_of_rest? (by simp) h
    exact ⟨hp, eq_of_rest? h⟩
  · rintro ⟨hp, rfl⟩
    exact rest?_of_wellFormed hp after

theorem rest?_eq_none_iff : rest? none cs = none ↔ ∀ p after, WellFormed p → cs ≠ p ++ ')' :: after := by
  rw [Option.eq_none_iff_forall_ne_some]
  constructor
  · exact fun h p after hp hcs => h (p, after) (rest?_eq_some_iff.mpr ⟨hp, hcs⟩)
  · exact fun h r hr => h r.1 r.2 (rest?_eq_some_iff.mp hr).1 (rest?_eq_some_iff.mp hr).2

/-! ### One step through a type -/

theorem ahead?_open (cs : List Char) : ahead? ('(' :: cs) = rest? none cs := by
  have hblank : isBlank '(' = false := by decide
  simp [ahead?, hblank]

theorem ahead?_blank (hc : isBlank c = true) (cs : List Char) : ahead? (c :: cs) = ahead? cs := by
  simp [ahead?, hc]

theorem ahead?_other (hblank : isBlank c = false) (hc : c ≠ '(') (cs : List Char) : ahead? (c :: cs) = none := by
  simp [ahead?, hblank, hc]

theorem remove_nil : remove [] = [] := by
  rw [remove]
  rfl

theorem remove_of_ahead? (h : ahead? cs = some (p, after)) : remove cs = remove after := by
  rw [remove]
  split
  · next h' =>
    rw [h] at h'
    cases h'
    rfl
  · next h' =>
    rw [h] at h'
    cases h'

theorem remove_cons (h : ahead? (c :: cs) = none) : remove (c :: cs) = c :: remove cs := by
  rw [remove]
  split
  · next h' =>
    rw [h] at h'
    cases h'
  · rfl

/-- A character that opens no list does not hide the first list after it. -/
theorem first?_cons (hc : c = '(' → rest? none cs = none) : first? (c :: cs) = first? cs := by
  rw [first?]
  by_cases hblank : isBlank c = true
  · rw [ahead?_blank hblank]
    cases h : ahead? cs with
    | none => rfl
    | some r =>
      cases cs with
      | nil => cases h
      | cons d ds => rw [first?, h]
  · rw [Bool.not_eq_true] at hblank
    by_cases hopen : c = '('
    · subst hopen
      rw [ahead?_open, hc rfl]
    · rw [ahead?_other hblank hopen]

theorem first?_open (h : rest? none cs = some (p, after)) : first? ('(' :: cs) = some p := by
  rw [first?, ahead?_open, h]

/-! ### Texts without an opening parenthesis -/

theorem ahead?_of_not_mem (h : '(' ∉ cs) : ahead? cs = none := by
  cases ha : ahead? cs with
  | none => rfl
  | some r =>
    rw [eq_of_ahead? ha] at h
    simp at h

theorem remove_of_not_mem (h : '(' ∉ cs) : remove cs = cs := by
  induction cs with
  | nil => exact remove_nil
  | cons c cs ih => rw [remove_cons (ahead?_of_not_mem h), ih fun hmem => h (List.mem_cons_of_mem c hmem)]

theorem first?_of_not_mem (h : '(' ∉ cs) : first? cs = none := by
  induction cs with
  | nil => rfl
  | cons c cs ih =>
    rw [List.mem_cons, not_or] at h
    rw [first?_cons fun hc => absurd hc.symm h.1, ih h.2]

/-- A text that ends in no blank stands between the blanks before it and a list after it. -/
theorem ahead?_append_of_last (hne : cs ≠ []) (hopen : '(' ∉ cs) (hlast : ∀ c ∈ cs.getLast?, isBlank c = false)
    (rest : List Char) : ahead? (cs ++ rest) = none := by
  induction cs with
  | nil => exact absurd rfl hne
  | cons c cs ih =>
    rw [List.mem_cons, not_or] at hopen
    rw [List.cons_append]
    by_cases hblank : isBlank c = true
    · rw [ahead?_blank hblank]
      refine ih ?_ hopen.2 fun d hd => hlast d (List.mem_getLast?_cons hd)
      rintro rfl
      simpa [hblank] using hlast c rfl
    · rw [Bool.not_eq_true] at hblank
      exact ahead?_other hblank (Ne.symm hopen.1) _

theorem remove_append_of_last (hopen : '(' ∉ cs) (hlast : ∀ c ∈ cs.getLast?, isBlank c = false) (rest : List Char) :
    remove (cs ++ rest) = cs ++ remove rest := by
  induction cs with
  | nil => rfl
  | cons c cs ih =>
    have hnone : ahead? (c :: (cs ++ rest)) = none := ahead?_append_of_last (List.cons_ne_nil c cs) hopen hlast rest
    have htail := ih (fun hmem => hopen (List.mem_cons_of_mem c hmem)) fun d hd => hlast d (List.mem_getLast?_cons hd)
    rw [List.cons_append, remove_cons hnone, htail, List.cons_append]

theorem first?_append_of_not_mem (hopen : '(' ∉ cs) (rest : List Char) : first? (cs ++ rest) = first? rest := by
  induction cs with
  | nil => rfl
  | cons c cs ih =>
    rw [List.mem_cons, not_or] at hopen
    rw [List.cons_append, first?_cons fun hc => absurd hc.symm hopen.1, ih hopen.2]

/-! ### Texts without a parenthesis -/

section Tail
variable (hopen : '(' ∉ tail) (hclose : ')' ∉ tail)

include hclose

theorem rest?_append (quote : Option Char) (cs : List Char) :
    rest? quote (cs ++ tail) = (rest? quote cs).map fun r => (r.1, r.2 ++ tail) := by
  induction cs generalizing quote with
  | nil =>
    cases h : rest? quote tail with
    | none => simpa [rest?] using h
    | some r =>
      rw [eq_of_rest? h] at hclose
      simp at hclose
  | cons c cs ih =>
    cases quote with
    | some q =>
      rw [List.cons_append, rest?, rest?]
      simp only [ih, Option.map_map]
      rfl
    | none =>
      rw [List.cons_append, rest?, rest?]
      split
      · rfl
      · split
        · rfl
        · rw [ih, Option.map_map, Option.map_map]
          rfl

include hopen

theorem ahead?_append (cs : List Char) : ahead? (cs ++ tail) = (ahead? cs).map fun r => (r.1, r.2 ++ tail) := by
  induction cs with
  | nil => exact ahead?_of_not_mem hopen
  | cons c cs ih =>
    rw [List.cons_append]
    by_cases hblank : isBlank c = true
    · rw [ahead?_blank hblank, ahead?_blank hblank, ih]
    · rw [Bool.not_eq_true] at hblank
      by_cases hc : c = '('
      · rw [hc, ahead?_open, ahead?_open, rest?_append hclose]
      · rw [ahead?_other hblank hc, ahead?_other hblank hc]
        rfl

theorem remove_append (cs : List Char) : remove (cs ++ tail) = remove cs ++ tail := by
  induction cs using remove.induct with
  | case1 cs p after h ih =>
    have h' : ahead? (cs ++ tail) = some (p, after ++ tail) := by
      rw [ahead?_append hopen hclose, h]
      rfl
    rw [remove_of_ahead? h', remove_of_ahead? h, ih]
  | case2 => rw [List.nil_append, remove_nil, remove_of_not_mem hopen, List.nil_append]
  | case3 c cs h ih =>
    have h' : ahead? (c :: (cs ++ tail)) = none := by
      rw [← List.cons_append, ahead?_append hopen hclose, h]
      rfl
    rw [List.cons_append, remove_cons h', remove_cons h, ih, List.cons_append]

theorem first?_append (cs : List Char) : first? (cs ++ tail) = first? cs := by
  induction cs with
  | nil => exact first?_of_not_mem hopen
  | cons c cs ih =>
    rw [List.cons_append, first?, first?, ← List.cons_append, ahead?_append hopen hclose, ih]
    cases ahead? (c :: cs) <;> rfl

end Tail

end ParameterList

/-! ### Types with one list -/

/-- A type with a list, between what comes before and what comes after it. -/
def listed (front list back : String) : String := front ++ "(" ++ list ++ ")" ++ back

namespace SourceType
open Text ParameterList

variable {front list back : String}

theorem toList_listed (front list back : String) :
    (listed front list back).toList = front.toList ++ '(' :: (list.toList ++ ')' :: back.toList) := by
  simp [listed]

theorem ofType_listed (hlist : WellFormed list.toList) (hfront : '(' ∉ front.toList) (hback : '(' ∉ back.toList)
    (hlast : ∀ c ∈ front.toList.getLast?, isBlank c = false) :
    Keyword.ofType (listed front list back).toList = Keyword.ofType (front ++ back).toList := by
  have hahead := (ahead?_open _).trans (rest?_of_wellFormed hlist back.toList)
  have hkept : '(' ∉ (front ++ back).toList := by
    rw [String.toList_append, List.mem_append, not_or]
    exact ⟨hfront, hback⟩
  have hremoved : remove (listed front list back).toList = (front ++ back).toList := by
    rw [toList_listed, remove_append_of_last hfront hlast, remove_of_ahead? hahead, remove_of_not_mem hback,
      String.toList_append]
  rw [Keyword.ofType, hremoved, Keyword.ofType, remove_of_not_mem hkept]

theorem size?_listed (hlist : WellFormed list.toList) (hfront : '(' ∉ front.toList) :
    size? (listed front list back) = some list := by
  rw [size?, toList_listed, first?_append_of_not_mem hfront, first?_open (rest?_of_wellFormed hlist back.toList),
    Option.map_some, String.ofList_toList]

/-- A word with a kind of its own keeps the kind when a list follows. -/
theorem toTarget_listed {kind : TypeKind} (hlist : WellFormed list.toList) (initial : Option String)
    (hfront : '(' ∉ front.toList) (hlast : ∀ c ∈ front.toList.getLast?, isBlank c = false)
    (hkind : TypeKind.resolve? (keyword front) = some kind) :
    toTarget (listed front list "") initial = kind.render (some list) initial := by
  have hkeyword : keyword (listed front list "") = keyword front := by
    rw [keyword, ofType_listed hlist hfront (by simp) hlast, String.append_empty, keyword]
  rw [toTarget, hkeyword, hkind, size?_listed hlist hfront]

end SourceType
end SpannerSchema
