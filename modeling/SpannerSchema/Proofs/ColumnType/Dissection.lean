import Mathlib.Data.List.DropRight
import SpannerSchema.Proofs.ColumnType.Lists

/-! Which parentheses of a type start a list, and what is left when the lists are cut out. A parenthesis starts a list
    or it does not, whatever was tried before it, and the first one that does gives the type its size. Cutting goes on
    from where a list ends: a type is cut in one way only into the lists found so, the blanks before each, and the rest,
    which is the text that the keyword is read off. -/

namespace SpannerSchema
namespace ParameterList
open Text

variable {cs front front' p p' after after' : List Char} {c d : Char}

/-! ### Parentheses that start a list -/

/-- The parenthesis of `cs` that stands between `front` and `p` starts a list with the text `p`, and `after` follows the
list. -/
structure StartsAt (cs front p after : List Char) : Prop where
  wellFormed : WellFormed p
  text : cs = front ++ '(' :: (p ++ ')' :: after)

/-- No parenthesis inside `front` starts a list of `cs`, but the one after it does. -/
structure FirstAt (cs front p after : List Char) : Prop extends StartsAt cs front p after where
  first : ∀ u v, front = u ++ '(' :: v → ∀ q rest, ¬StartsAt cs u q rest

theorem startsAt_nil_iff : StartsAt (c :: cs) [] p after ↔ c = '(' ∧ rest? none cs = some (p, after) := by
  rw [rest?_eq_some_iff]
  constructor
  · rintro ⟨hp, htext⟩
    obtain ⟨rfl, rfl⟩ := List.cons.inj htext
    exact ⟨rfl, hp, rfl⟩
  · rintro ⟨rfl, hp, rfl⟩
    exact ⟨hp, rfl⟩

theorem startsAt_cons_iff : StartsAt (c :: cs) (d :: front) p after ↔ c = d ∧ StartsAt cs front p after := by
  constructor
  · rintro ⟨hp, htext⟩
    obtain ⟨rfl, rfl⟩ := List.cons.inj htext
    exact ⟨rfl, hp, rfl⟩
  · rintro ⟨rfl, hp, rfl⟩
    exact ⟨hp, rfl⟩

theorem not_startsAt_of_not_mem (h : '(' ∉ cs) : ¬StartsAt cs front p after := by
  rintro ⟨-, rfl⟩
  simp at h

/-- A parenthesis starts one list at most. -/
theorem StartsAt.unique (h : StartsAt cs front p after) (h' : StartsAt cs front p' after') : p = p' ∧ after = after' := by
  have hsame := List.append_cancel_left (h.text.symm.trans h'.text)
  have hread := rest?_of_wellFormed h'.wellFormed after'
  rw [← (List.cons.inj hsame).2, rest?_of_wellFormed h.wellFormed] at hread
  exact Prod.mk.inj (Option.some.inj hread)

/-- The first character of a text starts a list, or it is passed over. -/
theorem startsAt_or_passed (c : Char) (cs : List Char) :
    (∃ p after, StartsAt (c :: cs) [] p after) ∨ (c = '(' → rest? none cs = none) := by
  cases hread : rest? none cs with
  | none => exact Or.inr fun _ => rfl
  | some r =>
    by_cases hc : c = '('
    · exact Or.inl ⟨r.1, r.2, startsAt_nil_iff.mpr ⟨hc, hread⟩⟩
    · exact Or.inr fun hopen => absurd hopen hc

theorem not_startsAt_nil_of_passed (hc : c = '(' → rest? none cs = none) : ¬StartsAt (c :: cs) [] p after := by
  intro hstarts
  obtain ⟨hopen, hread⟩ := startsAt_nil_iff.mp hstarts
  rw [hc hopen] at hread
  cases hread

/-! ### The first list -/

theorem firstAt_of_not_mem (h : StartsAt cs front p after) (hfront : '(' ∉ front) : FirstAt cs front p after := by
  refine ⟨h, ?_⟩
  rintro u v rfl
  simp at hfront

/-- A character that starts no list does not hide the first list after it. -/
theorem FirstAt.cons (h : FirstAt cs front p after) (hc : c = '(' → rest? none cs = none) :
    FirstAt (c :: cs) (c :: front) p after := by
  refine ⟨startsAt_cons_iff.mpr ⟨rfl, h.toStartsAt⟩, ?_⟩
  intro u v hfront q rest hstarts
  cases u with
  | nil => exact not_startsAt_nil_of_passed hc hstarts
  | cons d u => exact h.first u v (List.cons.inj hfront).2 q rest (startsAt_cons_iff.mp hstarts).2

theorem FirstAt.isPrefix (h : FirstAt cs front p after) (h' : StartsAt cs front' p' after') : front <+: front' := by
  rcases List.append_eq_append_iff.mp (h.text.symm.trans h'.text) with ⟨as, rfl, -⟩ | ⟨as, rfl, hrest⟩
  · exact List.prefix_append front as
  · cases as with
    | nil => simp
    | cons c as =>
      -- The parenthesis after `front'` would stand inside `front`.
      obtain ⟨rfl, -⟩ := List.cons.inj hrest
      exact absurd h' (h.first front' as rfl p' after')

theorem FirstAt.unique (h : FirstAt cs front p after) (h' : FirstAt cs front' p' after') :
    front = front' ∧ p = p' ∧ after = after' := by
  have hle := (h'.isPrefix h.toStartsAt).length_le
  obtain rfl := (h.isPrefix h'.toStartsAt).eq_of_length_le hle
  exact ⟨rfl, h.toStartsAt.unique h'.toStartsAt⟩

theorem first?_of_startsAt_nil (h : StartsAt cs [] p after) : first? cs = some p := by
  obtain rfl := h.text
  exact first?_open (rest?_of_wellFormed h.wellFormed after)

theorem firstAt_of_first? (h : first? cs = some p) : ∃ front after, FirstAt cs front p after := by
  induction cs with
  | nil => cases h
  | cons c cs ih =>
    rcases startsAt_or_passed c cs with ⟨q, after, hstarts⟩ | hpassed
    · rw [first?_of_startsAt_nil hstarts] at h
      cases h
      exact ⟨[], after, firstAt_of_not_mem hstarts List.not_mem_nil⟩
    · rw [first?_cons hpassed] at h
      obtain ⟨front, after, hfirst⟩ := ih h
      exact ⟨c :: front, after, hfirst.cons hpassed⟩

/-- Where a parenthesis starts a list, a list is found, whatever stands before the parenthesis. -/
theorem exists_first?_of_startsAt (h : StartsAt cs front p after) : ∃ q, first? cs = some q := by
  induction front generalizing cs with
  | nil => exact ⟨p, first?_of_startsAt_nil h⟩
  | cons c front ih =>
    cases cs with
    | nil => cases h.text
    | cons d cs =>
      rcases startsAt_or_passed d cs with ⟨q, rest, hstarts⟩ | hpassed
      · exact ⟨q, first?_of_startsAt_nil hstarts⟩
      · rw [first?_cons hpassed]
        exact ih (startsAt_cons_iff.mp h).2

theorem first?_eq_some_iff : first? cs = some p ↔ ∃ front after, FirstAt cs front p after := by
  constructor
  · exact firstAt_of_first?
  · rintro ⟨front, after, h⟩
    obtain ⟨q, hq⟩ := exists_first?_of_startsAt h.toStartsAt
    obtain ⟨front', after', h'⟩ := firstAt_of_first? hq
    rw [hq, (h.unique h').2.1]

theorem first?_eq_none_iff : first? cs = none ↔ ∀ front p after, ¬StartsAt cs front p after := by
  constructor
  · intro h front p after hstarts
    obtain ⟨q, hq⟩ := exists_first?_of_startsAt hstarts
    rw [h] at hq
    cases hq
  · intro h
    rw [Option.eq_none_iff_forall_ne_some]
    intro p hp
    obtain ⟨front, after, hfirst⟩ := firstAt_of_first? hp
    exact h front p after hfirst.toStartsAt

/-! ### Blanks before a list -/

section Blanks
variable {blanks kept kept' blanks' : List Char}

theorem ahead?_blanks (hblanks : ∀ c ∈ blanks, isBlank c = true) (cs : List Char) :
    ahead? (blanks ++ '(' :: cs) = rest? none cs := by
  induction blanks with
  | nil => exact ahead?_open cs
  | cons c blanks ih =>
    rw [List.cons_append, ahead?_blank (hblanks c List.mem_cons_self)]
    exact ih fun d hd => hblanks d (List.mem_cons_of_mem c hd)

theorem open_not_mem_of_blanks (hblanks : ∀ c ∈ blanks, isBlank c = true) : '(' ∉ blanks := by
  intro hmem
  exact absurd (hblanks '(' hmem) (by decide)

theorem firstAt_of_ahead? (h : ahead? cs = some (p, after)) : FirstAt cs (cs.takeWhile isBlank) p after := by
  have hblanks : ∀ c ∈ cs.takeWhile isBlank, isBlank c = true := fun c hc => List.mem_takeWhile_imp hc
  have htext := eq_of_ahead? h
  have hread := h
  rw [htext, ahead?_blanks hblanks] at hread
  exact firstAt_of_not_mem ⟨(rest?_eq_some_iff.mp hread).1, htext⟩ (open_not_mem_of_blanks hblanks)

theorem rdropWhile_append_blanks (hblanks : ∀ c ∈ blanks, isBlank c = true)
    (hkept : ∀ c ∈ kept.getLast?, isBlank c = false) : (kept ++ blanks).rdropWhile isBlank = kept := by
  have hdrop : (kept ++ blanks).rdropWhile isBlank = kept.rdropWhile isBlank := by
    rw [List.rdropWhile, List.rdropWhile, List.reverse_append,
      List.dropWhile_append_of_pos fun c hc => hblanks c (List.mem_reverse.mp hc)]
  rw [hdrop, List.rdropWhile_eq_self_iff]
  intro hne hblank
  rw [hkept _ (List.getLast?_eq_some_getLast hne)] at hblank
  cases hblank

/-- A text is divided in one way only before the blanks at its end. -/
theorem eq_of_append_blanks (h : kept ++ blanks = kept' ++ blanks') (hblanks : ∀ c ∈ blanks, isBlank c = true)
    (hblanks' : ∀ c ∈ blanks', isBlank c = true) (hkept : ∀ c ∈ kept.getLast?, isBlank c = false)
    (hkept' : ∀ c ∈ kept'.getLast?, isBlank c = false) : kept = kept' ∧ blanks = blanks' := by
  have hsame : kept = kept' := by
    rw [← rdropWhile_append_blanks hblanks hkept, h, rdropWhile_append_blanks hblanks' hkept']
  subst hsame
  exact ⟨rfl, List.append_cancel_left h⟩

end Blanks

/-! ### Cutting lists out -/

/-- A text cut at lists. -/
inductive Dissection where
  | last (kept : List Char)
  | list (kept blanks p : List Char) (rest : Dissection)

namespace Dissection

/-- The text that was cut. -/
def text : Dissection → List Char
  | last kept => kept
  | list kept blanks p rest => kept ++ blanks ++ '(' :: (p ++ ')' :: rest.text)

/-- What is left of it. -/
def kept : Dissection → List Char
  | last kept => kept
  | list kept _ _ rest => kept ++ rest.kept

/-- Each list is the first that starts after the one before it, all blanks directly before it go with it, and none starts
after the last one. -/
inductive LeftToRight : Dissection → Prop where
  | last {kept : List Char} (h : ∀ front p after, ¬StartsAt kept front p after) : LeftToRight (last kept)
  | list {kept blanks p : List Char} {rest : Dissection}
      (hfirst : FirstAt (list kept blanks p rest).text (kept ++ blanks) p rest.text)
      (hblanks : ∀ c ∈ blanks, isBlank c = true) (hkept : ∀ c ∈ kept.getLast?, isBlank c = false)
      (h : LeftToRight rest) : LeftToRight (list kept blanks p rest)

/-- One more character before all that is cut. -/
def push (c : Char) : Dissection → Dissection
  | last kept => last (c :: kept)
  | list kept blanks p rest => list (c :: kept) blanks p rest

variable {x y : Dissection}

@[simp] theorem text_push (c : Char) (x : Dissection) : (x.push c).text = c :: x.text := by
  cases x <;> rfl

@[simp] theorem kept_push (c : Char) (x : Dissection) : (x.push c).kept = c :: x.kept := by
  cases x <;> rfl

theorem LeftToRight.push (h : x.LeftToRight) (hahead : ahead? (c :: x.text) = none) : (x.push c).LeftToRight := by
  have hpassed : c = '(' → rest? none x.text = none := by
    rintro rfl
    rwa [ahead?_open] at hahead
  cases h with
  | @last kept h =>
    refine .last ?_
    intro front p after hstarts
    cases front with
    | nil => exact not_startsAt_nil_of_passed hpassed hstarts
    | cons d front => exact h front p after (startsAt_cons_iff.mp hstarts).2
  | @list kept blanks p rest hfirst hblanks hkept h =>
    refine .list (hfirst.cons hpassed) hblanks ?_ h
    intro d hd
    cases kept with
    | nil =>
      -- A blank that stands before the blanks of the list would go with them.
      obtain rfl : c = d := by simpa using hd
      by_contra hblank
      rw [Bool.not_eq_false] at hblank
      have hread := rest?_of_wellFormed hfirst.wellFormed rest.text
      rw [ahead?_blank hblank, text, List.nil_append, ahead?_blanks hblanks, hread] at hahead
      cases hahead
    | cons b kept => exact hkept d (by rwa [List.getLast?_cons_cons] at hd)

/-- Every text is cut, and what is left of it is the text without its lists. -/
theorem exists_leftToRight (cs : List Char) : ∃ x : Dissection, x.text = cs ∧ x.LeftToRight ∧ remove cs = x.kept := by
  induction cs using remove.induct with
  | case1 cs p after hahead ih =>
    obtain ⟨x, rfl, hx, hkept⟩ := ih
    have hfirst := firstAt_of_ahead? hahead
    have htext : (list [] (cs.takeWhile isBlank) p x).text = cs := hfirst.text.symm
    refine ⟨list [] (cs.takeWhile isBlank) p x, htext, .list ?_ ?_ (by simp) hx, ?_⟩
    · rwa [htext]
    · exact fun c hc => List.mem_takeWhile_imp hc
    · rw [remove_of_ahead? hahead, hkept]
      rfl
  | case2 =>
    refine ⟨last [], rfl, .last ?_, remove_nil⟩
    exact fun front p after => not_startsAt_of_not_mem List.not_mem_nil
  | case3 c cs hahead ih =>
    obtain ⟨x, rfl, hx, hkept⟩ := ih
    refine ⟨x.push c, text_push c x, hx.push hahead, ?_⟩
    rw [remove_cons hahead, hkept, kept_push]

theorem LeftToRight.unique (h : x.LeftToRight) (h' : y.LeftToRight) (htext : x.text = y.text) : x = y := by
  induction h generalizing y with
  | @last kept h =>
    cases h' with
    | @last kept' =>
      have hsame : kept = kept' := htext
      rw [hsame]
    | @list kept' blanks p rest hfirst =>
      rw [← htext] at hfirst
      exact absurd hfirst.toStartsAt (h _ _ _)
  | @list kept blanks p rest hfirst hblanks hkept h ih =>
    cases h' with
    | last h' =>
      rw [htext] at hfirst
      exact absurd hfirst.toStartsAt (h' _ _ _)
    | @list kept' blanks' p' rest' hfirst' hblanks' hkept' h' =>
      rw [htext] at hfirst
      obtain ⟨hfront, rfl, hafter⟩ := hfirst.unique hfirst'
      obtain ⟨rfl, rfl⟩ := eq_of_append_blanks hfront hblanks hblanks' hkept hkept'
      rw [ih h' hafter]

theorem existsUnique_leftToRight (cs : List Char) : ∃! x : Dissection, x.text = cs ∧ x.LeftToRight := by
  obtain ⟨x, htext, hx, -⟩ := exists_leftToRight cs
  refine ⟨x, ⟨htext, hx⟩, ?_⟩
  rintro y ⟨htext', hy⟩
  exact hy.unique hx (htext'.trans htext.symm)

theorem LeftToRight.remove_text (h : x.LeftToRight) : remove x.text = x.kept := by
  obtain ⟨y, htext, hy, hkept⟩ := exists_leftToRight x.text
  rw [hkept, hy.unique h htext]

end Dissection

end ParameterList

namespace SourceType
open Text ParameterList

/-- The size of a type is the text of its first list, and its keyword is read off what is left when its lists are cut
out from left to right, which can be done in one way only. -/
theorem lists_recognized (type : String) :
    (∀ size, size? type = some size ↔ ∃ front after, FirstAt type.toList front size.toList after) ∧
    (size? type = none ↔ ∀ front p after, ¬StartsAt type.toList front p after) ∧
    (∀ front p p' after after', StartsAt type.toList front p after → StartsAt type.toList front p' after' →
      p = p' ∧ after = after') ∧
    (∃! x : Dissection, x.text = type.toList ∧ x.LeftToRight) ∧
    ∀ x : Dissection, x.text = type.toList → x.LeftToRight →
      remove type.toList = x.kept ∧
      keyword type = String.ofList (lower (withoutBlanks (Keyword.withoutDisplayWords false x.kept))) ∧
      bareKeyword type = String.ofList
        (Keyword.withoutUnsigned (lower (withoutBlanks (Keyword.withoutDisplayWords false x.kept)))) := by
  refine ⟨?_, ?_, ?_, Dissection.existsUnique_leftToRight type.toList, ?_⟩
  · intro size
    rw [← first?_eq_some_iff, size?, Option.map_eq_some_iff]
    constructor
    · rintro ⟨p, hp, rfl⟩
      rwa [String.toList_ofList]
    · intro hsize
      exact ⟨size.toList, hsize, String.ofList_toList⟩
  · rw [← first?_eq_none_iff, size?, Option.map_eq_none_iff]
  · intro front p p' after after' h h'
    exact h.unique h'
  · intro x htext hx
    have hremoved : remove type.toList = x.kept := by rw [← htext, hx.remove_text]
    refine ⟨hremoved, ?_, ?_⟩
    · rw [keyword, Keyword.ofType, hremoved]
    · rw [bareKeyword, Keyword.bare, Keyword.ofType, hremoved]

/-- A type with a parenthesis that starts no list, as its quote is left open, and a list that holds one in quotes. -/
def torn : String := "(' year (4) zerofill(\"(\")!"

def tornCut : Dissection :=
  .list "(' year".toList [' '] ['4'] (.list " zerofill".toList [] ['"', '(', '"'] (.last ['!']))

theorem leftToRight_tornCut : tornCut.LeftToRight := by
  have hsize : WellFormed ['4'] := .plain (by decide) .nil
  have hquoted : WellFormed ['"', '(', '"'] := .quoted (s := ['(']) (by decide) (by decide) .nil
  have hafter : FirstAt " zerofill(\"(\")!".toList " zerofill".toList ['"', '(', '"'] ['!'] :=
    firstAt_of_not_mem ⟨hquoted, by decide⟩ (by decide)
  have hfirst : FirstAt (torn.toList.drop 1) "' year ".toList ['4'] " zerofill(\"(\")!".toList :=
    firstAt_of_not_mem ⟨hsize, by decide⟩ (by decide)
  refine .list (hfirst.cons fun _ => by decide) ?_ ?_ (.list hafter ?_ ?_ (.last ?_))
  · exact List.forall_mem_singleton.mpr (by decide +kernel)
  · rintro c ⟨⟩
    decide +kernel
  · exact List.forall_mem_nil _
  · rintro c ⟨⟩
    decide +kernel
  · exact fun front p after => not_startsAt_of_not_mem (by decide)

theorem lists_recognized_torn :
    tornCut.text = torn.toList ∧ tornCut.LeftToRight ∧ size? torn = some "4" ∧
    (∀ p after, StartsAt torn.toList "(' year ".toList p after → p = ['4']) ∧
    remove torn.toList = "(' year zerofill!".toList ∧ keyword torn = "('year!" := by
  obtain ⟨hsize, -, hunique, -, hcut⟩ := lists_recognized torn
  have hstarts : FirstAt torn.toList "(' year ".toList ['4'] " zerofill(\"(\")!".toList := by
    cases leftToRight_tornCut with
    | list hfirst => exact hfirst
  obtain ⟨hremoved, hkeyword, -⟩ := hcut tornCut (by decide) leftToRight_tornCut
  refine ⟨by decide, leftToRight_tornCut, (hsize "4").mpr ⟨_, _, hstarts⟩, ?_, ?_, ?_⟩
  · intro p after h
    exact (hunique _ _ _ _ _ h hstarts.toStartsAt).1
  · rw [hremoved]
    decide
  · rw [hkeyword]
    decide +kernel

end SourceType
end SpannerSchema
