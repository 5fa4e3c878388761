import SpannerSchema.ColumnType.Mapping
import SpannerSchema.Proofs.ColumnType.Lists
import SpannerSchema.Proofs.Text.Letters

/-! Types in another case. No mark of a parameter list is a letter, so the lists of a type are found where they were, and
    the display word and the end of a word are found in either case. So the keyword of a type does not depend on the case
    of its letters. Its size does, where letters of a list change, because it is the text of the list as it stands. -/

namespace SpannerSchema
open Text

variable {cs ds : List Char}

/-! ### Lists -/

namespace ParameterList

theorem isBlank_toLower (c : Char) : isBlank c.toLower = isBlank c := apply_toLower (by decide +kernel) c

theorem beq_quote_toLower {q : Char} (hq : q = '\'' ∨ q = '"') (c : Char) : (c.toLower == q) = (c == q) := by
  rcases hq with rfl | rfl
  · exact beq_toLower _ (by decide) c
  · exact beq_toLower _ (by decide) c

theorem toLower_of_isQuote {c : Char} (h : isQuote c = true) : c.toLower = c := by
  rcases isQuote_iff.mp h with rfl | rfl <;> rfl

theorem rest?_map_toLower (quote : Option Char) (hquote : ∀ q ∈ quote, q = '\'' ∨ q = '"') (cs : List Char) :
    rest? quote (cs.map Char.toLower)
      = (rest? quote cs).map fun r => (r.1.map Char.toLower, r.2.map Char.toLower) := by
  induction cs generalizing quote with
  | nil => rfl
  | cons c cs ih =>
    cases quote with
    | some q =>
      rw [List.map_cons, rest?, rest?]
      simp only [beq_quote_toLower (hquote q rfl) c]
      have hnext : ∀ q' ∈ (if c == q then none else some q), q' = '\'' ∨ q' = '"' := by
        intro q' hq'
        split at hq'
        · cases hq'
        · exact hquote q' hq'
      rw [ih _ hnext, Option.map_map, Option.map_map]
      rfl
    | none =>
      rw [List.map_cons, rest?, rest?]
      simp only [beq_toLower ')' (by decide) c, beq_toLower '(' (by decide) c]
      split
      · rfl
      · split
        · rfl
        · have hquote' : isQuote c.toLower = isQuote c := apply_toLower (by decide) c
          have hsame : (if isQuote c.toLower then some c.toLower else none) = if isQuote c then some c else none := by
            rw [hquote']
            split
            · next hc => rw [toLower_of_isQuote hc]
            · rfl
          have hnext : ∀ q ∈ (if isQuote c then some c else none), q = '\'' ∨ q = '"' := by
            intro q hq
            split at hq
            · next hc =>
              cases hq
              exact isQuote_iff.mp hc
            · cases hq
          rw [hsame, ih _ hnext, Option.map_map, Option.map_map]
          rfl

theorem ahead?_map_toLower (cs : List Char) :
    ahead? (cs.map Char.toLower) = (ahead? cs).map fun r => (r.1.map Char.toLower, r.2.map Char.toLower) := by
  induction cs with
  | nil => rfl
  | cons c cs ih =>
    rw [List.map_cons]
    have hlower := isBlank_toLower c
    by_cases hblank : isBlank c = true
    · rw [ahead?_blank (hlower.trans hblank), ahead?_blank hblank, ih]
    · rw [Bool.not_eq_true] at hblank
      by_cases hc : c = '('
      · have hopen : '('.toLower = '(' := rfl
        rw [hc, hopen, ahead?_open, ahead?_open, rest?_map_toLower none (by simp)]
      · have hc' : c.toLower ≠ '(' := by
          have hbeq := beq_toLower '(' (by decide) c
          simpa [hc] using hbeq
        rw [ahead?_other (hlower.trans hblank) hc', ahead?_other hblank hc]
        rfl

theorem remove_map_toLower (cs : List Char) : remove (cs.map Char.toLower) = (remove cs).map Char.toLower := by
  induction cs using remove.induct with
  | case1 cs p after h ih =>
    have h' : ahead? (cs.map Char.toLower) = some (p.map Char.toLower, after.map Char.toLower) := by
      rw [ahead?_map_toLower, h]
      rfl
    rw [remove_of_ahead? h', remove_of_ahead? h, ih]
  | case2 => rw [List.map_nil, remove_nil, List.map_nil]
  | case3 c cs h ih =>
    have h' : ahead? (c.toLower :: cs.map Char.toLower) = none := by
      rw [← List.map_cons, ahead?_map_toLower, h]
      rfl
    rw [List.map_cons, remove_cons h', remove_cons h, ih, List.map_cons]

end ParameterList

/-! ### Keywords -/

namespace Keyword

variable {inWord : Bool} {rest : List Char} {c : Char}

theorem isLetter_toLower {letter : Char} (h : letter ∈ displayWord) (c : Char) :
    isLetter letter c.toLower = isLetter letter c := by
  obtain ⟨i, hi, rfl⟩ := List.getElem_of_mem h
  have hletters : ∀ (i : Nat) (hi : i < displayWord.length), ∀ n < 26,
      isLetter displayWord[i] (Char.ofNat (n + 65)).toLower = isLetter displayWord[i] (Char.ofNat (n + 65)) := by
    decide +kernel
  exact apply_toLower (hletters i hi) c

theorem after?_map_toLower {word : List Char} (hword : word ⊆ displayWord) (cs : List Char) :
    after? word (cs.map Char.toLower) = (after? word cs).map (List.map Char.toLower) := by
  induction word generalizing cs with
  | nil => simp [after?]
  | cons letter word ih =>
    obtain ⟨hletter, hrest⟩ := List.cons_subset.mp hword
    cases cs with
    | nil => rfl
    | cons c cs =>
      rw [List.map_cons, after?, after?, isLetter_toLower hletter]
      split
      · exact ih hrest cs
      · rfl

theorem isWord_toLower (c : Char) : isWord c.toLower = isWord c := apply_toLower (by decide +kernel) c

theorem startsWord_map_toLower (cs : List Char) : startsWord (cs.map Char.toLower) = startsWord cs := by
  cases cs with
  | nil => rfl
  | cons c cs => exact isWord_toLower c

theorem afterDisplayWord?_map_toLower (cs : List Char) :
    afterDisplayWord? (cs.map Char.toLower) = (afterDisplayWord? cs).map (List.map Char.toLower) := by
  rw [afterDisplayWord?, afterDisplayWord?, after?_map_toLower (List.Subset.refl _)]
  cases after? displayWord cs with
  | none => rfl
  | some rest =>
    dsimp only [Option.map_some]
    rw [startsWord_map_toLower]
    split <;> rfl

/-- What follows the display word at the start of `cs`, unless a word goes on there. -/
def ahead? (inWord : Bool) (cs : List Char) : Option (List Char) := if inWord then none else afterDisplayWord? cs

theorem withoutDisplayWords_nil (inWord : Bool) : withoutDisplayWords inWord [] = [] := by
  rw [withoutDisplayWords]
  cases inWord <;> rfl

theorem withoutDisplayWords_of_ahead? (h : ahead? inWord cs = some rest) :
    withoutDisplayWords inWord cs = withoutDisplayWords true rest := by
  rw [withoutDisplayWords]
  split
  · next h' =>
    rw [← ahead?, h] at h'
    cases h'
    rfl
  · next h' =>
    rw [← ahead?, h] at h'
    cases h'

theorem withoutDisplayWords_cons (h : ahead? inWord (c :: cs) = none) :
    withoutDisplayWords inWord (c :: cs) = c :: withoutDisplayWords (isWord c) cs := by
  rw [withoutDisplayWords]
  split
  · next h' =>
    rw [← ahead?, h] at h'
    cases h'
  · rfl

theorem ahead?_map_toLower (inWord : Bool) (cs : List Char) :
    ahead? inWord (cs.map Char.toLower) = (ahead? inWord cs).map (List.map Char.toLower) := by
  unfold ahead?
  split
  · rfl
  · exact afterDisplayWord?_map_toLower cs

theorem withoutDisplayWords_map_toLower (inWord : Bool) (cs : List Char) :
    withoutDisplayWords inWord (cs.map Char.toLower) = (withoutDisplayWords inWord cs).map Char.toLower := by
  induction inWord, cs using withoutDisplayWords.induct with
  | case1 inWord cs rest h ih =>
    have hword : ahead? inWord cs = some rest := h
    have hword' : ahead? inWord (cs.map Char.toLower) = some (rest.map Char.toLower) := by
      rw [ahead?_map_toLower, hword]
      rfl
    rw [withoutDisplayWords_of_ahead? hword', withoutDisplayWords_of_ahead? hword, ih]
  | case2 inWord h => rw [List.map_nil, withoutDisplayWords_nil, List.map_nil]
  | case3 inWord c cs h ih =>
    have hnone : ahead? inWord (c :: cs) = none := h
    have hnone' : ahead? inWord (c.toLower :: cs.map Char.toLower) = none := by
      rw [← List.map_cons, ahead?_map_toLower, hnone]
      rfl
    rw [List.map_cons, withoutDisplayWords_cons hnone', withoutDisplayWords_cons hnone, isWord_toLower, ih,
      List.map_cons]

theorem withoutBlanks_map_toLower (cs : List Char) :
    withoutBlanks (cs.map Char.toLower) = (withoutBlanks cs).map Char.toLower := by
  have hblank : (fun c => !isBlank c) ∘ Char.toLower = fun c => !isBlank c := by
    funext c
    exact congrArg (! ·) (ParameterList.isBlank_toLower c)
  rw [withoutBlanks, withoutBlanks, List.filter_map, hblank]

/-- The keyword of a type does not depend on the case of its letters. -/
theorem ofType_map_toLower (cs : List Char) : ofType (cs.map Char.toLower) = ofType cs := by
  rw [ofType, ParameterList.remove_map_toLower, withoutDisplayWords_map_toLower, withoutBlanks_map_toLower,
    lower_map_toLower, ofType]

theorem ofType_congr (h : cs.map Char.toLower = ds.map Char.toLower) : ofType cs = ofType ds := by
  rw [← ofType_map_toLower cs, h, ofType_map_toLower]

end Keyword

/-! ### Sizes -/

namespace ParameterList

/-- The texts differ in the case of ASCII letters at most, and in no letter of a parameter list. -/
inductive Recased : List Char → List Char → Prop where
  | nil : Recased [] []
  | list {p cs ds : List Char} (hp : WellFormed p) (h : Recased cs ds) :
      Recased ('(' :: (p ++ ')' :: cs)) ('(' :: (p ++ ')' :: ds))
  | outside {c d : Char} {cs ds : List Char} (hcase : c.toLower = d.toLower)
      (hopen : c = '(' → ∀ p after, WellFormed p → cs ≠ p ++ ')' :: after) (h : Recased cs ds) : Recased (c :: cs) (d :: ds)

theorem Recased.map_toLower (h : Recased cs ds) : cs.map Char.toLower = ds.map Char.toLower := by
  induction h with
  | nil => rfl
  | list _ _ ih => simp [ih]
  | outside hcase _ _ ih => rw [List.map_cons, List.map_cons, hcase, ih]

/-- Both texts open a list at the same places. -/
theorem rest?_eq_none_congr (h : cs.map Char.toLower = ds.map Char.toLower) (hnone : rest? none cs = none) :
    rest? none ds = none := by
  have hlower := rest?_map_toLower none (by simp)
  have hds := hlower ds
  rw [← h, hlower cs, hnone] at hds
  exact Option.map_eq_none_iff.mp hds.symm

theorem Recased.first?_eq (h : Recased cs ds) : first? cs = first? ds := by
  induction h with
  | nil => rfl
  | @list p cs ds hp _ _ => rw [first?_open (rest?_of_wellFormed hp cs), first?_open (rest?_of_wellFormed hp ds)]
  | @outside c d cs ds hcase hopen h ih =>
    have hcs : c = '(' → rest? none cs = none := fun hc => rest?_eq_none_iff.mpr (hopen hc)
    have hds : d = '(' → rest? none ds = none := by
      rintro rfl
      have hc : c = '(' := by
        have hbeq := beq_toLower '(' (by decide) c
        rw [hcase] at hbeq
        exact beq_iff_eq.mp hbeq.symm
      exact rest?_eq_none_congr h.map_toLower (hcs hc)
    rw [first?_cons hcs, first?_cons hds, ih]

end ParameterList

/-- A type in another case has the target of the type, if its lists are as they were. -/
theorem SourceType.toTarget_recased {type type' : String} {initial : Option String} {t : TargetType}
    (h : ParameterList.Recased type.toList type'.toList) (ht : toTarget type initial = .ok t) :
    toTarget type' initial = .ok t := by
  have hkeyword : keyword type' = keyword type := by rw [keyword, keyword, Keyword.ofType_congr h.map_toLower]
  have hsize : size? type' = size? type := by rw [size?, size?, h.first?_eq]
  rw [toTarget] at ht ⊢
  rw [hkeyword, hsize]
  split at ht
  · exact ht
  · cases ht

end SpannerSchema
