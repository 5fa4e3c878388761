/-! Cutting a text into the pieces that it was joined from. A separator of several characters may begin inside a piece
    and end in the separator after it, so that it is not enough that no piece contains it. A piece without an empty line
    is cut off whole at the blank line that follows it. -/

namespace SpannerSchema
namespace Text
open String.Slice.Pattern Model

/-! ### Separators -/

/-- No occurrence of `sep` begins in `piece`, also not one that ends in a `sep` after it. -/
def Clear (sep piece : String) : Prop :=
  ∀ u w rest v, piece = u ++ w → w ≠ "" → w ++ (sep ++ rest) ≠ sep ++ v

variable {sep piece : String} {pieces : List String}

section Positions
variable {s : String.Slice} {start stop : s.Pos} {before after : String}

theorem copy_slice_of_splits (hstart : start.Splits before (piece ++ after))
    (hstop : stop.Splits (before ++ piece) after) (hle : start ≤ stop) : (s.slice start stop hle).copy = piece := by
  obtain ⟨_, h⟩ := String.Slice.copy_slice_eq_iff_splits.mpr ⟨before, after, hstart, hstop⟩
  exact h

/-- A search from the start of a clear piece finds nothing before its end, if a separator or the end of the text is
there. -/
theorem not_matchesAt_of_clear (hclear : Clear sep piece) (hafter : after = "" ∨ ∃ rest, after = sep ++ rest)
    (hstart : start.Splits before (piece ++ after)) (hstop : stop.Splits (before ++ piece) after) :
    ∀ p, start ≤ p → p < stop → ¬MatchesAt sep p := by
  intro p hfrom hto hmatch
  obtain ⟨x, v, hp⟩ := ForwardStringSearcher.matchesAt_iff_splits.mp hmatch
  obtain ⟨u, rfl, -⟩ := (hstart.le_iff_exists_eq_append hp).mp hfrom
  obtain ⟨w, hw, hpiece, hrest⟩ := (hp.lt_iff_exists_eq_append hstop).mp hto
  have hcut : piece = u ++ w := by
    rw [String.append_assoc] at hpiece
    exact String.append_right_inj before |>.mp hpiece
  rcases hafter with rfl | ⟨rest, rfl⟩
  -- At the end of the text a separator may be put after it.
  · refine hclear u w "" (v ++ sep) hcut hw ?_
    rw [String.append_empty] at hrest
    rw [String.append_empty, ← hrest, String.append_assoc]
  · exact hclear u w rest v hcut hw hrest.symm

theorem modelSplit_intercalate (hsep : sep ≠ "") (hne : pieces ≠ []) (hclear : ∀ piece ∈ pieces, Clear sep piece)
    (hstart : start.Splits before (sep.intercalate pieces)) :
    haveI := ForwardStringSearcher.strictPatternModel hsep
    (Model.split sep start start (String.Slice.Pos.le_refl _)).map (·.toSlice.copy) = pieces := by
  have := ForwardStringSearcher.strictPatternModel hsep
  induction pieces generalizing start before with
  | nil => exact absurd rfl hne
  | cons piece pieces ih =>
    have hpiece := hclear piece List.mem_cons_self
    by_cases hlast : pieces = []
    · subst hlast
      rw [String.intercalate_singleton, ← String.append_empty (s := piece)] at hstart
      have hstop := hstart.splits_rotateRight
      have hend : hstart.rotateRight = s.endPos := hstop.eq_endPos_iff.mpr rfl
      rw [hend] at hstop
      have hle := start.le_endPos
      rw [split_eq_of_not_matchesAt s.endPos hle (not_matchesAt_of_clear hpiece (Or.inl rfl) hstart hstop),
        split_endPos, List.map_singleton]
      exact congrArg (fun text => [text]) (copy_slice_of_splits hstart hstop hle)
    · rw [String.intercalate_cons_of_ne_nil hlast, String.append_assoc] at hstart
      have hstop := hstart.splits_rotateRight
      have hnext := hstop.splits_rotateRight
      have hle : start ≤ hstart.rotateRight := (hstart.le_iff_exists_eq_append hstop).mpr ⟨piece, rfl, rfl⟩
      have hfound : IsLongestMatchAt sep hstart.rotateRight hstop.rotateRight :=
        ForwardStringSearcher.isLongestMatchAt_iff_splits.mpr ⟨_, _, hstop, hnext⟩
      have hrest := ih hlast (fun piece h => hclear piece (List.mem_cons_of_mem _ h)) hnext
      rw [split_eq_of_not_matchesAt hstart.rotateRight hle
        (not_matchesAt_of_clear hpiece (Or.inr ⟨_, rfl⟩) hstart hstop), split_eq_of_isLongestMatchAt hfound,
        List.map_cons, hrest]
      exact congrArg (· :: pieces) (copy_slice_of_splits hstart hstop hle)

end Positions

/-- Clear pieces are what their text with separators is cut into. -/
theorem split_intercalate (hsep : sep ≠ "") (hne : pieces ≠ []) (hclear : ∀ piece ∈ pieces, Clear sep piece) :
    ((sep.intercalate pieces).split sep).toList.map String.Slice.copy = pieces := by
  have := ForwardStringSearcher.strictPatternModel hsep
  have := ForwardStringSearcher.lawfulToForwardSearcherModel hsep
  have hstart : (sep.intercalate pieces).toSlice.startPos.Splits "" (sep.intercalate pieces) := by
    simp
  have hmodel := modelSplit_intercalate hsep hne hclear hstart
  rw [String.split_eq_split_toSlice, String.Slice.toList_split_eq_splitToSubslice,
    toList_splitToSubslice_eq_modelSplit, List.map_map]
  exact hmodel

/-- A joined text ends as one of its pieces. -/
theorem exists_getLast?_intercalate (hne : pieces ≠ []) (h : ∀ piece ∈ pieces, piece.toList ≠ []) :
    ∃ piece ∈ pieces, (sep.intercalate pieces).toList.getLast? = piece.toList.getLast? := by
  induction pieces with
  | nil => exact absurd rfl hne
  | cons piece pieces ih =>
    by_cases hlast : pieces = []
    · subst hlast
      exact ⟨piece, List.mem_cons_self, by rw [String.intercalate_singleton]⟩
    · obtain ⟨last, hmem, hsame⟩ := ih hlast fun piece h' => h piece (List.mem_cons_of_mem _ h')
      have hmem' := List.mem_cons_of_mem piece hmem
      refine ⟨last, hmem', ?_⟩
      rw [String.intercalate_cons_of_ne_nil hlast, String.toList_append, List.getLast?_append, hsame,
        List.getLast?_eq_some_getLast (h last hmem')]
      rfl

/-! ### Blank lines -/

/-- Does every line of a text have a character? -/
def Filled (cs : List Char) : Prop := [] ∉ cs.splitOn '\n'

variable {a b cs : List Char}

theorem filled_of_not_mem (hne : cs ≠ []) (h : '\n' ∉ cs) : Filled cs := by
  unfold Filled
  rw [List.splitOn_eq_singleton h, List.mem_singleton]
  exact Ne.symm hne

theorem filled_append_iff : Filled (a ++ '\n' :: b) ↔ Filled a ∧ Filled b := by
  unfold Filled
  rw [List.splitOn_append_cons_self, List.mem_append, not_or]

theorem not_filled_nil : ¬Filled [] := by
  unfold Filled
  rw [List.splitOn_nil]
  simp

theorem Filled.ne_nil (h : Filled cs) : cs ≠ [] := by
  rintro rfl
  exact not_filled_nil h

theorem Filled.getLast? (h : Filled cs) : cs.getLast? ≠ some '\n' := by
  intro hlast
  obtain ⟨init, rfl⟩ := List.getLast?_eq_some_iff.mp hlast
  exact not_filled_nil (filled_append_iff.mp h).2

/-- A blank line cannot begin in a text whose lines have characters: the line break that begins it would end the text or
stand before another. -/
theorem clear_of_filled (h : Filled piece.toList) : Clear "\n\n" piece := by
  intro u w rest v hpiece hw hsame
  rw [hpiece, String.toList_append] at h
  have hchars := congrArg String.toList hsame
  simp only [String.toList_append] at hchars
  obtain ⟨x, ws, hx⟩ := List.exists_cons_of_ne_nil (mt String.toList_eq_nil_iff.mp hw)
  rw [hx] at h hchars
  obtain ⟨rfl, hnext⟩ := List.cons.inj hchars
  have hws := (filled_append_iff.mp h).2
  cases ws with
  | nil => exact not_filled_nil hws
  | cons y ws =>
    obtain ⟨rfl, -⟩ := List.cons.inj hnext
    have hempty : Filled ([] ++ '\n' :: ws) := hws
    exact not_filled_nil (filled_append_iff.mp hempty).1

/-- A text of pieces without empty lines, with a blank line between two, is cut into these pieces at every blank line, and
does not end with a line break. -/
theorem split_blankLines (hne : pieces ≠ []) (h : ∀ piece ∈ pieces, Filled piece.toList) :
    (("\n\n".intercalate pieces).split "\n\n").toList.map String.Slice.copy = pieces ∧
      ("\n\n".intercalate pieces).toList.getLast? ≠ some '\n' := by
  have hsep : "\n\n" ≠ "" := by decide
  constructor
  · exact split_intercalate hsep hne fun piece hmem => clear_of_filled (h piece hmem)
  · obtain ⟨piece, hmem, hlast⟩ := exists_getLast?_intercalate hne fun piece hmem => (h piece hmem).ne_nil
    rw [hlast]
    exact (h piece hmem).getLast?

end Text
end SpannerSchema
