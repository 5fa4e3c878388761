import SpannerSchema.Text.LineBreak
import SpannerSchema.Proofs.Json.RoundTrip

/-! Line breaks in what is written. A written text has no carriage return, so it is the same once the line breaks of its file
    have been made one kind. -/

namespace SpannerSchema
namespace Text

theorem normalizeBreaks_eq_self {cs : List Char} (h : '\r' ∉ cs) : normalizeBreaks cs = cs := by
  induction cs with
  | nil => rfl
  | cons c cs ih =>
    simp only [List.mem_cons, not_or] at h
    unfold normalizeBreaks
    split
    · next heq => cases heq
    · next heq =>
      cases heq
      exact absurd rfl h.1
    · next heq =>
      cases heq
      exact absurd rfl h.1
    · next heq =>
      cases heq
      rw [ih h.2]

theorem return_not_mem_of_digits {cs : List Char} (h : Digits cs) : '\r' ∉ cs := fun hmem =>
  absurd (h _ hmem) (by decide)

end Text

namespace Json
open Text

variable {v : Value}

theorem return_not_mem_ofInt (n : Int) : '\r' ∉ Numeral.ofInt n := by
  have hdigits (n : Nat) : '\r' ∉ digitChars n := return_not_mem_of_digits (digits_digitChars n)
  cases n with
  | ofNat n => exact hdigits n
  | negSucc n => simpa [Numeral.ofInt] using hdigits (n + 1)

theorem return_not_mem_pointText {ds : List Char} (h : Leads ds) (point : Int) : '\r' ∉ Binary64.pointText ds point := by
  obtain ⟨k, -, hliteral⟩ := isLiteral_pointText h point
  have hreturn : ¬Decimal.IsPart '\r' := by
    unfold Decimal.IsPart
    decide
  exact fun hmem => hreturn (hliteral.isNumeral.isPart _ hmem)

theorem return_not_mem_floatChars {x : Binary64} (h : x.IsCanonical) : '\r' ∉ floatChars x := by
  have hsign (negative : Bool) : '\r' ∉ Decimal.signText negative := by cases negative <;> decide
  cases x with
  | infinite negative =>
    intro hmem
    rcases List.mem_append.mp hmem with hmem | hmem
    · exact hsign negative hmem
    · exact absurd hmem (by decide)
  | nan => decide
  | finite negative m e =>
    intro hmem
    rcases List.mem_append.mp hmem with hmem | hmem
    · exact hsign negative hmem
    · split at hmem
      · exact absurd hmem (by decide)
      · next hm =>
        have hpos := Binary64.shortest_pos (Nat.pos_of_ne_zero hm) h
        exact return_not_mem_pointText (leads_stripped hpos) _ hmem

theorem return_not_mem_newline (depth : Nat) : '\r' ∉ newline depth := by
  simp [newline]

/-- Brackets and what stands between parts break no line by a carriage return. -/
theorem return_not_mem_block {opening closing : Char} (hopening : opening ≠ '\r') (hclosing : closing ≠ '\r') (depth : Nat)
    {parts : List (List Char)} (h : ∀ part ∈ parts, '\r' ∉ part) : '\r' ∉ block opening closing depth parts := by
  have hlines {separator closing : List Char} (hseparator : '\r' ∉ separator) (hclosing : '\r' ∉ closing)
      (parts : List (List Char)) (h : ∀ part ∈ parts, '\r' ∉ part) : '\r' ∉ lines separator closing parts := by
    induction parts with
    | nil => exact hclosing
    | cons part parts ih =>
      have hrest := ih fun p hp => h p (by simp [hp])
      cases parts with
      | nil =>
        rw [lines_singleton, List.mem_append, not_or]
        exact ⟨h part (by simp), hclosing⟩
      | cons next parts =>
        rw [lines_cons_cons, List.mem_append, List.mem_append, not_or, not_or]
        exact ⟨h part (by simp), hseparator, hrest⟩
  have hnewline := return_not_mem_newline
  cases parts with
  | nil => simp [block, hopening.symm, hclosing.symm]
  | cons part parts =>
    have hbetween : '\r' ∉ between depth := by simp [between, hnewline]
    have hending : '\r' ∉ ending closing depth := by simp [ending, hnewline, hclosing.symm]
    have hparts := hlines hbetween hending (part :: parts) h
    rw [block_cons, List.mem_cons, List.mem_append, not_or, not_or]
    exact ⟨hopening.symm, hnewline _, hparts⟩

theorem return_not_mem_valueChars (h : IsRead v) (depth : Nat) : '\r' ∉ valueChars depth v := by
  induction h generalizing depth with
  | null =>
    rw [valueChars]
    decide
  | bool b =>
    rw [valueChars]
    cases b <;> decide
  | int n => exact return_not_mem_ofInt n
  | float hx => exact return_not_mem_floatChars hx
  | text s => exact return_not_mem_stringChars _
  | list hvs ih =>
    rw [valueChars, itemChars_eq]
    refine return_not_mem_block (by decide) (by decide) _ fun part hpart => ?_
    obtain ⟨v, hv, rfl⟩ := List.mem_map.mp hpart
    exact ih v hv _
  | record hnames hfields ih =>
    rw [valueChars, fieldChars_eq]
    refine return_not_mem_block (by decide) (by decide) _ fun part hpart => ?_
    obtain ⟨f, hf, rfl⟩ := List.mem_map.mp hpart
    have hname := return_not_mem_stringChars f.1.toList
    have hvalue := ih f hf (depth + 1)
    simp [fieldText, hname, hvalue]

theorem return_not_mem_render (h : IsRead v) : '\r' ∉ (render v).toList := by
  rw [render, String.toList_ofList, List.mem_append, not_or]
  exact ⟨return_not_mem_valueChars h 0, by decide⟩

end Json
end SpannerSchema
