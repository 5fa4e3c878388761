import SpannerSchema.ColumnType.Mapping

/-! What a type of the target looks like in a declaration. It is one of a few fixed words, or a head and a size in
    parentheses, and the size may hold whatever a parameter list may. The text of a type with what follows it (the mark
    that it takes no nulls, the option) still tells the type, the mark and the option apart, and it stays on one line
    if the size does. -/

namespace SpannerSchema

/-! ### Characters of sizes -/

theorem ParameterList.mem_of_first? {cs p : List Char} {c : Char} (h : ParameterList.first? cs = some p) (hc : c ∈ p) :
    c ∈ cs := by
  induction cs with
  | nil => cases h
  | cons d cs ih =>
    rw [first?] at h
    split at h
    · next q after ha =>
      cases h
      rw [eq_of_ahead? ha]
      simp [hc]
    · exact List.mem_cons_of_mem d (ih h)

theorem SourceType.mem_of_size? {type s : String} {c : Char} (h : size? type = some s) (hc : c ∈ s.toList) :
    c ∈ type.toList := by
  obtain ⟨p, hp, rfl⟩ := Option.map_eq_some_iff.mp h
  rw [String.toList_ofList] at hc
  exact ParameterList.mem_of_first? hp hc

theorem Numeral.newline_not_mem_ofInt (n : Int) : '\n' ∉ ofInt n := by
  have hdigits (m : Nat) : '\n' ∉ Text.digitChars m := fun h =>
    absurd (Nat.isDigit_of_mem_toDigits (by decide) (by decide) h) (by decide)
  cases n with
  | ofNat m => exact hdigits m
  | negSucc m => simpa [ofInt] using hdigits (m + 1)

namespace TargetType
open TypeKind

variable {size : Option String} {t t₁ t₂ : TargetType} {n n₁ n₂ : Bool}

/-! ### Shapes -/

/-- The types without a size. -/
def fixed : List TargetType :=
  [⟨"NUMERIC", none⟩, ⟨"FLOAT64", none⟩, ⟨"BOOL", none⟩, ⟨"INT64", none⟩, ⟨"DATE", none⟩, ⟨"TIMESTAMP", none⟩,
   ⟨"TIMESTAMP", some commitTimestamp⟩, ⟨"ARRAY<STRING(255)>", none⟩]

/-- What comes before a size. -/
def heads : List String := ["STRING(", "BYTES("]

/-- A type that can be written for a size: a fixed one, or one with a numeral or with the size itself. -/
inductive Written (size : Option String) : TargetType → Prop where
  | fixed {t : TargetType} (ht : t ∈ fixed) : Written size t
  | sized {head s : String} (hhead : head ∈ heads)
      (hs : (∃ n : Int, s = String.ofList (Numeral.ofInt n)) ∨ size = some s) : Written size ⟨head ++ s ++ ")", none⟩

theorem written_stringOf (size : Option String) : Written size ⟨stringOf size, none⟩ := by
  have husual : Written size ⟨"STRING(255)", none⟩ :=
    @Written.sized size "STRING(" "255" (by decide) (Or.inl ⟨255, by decide +kernel⟩)
  unfold stringOf
  cases size with
  | none => exact husual
  | some s =>
    dsimp only
    split
    · exact husual
    · exact .sized (by decide) (Or.inr rfl)

theorem written_bytesOf {usual : Int} {fragment : String} (h : bytesOf size usual = .ok fragment) :
    Written size ⟨fragment, none⟩ := by
  have hnumeral (n : Int) : Written size ⟨"BYTES(" ++ String.ofList (Numeral.ofInt n) ++ ")", none⟩ :=
    .sized (by decide) (Or.inl ⟨n, rfl⟩)
  unfold bytesOf at h
  cases size with
  | none =>
    cases h
    exact hnumeral usual
  | some s =>
    dsimp only at h
    split at h
    · cases h
      exact hnumeral usual
    · split at h
      · cases h
        exact hnumeral _
      · cases h

theorem written_of_render {kind : TypeKind} {initial : Option String} (h : kind.render size initial = .ok t) :
    Written size t := by
  have hstring (s : String) (i : Int) (hi : s = String.ofList (Numeral.ofInt i)) :
      Written size ⟨"STRING(" ++ s ++ ")", none⟩ := .sized (by decide) (Or.inl ⟨i, hi⟩)
  have hbytes {usual : Int} (hb : (bytesOf size usual).map (⟨·, none⟩) = Except.ok t) : Written size t := by
    cases hf : bytesOf size usual with
    | error e =>
      rw [hf] at hb
      cases hb
    | ok fragment =>
      rw [hf] at hb
      cases hb
      exact written_bytesOf hf
  cases kind with
  | blob => exact hbytes h
  | tinyblob => exact hbytes h
  | bytes => exact hbytes h
  | string =>
    cases h
    exact written_stringOf size
  | text =>
    cases h
    exact hstring "65535" 65535 (by decide +kernel)
  | longText =>
    cases h
    exact hstring "2621440" 2621440 (by decide +kernel)
  | time =>
    cases h
    exact hstring "50" 50 (by decide +kernel)
  | enumeration =>
    cases h
    exact hstring "255" 255 (by decide +kernel)
  | year =>
    cases h
    exact hstring "4" 4 (by decide +kernel)
  | unsupported =>
    cases h
    exact hstring "1000" 1000 (by decide +kernel)
  | tinyint =>
    cases h
    cases isOne size <;> exact .fixed (by decide)
  | timestamp =>
    cases h
    split <;> exact .fixed (by decide)
  | numeric => cases h; exact .fixed (by decide)
  | float64 => cases h; exact .fixed (by decide)
  | bool => cases h; exact .fixed (by decide)
  | int64 => cases h; exact .fixed (by decide)
  | date => cases h; exact .fixed (by decide)
  | set => cases h; exact .fixed (by decide)

theorem written_of_toTarget {type : String} {initial : Option String} (h : SourceType.toTarget type initial = .ok t) :
    Written (SourceType.size? type) t := by
  unfold SourceType.toTarget at h
  split at h
  · exact written_of_render h
  · cases h

/-! ### Texts -/

/-- The mark of a column that takes no nulls. -/
def mark (nullable : Bool) : String := if nullable then "" else " NOT NULL"

/-- A type with what follows it in a declaration. -/
def text (t : TargetType) (nullable : Bool) : String := t.fragment ++ (mark nullable ++ t.options.getD "")

theorem newline_not_mem_text (h : Written size t) (hsize : ∀ s, size = some s → '\n' ∉ s.toList) (n : Bool) :
    '\n' ∉ (t.text n).toList := by
  cases h with
  | fixed ht =>
    have hfixed : ∀ t ∈ fixed, ∀ n, '\n' ∉ (text t n).toList := by decide +kernel
    exact hfixed t ht n
  | @sized head s hhead hs =>
    have hheads : ∀ head ∈ heads, '\n' ∉ head.toList := by decide +kernel
    have hmark : ∀ n, '\n' ∉ (mark n).toList := by decide +kernel
    have hs' : '\n' ∉ s.toList := by
      rcases hs with ⟨i, rfl⟩ | hs
      · rw [String.toList_ofList]
        exact Numeral.newline_not_mem_ofInt i
      · exact hsize s hs
    simp [text, hheads head hhead, hs', hmark n]

theorem getLast?_text (h : Written size t) (n : Bool) :
    ∃ c, (t.text n).toList.getLast? = some c ∧ c ≠ ',' := by
  cases h with
  | fixed ht =>
    have hfixed : ∀ t ∈ fixed, ∀ n, ((text t n).toList.getLast?.any (· ≠ ',')) = true := by decide +kernel
    obtain ⟨c, hc, hne⟩ := (Option.any_eq_true _ _).mp (hfixed t ht n)
    exact ⟨c, hc, of_decide_eq_true hne⟩
  | sized hhead hs => cases n <;> simp [text, mark, List.getLast?_append]

/-- A fixed type starts with other letters than a type with a size. -/
theorem take_text_fixed (ht : t ∈ fixed) (n : Bool) : (t.text n).toList.take 2 ∉ heads.map (·.toList.take 2) := by
  have hfixed : ∀ t ∈ fixed, ∀ n, (text t n).toList.take 2 ∉ heads.map (·.toList.take 2) := by decide +kernel
  exact hfixed t ht n

theorem take_text_sized {head s : String} (hhead : head ∈ heads) (n : Bool) :
    (text ⟨head ++ s ++ ")", none⟩ n).toList.take 2 ∈ heads.map (·.toList.take 2) := by
  simp only [heads, List.mem_cons, List.not_mem_nil, or_false] at hhead
  rcases hhead with rfl | rfl <;> simp [text, heads]

theorem text_sized_inj {head₁ head₂ s₁ s₂ : String} (h₁ : head₁ ∈ heads) (h₂ : head₂ ∈ heads)
    (h : text ⟨head₁ ++ s₁ ++ ")", none⟩ n₁ = text ⟨head₂ ++ s₂ ++ ")", none⟩ n₂) :
    head₁ = head₂ ∧ s₁ = s₂ ∧ n₁ = n₂ := by
  have hl := congrArg String.toList h
  have hn : n₁ = n₂ := by
    have hlast := congrArg List.getLast? hl
    cases n₁ <;> cases n₂ <;> simp [text, mark, List.getLast?_append] at hlast ⊢
  subst hn
  simp only [text, String.toList_append] at hl
  have hsame : head₁.toList ++ s₁.toList = head₂.toList ++ s₂.toList :=
    List.append_cancel_right (List.append_cancel_right hl)
  simp only [heads, List.mem_cons, List.not_mem_nil, or_false] at h₁ h₂
  rcases h₁ with rfl | rfl <;> rcases h₂ with rfl | rfl
  · exact ⟨rfl, String.toList_inj.mp (List.append_cancel_left hsame), rfl⟩
  · simp at hsame
  · simp at hsame
  · exact ⟨rfl, String.toList_inj.mp (List.append_cancel_left hsame), rfl⟩

theorem text_inj {size₁ size₂ : Option String} (h₁ : Written size₁ t₁) (h₂ : Written size₂ t₂)
    (h : t₁.text n₁ = t₂.text n₂) : t₁ = t₂ ∧ n₁ = n₂ := by
  cases h₁ with
  | fixed ht₁ =>
    cases h₂ with
    | fixed ht₂ =>
      have hfixed : ∀ t₁ ∈ fixed, ∀ t₂ ∈ fixed, ∀ n₁ n₂, text t₁ n₁ = text t₂ n₂ → t₁ = t₂ ∧ n₁ = n₂ := by
        decide +kernel
      exact hfixed t₁ ht₁ t₂ ht₂ n₁ n₂ h
    | sized hhead _ => exact absurd (h ▸ take_text_sized hhead n₂) (take_text_fixed ht₁ n₁)
  | sized hhead₁ _ =>
    cases h₂ with
    | fixed ht₂ => exact absurd (h ▸ take_text_sized hhead₁ n₁) (take_text_fixed ht₂ n₂)
    | sized hhead₂ _ =>
      obtain ⟨rfl, rfl, rfl⟩ := text_sized_inj hhead₁ hhead₂ h
      exact ⟨rfl, rfl⟩

end TargetType
end SpannerSchema
