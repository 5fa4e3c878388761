import SpannerSchema.ColumnType.Mapping
import SpannerSchema.Proofs.ColumnType.Lists
import SpannerSchema.Proofs.Keys.Sorting

/-! Types with a list of values, as enumerations and sets have. A value stands in quotes and a quote inside it is written
    twice, so that a value is one or more complete quoted strings, whatever characters it holds. The list of a type is
    read to its own end then, and it leaves no trace in the keyword. -/

namespace SpannerSchema

/-! ### Values in quotes -/

/-- The characters of a value between its quotes. -/
def doubled (value : List Char) : List Char := value.flatMap fun c => if c = '\'' then ['\'', '\''] else [c]

/-- A value in quotes. -/
def quotedValue (value : String) : String := "'" ++ String.ofList (doubled value.toList) ++ "'"

/-- The values of a type between its parentheses. -/
def valueList (values : List String) : String := ",".intercalate (values.map quotedValue)

namespace ParameterList

variable {cs rest : List Char} {c : Char}

/-- One more character in the first string of a list. -/
theorem WellFormed.cons_string (hc : c ≠ '\'') (h : WellFormed ('\'' :: cs)) : WellFormed ('\'' :: c :: cs) := by
  cases h with
  | plain hplain => simp at hplain
  | @quoted _ s cs hq hs h => exact .quoted (s := c :: s) hq (by simpa using ⟨Ne.symm hc, hs⟩) h

theorem wellFormed_doubled (value : List Char) (h : WellFormed rest) :
    WellFormed ('\'' :: (doubled value ++ '\'' :: rest)) := by
  induction value with
  | nil => exact .quoted (s := []) (Or.inl rfl) List.not_mem_nil h
  | cons c value ih =>
    by_cases hc : c = '\''
    · -- The two quotes end one string and start the next.
      subst hc
      exact .quoted (s := []) (Or.inl rfl) List.not_mem_nil ih
    · have hdoubled : doubled (c :: value) = c :: doubled value := by simp [doubled, hc]
      rw [hdoubled]
      exact ih.cons_string hc

theorem toList_quotedValue_append (value : String) (rest : List Char) :
    (quotedValue value).toList ++ rest = '\'' :: (doubled value.toList ++ '\'' :: rest) := by
  simp [quotedValue]

theorem wellFormed_valueList (values : List String) : WellFormed (valueList values).toList := by
  unfold valueList
  rw [String.toList_intercalate]
  induction values with
  | nil => exact .nil
  | cons value values ih =>
    cases values with
    | nil =>
      have h := wellFormed_doubled value.toList .nil
      rw [← toList_quotedValue_append, List.append_nil] at h
      simpa using h
    | cons next values =>
      have hcomma : WellFormed (',' :: [','].intercalate (((next :: values).map quotedValue).map String.toList)) :=
        .plain (by decide) ih
      have h := wellFormed_doubled value.toList hcomma
      rw [← toList_quotedValue_append] at h
      simpa [List.intercalate] using h

end ParameterList

/-! ### Types with values -/

/-- A type with a list of values, between what comes before and what comes after it. -/
def enumerated (front : String) (values : List String) (back : String) : String :=
  front ++ "(" ++ valueList values ++ ")" ++ back

namespace SourceType
open Text

variable {front back : String} {values : List String}

theorem ofType_enumerated (values : List String) (hfront : '(' ∉ front.toList) (hback : '(' ∉ back.toList)
    (hlast : ∀ c ∈ front.toList.getLast?, isBlank c = false) :
    Keyword.ofType (enumerated front values back).toList = Keyword.ofType (front ++ back).toList :=
  ofType_listed (ParameterList.wellFormed_valueList values) hfront hback hlast

theorem size?_enumerated (hfront : '(' ∉ front.toList) : size? (enumerated front values back) = some (valueList values) :=
  size?_listed (ParameterList.wellFormed_valueList values) hfront

theorem toTarget_enumerated {kind : TypeKind} (initial : Option String) (hfront : '(' ∉ front.toList)
    (hlast : ∀ c ∈ front.toList.getLast?, isBlank c = false) (hkind : TypeKind.resolve? (keyword front) = some kind) :
    toTarget (enumerated front values "") initial = kind.render (some (valueList values)) initial :=
  toTarget_listed (ParameterList.wellFormed_valueList values) initial hfront hlast hkind

/-- The values of a type are read whole, and its keyword does not depend on them, whatever characters they hold. -/
theorem read_enumerated :
    (∀ (front : String) (values : List String) (back : String), '(' ∉ front.toList → '(' ∉ back.toList →
      (∀ c ∈ front.toList.getLast?, isBlank c = false) →
      keyword (enumerated front values back) = keyword (front ++ back) ∧
      bareKeyword (enumerated front values back) = bareKeyword (front ++ back) ∧
      size? (enumerated front values back) = some (valueList values)) ∧
    ∀ (values : List String) (initial : Option String),
      toTarget (enumerated "enum" values "") initial = .ok ⟨"STRING(255)", none⟩ ∧
      toTarget (enumerated "set" values "") initial = .ok ⟨"ARRAY<STRING(255)>", none⟩ := by
  refine ⟨fun front values back hfront hback hlast => ?_, fun values initial => ⟨?_, ?_⟩⟩
  · have hkeyword := ofType_enumerated values hfront hback hlast
    refine ⟨?_, ?_, size?_enumerated hfront⟩
    · rw [keyword, hkeyword, keyword]
    · rw [bareKeyword, Keyword.bare, hkeyword, bareKeyword, Keyword.bare]
  · have henum : TypeKind.resolve? (keyword "enum") = some .enumeration := by decide +kernel
    exact toTarget_enumerated initial (by decide) (by rintro c ⟨⟩; decide +kernel) henum
  · have hset : TypeKind.resolve? (keyword "set") = some .set := by decide +kernel
    exact toTarget_enumerated initial (by decide) (by rintro c ⟨⟩; decide +kernel) hset

/-- Values with a quote, parentheses, a comma, a line break and the display word. -/
def moods : List String := ["it's", "a (b", "), \"zerofill", "'", "", "x\ny"]

theorem read_enumerated_moods :
    '(' ∉ "Set".toList ∧ '(' ∉ " unsigned".toList ∧ (∀ c ∈ "Set".toList.getLast?, isBlank c = false) ∧
    enumerated "Set" moods " unsigned" = "Set('it''s','a (b','), \"zerofill','''','','x\ny') unsigned" ∧
    keyword (enumerated "Set" moods " unsigned") = keyword ("Set" ++ " unsigned") ∧
    size? (enumerated "Set" moods " unsigned") = some "'it''s','a (b','), \"zerofill','''','','x\ny'" := by
  have hfront : '(' ∉ "Set".toList := by decide
  have hback : '(' ∉ " unsigned".toList := by decide
  have hlast : ∀ c ∈ "Set".toList.getLast?, isBlank c = false := by
    rintro c ⟨⟩
    decide +kernel
  have hlist : valueList moods = "'it''s','a (b','), \"zerofill','''','','x\ny'" := by decide +kernel
  have hwhole : enumerated "Set" moods " unsigned"
      = "Set('it''s','a (b','), \"zerofill','''','','x\ny') unsigned" := by
    rw [enumerated, hlist]
    decide +kernel
  obtain ⟨hkeyword, -, hsize⟩ := read_enumerated.1 "Set" moods " unsigned" hfront hback hlast
  exact ⟨hfront, hback, hlast, hwhole, hkeyword, hlist ▸ hsize⟩

end SourceType
end SpannerSchema
