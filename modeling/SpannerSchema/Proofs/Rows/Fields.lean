import SpannerSchema.Rows.Reading
import SpannerSchema.Proofs.Keys.Sorting
import SpannerSchema.Proofs.Text.Encoding

/-! Fields of rows. A field may hold a text, a text or null, one of two words, or anything; a text may also be given by the
    bytes that encode it. A row fits a shape if it has the fields of the shape and no other, each with a value that the
    field may hold. Otherwise something is wrong with it: there is one issue for each field that is not as it should be, in
    the order of the shape, and one for each field that the shape does not have, in the order of the row. -/

namespace SpannerSchema
namespace Rows

/-! ### Values -/

/-- The value is the text `s`, or the bytes that encode it. -/
inductive IsText (s : String) : Value → Prop where
  | text : IsText s (.text s)
  | bytes : IsText s (.bytes (Text.utf8 s))

inductive IsTextOrNull : Option String → Value → Prop where
  | null : IsTextOrNull none .null
  | text {s : String} {v : Value} (h : IsText s v) : IsTextOrNull (some s) v

inductive IsYesNo : Bool → Value → Prop where
  | yes : IsYesNo true (.text "YES")
  | no : IsYesNo false (.text "NO")

/-- Any value but null is kept as its text. -/
inductive IsInitial : Option String → Value → Prop where
  | null : IsInitial none .null
  | value {v : Value} (h : v ≠ .null) : IsInitial (some v.display) v

/-- What a field may hold. -/
inductive FieldShape where
  | text
  | textOrNull
  | yesOrNo
  | anything
deriving DecidableEq, Repr

namespace FieldShape

def Admits : FieldShape → Value → Prop
  | text, v => ∃ s, IsText s v
  | textOrNull, v => v = .null ∨ ∃ s, IsText s v
  | yesOrNo, v => v = .text "YES" ∨ v = .text "NO"
  | anything, _ => True

/-- What is said of a value that the field may not hold. -/
def complaint : FieldShape → Value → IssueKind
  | yesOrNo, _ => .notYesNo
  | _, .bytes _ => .notUnicode
  | _, _ => .notText

end FieldShape

/-- `read` takes the values that a field of the shape may hold, each for what it means, and says of any other what the
shape says. -/
structure Takes {α : Type} (shape : FieldShape) (Means : α → Value → Prop) (read : Value → Except IssueKind α) : Prop where
  ok : ∀ v a, read v = .ok a ↔ Means a v
  error : ∀ v kind, read v = .error kind → kind = shape.complaint v
  admits : ∀ v, shape.Admits v ↔ ∃ a, Means a v

theorem takes_readText : Takes .text IsText readText := by
  constructor
  case ok =>
    intro v s
    constructor
    · intro h
      cases v with
      | text =>
        cases h
        exact .text
      | bytes bs =>
        rw [readText] at h
        split at h
        · next hbytes =>
          cases h
          rw [Text.fromUTF8?_toArray_eq_some_iff.mp hbytes]
          exact .bytes
        · cases h
      | _ => cases h
    · rintro (_ | _)
      · rfl
      · rw [readText, Text.fromUTF8?_toArray_eq_some_iff.mpr rfl]
  case error =>
    intro v kind h
    cases v with
    | text => cases h
    | bytes bs =>
      rw [readText] at h
      split at h
      · cases h
      · cases h
        rfl
    | _ =>
      cases h
      rfl
  case admits => exact fun _ => Iff.rfl

theorem readText?_of_ne_null {v : Value} (hv : v ≠ .null) : readText? v = (readText v).map some := by
  unfold readText?
  split
  · exact absurd rfl hv
  · rfl

theorem takes_readText? : Takes .textOrNull IsTextOrNull readText? := by
  constructor
  case ok =>
    intro v k
    by_cases hv : v = .null
    · subst hv
      constructor
      · rintro ⟨⟩
        exact .null
      · rintro (_ | ⟨⟨⟩⟩)
        rfl
    · rw [readText?_of_ne_null hv]
      constructor
      · intro h
        obtain ⟨s, hs, rfl⟩ := exists_of_map_eq_ok h
        exact .text ((takes_readText.ok v s).mp hs)
      · rintro (_ | hs)
        · exact absurd rfl hv
        · rw [(takes_readText.ok v _).mpr hs]
          rfl
  case error =>
    intro v kind h
    have hsame : FieldShape.textOrNull.complaint v = FieldShape.text.complaint v := by cases v <;> rfl
    by_cases hv : v = .null
    · subst hv
      cases h
    · rw [readText?_of_ne_null hv] at h
      cases hread : readText v with
      | ok s =>
        rw [hread] at h
        cases h
      | error kind' =>
        rw [hread] at h
        cases h
        rw [hsame, takes_readText.error v _ hread]
  case admits =>
    intro v
    constructor
    · rintro (rfl | ⟨s, hs⟩)
      · exact ⟨none, .null⟩
      · exact ⟨some s, .text hs⟩
    · rintro ⟨k, _ | hs⟩
      · exact Or.inl rfl
      · exact Or.inr ⟨_, hs⟩

theorem takes_readYesNo : Takes .yesOrNo IsYesNo readYesNo := by
  constructor
  case ok =>
    intro v b
    constructor
    · intro h
      unfold readYesNo at h
      split at h
      · next s =>
        by_cases hyes : s = "YES"
        · subst hyes
          cases h
          exact .yes
        · by_cases hno : s = "NO"
          · subst hno
            cases h
            exact .no
          · simp [hyes, hno] at h
      · cases h
    · rintro (_ | _) <;> rfl
  case error =>
    intro v kind h
    unfold readYesNo at h
    split at h
    · split at h
      · cases h
      · split at h
        · cases h
        · cases h
          rfl
    · cases h
      rfl
  case admits =>
    intro v
    constructor
    · rintro (rfl | rfl)
      · exact ⟨true, .yes⟩
      · exact ⟨false, .no⟩
    · rintro ⟨b, _ | _⟩
      · exact Or.inl rfl
      · exact Or.inr rfl

theorem takes_readInitial : Takes .anything IsInitial readInitial := by
  constructor
  case ok =>
    intro v i
    unfold readInitial
    split
    · constructor
      · rintro ⟨⟩
        exact .null
      · rintro (_ | hne)
        · rfl
        · exact absurd rfl hne
    · next hne =>
      constructor
      · rintro ⟨⟩
        exact .value hne
      · rintro (_ | _)
        · exact absurd rfl hne
        · rfl
  case error =>
    intro v kind h
    unfold readInitial at h
    split at h <;> cases h
  case admits =>
    intro v
    refine iff_of_true trivial ?_
    by_cases hv : v = .null
    · exact ⟨none, hv ▸ .null⟩
    · exact ⟨some v.display, .value hv⟩

theorem Takes.admits_iff {α : Type} {shape : FieldShape} {Means : α → Value → Prop} {read : Value → Except IssueKind α}
    (h : Takes shape Means read) (v : Value) : (read v).toOption.isSome = true ↔ shape.Admits v := by
  rw [h.admits]
  cases hread : read v with
  | ok a => exact iff_of_true rfl ⟨a, (h.ok v a).mp hread⟩
  | error kind =>
    refine iff_of_false (by simp [Except.toOption]) ?_
    rintro ⟨a, ha⟩
    rw [(h.ok v a).mpr ha] at hread
    cases hread

instance (shape : FieldShape) (v : Value) : Decidable (shape.Admits v) :=
  match shape with
  | .text => decidable_of_iff _ (takes_readText.admits_iff v)
  | .textOrNull => decidable_of_iff _ (takes_readText?.admits_iff v)
  | .yesOrNo => decidable_of_iff _ (takes_readYesNo.admits_iff v)
  | .anything => .isTrue trivial

/-! ### Rows -/

/-- The row has a field of the name, with a value of which `P` holds. -/
def Holds (fields : List (String × Value)) (name : String) (P : Value → Prop) : Prop :=
  ∃ v, fields.lookup name = some v ∧ P v

/-- The fields are those of the shape, no more and no less, and each holds what it may. -/
structure Fits (shape : List (String × FieldShape)) (fields : List (String × Value)) : Prop where
  present : ∀ f ∈ shape, Holds fields f.1 f.2.Admits
  known : ∀ f ∈ fields, f.1 ∈ shape.map (·.1)

/-- What is wrong with a field of the shape, if anything is. -/
def offence? (fields : List (String × Value)) (f : String × FieldShape) : Option Issue :=
  match fields.lookup f.1 with
  | none => some ⟨f.1, .missing⟩
  | some v => if f.2.Admits v then none else some ⟨f.1, f.2.complaint v⟩

/-- All that is wrong with the fields of a row. -/
def issuesOf (shape : List (String × FieldShape)) (fields : List (String × Value)) : List Issue :=
  shape.filterMap (offence? fields) ++ (fields.filter (·.1 ∉ shape.map (·.1))).map fun f => ⟨f.1, .unknown⟩

variable {α : Type} {kind : FieldShape} {Means : α → Value → Prop} {read : Value → Except IssueKind α} {a : α}
  {shape : List (String × FieldShape)} {fields : List (String × Value)} {name : String}

theorem offence?_eq_none_iff {f : String × FieldShape} :
    offence? fields f = none ↔ Holds fields f.1 f.2.Admits := by
  unfold offence? Holds
  cases fields.lookup f.1 with
  | none => simp
  | some v => simp

theorem issuesOf_eq_nil_iff : issuesOf shape fields = [] ↔ Fits shape fields := by
  unfold issuesOf
  rw [List.append_eq_nil_iff, List.filterMap_eq_nil_iff, List.map_eq_nil_iff, List.filter_eq_nil_iff]
  constructor
  · rintro ⟨hpresent, hknown⟩
    exact ⟨fun f hf => offence?_eq_none_iff.mp (hpresent f hf), fun f hf => by simpa using hknown f hf⟩
  · rintro ⟨hpresent, hknown⟩
    exact ⟨fun f hf => offence?_eq_none_iff.mpr (hpresent f hf), fun f hf => by simpa using hknown f hf⟩

theorem field_eq_ok_iff (h : Takes kind Means read) :
    field fields read name = .ok a ↔ Holds fields name (Means a) := by
  unfold field Holds
  cases hlookup : fields.lookup name with
  | none => simp
  | some v =>
    cases hread : read v with
    | error kind => simp [← h.ok, hread]
    | ok b => simp [← h.ok, hread]

theorem issue_field (h : Takes kind Means read) :
    issue (field fields read name) = (offence? fields (name, kind)).toList := by
  unfold field offence?
  dsimp only
  cases fields.lookup name with
  | none => rfl
  | some v =>
    have hadmits := h.admits_iff v
    cases hread : read v with
    | error _ =>
      have hnot : ¬kind.Admits v := by
        rw [← hadmits, hread]
        exact Bool.false_ne_true
      dsimp only
      rw [if_neg hnot, hread, h.error v _ hread]
      rfl
    | ok a =>
      have hyes : kind.Admits v := by
        rw [← hadmits, hread]
        rfl
      dsimp only
      rw [if_pos hyes, hread]
      rfl

theorem unknown_eq (known : List String) (fields : List (String × Value)) :
    unknown known fields = (fields.filter (·.1 ∉ known)).map fun f => ⟨f.1, .unknown⟩ := by
  unfold unknown
  congr 2
  funext f
  simp

theorem unknown_eq_nil (h : Fits shape fields) : unknown (shape.map (·.1)) fields = [] := by
  rw [unknown_eq, List.map_eq_nil_iff, List.filter_eq_nil_iff]
  exact fun f hf => by simpa using h.known f hf

theorem exists_of_fits (name : String) (htakes : Takes kind Means read) (h : Fits shape fields)
    (hfield : (name, kind) ∈ shape) : ∃ a, Holds fields name (Means a) := by
  obtain ⟨v, hv, hadmits⟩ := h.present _ hfield
  obtain ⟨a, ha⟩ := (htakes.admits v).mp hadmits
  exact ⟨a, v, hv, ha⟩

end Rows
end SpannerSchema
