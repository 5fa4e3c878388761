import SpannerSchema.Json.Reader
import SpannerSchema.Proofs.Number.Scientific

/-! What reading a text can give. A value that is read is composed of the words and numbers that stand in the text, and of
    strings; its records have no two fields of one name, and its binary numbers are canonical. -/

namespace SpannerSchema
namespace Json

variable {s cs rest : List Char} {v : Value} {vs : List Value} {fields : List (String × Value)} {fuel : Nat}
  {Q : Value → Prop}

/-! ### What is left of a text -/

theorem suffix_of_atom (h : atom cs = .ok (v, rest)) : rest <:+ cs := by
  have hunsigned {negative : Bool} {cs : List Char} (h : unsigned? negative cs = some (v, rest)) : rest <:+ cs := by
    unfold unsigned? at h
    dsimp only at h
    split at h
    · cases h
    · split at h
      · cases h
        exact (List.drop_suffix ..).trans ((List.drop_suffix ..).trans (List.drop_suffix ..))
      · split at h <;> cases h <;> exact (List.drop_suffix ..).trans (List.drop_suffix ..)
  unfold atom at h
  split at h
  · cases h
    exact List.drop_suffix ..
  · split at h
    · next hnumber =>
      cases h
      unfold number? at hnumber
      split at hnumber
      · exact (hunsigned hnumber).trans (List.suffix_cons ..)
      · exact hunsigned hnumber
    · cases h

theorem ok_of_consUnit {unit : Nat} {r : Read (List Nat)} {units : List Nat} (h : consUnit unit r = .ok (units, rest)) :
    ∃ units', r = .ok (units', rest) := by
  unfold consUnit at h
  split at h
  · cases h
    exact ⟨_, rfl⟩
  · cases h

theorem suffix_of_stringUnits {opening : List Char} {units : List Nat} (h : stringUnits opening cs = .ok (units, rest)) :
    rest <:+ cs := by
  -- a unit takes one, two or six characters
  fun_induction stringUnits opening cs generalizing units with
  | case2 tail =>
    cases h
    exact List.suffix_cons ..
  | case4 a b c d tail n _ ih =>
    obtain ⟨units', htail⟩ := ok_of_consUnit h
    exact (ih htail).trans (List.suffix_append ['\\', 'u', a, b, c, d] tail)
  | case7 e tail _ _ c _ ih =>
    obtain ⟨units', htail⟩ := ok_of_consUnit h
    exact (ih htail).trans (List.suffix_append ['\\', e] tail)
  | case10 c tail _ _ _ _ _ _ ih =>
    obtain ⟨units', htail⟩ := ok_of_consUnit h
    exact (ih htail).trans (List.suffix_cons c tail)
  | case1 | case3 | case5 | case6 | case8 | case9 => cases h

theorem suffix_of_readString {t : String} (h : readString cs = .ok (t, rest)) : rest <:+ cs := by
  unfold readString at h
  split at h
  · next hunits =>
    cases h
    exact suffix_of_stringUnits hunits
  · cases h

theorem skipSpace_suffix (h : cs <:+ s) : skipSpace cs <:+ s := (List.dropWhile_suffix _).trans h

theorem suffix_of_skipSpace {c : Char} (h : skipSpace cs = c :: rest) : rest <:+ cs :=
  (List.suffix_cons c rest).trans (h ▸ List.dropWhile_suffix _)

/-! ### Composed values -/

/-- A value that is made of strings and of values of the class `Q`, with no two fields of one name in a record. -/
inductive Composed (Q : Value → Prop) : Value → Prop where
  | atom {v : Value} (h : Q v) : Composed Q v
  | text (s : String) : Composed Q (.text s)
  | list {vs : List Value} (h : ∀ v ∈ vs, Composed Q v) : Composed Q (.list vs)
  | record {fields : List (String × Value)} (hnames : (fields.map (·.1)).Nodup) (h : ∀ f ∈ fields, Composed Q f.2) :
    Composed Q (.record fields)

/-- Fields as reading gives them. -/
structure ComposedFields (Q : Value → Prop) (fields : List (String × Value)) : Prop where
  names : (fields.map (·.1)).Nodup
  values : ∀ f ∈ fields, Composed Q f.2

theorem ComposedFields.setField (h : ComposedFields Q fields) (name : String) (hv : Composed Q v) :
    ComposedFields Q (Value.setField fields name v) := by
  unfold Value.setField
  split
  · constructor
    case names =>
      have hsame : (fields.map fun f => if f.1 == name then (name, v) else f).map (·.1) = fields.map (·.1) := by
        rw [List.map_map]
        refine List.map_congr_left fun f _ => ?_
        by_cases hf : f.1 = name <;> simp [hf]
      rw [hsame]
      exact h.names
    case values =>
      intro f hf
      obtain ⟨g, hg, rfl⟩ := List.mem_map.mp hf
      split
      · exact hv
      · exact h.values g hg
  · next hnew =>
    have hnone : name ∉ fields.map (·.1) := by
      intro hmem
      obtain ⟨f, hf, rfl⟩ := List.mem_map.mp hmem
      exact hnew (List.any_eq_true.mpr ⟨f, hf, beq_self_eq_true _⟩)
    constructor
    case names =>
      rw [List.map_append, List.nodup_append]
      refine ⟨h.names, by simp, fun a ha b hb => ?_⟩
      rintro rfl
      obtain rfl : a = name := by simpa using hb
      exact hnone ha
    case values =>
      intro f hf
      rcases List.mem_append.mp hf with hf | hf
      · exact h.values f hf
      · obtain rfl : f = (name, v) := by simpa using hf
        exact hv

/-! ### Reading -/

/-- A word or a number that stands in the text. -/
def StandsIn (s : List Char) (v : Value) : Prop := ∃ cs rest, cs <:+ s ∧ atom cs = .ok (v, rest)

/-- Reading with some number of steps, within the text. -/
structure ReadsWithin (s : List Char) (fuel : Nat) : Prop where
  value : ∀ cs v rest, cs <:+ s → value fuel cs = .ok (v, rest) → rest <:+ s ∧ Composed (StandsIn s) v
  items : ∀ cs vs rest, cs <:+ s → items fuel cs = .ok (vs, rest) → rest <:+ s ∧ ∀ v ∈ vs, Composed (StandsIn s) v
  members : ∀ before cs fields rest, cs <:+ s → ComposedFields (StandsIn s) before →
    members fuel before cs = .ok (fields, rest) → rest <:+ s ∧ ComposedFields (StandsIn s) fields

theorem readsWithin_zero (s : List Char) : ReadsWithin s 0 := by
  constructor
  · intro cs v rest _ h
    cases h
  · intro cs vs rest _ h
    cases h
  · intro before cs fields rest _ _ h
    cases h

theorem value_succ_within (h : ReadsWithin s fuel) (hcs : cs <:+ s) (hv : value (fuel + 1) cs = .ok (v, rest)) :
    rest <:+ s ∧ Composed (StandsIn s) v := by
  rw [value.eq_def] at hv
  dsimp only at hv
  split at hv
  · next tail =>
    have htail := (List.suffix_cons _ tail).trans hcs
    split at hv
    · next hstring =>
      cases hv
      exact ⟨(suffix_of_readString hstring).trans htail, .text _⟩
    · cases hv
  · next tail =>
    have htail := (List.suffix_cons _ tail).trans hcs
    split at hv
    · next hclosed =>
      cases hv
      exact ⟨(suffix_of_skipSpace hclosed).trans htail, .list (by simp)⟩
    · split at hv
      · next hitems =>
        cases hv
        obtain ⟨hrest, hvs⟩ := h.items _ _ _ (skipSpace_suffix htail) hitems
        exact ⟨hrest, .list hvs⟩
      · cases hv
  · next tail =>
    have htail := (List.suffix_cons _ tail).trans hcs
    split at hv
    · next hclosed =>
      cases hv
      exact ⟨(suffix_of_skipSpace hclosed).trans htail, .record (by simp) (by simp)⟩
    · split at hv
      · next hmembers =>
        cases hv
        obtain ⟨hrest, hnames, hvalues⟩ :=
          h.members _ _ _ _ (skipSpace_suffix htail) ⟨by simp, by simp⟩ hmembers
        exact ⟨hrest, .record hnames hvalues⟩
      · cases hv
  · exact ⟨(suffix_of_atom hv).trans hcs, .atom ⟨cs, rest, hcs, hv⟩⟩

theorem items_succ_within (h : ReadsWithin s fuel) (hcs : cs <:+ s) (hvs : items (fuel + 1) cs = .ok (vs, rest)) :
    rest <:+ s ∧ ∀ v ∈ vs, Composed (StandsIn s) v := by
  rw [items.eq_def] at hvs
  dsimp only at hvs
  split at hvs
  · cases hvs
  · next hfirst =>
    obtain ⟨hrest, hv⟩ := h.value _ _ _ hcs hfirst
    split at hvs
    · next hclosed =>
      cases hvs
      exact ⟨(suffix_of_skipSpace hclosed).trans hrest, by simpa using hv⟩
    · next hcomma =>
      split at hvs
      · next hitems =>
        cases hvs
        have hnext := skipSpace_suffix ((suffix_of_skipSpace hcomma).trans hrest)
        obtain ⟨hlast, hvs⟩ := h.items _ _ _ hnext hitems
        exact ⟨hlast, List.forall_mem_cons.mpr ⟨hv, hvs⟩⟩
      · cases hvs
    · cases hvs

theorem members_succ_within (h : ReadsWithin s fuel) {before : List (String × Value)} (hcs : cs <:+ s)
    (hbefore : ComposedFields (StandsIn s) before) (hfields : members (fuel + 1) before cs = .ok (fields, rest)) :
    rest <:+ s ∧ ComposedFields (StandsIn s) fields := by
  rw [members.eq_def] at hfields
  dsimp only at hfields
  split at hfields
  · next tail =>
    have htail := (List.suffix_cons _ tail).trans hcs
    split at hfields
    · cases hfields
    · next hname =>
      have hafter := (suffix_of_readString hname).trans htail
      split at hfields
      · next hcolon =>
        have hstart := skipSpace_suffix ((suffix_of_skipSpace hcolon).trans hafter)
        split at hfields
        · cases hfields
        · next hvalue =>
          obtain ⟨hrest, hv⟩ := h.value _ _ _ hstart hvalue
          have hset (name : String) := hbefore.setField name hv
          split at hfields
          · next hclosed =>
            cases hfields
            exact ⟨(suffix_of_skipSpace hclosed).trans hrest, hset _⟩
          · next hcomma =>
            have hnext := skipSpace_suffix ((suffix_of_skipSpace hcomma).trans hrest)
            exact h.members _ _ _ _ hnext (hset _) hfields
          · cases hfields
      · cases hfields
  · cases hfields

theorem readsWithin (s : List Char) (fuel : Nat) : ReadsWithin s fuel := by
  induction fuel with
  | zero => exact readsWithin_zero s
  | succ fuel ih =>
    exact ⟨fun _ _ _ => value_succ_within ih, fun _ _ _ => items_succ_within ih, fun _ _ _ _ => members_succ_within ih⟩

/-- What a text is read as is composed of its words and numbers. -/
theorem composed_of_parse {s : String} (h : parse s = .ok v) : Composed (StandsIn s.toList) v := by
  unfold parse at h
  split at h
  · next hdocument =>
    cases h
    unfold document at hdocument
    split at hdocument
    · cases hdocument
    · split at hdocument
      · cases hdocument
      · next hvalue =>
        split at hdocument
        · cases hdocument
          exact ((readsWithin s.toList _).value _ _ _ (skipSpace_suffix List.suffix_rfl) hvalue).2
        · cases hdocument
  · cases h

/-! ### Canonical values -/

/-- A value that reading a text can give. -/
inductive IsRead : Value → Prop where
  | null : IsRead .null
  | bool (b : Bool) : IsRead (.bool b)
  | int (n : Int) : IsRead (.int n)
  | float {x : Binary64} (h : x.IsCanonical) : IsRead (.float x)
  | text (s : String) : IsRead (.text s)
  | list {vs : List Value} (h : ∀ v ∈ vs, IsRead v) : IsRead (.list vs)
  | record {fields : List (String × Value)} (hnames : (fields.map (·.1)).Nodup) (h : ∀ f ∈ fields, IsRead f.2) :
    IsRead (.record fields)

theorem isRead_of_unsigned? {negative : Bool} {r : Value × List Char} (h : unsigned? negative cs = some r) : IsRead r.1 := by
  unfold unsigned? at h
  dsimp only at h
  split at h
  · cases h
  · split at h
    · cases h
      exact .float (Binary64.isCanonical_ofScientific ..)
    · split at h
      · cases h
        exact .int _
      · cases h
        exact .float (Binary64.isCanonical_ofScientific ..)

theorem isRead_of_atom {r : Value × List Char} (h : atom cs = .ok r) : IsRead r.1 := by
  unfold atom at h
  split at h
  · next word v hword =>
    cases h
    have hmem := List.mem_of_find?_eq_some hword
    simp only [words, List.mem_cons, Prod.mk.injEq, List.not_mem_nil, or_false] at hmem
    rcases hmem with ⟨-, rfl⟩ | ⟨-, rfl⟩ | ⟨-, rfl⟩ | ⟨-, rfl⟩ | ⟨-, rfl⟩ | ⟨-, rfl⟩
    · exact .null
    · exact .bool _
    · exact .bool _
    · exact .float trivial
    · exact .float trivial
    · exact .float trivial
  · split at h
    · next r' hnumber =>
      cases h
      unfold number? at hnumber
      split at hnumber
      · exact isRead_of_unsigned? hnumber
      · exact isRead_of_unsigned? hnumber
    · cases h

theorem isRead_of_composed (h : Composed (StandsIn s) v) : IsRead v := by
  induction h with
  | atom h =>
    obtain ⟨cs, rest, -, hatom⟩ := h
    exact isRead_of_atom hatom
  | text s => exact .text s
  | list _ ih => exact .list ih
  | record hnames _ ih => exact .record hnames ih

theorem isRead_of_parse {s : String} (h : parse s = .ok v) : IsRead v := isRead_of_composed (composed_of_parse h)

end Json
end SpannerSchema
