import Mathlib.Data.List.Nodup
import SpannerSchema.Failure
import SpannerSchema.Proofs.Rows.FirstFault
import SpannerSchema.Rows.Store

/-! Objects are converted as records are. The copy of an object begins with all its attributes, and each one that is set
    stands at its own place, so that what has been set and what is still to come make up the attributes that a record
    would have so far. Only the copy is set: the store keeps all that it held, also where a later attribute puts an end
    to the work. -/

namespace SpannerSchema

variable {names : List String} {name : String} {v v' : Value} {before fields copy m m' : List (String × Value)}
  {s : Store} {a : Nat} {e : ConversionError}

/-! ### Attributes -/

/-- Where the name is no other field's, its field takes the value at its place. -/
theorem Value.setField_append (hbefore : name ∉ before.map (·.1)) (hfields : name ∉ fields.map (·.1)) (v v' : Value) :
    Value.setField (before ++ (name, v) :: fields) name v' = before ++ (name, v') :: fields := by
  have hsame {fields : List (String × Value)} (h : name ∉ fields.map (·.1)) :
      (fields.map fun f => if f.1 == name then (name, v') else f) = fields := by
    refine (List.map_congr_left fun f hf => ?_).trans (List.map_id fields)
    have hne : f.1 ≠ name := by
      rintro rfl
      exact h (List.mem_map_of_mem hf)
    simp [hne]
  have hany : ((before ++ (name, v) :: fields).any fun f => f.1 == name) = true := by simp
  rw [Value.setField, if_pos hany, List.map_append, List.map_cons, hsame hbefore, hsame hfields]
  simp

theorem lookup_of_mem {f : String × Value} (hm : (m.map (·.1)).Nodup) (hf : f ∈ m) : m.lookup f.1 = some f.2 := by
  induction m with
  | nil => cases hf
  | cons g m ih =>
    rw [List.map_cons, List.nodup_cons] at hm
    rcases List.mem_cons.mp hf with rfl | hf
    · exact List.lookup_cons_self
    · have hne : f.1 ≠ g.1 := by
        intro hsame
        exact hm.1 (hsame ▸ List.mem_map_of_mem hf)
      have hbeq : (f.1 == g.1) = false := by simpa using hne
      rw [List.lookup_cons, hbeq]
      exact ih hm.2 hf

/-! ### Stores -/

namespace Store

theorem attributes_of_getElem? (h : s.objects[a]? = some m) : s.attributes a = m := by
  rw [attributes, List.getD_eq_getElem?_getD, h]
  rfl

theorem attributes_add_of_lt (h : a < s.objects.length) (m : List (String × Value)) :
    (s.add m).attributes a = s.attributes a := by
  simp [attributes, add, List.getElem?_append_left h]

/-- Setting an attribute of the last object is a matter of that object alone. -/
theorem setAttribute_add (s : Store) (m : List (String × Value)) (name : String) (v : Value) :
    (s.add m).setAttribute s.objects.length name v = s.add (Value.setField m name v) := by
  simp [setAttribute, add, List.modify_eq_take_drop]

end Store

namespace Conversion

/-! ### The copy -/

/-- The attributes that have been set stand before those that are still to come, as in a record made anew. -/
theorem setConverted_append (hnames : ((before ++ fields).map (·.1)).Nodup) :
    setConverted names (before ++ fields) fields = (convertFields names fields).map (before ++ ·) := by
  induction fields generalizing before with
  | nil => rfl
  | cons f fields ih =>
    obtain ⟨name, v⟩ := f
    have hsplit (v : Value) : before ++ (name, v) :: fields = before ++ [(name, v)] ++ fields := by simp
    have hnext (v' : Value) : ((before ++ [(name, v')] ++ fields).map (·.1)).Nodup := by
      simpa using hnames
    have hdistinct := hnames
    rw [List.map_append, List.map_cons, List.nodup_middle, List.nodup_cons, List.mem_append, not_or] at hdistinct
    obtain ⟨⟨hbefore, hfields⟩, -⟩ := hdistinct
    rw [setConverted, convertFields]
    by_cases hname : names.contains name = true
    · rw [if_pos hname]
      cases convertField names name v with
      | error e => rfl
      | ok v' =>
        dsimp only
        rw [Value.setField_append hbefore hfields, hsplit, ih (hnext v')]
        cases convertFields names fields <;> simp [Except.map]
    · have hkept : convertField names name v = .ok v := by rw [convertField, if_neg hname]
      rw [if_neg hname, hkept, hsplit, ih (hnext v)]
      cases convertFields names fields <;> simp [Except.map]

theorem setConverted_eq (hm : (m.map (·.1)).Nodup) : setConverted names m m = convertFields names m := by
  have happend : setConverted names ([] ++ m) m = _ := setConverted_append hm
  rw [List.nil_append] at happend
  rw [happend]
  cases convertFields names m <;> rfl

/-! ### The store -/

/-- The object whose attributes are read is none of those that are set, so its attributes are what they were. The store
gains the copy, as far as it has come. -/
theorem convertAttributes_add (names : List String) (ha : a < s.objects.length)
    (hfields : ∀ f ∈ fields, (s.attributes a).lookup f.1 = some f.2) (copy : List (String × Value)) :
    ∃ begun, convertAttributes names a s.objects.length (fields.map (·.1)) (s.add copy) =
        (s.add begun, fields.findSome? (fieldFault? names)) ∧
      ∀ copy', setConverted names copy fields = .ok copy' → copy' = begun := by
  induction fields generalizing copy with
  | nil => exact ⟨copy, rfl, fun copy' h => (Except.ok.inj h).symm⟩
  | cons f fields ih =>
    obtain ⟨name, v⟩ := f
    obtain ⟨hfirst, hrest⟩ := List.forall_mem_cons.mp hfields
    have hlookup : ((s.add copy).attributes a).lookup name = some v := by
      rw [Store.attributes_add_of_lt ha]
      exact hfirst
    rw [List.map_cons, convertAttributes, setConverted, hlookup, Option.getD_some, List.findSome?_cons]
    by_cases hname : names.contains name = true
    · rw [if_pos hname, if_pos hname]
      cases hfield : convertField names name v with
      | error e =>
        rw [convertField_eq_error_iff.mp hfield]
        exact ⟨copy, rfl, fun copy' h => by cases h⟩
      | ok v' =>
        rw [exists_convertField_iff.mpr ⟨v', hfield⟩]
        dsimp only
        rw [Store.setAttribute_add]
        exact ih hrest _
    · have hnone : fieldFault? names (name, v) = none := if_neg (by simpa using hname)
      rw [if_neg hname, if_neg hname, hnone]
      exact ih hrest copy

/-- A store that holds what another held, and perhaps more. -/
def Keeps (s s' : Store) : Prop :=
  ∀ (a : Nat) (m : List (String × Value)), s.objects[a]? = some m → s'.objects[a]? = some m

theorem keeps_add (s : Store) (m : List (String × Value)) : Keeps s (s.add m) := by
  intro a m' ha
  obtain ⟨hlt, -⟩ := List.getElem?_eq_some_iff.mp ha
  rw [Store.add, List.getElem?_append_left hlt, ha]

/-- Converting an object adds one to the store, with the attributes of the converted record if there is no fault. -/
theorem convertObject_eq (names : List String) (ha : s.objects[a]? = some m) (hm : (m.map (·.1)).Nodup) :
    ∃ begun, convertObject names a s = (s.add begun, (convertFields names m).map fun _ => s.objects.length) ∧
      ∀ m', convertFields names m = .ok m' → m' = begun := by
  obtain ⟨hlt, -⟩ := List.getElem?_eq_some_iff.mp ha
  have hattributes := Store.attributes_of_getElem? ha
  have hlookup : ∀ f ∈ m, (s.attributes a).lookup f.1 = some f.2 := fun f hf => hattributes ▸ lookup_of_mem hm hf
  obtain ⟨begun, hrun, hbegun⟩ := convertAttributes_add names hlt hlookup m
  rw [setConverted_eq hm] at hbegun
  refine ⟨begun, ?_, hbegun⟩
  rw [convertObject, hattributes, hrun]
  cases hfields : convertFields names m with
  | error e => rw [convertFields_eq_error_iff.mp hfields]; rfl
  | ok m' => rw [(eq_none_iff_exists_ok fun _ => convertFields_eq_error_iff).mpr ⟨m', hfields⟩]; rfl

/-- An object is converted as the record of its attributes is, into a new object with those of the converted record in their
order, or refused for the same attribute. What the store held it holds, the object among it. -/
theorem object_like_record (columns : List Column) (m : List (String × Value)) (hm : (m.map (·.1)).Nodup) (s : Store)
    (a : Nat) (ha : s.objects[a]? = some m) :
    (∃ m' s' b, convertRow (convertedNames columns) (.record m) = .ok (.record m') ∧
      convertRow (convertedNames columns) (.object m) = .ok (.object m') ∧
      convertObject (convertedNames columns) a s = (s', .ok b) ∧
      s.objects[b]? = none ∧ s'.objects[b]? = some m' ∧ Keeps s s') ∨
    ∃ e s', convertRow (convertedNames columns) (.record m) = .error e ∧
      convertRow (convertedNames columns) (.object m) = .error e ∧
      convertObject (convertedNames columns) a s = (s', .error e) ∧
      (Failure.conversion e).title? = some "MalformedInputError" ∧ Keeps s s' := by
  obtain ⟨begun, hrun, hbegun⟩ := convertObject_eq (convertedNames columns) ha hm
  rw [convertRow, convertRow, setConverted_eq hm, hrun]
  cases hfields : convertFields (convertedNames columns) m with
  | ok m' =>
    obtain rfl := hbegun m' hfields
    exact .inl ⟨m', _, s.objects.length, rfl, rfl, rfl, by simp, by simp [Store.add], keeps_add s m'⟩
  | error e =>
    obtain ⟨f, -, hf⟩ := List.exists_of_findSome?_eq_some (convertFields_eq_error_iff.mp hfields)
    obtain ⟨-, shown, -, rfl⟩ := fieldFault?_eq_some_iff.mp hf
    exact .inr ⟨_, _, rfl, rfl, rfl, rfl, keeps_add s begun⟩

/-- A table with two columns of decimal type. -/
def billColumns : List Column :=
  [{ name := "price", type := "decimal(9,2)" }, { name := "note", type := "text" },
   { name := "total", type := "DECIMAL(12,2) unsigned" }]

def bill (total : String) : List (String × Value) :=
  [("price", .text " 1.50"), ("note", .list [.text "1.50"]), ("total", .text total)]

/-- The price of the first bill has been converted by the time its total turns out to be none, and the bill has the price it
had. The second bill is converted in all its attributes, which stand in their order in a third object. -/
theorem object_like_record_bills :
    (∃ s', convertObject (convertedNames billColumns) 0 ⟨[bill "much", bill "3"]⟩ =
        (s', .error (.notNumeric "total" "'much'")) ∧ s'.objects[0]? = some (bill "much")) ∧
    ∃ s' b, convertObject (convertedNames billColumns) 1 ⟨[bill "much", bill "3"]⟩ = (s', .ok b) ∧
      s'.objects[1]? = some (bill "3") ∧ s'.objects[b]? = some [("price", .decimal (.finite false 150 (-2))),
        ("note", .list [.text "1.50"]), ("total", .decimal (.finite false 3 0))] := by
  have hnames : convertedNames billColumns = ["price", "total"] := by decide +kernel
  have hdistinct (total : String) : ((bill total).map (·.1)).Nodup := by simp [bill]
  have hmuch : convertRow ["price", "total"] (.record (bill "much")) = .error (.notNumeric "total" "'much'") := rfl
  have hthree : convertRow ["price", "total"] (.record (bill "3")) = .ok (.record [("price", .decimal (.finite false 150 (-2))),
      ("note", .list [.text "1.50"]), ("total", .decimal (.finite false 3 0))]) := rfl
  have hfirst := object_like_record billColumns (bill "much") (hdistinct _) ⟨[bill "much", bill "3"]⟩ 0 rfl
  have hsecond := object_like_record billColumns (bill "3") (hdistinct _) ⟨[bill "much", bill "3"]⟩ 1 rfl
  rw [hnames] at hfirst hsecond ⊢
  constructor
  · rcases hfirst with ⟨m', s', b, hrecord, -⟩ | ⟨e, s', hrecord, -, hrun, -, hkeeps⟩
    · rw [hmuch] at hrecord
      cases hrecord
    · rw [hmuch] at hrecord
      cases hrecord
      exact ⟨s', hrun, hkeeps 0 _ rfl⟩
  · rcases hsecond with ⟨m', s', b, hrecord, -, hrun, -, hcopy, hkeeps⟩ | ⟨e, s', hrecord, -⟩
    · rw [hthree] at hrecord
      cases hrecord
      exact ⟨s', b, hrun, hkeeps 1 _ rfl, hcopy⟩
    · rw [hthree] at hrecord
      cases hrecord

end Conversion
end SpannerSchema
