import SpannerSchema.Proofs.Rows.Shape

/-! Rows in other forms. A row may be given as a record, as an object with the same attributes, or as the row that has been
    validated from its fields before. A validated row is read a second time, from the fields that it has kept, and comes to
    itself: its texts are texts, its nulls are nulls, and its initial value is the text that it was. So a list of rows comes
    to the same in every form, and a list that is refused is refused for the same issues. -/

namespace SpannerSchema
namespace Rows

variable {α : Type} {origin : RowOrigin} {read : List (String × Value) → Except (List Issue) α} {kept : α → Value}
  {fields : List (String × Value)} {v : Value} {given : List (List (String × Value))} {vs : List Value} {n : Nat}

/-! ### A second reading -/

theorem readDescribed_describedFields (r : DescribedRow) : readDescribed (Value.describedFields r) = .ok r := by
  obtain ⟨name, type, nullable, key, initial, extra⟩ := r
  cases nullable <;> cases key <;> cases initial <;> cases extra <;> rfl

theorem readUsage_usageFields (k : KeyUsage) : readUsage (Value.usageFields k) = .ok k := by
  obtain ⟨table, column, constraint, referencedTable, referencedColumn⟩ := k
  cases referencedTable <;> cases referencedColumn <;> rfl

/-! ### Forms -/

/-- The value gives the row with the fields, where `kept` is a row as it is kept once it has been read. -/
inductive Gives (read : List (String × Value) → Except (List Issue) α) (kept : α → Value)
    (fields : List (String × Value)) : Value → Prop where
  | record : Gives read kept fields (.record fields)
  | object : Gives read kept fields (.object fields)
  | validated {a : α} (h : read fields = .ok a) : Gives read kept fields (kept a)

/-- Rows that are kept are read again as themselves. -/
def ReadsAgain (read : List (String × Value) → Except (List Issue) α) (kept : α → Value) : Prop :=
  ∀ a, ∃ fields, (kept a).fields? = some fields ∧ read fields = .ok a

theorem readsAgain_described : ReadsAgain readDescribed .described := fun r =>
  ⟨Value.describedFields r, rfl, readDescribed_describedFields r⟩

theorem readsAgain_usage : ReadsAgain readUsage .usage := fun k => ⟨Value.usageFields k, rfl, readUsage_usageFields k⟩

theorem exists_fields_of_gives (hagain : ReadsAgain read kept) (h : Gives read kept fields v) :
    ∃ fields', v.fields? = some fields' ∧ read fields' = read fields := by
  cases h with
  | record => exact ⟨fields, rfl, rfl⟩
  | object => exact ⟨fields, rfl, rfl⟩
  | @validated a ha =>
    obtain ⟨fields', hfields, hread⟩ := hagain a
    exact ⟨fields', hfields, hread.trans ha.symm⟩

theorem readFrom_of_gives (hagain : ReadsAgain read kept) (h : List.Forall₂ (Gives read kept) given vs) :
    readFrom origin read n vs = readFrom origin read n (given.map .record) := by
  induction h generalizing n with
  | nil => rfl
  | @cons fields v given vs hgives _ ih =>
    obtain ⟨fields', hfields, hread⟩ := exists_fields_of_gives hagain hgives
    have hrecord : (Value.record fields).fields? = some fields := rfl
    rw [List.map_cons, readFrom, readFrom, hfields, hrecord]
    dsimp only
    rw [hread, ih]

/-- Records that fit are read. -/
theorem exists_readFrom_records {shape : List (String × FieldShape)} {Says : List (String × Value) → α → Prop}
    (hread : ReadsShape shape Says read) (hfits : ∀ fields ∈ given, Fits shape fields) :
    ∃ as, readFrom origin read 0 (given.map .record) = .ok as := by
  refine (readsExactly_of_readsShape hread).accepts.mpr ?_
  intro row hrow
  obtain ⟨fields, hfields, rfl⟩ := List.mem_map.mp hrow
  exact ⟨fields, rfl, hfits fields hfields⟩

/-- A list of rows comes to the same in every form, and so it does where it is refused. Rows that fit are not refused. -/
theorem read_alike :
    (∀ given vs, List.Forall₂ (Gives readDescribed .described) given vs →
      columns (.list vs) = columns (.list (given.map .record)) ∧
      ((∀ fields ∈ given, Fits describedShape fields) → ∃ cs, columns (.list vs) = .ok cs)) ∧
    ∀ given vs, List.Forall₂ (Gives readUsage .usage) given vs →
      keyUsage (.list vs) = keyUsage (.list (given.map .record)) ∧
      ((∀ fields ∈ given, Fits usageShape fields) → ∃ keys, keyUsage (.list vs) = .ok keys) := by
  constructor
  · intro given vs h
    have hsame : columns (.list vs) = columns (.list (given.map .record)) :=
      congrArg (·.map (·.map DescribedRow.column)) (readFrom_of_gives readsAgain_described h)
    refine ⟨hsame, fun hfits => ?_⟩
    rw [hsame, columns_eq_readFrom]
    exact exists_readFrom_records readsShape_described hfits
  · intro given vs h
    have hsame : keyUsage (.list vs) = keyUsage (.list (given.map .record)) := readFrom_of_gives readsAgain_usage h
    refine ⟨hsame, fun hfits => ?_⟩
    rw [hsame]
    exact exists_readFrom_records readsShape_usage hfits

/-- A row with bytes for a text and a number for an initial value, and the row that is kept of it. -/
def stopFields : List (String × Value) :=
  [("Default", .int 0), ("Field", .bytes (Text.utf8 "stop")), ("Type", .text "int"), ("Null", .text "NO"), ("Key", .null),
   ("Extra", .null)]

def stopRow : DescribedRow :=
  { name := "stop", type := "int", nullable := false, key := none, initial := some "0", extra := none }

def stopKeyFields : List (String × Value) :=
  [("TABLE_NAME", .text "stops"), ("COLUMN_NAME", .text "stop"), ("CONSTRAINT_NAME", .bytes (Text.utf8 "one")),
   ("REFERENCED_TABLE_NAME", .null), ("REFERENCED_COLUMN_NAME", .null)]

def stopKey : KeyUsage := { table := "stops", column := "stop", constraint := "one" }

/-- Rows in all three forms, and one that does not fit after them. -/
theorem read_alike_stops :
    List.Forall₂ (Gives readDescribed .described) [stopFields, stopFields, stopFields, [("Field", .int 7)]]
      [.object stopFields, .described stopRow, .record stopFields, .object [("Field", .int 7)]] ∧
    columns (.list [.object stopFields, .described stopRow, .record stopFields, .object [("Field", .int 7)]])
      = columns (.list [.record stopFields, .record stopFields, .record stopFields, .record [("Field", .int 7)]]) ∧
    List.Forall₂ (Gives readUsage .usage) [stopKeyFields, stopKeyFields] [.usage stopKey, .object stopKeyFields] ∧
    (∀ fields ∈ [stopKeyFields, stopKeyFields], Fits usageShape fields) ∧
    keyUsage (.list [.usage stopKey, .object stopKeyFields])
      = keyUsage (.list [.record stopKeyFields, .record stopKeyFields]) ∧
    ∃ keys, keyUsage (.list [.usage stopKey, .object stopKeyFields]) = .ok keys := by
  have hrow : readDescribed stopFields = .ok stopRow := rfl
  have hkey : readUsage stopKeyFields = .ok stopKey := rfl
  have hrows : List.Forall₂ (Gives readDescribed .described) [stopFields, stopFields, stopFields, [("Field", .int 7)]]
      [.object stopFields, .described stopRow, .record stopFields, .object [("Field", .int 7)]] :=
    .cons .object (.cons (.validated hrow) (.cons .record (.cons .object .nil)))
  have hkeys : List.Forall₂ (Gives readUsage .usage) [stopKeyFields, stopKeyFields] [.usage stopKey, .object stopKeyFields] :=
    .cons (.validated hkey) (.cons .object .nil)
  have hfits : ∀ fields ∈ [stopKeyFields, stopKeyFields], Fits usageShape fields := by
    simpa using (readUsage_eq_ok_iff.mp hkey).1
  obtain ⟨hcolumns, -⟩ := read_alike.1 _ _ hrows
  obtain ⟨hsame, hread⟩ := read_alike.2 _ _ hkeys
  exact ⟨hrows, hcolumns, hkeys, hfits, hsame, hread hfits⟩

end Rows
end SpannerSchema
