import Mathlib.Data.List.Forall2
import SpannerSchema.Failure
import SpannerSchema.Proofs.Rows.Fields

/-! Which rows are read. Rows are read if and only if all of them fit their shape, each on its own. Otherwise the first that
    does not fit is refused with everything that is wrong with it, and nothing that comes after it counts. -/

namespace SpannerSchema
namespace Rows

variable {fields : List (String × Value)}

/-! ### Rows of a table description -/

/-- The fields of a row of a table description, each with what it may hold. -/
def describedShape : List (String × FieldShape) :=
  [("Field", .text), ("Type", .text), ("Null", .yesOrNo), ("Key", .textOrNull), ("Default", .anything),
   ("Extra", .textOrNull)]

/-- What the fields of a row of a table description say. -/
structure Describes (fields : List (String × Value)) (r : DescribedRow) : Prop where
  name : Holds fields "Field" (IsText r.name)
  type : Holds fields "Type" (IsText r.type)
  nullable : Holds fields "Null" (IsYesNo r.nullable)
  key : Holds fields "Key" (IsTextOrNull r.key)
  initial : Holds fields "Default" (IsInitial r.initial)
  extra : Holds fields "Extra" (IsTextOrNull r.extra)

/-- The issues of a row of a table description, in the order in which its fields are read. -/
theorem issuesOf_describedShape (fields : List (String × Value)) : issuesOf describedShape fields =
    issue (field fields readText "Field") ++ issue (field fields readText "Type") ++ issue (field fields readYesNo "Null")
      ++ issue (field fields readText? "Key") ++ issue (field fields readInitial "Default")
      ++ issue (field fields readText? "Extra") ++ unknown describedNames fields := by
  rw [issue_field takes_readText, issue_field takes_readText, issue_field takes_readYesNo, issue_field takes_readText?,
    issue_field takes_readInitial, issue_field takes_readText?, unknown_eq, issuesOf, List.filterMap_eq_flatMap_toList]
  simp only [describedShape, List.flatMap_cons, List.flatMap_nil, List.append_nil, List.append_assoc]
  rfl

theorem readDescribed_of_not_fits (h : ¬Fits describedShape fields) :
    readDescribed fields = .error (issuesOf describedShape fields) := by
  unfold readDescribed
  dsimp only
  split
  · next hname htype hnullable hkey hinitial hextra hunknown =>
    refine absurd (issuesOf_eq_nil_iff.mp ?_) h
    rw [issuesOf_describedShape, hname, htype, hnullable, hkey, hinitial, hextra, hunknown]
    rfl
  · rw [issuesOf_describedShape]

theorem readDescribed_eq_ok_iff {r : DescribedRow} :
    readDescribed fields = .ok r ↔ Fits describedShape fields ∧ Describes fields r := by
  constructor
  · intro h
    have hfits : Fits describedShape fields := by
      by_contra hnot
      rw [readDescribed_of_not_fits hnot] at h
      cases h
    refine ⟨hfits, ?_⟩
    unfold readDescribed at h
    dsimp only at h
    split at h
    · next hname htype hnullable hkey hinitial hextra hunknown =>
      cases h
      constructor
      case name => exact (field_eq_ok_iff takes_readText).mp hname
      case type => exact (field_eq_ok_iff takes_readText).mp htype
      case nullable => exact (field_eq_ok_iff takes_readYesNo).mp hnullable
      case key => exact (field_eq_ok_iff takes_readText?).mp hkey
      case initial => exact (field_eq_ok_iff takes_readInitial).mp hinitial
      case extra => exact (field_eq_ok_iff takes_readText?).mp hextra
    · cases h
  · rintro ⟨hfits, hsays⟩
    have hname := (field_eq_ok_iff takes_readText).mpr hsays.name
    have htype := (field_eq_ok_iff takes_readText).mpr hsays.type
    have hnullable := (field_eq_ok_iff takes_readYesNo).mpr hsays.nullable
    have hkey := (field_eq_ok_iff takes_readText?).mpr hsays.key
    have hinitial := (field_eq_ok_iff takes_readInitial).mpr hsays.initial
    have hextra := (field_eq_ok_iff takes_readText?).mpr hsays.extra
    have hunknown : unknown describedNames fields = [] := unknown_eq_nil hfits
    unfold readDescribed
    rw [hname, htype, hnullable, hkey, hinitial, hextra, hunknown]

theorem exists_describes (h : Fits describedShape fields) : ∃ r, Describes fields r := by
  obtain ⟨name, hname⟩ := exists_of_fits "Field" takes_readText h (by simp [describedShape])
  obtain ⟨type, htype⟩ := exists_of_fits "Type" takes_readText h (by simp [describedShape])
  obtain ⟨nullable, hnullable⟩ := exists_of_fits "Null" takes_readYesNo h (by simp [describedShape])
  obtain ⟨key, hkey⟩ := exists_of_fits "Key" takes_readText? h (by simp [describedShape])
  obtain ⟨initial, hinitial⟩ := exists_of_fits "Default" takes_readInitial h (by simp [describedShape])
  obtain ⟨extra, hextra⟩ := exists_of_fits "Extra" takes_readText? h (by simp [describedShape])
  exact ⟨⟨name, type, nullable, key, initial, extra⟩, hname, htype, hnullable, hkey, hinitial, hextra⟩

/-! ### Rows of a key usage -/

def usageShape : List (String × FieldShape) :=
  [("TABLE_NAME", .text), ("COLUMN_NAME", .text), ("CONSTRAINT_NAME", .text), ("REFERENCED_TABLE_NAME", .textOrNull),
   ("REFERENCED_COLUMN_NAME", .textOrNull)]

/-- What the fields of a row of a key usage say. -/
structure Uses (fields : List (String × Value)) (k : KeyUsage) : Prop where
  table : Holds fields "TABLE_NAME" (IsText k.table)
  column : Holds fields "COLUMN_NAME" (IsText k.column)
  constraint : Holds fields "CONSTRAINT_NAME" (IsText k.constraint)
  referencedTable : Holds fields "REFERENCED_TABLE_NAME" (IsTextOrNull k.referencedTable)
  referencedColumn : Holds fields "REFERENCED_COLUMN_NAME" (IsTextOrNull k.referencedColumn)

theorem issuesOf_usageShape (fields : List (String × Value)) : issuesOf usageShape fields =
    issue (field fields readText "TABLE_NAME") ++ issue (field fields readText "COLUMN_NAME")
      ++ issue (field fields readText "CONSTRAINT_NAME") ++ issue (field fields readText? "REFERENCED_TABLE_NAME")
      ++ issue (field fields readText? "REFERENCED_COLUMN_NAME") ++ unknown usageNames fields := by
  rw [issue_field takes_readText, issue_field takes_readText, issue_field takes_readText, issue_field takes_readText?,
    issue_field takes_readText?, unknown_eq, issuesOf, List.filterMap_eq_flatMap_toList]
  simp only [usageShape, List.flatMap_cons, List.flatMap_nil, List.append_nil, List.append_assoc]
  rfl

theorem readUsage_of_not_fits (h : ¬Fits usageShape fields) : readUsage fields = .error (issuesOf usageShape fields) := by
  unfold readUsage
  dsimp only
  split
  · next htable hcolumn hconstraint hreferenced hreferencedColumn hunknown =>
    refine absurd (issuesOf_eq_nil_iff.mp ?_) h
    rw [issuesOf_usageShape, htable, hcolumn, hconstraint, hreferenced, hreferencedColumn, hunknown]
    rfl
  · rw [issuesOf_usageShape]

theorem readUsage_eq_ok_iff {k : KeyUsage} : readUsage fields = .ok k ↔ Fits usageShape fields ∧ Uses fields k := by
  constructor
  · intro h
    have hfits : Fits usageShape fields := by
      by_contra hnot
      rw [readUsage_of_not_fits hnot] at h
      cases h
    refine ⟨hfits, ?_⟩
    unfold readUsage at h
    dsimp only at h
    split at h
    · next htable hcolumn hconstraint hreferenced hreferencedColumn hunknown =>
      cases h
      constructor
      case table => exact (field_eq_ok_iff takes_readText).mp htable
      case column => exact (field_eq_ok_iff takes_readText).mp hcolumn
      case constraint => exact (field_eq_ok_iff takes_readText).mp hconstraint
      case referencedTable => exact (field_eq_ok_iff takes_readText?).mp hreferenced
      case referencedColumn => exact (field_eq_ok_iff takes_readText?).mp hreferencedColumn
    · cases h
  · rintro ⟨hfits, hsays⟩
    have htable := (field_eq_ok_iff takes_readText).mpr hsays.table
    have hcolumn := (field_eq_ok_iff takes_readText).mpr hsays.column
    have hconstraint := (field_eq_ok_iff takes_readText).mpr hsays.constraint
    have hreferenced := (field_eq_ok_iff takes_readText?).mpr hsays.referencedTable
    have hreferencedColumn := (field_eq_ok_iff takes_readText?).mpr hsays.referencedColumn
    have hunknown : unknown usageNames fields = [] := unknown_eq_nil hfits
    unfold readUsage
    rw [htable, hcolumn, hconstraint, hreferenced, hreferencedColumn, hunknown]

theorem exists_uses (h : Fits usageShape fields) : ∃ k, Uses fields k := by
  obtain ⟨table, htable⟩ := exists_of_fits "TABLE_NAME" takes_readText h (by simp [usageShape])
  obtain ⟨column, hcolumn⟩ := exists_of_fits "COLUMN_NAME" takes_readText h (by simp [usageShape])
  obtain ⟨constraint, hconstraint⟩ := exists_of_fits "CONSTRAINT_NAME" takes_readText h (by simp [usageShape])
  obtain ⟨referenced, hreferenced⟩ := exists_of_fits "REFERENCED_TABLE_NAME" takes_readText? h (by simp [usageShape])
  obtain ⟨referencedColumn, hreferencedColumn⟩ :=
    exists_of_fits "REFERENCED_COLUMN_NAME" takes_readText? h (by simp [usageShape])
  exact ⟨⟨table, column, constraint, referenced, referencedColumn⟩, htable, hcolumn, hconstraint, hreferenced,
    hreferencedColumn⟩

/-! ### Rows one after the other -/

/-- `read` reads the fields that fit the shape, for what they say, and refuses all others with everything that is wrong with
them. -/
structure ReadsShape {α : Type} (shape : List (String × FieldShape)) (Says : List (String × Value) → α → Prop)
    (read : List (String × Value) → Except (List Issue) α) : Prop where
  ok : ∀ fields a, read fields = .ok a ↔ Fits shape fields ∧ Says fields a
  error : ∀ fields, ¬Fits shape fields → read fields = .error (issuesOf shape fields)
  total : ∀ fields, Fits shape fields → ∃ a, Says fields a

/-- The value is a row, in any form, with fields that fit. -/
def RowFits (shape : List (String × FieldShape)) (row : Value) : Prop :=
  ∃ fields, row.fields? = some fields ∧ Fits shape fields

/-- The value is a row that fits, and `a` is what its fields say. -/
def RowSays {α : Type} (shape : List (String × FieldShape)) (Says : List (String × Value) → α → Prop) (row : Value) (a : α) :
    Prop :=
  ∃ fields, row.fields? = some fields ∧ Fits shape fields ∧ Says fields a

/-- The row `row`, with the number `i`, does not fit, and all rows before it do. -/
structure FirstMisfit (shape : List (String × FieldShape)) (rows : List Value) (i : Nat) (row : Value) : Prop where
  found : rows[i]? = some row
  misfit : ¬RowFits shape row
  before : ∀ j r, j < i → rows[j]? = some r → RowFits shape r

/-- Why a row that does not fit is refused. -/
def refusal (origin : RowOrigin) (shape : List (String × FieldShape)) (i : Nat) (row : Value) : RowError :=
  match row.fields? with
  | none => .notRecord origin i
  | some fields => .malformed origin i (issuesOf shape fields)

section
variable {α : Type} {origin : RowOrigin} {shape : List (String × FieldShape)} {Says : List (String × Value) → α → Prop}
  {read : List (String × Value) → Except (List Issue) α} {row r : Value} {rows : List Value} {as : List α} {n i : Nat}
  {e : RowError}

theorem firstMisfit_cons_of_misfit (h : ¬RowFits shape r) : FirstMisfit shape (r :: rows) i row ↔ i = 0 ∧ row = r := by
  constructor
  · rintro ⟨hrow, -, hbefore⟩
    cases i with
    | zero => exact ⟨rfl, (Option.some.inj hrow).symm⟩
    | succ i => exact absurd (hbefore 0 r (Nat.succ_pos i) rfl) h
  · rintro ⟨rfl, rfl⟩
    exact ⟨rfl, h, fun j _ hj => absurd hj (Nat.not_lt_zero j)⟩

theorem firstMisfit_cons_of_fits (h : RowFits shape r) :
    FirstMisfit shape (r :: rows) i row ↔ ∃ j, i = j + 1 ∧ FirstMisfit shape rows j row := by
  constructor
  · rintro ⟨hrow, hmisfit, hbefore⟩
    cases i with
    | zero =>
      cases hrow
      exact absurd h hmisfit
    | succ i => exact ⟨i, rfl, hrow, hmisfit, fun j s hj hs => hbefore (j + 1) s (Nat.succ_lt_succ hj) hs⟩
  · rintro ⟨i, rfl, hrow, hmisfit, hbefore⟩
    refine ⟨hrow, hmisfit, fun j s hj hs => ?_⟩
    cases j with
    | zero =>
      cases hs
      exact h
    | succ j => exact hbefore j s (Nat.lt_of_succ_lt_succ hj) hs

theorem readFrom_cons_of_misfit (hread : ReadsShape shape Says read) (h : ¬RowFits shape row) :
    readFrom origin read n (row :: rows) = .error (refusal origin shape n row) := by
  rw [readFrom, refusal]
  cases hfields : row.fields? with
  | none => rfl
  | some fields =>
    have hnot : ¬Fits shape fields := fun hfits => h ⟨fields, hfields, hfits⟩
    dsimp only
    rw [hread.error fields hnot]

/-- A row that fits comes to what it says, whatever the rows after it come to. -/
theorem readFrom_cons_of_fits (origin : RowOrigin) (n : Nat) (rows : List Value) (hread : ReadsShape shape Says read)
    (h : RowFits shape row) : ∃ a, RowSays shape Says row a ∧
      readFrom origin read n (row :: rows) = (readFrom origin read (n + 1) rows).map (a :: ·) := by
  obtain ⟨fields, hfields, hfits⟩ := h
  obtain ⟨a, hsays⟩ := hread.total fields hfits
  refine ⟨a, ⟨fields, hfields, hfits, hsays⟩, ?_⟩
  rw [readFrom, hfields]
  dsimp only
  rw [(hread.ok fields a).mpr ⟨hfits, hsays⟩]
  cases readFrom origin read (n + 1) rows <;> rfl

theorem rowSays_unique (hread : ReadsShape shape Says read) {a b : α} (ha : RowSays shape Says row a)
    (hb : RowSays shape Says row b) : a = b := by
  obtain ⟨fields, hfields, hfits, ha⟩ := ha
  obtain ⟨fields', hfields', -, hb⟩ := hb
  rw [hfields] at hfields'
  cases hfields'
  have hok := (hread.ok fields a).mpr ⟨hfits, ha⟩
  rw [(hread.ok fields b).mpr ⟨hfits, hb⟩] at hok
  exact (Except.ok.inj hok).symm

theorem rowFits_of_forall₂ (h : List.Forall₂ (RowSays shape Says) rows as) : ∀ row ∈ rows, RowFits shape row := by
  induction h with
  | nil => simp
  | cons hsays _ ih =>
    obtain ⟨fields, hfields, hfits, -⟩ := hsays
    exact List.forall_mem_cons.mpr ⟨⟨fields, hfields, hfits⟩, ih⟩

theorem readFrom_eq_ok_iff (hread : ReadsShape shape Says read) :
    readFrom origin read n rows = .ok as ↔ List.Forall₂ (RowSays shape Says) rows as := by
  induction rows generalizing n as with
  | nil =>
    rw [List.forall₂_nil_left_iff]
    exact ⟨fun h => (Except.ok.inj h).symm, fun h => h ▸ rfl⟩
  | cons row rows ih =>
    by_cases hfits : RowFits shape row
    · obtain ⟨a, hsays, hrest⟩ := readFrom_cons_of_fits origin n rows hread hfits
      rw [hrest]
      constructor
      · intro h
        obtain ⟨as, has, rfl⟩ := exists_of_map_eq_ok h
        exact .cons hsays (ih.mp has)
      · rintro (_ | ⟨hsays', has⟩)
        rw [ih.mpr has, rowSays_unique hread hsays hsays']
        rfl
    · rw [readFrom_cons_of_misfit hread hfits]
      constructor
      · rintro ⟨⟩
      · rintro (_ | ⟨⟨fields, hfields, hfits', -⟩, -⟩)
        exact absurd ⟨fields, hfields, hfits'⟩ hfits

theorem readFrom_eq_error_iff (hread : ReadsShape shape Says read) : readFrom origin read n rows = .error e ↔
    ∃ i row, FirstMisfit shape rows i row ∧ e = refusal origin shape (n + i) row := by
  induction rows generalizing n with
  | nil =>
    constructor
    · rintro ⟨⟩
    · rintro ⟨i, row, ⟨hrow, -, -⟩, -⟩
      cases hrow
  | cons r rows ih =>
    by_cases hfits : RowFits shape r
    · obtain ⟨a, -, hrest⟩ := readFrom_cons_of_fits origin n rows hread hfits
      have hmap : (readFrom origin read (n + 1) rows).map (a :: ·) = .error e ↔ readFrom origin read (n + 1) rows = .error e := by
        cases readFrom origin read (n + 1) rows <;> simp [Except.map]
      rw [hrest, hmap, ih]
      constructor
      · rintro ⟨i, row, hfirst, rfl⟩
        -- The rest is counted from `n + 1`, so what stands at `i` there stands at `i + 1` here.
        refine ⟨i + 1, row, (firstMisfit_cons_of_fits hfits).mpr ⟨i, rfl, hfirst⟩, ?_⟩
        rw [Nat.add_assoc, Nat.add_comm 1 i]
      · rintro ⟨i, row, hfirst, rfl⟩
        obtain ⟨j, rfl, hlater⟩ := (firstMisfit_cons_of_fits hfits).mp hfirst
        refine ⟨j, row, hlater, ?_⟩
        rw [Nat.add_assoc, Nat.add_comm 1 j]
    · rw [readFrom_cons_of_misfit hread hfits]
      constructor
      · rintro ⟨⟩
        exact ⟨0, r, (firstMisfit_cons_of_misfit hfits).mpr ⟨rfl, rfl⟩, rfl⟩
      · rintro ⟨i, row, hfirst, rfl⟩
        obtain ⟨rfl, rfl⟩ := (firstMisfit_cons_of_misfit hfits).mp hfirst
        rfl

/-- The wording of a refusal names the row. -/
theorem exists_message_refusal (origin : RowOrigin) (shape : List (String × FieldShape)) (i : Nat) (row : Value) :
    ∃ rest, (refusal origin shape i row).message = RowError.place origin i ++ rest := by
  unfold refusal
  split
  · exact ⟨_, rfl⟩
  · simp only [RowError.message, String.append_assoc]
    exact ⟨_, rfl⟩

end

/-! ### Whole lists -/

/-- How the list `rows` is read, where a row of the shape says `Says`: what it comes to, and why it is refused. -/
structure ReadsExactly {α : Type} (origin : RowOrigin) (shape : List (String × FieldShape))
    (Says : List (String × Value) → α → Prop) (rows : List Value) (result : Except RowError (List α)) : Prop where
  accepts : (∃ as, result = .ok as) ↔ ∀ row ∈ rows, RowFits shape row
  returns : ∀ as, result = .ok as ↔ List.Forall₂ (RowSays shape Says) rows as
  determined : ∀ row a b, RowSays shape Says row a → RowSays shape Says row b → a = b
  refuses : ∀ e, result = .error e ↔ ∃ i row, FirstMisfit shape rows i row ∧ e = refusal origin shape i row
  named : ∀ e, result = .error e → (Failure.rows e).title? = some "MalformedInputError" ∧
    ∃ i row rest, FirstMisfit shape rows i row ∧ e.message = RowError.place origin i ++ rest

theorem readsExactly_of_readsShape {α : Type} {origin : RowOrigin} {shape : List (String × FieldShape)}
    {Says : List (String × Value) → α → Prop} {read : List (String × Value) → Except (List Issue) α} {rows : List Value}
    (hread : ReadsShape shape Says read) : ReadsExactly origin shape Says rows (readFrom origin read 0 rows) := by
  have herror (e : RowError) : readFrom origin read 0 rows = .error e ↔
      ∃ i row, FirstMisfit shape rows i row ∧ e = refusal origin shape i row := by
    rw [readFrom_eq_error_iff hread]
    simp only [Nat.zero_add]
  constructor
  case accepts =>
    constructor
    · rintro ⟨as, has⟩
      exact rowFits_of_forall₂ ((readFrom_eq_ok_iff hread).mp has)
    · intro hfits
      cases hresult : readFrom origin read 0 rows with
      | ok as => exact ⟨as, rfl⟩
      | error e =>
        obtain ⟨i, row, hfirst, -⟩ := (herror e).mp hresult
        exact absurd (hfits row (List.mem_of_getElem? hfirst.found)) hfirst.misfit
  case returns => exact fun _ => readFrom_eq_ok_iff hread
  case determined => exact fun _ _ _ => rowSays_unique hread
  case refuses => exact herror
  case named =>
    intro e he
    obtain ⟨i, row, hfirst, rfl⟩ := (herror e).mp he
    obtain ⟨rest, hrest⟩ := exists_message_refusal origin shape i row
    exact ⟨rfl, i, row, rest, hfirst, hrest⟩

theorem readFrom_map {α β : Type} (origin : RowOrigin) (read : List (String × Value) → Except (List Issue) α) (g : α → β)
    (n : Nat) (rows : List Value) :
    readFrom origin (fun fields => (read fields).map g) n rows = (readFrom origin read n rows).map (List.map g) := by
  induction rows generalizing n with
  | nil => rfl
  | cons row rows ih =>
    rw [readFrom, readFrom]
    cases row.fields? with
    | none => rfl
    | some fields =>
      cases hrow : read fields with
      | error issues => simp [Except.map, hrow]
      | ok a =>
        dsimp only
        rw [hrow, ih]
        cases readFrom origin read (n + 1) rows <;> rfl

/-- The column that a row describes. -/
def DescribesColumn (fields : List (String × Value)) (c : Column) : Prop := ∃ r, Describes fields r ∧ r.column = c

theorem readsShape_described :
    ReadsShape describedShape DescribesColumn fun fields => (readDescribed fields).map DescribedRow.column := by
  constructor
  case ok =>
    intro fields c
    constructor
    · intro h
      obtain ⟨r, hr, rfl⟩ := exists_of_map_eq_ok h
      obtain ⟨hfits, hsays⟩ := readDescribed_eq_ok_iff.mp hr
      exact ⟨hfits, r, hsays, rfl⟩
    · rintro ⟨hfits, r, hsays, rfl⟩
      rw [readDescribed_eq_ok_iff.mpr ⟨hfits, hsays⟩]
      rfl
  case error =>
    intro fields h
    rw [readDescribed_of_not_fits h]
    rfl
  case total =>
    intro fields h
    obtain ⟨r, hr⟩ := exists_describes h
    exact ⟨r.column, r, hr, rfl⟩

theorem readsShape_usage : ReadsShape usageShape Uses readUsage where
  ok _ _ := readUsage_eq_ok_iff
  error _ := readUsage_of_not_fits
  total _ := exists_uses

theorem columns_eq_readFrom (rows : List Value) : columns (.list rows) =
    readFrom .describedTable (fun fields => (readDescribed fields).map DescribedRow.column) 0 rows := by
  rw [readFrom_map]
  rfl

/-- The rows of a table description and those of a key usage are read exactly if they fit. -/
theorem reads_exactly_fitting (rows : List Value) :
    ReadsExactly .describedTable describedShape DescribesColumn rows (columns (.list rows)) ∧
    ReadsExactly .describedKeys usageShape Uses rows (keyUsage (.list rows)) := by
  rw [columns_eq_readFrom]
  exact ⟨readsExactly_of_readsShape readsShape_described, readsExactly_of_readsShape readsShape_usage⟩

/-- A row after one that fits: a field is missing, one has a word that it may not have, and one goes by another name. -/
example : columns (.list [
    .described { name := "id", type := "int", nullable := false, key := some "PRI", initial := none, extra := none },
    .record [("name", .text "day"), ("Type", .bytes [0x64, 0x61, 0x74, 0x65]), ("Null", .bytes [0x4E, 0x4F]), ("Key", .null),
      ("Default", .int 0), ("Extra", .null)], .int 7])
    = .error (.malformed .describedTable 1 [⟨"Field", .missing⟩, ⟨"Null", .notYesNo⟩, ⟨"name", .unknown⟩]) := by
  rfl

end Rows
end SpannerSchema
