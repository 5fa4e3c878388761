import SpannerSchema.Proofs.Ddl.TableText

/-! Reading the text of a table back. A size is written as it was described, with spaces, quotes and parentheses, so
    that a line cannot be read from the left alone. The line breaks are found first: no name and no type has one. Within
    a line the name ends with its second quote, and what follows it is the text of a type, which is read from its
    end. -/

namespace SpannerSchema
namespace Ddl

/-! ### Marks -/

theorem split_of_not_mem {m : Char} {a b s t : List Char} (ha : m ∉ a) (hb : m ∉ b)
    (h : a ++ m :: s = b ++ m :: t) : a = b ∧ s = t := by
  have hsplit := congrArg (List.splitOn m) h
  rw [List.splitOn_append_cons_self_of_not_mem ha, List.splitOn_append_cons_self_of_not_mem hb] at hsplit
  obtain ⟨hab, hrest⟩ := List.cons.inj hsplit
  refine ⟨hab, ?_⟩
  calc
    s = [m].intercalate (s.splitOn m) := (List.intercalate_splitOn m).symm
    _ = [m].intercalate (t.splitOn m) := by rw [hrest]
    _ = t := List.intercalate_splitOn m

/-- A line that is not the last one ends with a comma. -/
theorem intercalate_append (l rest : List Char) {ls : List (List Char)} (hls : ls ≠ []) :
    [',', '\n'].intercalate (l :: ls) ++ '\n' :: rest
      = (l ++ [',']) ++ '\n' :: ([',', '\n'].intercalate ls ++ '\n' :: rest) := by
  obtain ⟨l', ls, rfl⟩ := List.exists_cons_of_ne_nil hls
  simp [List.intercalate_cons_cons]

/-- Lines without a line break, with a comma and a line break between two, are read back from the text that they make
with a last line. -/
theorem lines_inj {a b : List (List Char)} {s t : List Char} (hane : a ≠ []) (hbne : b ≠ [])
    (ha : ∀ l ∈ a, '\n' ∉ l) (hb : ∀ l ∈ b, '\n' ∉ l) (hs : '\n' ∉ s) (ht : '\n' ∉ t)
    (h : [',', '\n'].intercalate a ++ '\n' :: s = [',', '\n'].intercalate b ++ '\n' :: t) : a = b ∧ s = t := by
  have hcomma {l : List Char} (hl : '\n' ∉ l) : '\n' ∉ l ++ [','] := by simpa using hl
  induction a generalizing b with
  | nil => exact absurd rfl hane
  | cons x a ih =>
    obtain ⟨y, b, rfl⟩ := List.exists_cons_of_ne_nil hbne
    have hx := ha x List.mem_cons_self
    have hy := hb y List.mem_cons_self
    by_cases hanil : a = []
    · by_cases hbnil : b = []
      · subst hanil hbnil
        rw [List.intercalate_singleton, List.intercalate_singleton] at h
        obtain ⟨rfl, rfl⟩ := split_of_not_mem hx hy h
        exact ⟨rfl, rfl⟩
      -- The line break after a comma would have to be one of the last line.
      · subst hanil
        rw [List.intercalate_singleton, intercalate_append y t hbnil] at h
        obtain ⟨-, rfl⟩ := split_of_not_mem hx (hcomma hy) h
        exact absurd (by simp) hs
    · by_cases hbnil : b = []
      · subst hbnil
        rw [List.intercalate_singleton, intercalate_append x s hanil] at h
        obtain ⟨-, rfl⟩ := split_of_not_mem (hcomma hx) hy h
        exact absurd (by simp) ht
      · rw [intercalate_append x s hanil, intercalate_append y t hbnil] at h
        obtain ⟨hxy, hrest⟩ := split_of_not_mem (hcomma hx) (hcomma hy) h
        obtain ⟨rfl, rfl⟩ := ih hanil hbnil (fun l hl => ha l (List.mem_cons_of_mem x hl))
          (fun l hl => hb l (List.mem_cons_of_mem y hl)) hrest
        rw [List.append_cancel_right hxy]
        exact ⟨rfl, rfl⟩

/-! ### Columns -/

/-- What a declaration shows of a column: name, type, nullability and option. -/
def shown (d : CompiledColumn) : String × String × Bool × Option String := (d.name, d.fragment, d.nullable, d.options)

/-- A column that is read back from its declaration. -/
structure Legible (d : CompiledColumn) : Prop where
  quoted : '`' ∉ d.name.toList
  oneLine : '\n' ∉ (declaration d).toList
  written : ∃ size, TargetType.Written size ⟨d.fragment, d.options⟩

variable {d₁ d₂ : CompiledColumn}

theorem declaration_inj (h₁ : Legible d₁) (h₂ : Legible d₂) (h : declaration d₁ = declaration d₂) :
    shown d₁ = shown d₂ := by
  have hl := congrArg String.toList h
  simp only [declaration_eq, quote, String.toList_append, List.append_assoc] at hl
  obtain ⟨hname, hrest⟩ := split_of_not_mem h₁.quoted h₂.quoted (List.append_cancel_left hl)
  have htext := String.toList_inj.mp (List.append_cancel_left hrest)
  obtain ⟨_, hw₁⟩ := h₁.written
  obtain ⟨_, hw₂⟩ := h₂.written
  obtain ⟨htype, hnullable⟩ := TargetType.text_inj hw₁ hw₂ htext
  obtain ⟨hfragment, hoptions⟩ := TargetType.mk.inj htype
  rw [shown, shown, String.toList_inj.mp hname, hfragment, hnullable, hoptions]

theorem shown_of_declarations {ds₁ ds₂ : List CompiledColumn} (h₁ : ∀ d ∈ ds₁, Legible d) (h₂ : ∀ d ∈ ds₂, Legible d)
    (h : ds₁.map declaration = ds₂.map declaration) : ds₁.map shown = ds₂.map shown := by
  induction ds₁ generalizing ds₂ with
  | nil => rw [List.map_eq_nil_iff.mp h.symm]
  | cons d₁ ds₁ ih =>
    cases ds₂ with
    | nil => cases h
    | cons d₂ ds₂ =>
      obtain ⟨hd, hds⟩ := List.cons.inj h
      rw [List.map_cons, List.map_cons, declaration_inj (h₁ _ List.mem_cons_self) (h₂ _ List.mem_cons_self) hd,
        ih (fun d hm => h₁ d (List.mem_cons_of_mem _ hm)) (fun d hm => h₂ d (List.mem_cons_of_mem _ hm)) hds]

/-! ### Requests -/

/-- A name without the marks of the text. -/
structure Plain (name : String) : Prop where
  quote : '`' ∉ name.toList
  comma : ',' ∉ name.toList
  newline : '\n' ∉ name.toList

instance (name : String) : Decidable (Plain name) :=
  decidable_of_iff ('`' ∉ name.toList ∧ ',' ∉ name.toList ∧ '\n' ∉ name.toList)
    ⟨fun ⟨hq, hc, hn⟩ => ⟨hq, hc, hn⟩, fun ⟨hq, hc, hn⟩ => ⟨hq, hc, hn⟩⟩

/-- A request whose names are plain and whose types stay on one line. -/
structure Readable (r : CompileRequest) : Prop where
  idName : Plain r.idName
  names : ∀ c ∈ r.columns, Plain c.name
  types : ∀ c ∈ r.columns, '\n' ∉ c.type.toList

variable {mode : IndexMode} {r : CompileRequest} {p : TableParts}

/-- What the described columns have, and the new column of the usual name, all columns of the table have. -/
theorem forall_mem_allColumns {P : Column → Prop} (hnew : P (Column.synthesized r.idName)) (h : ∀ c ∈ r.columns, P c) :
    ∀ c ∈ r.allColumns, P c := by
  intro c hc
  rw [allColumns_eq] at hc
  split at hc
  · exact h c hc
  · rcases List.mem_cons.mp hc with rfl | hc
    · exact hnew
    · exact h c hc

theorem newline_not_mem_synthesized (name : String) : '\n' ∉ (Column.synthesized name).type.toList := by
  simp [Column.synthesized]

theorem Readable.allColumns (hr : Readable r) : ∀ c ∈ r.allColumns, Plain c.name ∧ '\n' ∉ c.type.toList :=
  forall_mem_allColumns ⟨hr.idName, newline_not_mem_synthesized r.idName⟩ fun c hc => ⟨hr.names c hc, hr.types c hc⟩

theorem newline_not_mem_declaration {c : Column} {d : CompiledColumn} (h : Declares c d) (hname : '\n' ∉ c.name.toList)
    (htype : '\n' ∉ c.type.toList) : '\n' ∉ (declaration d).toList := by
  have hw := TargetType.written_of_toTarget h.target
  have htext := TargetType.newline_not_mem_text hw (fun s hs hmem => htype (SourceType.mem_of_size? hs hmem)) d.nullable
  have hquoted : '\n' ∉ d.name.toList := h.name ▸ hname
  simp [declaration_eq, quote, htext, hquoted]

theorem legible_of_declares {c : Column} {d : CompiledColumn} (h : Declares c d) (hname : Plain c.name)
    (htype : '\n' ∉ c.type.toList) : Legible d :=
  ⟨h.name ▸ hname.quote, newline_not_mem_declaration h hname.newline htype, _, TargetType.written_of_toTarget h.target⟩

theorem Readable.legible (hr : Readable r) (h : r.parts mode = .ok p) : ∀ d ∈ p.columns, Legible d := by
  intro d hd
  obtain ⟨c, hc, hdeclares⟩ := exists_of_declares (CompileRequest.declares_parts h) hd
  obtain ⟨hname, htype⟩ := hr.allColumns c hc
  exact legible_of_declares hdeclares hname htype

/-! ### Keys -/

/-- What follows the columns of a table. -/
def keyClause (terminated : Bool) (keys : List String) : String :=
  ") PRIMARY KEY (" ++ ",".intercalate keys ++ ")" ++ terminator terminated

variable {terminated : Bool} {keys keys₁ keys₂ : List String}

theorem toList_keyClause : (keyClause terminated keys).toList = ") PRIMARY KEY (".toList
    ++ [','].intercalate (keys.map String.toList) ++ ")".toList ++ (terminator terminated).toList := by
  unfold keyClause
  rw [String.toList_append, String.toList_append, String.toList_append, String.toList_intercalate]
  rfl

theorem newline_not_mem_intercalate {sep : String} (hsep : '\n' ∉ sep.toList) (h : ∀ k ∈ keys, '\n' ∉ k.toList) :
    '\n' ∉ (sep.intercalate keys).toList := by
  induction keys with
  | nil => simp
  | cons k ks ih =>
    have hk := h k List.mem_cons_self
    have hks := ih fun k' hm => h k' (List.mem_cons_of_mem k hm)
    cases ks with
    | nil => simpa using hk
    | cons k' ks =>
      rw [String.intercalate_cons_cons, String.toList_append, String.toList_append]
      simp only [List.mem_append, not_or]
      exact ⟨⟨hk, hsep⟩, hks⟩

theorem newline_not_mem_terminator (terminated : Bool) : '\n' ∉ (terminator terminated).toList := by
  cases terminated <;> simp [terminator]

theorem newline_not_mem_keyClause (h : ∀ k ∈ keys, '\n' ∉ k.toList) :
    '\n' ∉ (keyClause terminated keys).toList := by
  have hkeys : '\n' ∉ (",".intercalate keys).toList := newline_not_mem_intercalate (by simp) h
  unfold keyClause
  simpa [newline_not_mem_terminator terminated] using hkeys

theorem keys_inj (hne₁ : keys₁ ≠ []) (hne₂ : keys₂ ≠ []) (h₁ : ∀ k ∈ keys₁, Plain k) (h₂ : ∀ k ∈ keys₂, Plain k)
    (h : keyClause terminated keys₁ = keyClause terminated keys₂) : keys₁ = keys₂ := by
  have hread {keys : List String} (hne : keys ≠ []) (hp : ∀ k ∈ keys, Plain k) :
      ([','].intercalate (keys.map String.toList)).splitOn ',' = keys.map String.toList := by
    refine List.splitOn_intercalate ',' (fun l hl => ?_) (by simpa using hne)
    obtain ⟨k, hk, rfl⟩ := List.mem_map.mp hl
    exact (hp k hk).comma
  have hl := congrArg String.toList h
  rw [toList_keyClause, toList_keyClause] at hl
  have hsame := List.append_cancel_left (List.append_cancel_right (List.append_cancel_right hl))
  have hmap := congrArg (List.splitOn ',') hsame
  rw [hread hne₁ h₁, hread hne₂ h₂] at hmap
  exact List.map_injective_iff.mpr (fun _ _ => String.toList_inj.mp) hmap

theorem Readable.plain_keys (hr : Readable r) (h : r.parts mode = .ok p) : ∀ k ∈ p.keys.primaryKeys, Plain k := by
  intro k hk
  obtain ⟨c, hc, rfl⟩ := List.mem_map.mp (keys_subset_of_parts h k hk)
  exact (hr.allColumns c hc).1

/-! ### Tables -/

theorem table_text (h : r.parts mode = .ok p) (terminated : Bool) (table : String) (keys : List String) :
    (createTable terminated table p.columns keys).toList = ("CREATE TABLE " ++ quote table ++ " (\n").toList
      ++ ([',', '\n'].intercalate (p.columns.map fun d => (declaration d).toList)
        ++ '\n' :: (keyClause terminated keys).toList) := by
  have hbreak : "\n) PRIMARY KEY (" = "\n" ++ ") PRIMARY KEY (" := by decide +kernel
  rw [createTable_of_parts h, hbreak, toList_keyClause]
  simp only [String.toList_append, String.toList_intercalate, List.append_assoc, List.map_map, Function.comp_def]
  rfl

/-- The statement that creates a table tells its columns and its keys. -/
theorem parts_of_createTable {mode₁ mode₂ : IndexMode} {r₁ r₂ : CompileRequest} {p₁ p₂ : TableParts} {table : String}
    (hr₁ : Readable r₁) (hr₂ : Readable r₂) (hp₁ : r₁.parts mode₁ = .ok p₁) (hp₂ : r₂.parts mode₂ = .ok p₂)
    (h : createTable terminated table p₁.columns p₁.keys.primaryKeys
      = createTable terminated table p₂.columns p₂.keys.primaryKeys) :
    p₁.columns.map shown = p₂.columns.map shown ∧ p₁.keys.primaryKeys = p₂.keys.primaryKeys := by
  have hl := congrArg String.toList h
  rw [table_text hp₁, table_text hp₂] at hl
  have hlegible₁ := hr₁.legible hp₁
  have hlegible₂ := hr₂.legible hp₂
  have hkeys₁ := hr₁.plain_keys hp₁
  have hkeys₂ := hr₂.plain_keys hp₂
  have hlines {ds : List CompiledColumn} (hds : ∀ d ∈ ds, Legible d) :
      ∀ l ∈ ds.map fun d => (declaration d).toList, '\n' ∉ l := by
    intro l hl
    obtain ⟨d, hd, rfl⟩ := List.mem_map.mp hl
    exact (hds d hd).oneLine
  obtain ⟨hbody, hclause⟩ := lines_inj (by simpa using columns_ne_nil_of_parts hp₁)
    (by simpa using columns_ne_nil_of_parts hp₂) (hlines hlegible₁) (hlines hlegible₂)
    (newline_not_mem_keyClause fun k hk => (hkeys₁ k hk).newline)
    (newline_not_mem_keyClause fun k hk => (hkeys₂ k hk).newline) (List.append_cancel_left hl)
  constructor
  · refine shown_of_declarations hlegible₁ hlegible₂ (List.map_injective_iff.mpr (fun _ _ => String.toList_inj.mp) ?_)
    rw [List.map_map, List.map_map]
    exact hbody
  · exact keys_inj (keys_ne_nil_of_parts hp₁) (keys_ne_nil_of_parts hp₂) hkeys₁ hkeys₂ (String.toList_inj.mp hclause)

/-- Two accepted tables of one name whose texts are equal have the same columns and the same keys. -/
theorem compile_decodes {c₁ c₂ : Compiler} {r₁ r₂ : CompileRequest} {s₁ s₂ : Schema} (hr₁ : Readable r₁)
    (hr₂ : Readable r₂) (h₁ : (c₁.compile r₁).2 = .ok s₁) (h₂ : (c₂.compile r₂).2 = .ok s₂)
    (htable : r₁.table = r₂.table) (hterminated : r₁.terminated = r₂.terminated) (h : s₁.tables = s₂.tables) :
    ∃ p₁ p₂, r₁.parts c₁.mode = .ok p₁ ∧ s₁ = assemble r₁.terminated r₁.table p₁.columns p₁.keys ∧
      r₂.parts c₂.mode = .ok p₂ ∧ s₂ = assemble r₂.terminated r₂.table p₂.columns p₂.keys ∧
      p₁.columns.map shown = p₂.columns.map shown ∧ p₁.keys.primaryKeys = p₂.keys.primaryKeys := by
  rw [Compiler.compile_snd] at h₁ h₂
  obtain ⟨p₁, hp₁, rfl⟩ := CompileRequest.parts_of_compileTable h₁
  obtain ⟨p₂, hp₂, rfl⟩ := CompileRequest.parts_of_compileTable h₂
  refine ⟨p₁, p₂, hp₁, rfl, hp₂, rfl, ?_⟩
  have htext := List.head_eq_of_cons_eq h
  rw [← htable, ← hterminated] at htext
  exact parts_of_createTable hr₁ hr₂ hp₁ hp₂ htext

/-- A table that is described twice, with other words for its types, and with an index in one description only. -/
def shelf : CompileRequest where
  table := "shelf"
  columns := [{ name := "id", type := "int(11)", nullable := false, key := some "PRI" },
              { name := "title", type := "varchar()", key := some "MUL" },
              { name := "added", type := "timestamp", initial := some "CURRENT_TIMESTAMP" }]

/-- The other description of the table. -/
def shelfReworded : CompileRequest where
  table := "shelf"
  columns := [{ name := "id", type := "BIGINT", nullable := false, key := some "PRI" },
              { name := "title", type := "varchar(255)" },
              { name := "added", type := "TIMESTAMP(3)", initial := some "CURRENT_TIMESTAMP" }]
  idName := "number"

theorem compile_decodes_reworded :
    ∃ s₁ s₂ p₁ p₂, (({} : Compiler).compile shelf).2 = .ok s₁ ∧
      (({ mode := .secondary } : Compiler).compile shelfReworded).2 = .ok s₂ ∧ s₁.tables = s₂.tables ∧
      shelf.parts .unique = .ok p₁ ∧ shelfReworded.parts .secondary = .ok p₂ ∧
      p₁.columns.map shown = p₂.columns.map shown ∧ p₁.keys.primaryKeys = p₂.keys.primaryKeys := by
  have h₁ : (({} : Compiler).compile shelf).2 = .ok
      { tables := ["CREATE TABLE `shelf` (\n`id` INT64 NOT NULL,\n`title` STRING(255),\n" ++
          "`added` TIMESTAMP OPTIONS (allow_commit_timestamp=true)\n) PRIMARY KEY (id);"]
        indexes := ["CREATE INDEX `ShelfByTitle` ON `shelf` (`title`);"] } := eq_ok_of_toOption (by decide +kernel)
  have h₂ : (({ mode := .secondary } : Compiler).compile shelfReworded).2 = .ok
      { tables := ["CREATE TABLE `shelf` (\n`id` INT64 NOT NULL,\n`title` STRING(255),\n" ++
          "`added` TIMESTAMP OPTIONS (allow_commit_timestamp=true)\n) PRIMARY KEY (id);"] } :=
    eq_ok_of_toOption (by decide +kernel)
  have hread₁ : Readable shelf := ⟨by decide +kernel, by decide +kernel, by decide +kernel⟩
  have hread₂ : Readable shelfReworded := ⟨by decide +kernel, by decide +kernel, by decide +kernel⟩
  obtain ⟨p₁, p₂, hp₁, -, hp₂, -, hcolumns, hkeys⟩ := compile_decodes hread₁ hread₂ h₁ h₂ rfl rfl rfl
  exact ⟨_, _, p₁, p₂, h₁, h₂, rfl, hp₁, hp₂, hcolumns, hkeys⟩

end Ddl
end SpannerSchema
