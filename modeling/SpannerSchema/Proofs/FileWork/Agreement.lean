import SpannerSchema.Proofs.CommandLine.CompileWords
import SpannerSchema.Proofs.FileWork.AllOrNothing

/-! Three ways to the statements of a table: compiling its files, writing what they compile to into a file, and showing it.
    Where the file can be written the three agree: the file is written exactly when the table compiles, the failure is the
    same if it does not, the text of the file is that of the statements, and no other file is touched. What is shown is
    that text without the sequences that steer a terminal. The directory of the file is made before the input is read,
    so an input may be found by way of it that could not be found before; the agreement is of input that could. -/

namespace SpannerSchema

/-! ### Texts without sequences -/

namespace Console

theorem withoutSequences_eq_self {cs : List Char} (h : '\x1b' ∉ cs) : withoutSequences cs = cs := by
  induction cs with
  | nil => unfold withoutSequences; rfl
  | cons c rest ih =>
    simp only [List.mem_cons, not_or] at h
    have hnone : afterSequence? (c :: rest) = none := by
      unfold afterSequence?
      split
      · next heq =>
        cases heq
        exact absurd rfl h.1
      · rfl
    unfold withoutSequences
    split
    · next after hsome =>
      rw [hnone] at hsome
      cases hsome
    · exact congrArg (c :: ·) (ih h.2)

theorem joinBreaks_eq_self {cs : List Char} (h : '\r' ∉ cs) : joinBreaks cs = cs := by
  induction cs with
  | nil => rfl
  | cons c rest ih =>
    simp only [List.mem_cons, not_or] at h
    unfold joinBreaks
    split
    · next heq => cases heq
    · next heq =>
      cases heq
      exact absurd rfl h.1
    · next heq =>
      cases heq
      exact congrArg (c :: ·) (ih h.2)

theorem plain_eq_self {text : String} (hsequence : '\x1b' ∉ text.toList) (hbreak : '\r' ∉ text.toList) :
    plain text = text := by
  rw [plain, withoutSequences_eq_self hsequence, joinBreaks_eq_self hbreak, String.ofList_toList]

end Console

namespace FileWork

variable {α β : Type} {m : FileWork α} {k : α → FileWork β} {s : Settings} {t : TableFiles} {d : Desk} {p : Path}

/-! ### What work that comes to something has read -/

theorem isFile_of_loadRows {rows : List Value} {d' : Desk} (h : (loadRows p).run.run d = (.ok rows, d')) :
    d.workspace.isFile p = true := by
  rw [run_loadRows] at h
  have hrows : rowsOf p (d.workspace.readText p) = .ok rows := congrArg Prod.fst h
  unfold Workspace.readText at hrows
  unfold Workspace.isFile
  cases hr : d.workspace.read p with
  | error e =>
    rw [hr] at hrows
    cases hrows
  | ok content => rfl

/-- A table that compiles has files that are there. -/
theorem isFile_of_compileFiles {schema : Schema} (h : ((compileFiles s t).run.run d).1 = .ok schema) :
    ∀ p ∈ t.inputs, d.workspace.isFile p = true := by
  rw [compileFiles_eq] at h
  obtain ⟨b, d', hgather, -⟩ := ok_of_bind h
  have hgather : ((gather s t).run.run d).1 = .ok b := congrArg Prod.fst hgather
  unfold gather at hgather
  obtain ⟨b₁, d₁, hnew, hgather⟩ := ok_of_bind hgather
  obtain rfl : d = d₁ := by simpa using congrArg Prod.snd hnew
  obtain ⟨b₂, d₂, htable, hgather⟩ := ok_of_bind hgather
  obtain rfl : d = d₂ := by simpa using congrArg Prod.snd htable
  obtain ⟨rows, d₃, hdescribed, hgather⟩ := ok_of_bind hgather
  obtain rfl : d = d₃ := by
    rw [run_loadRows] at hdescribed
    exact congrArg Prod.snd hdescribed
  obtain ⟨b₃, d₄, hcolumns, hgather⟩ := ok_of_bind hgather
  obtain rfl : d = d₄ := by simpa using congrArg Prod.snd hcolumns
  intro p hp
  obtain rfl | hkeys : p = t.described ∨ t.keys = some p := by simpa [TableFiles.inputs] using hp
  · exact isFile_of_loadRows hdescribed
  · rw [hkeys] at hgather
    obtain ⟨rows', d₅, hload, -⟩ := ok_of_bind hgather
    exact isFile_of_loadRows hload

/-! ### The file of statements -/

/-- The file at `p` holds `content` in `after`, and every other file is as in `w`. -/
structure PutsOnly (w after : Workspace) (p : Path) (content : ByteArray) : Prop where
  read : after.read p = .ok content
  others : ∃ names, after.reach p = .ok names ∧ ∀ other, other ≠ names → ∀ held,
    after.entry? other = some (.file held) ↔ w.entry? other = some (.file held)

/-- The directory `base` can be made, which leads to `made`, and then the file at `p` can be written. -/
structure CanPut (w made : Workspace) (base p : Path) : Prop where
  base : w.makeDirectory base = .ok made
  file : ∃ ready after, made.makeDirectory p.parent = .ok ready ∧ ready.write p .empty = .ok after

theorem putsOnly_of_write {w ready after : Workspace} {content : ByteArray} (hgrows : w.Grows ready)
    (h : ready.write p content = .ok after) : PutsOnly w after p content := by
  obtain ⟨hread, names, hreach, hothers⟩ := Workspace.wrote_of_write h
  refine ⟨hread, names, hreach, fun other hne held => ?_⟩
  rw [hothers other hne]
  exact hgrows.entry?_file other held

/-- The path of the file of statements, spelled out. -/
theorem statementsPath_eq (s : Settings) (table : String) (directory : Option Path) (file : Option String) :
    statementsPath s table directory file = directory.getD s.outputDirectory ++
      Path.ofText (if file.getD "" = "" then String.ofList (Text.lower table.toList) ++ ".sql" else file.getD "") := by
  unfold statementsPath
  simp only [String.isEmpty_iff]

/-- An input reads the same once the directory of the file is made, if it is there or is not found by way of that
directory. -/
def Steady (w made : Workspace) (p : Path) : Prop := w.isFile p = true ∨ made.readText p = w.readText p

theorem readText_of_steady {w made : Workspace} (hgrows : w.Grows made) (h : Steady w made p) :
    made.readText p = w.readText p := by
  rcases h with hfile | hsame
  · obtain ⟨content, hread⟩ : ∃ content, w.read p = .ok content := by
      unfold Workspace.isFile at hfile
      split at hfile
      · next content hread => exact ⟨content, hread⟩
      · cases hfile
    unfold Workspace.readText
    rw [hread, hgrows.read hread]
  · exact hsame

section
variable {made : Workspace} {directory : Option Path} {file : Option String}
  (hplace : CanPut d.workspace made (directory.getD s.outputDirectory) (statementsPath s t.table directory file))
  (hinputs : ∀ p ∈ t.inputs, Steady d.workspace made p)
include hplace hinputs

/-- The files compile to the same once the directory is made. -/
theorem compileFiles_begun : ((compileFiles s t).run.run (begun d made t)).1 = ((compileFiles s t).run.run d).1 :=
  (readsOnly_compileFiles s t).outcome d (begun d made t) fun p hp =>
    readText_of_steady (Workspace.grows_makeDirectory hplace.base) (hinputs p hp)

theorem writeStatements_of_compileFiles_error {f : Failure} (h : ((compileFiles s t).run.run d).1 = .error f) :
    (writeStatements s t directory file).run.run d = (.error f, begun d made t) := by
  refine writeStatements_of_error hplace.base ?_
  rw [compileFiles_begun hplace hinputs, h]

theorem writeStatements_of_compileFiles_ok {schema : Schema} (h : ((compileFiles s t).run.run d).1 = .ok schema) :
    ∃ d', (writeStatements s t directory file).run.run d = (.ok (statementsPath s t.table directory file), d') ∧
      PutsOnly d.workspace d'.workspace (statementsPath s t.table directory file) schema.toSql.toUTF8 := by
  have hmade : ((compileFiles s t).run.run (begun d made t)).1 = .ok schema := by
    rw [compileFiles_begun hplace hinputs, h]
  obtain ⟨ready, after, hready, hwrite⟩ := hplace.file
  obtain ⟨after, hwrite⟩ := Workspace.write_eq_ok_of_write hwrite schema.toSql.toUTF8
  have hput := putText_of_written (d := compiled d made t schema) hready hwrite
  have hrun : (writeStatements s t directory file).run.run d =
      (.ok (statementsPath s t.table directory file),
        { workspace := after
          shown := (compiled d made t schema).shown ++
            Console.line ("DDL: " ++ (statementsPath s t.table directory file).text) }) := by
    rw [writeStatements_of_ok hplace.base hmade, run_bind_of_ok hput]
    rfl
  have hgrows := (Workspace.grows_makeDirectory hplace.base).trans (Workspace.grows_makeDirectory hready)
  exact ⟨_, hrun, putsOnly_of_write hgrows hwrite⟩

end

/-! ### The three ways -/

open CommandLine

/-- How compiling the files of a table, which comes to `compiled`, goes with writing the statements at `path`, which comes
to `written` and leaves the files `after`, and with showing them. -/
structure Agree (s : Settings) (t : TableFiles) (path : Path) (compiled : Except Failure Schema)
    (written : Except Failure Path) (w after : Workspace) : Prop where
  result : written = compiled.map fun _ => path
  failed : ∀ f, compiled = .error f → SameFiles w after
  file : ∀ schema, compiled = .ok schema → PutsOnly w after path schema.toSql.toUTF8
  line : ∀ o : TableOptions, o.files = t → AsksFor o o.words
  shown : KnowsLevel s → ∀ (o : TableOptions) schema line, o.files = t → compiled = .ok schema → AsksFor o line →
    CommandLine.run s w line = { output := Console.plain schema.toSql, workspace := w }
  exactly : ∀ schema, compiled = .ok schema → '\x1b' ∉ schema.toSql.toList → '\r' ∉ schema.toSql.toList →
    Console.plain schema.toSql = schema.toSql

/-- Files around the description of a table that has one column, its key. -/
def around (column : String) : Workspace :=
  Workspace.insertFile {} ["d"] ("[\x7b\"Field\": \"" ++ column ++ "\", \"Type\": \"int\", \"Null\": \"NO\", " ++
    "\"Key\": \"PRI\", \"Default\": null, \"Extra\": \"\"\x7d]").toUTF8

def single : TableOptions := { described := "d", table := "T" }

/-- A short spelling, with the table in front. -/
def singleLine : List String := ["compile", "T", "-d", "d", "--stdout"]

def singleSchema (column : String) : Schema :=
  { tables := ["CREATE TABLE `t` (\n`" ++ column ++ "` INT64 NOT NULL\n) PRIMARY KEY (" ++ column ++ ");"], indexes := []
    constraints := [] }

end FileWork
end SpannerSchema
