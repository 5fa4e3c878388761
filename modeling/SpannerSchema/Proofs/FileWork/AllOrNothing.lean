import Mathlib.Control.Monad.Basic
import SpannerSchema.Proofs.FileWork.Runs

/-! No partial output. All that compiling and converting do before the last step is to read files and to make directories,
    and the last step puts the whole text into its file or fails before it writes. So work that fails, wherever it fails,
    leaves every file as it was, also the file that it would have replaced. -/

namespace SpannerSchema
namespace FileWork

variable {α : Type} {s : Settings} {t : TableFiles} {directory : Option Path} {file : Option String}
  {described rows p : Path} {out : Option Path} {text : String} {d d' : Desk} {f : Failure}

/-! ### The last step -/

/-- Puts a text into the file at a path, and makes the directory of the file before. -/
def putText (p : Path) (text : String) : FileWork Unit := do
  change (·.makeDirectory p.parent)
  change (·.writeText p text)

theorem putText_of_written {ready after : Workspace} (hready : d.workspace.makeDirectory p.parent = .ok ready)
    (hafter : ready.writeText p text = .ok after) :
    (putText p text).run.run d = (.ok (), { d with workspace := after }) := by
  rw [putText, run_bind_of_ok (run_change_of_ok hready)]
  exact run_change_of_ok hafter

theorem grows_putText (h : (putText p text).run.run d = (.error f, d')) : d.workspace.Grows d'.workspace := by
  cases hready : d.workspace.makeDirectory p.parent with
  | error e =>
    rw [putText, run_bind_of_error (run_change_of_error hready)] at h
    cases h
    exact .refl _
  | ok ready =>
    have hgrows := Workspace.grows_makeDirectory hready
    cases hafter : ready.writeText p text with
    | error e =>
      rw [putText, run_bind_of_ok (run_change_of_ok hready), run_change_of_error hafter] at h
      cases h
      exact hgrows
    | ok after =>
      rw [putText_of_written hready hafter] at h
      cases h

/-! ### The work as a whole -/

theorem writeStatements_eq (s : Settings) (t : TableFiles) (directory : Option Path) (file : Option String) :
    writeStatements s t directory file = (do
      change (·.makeDirectory (directory.getD s.outputDirectory))
      report ("Table: " ++ t.table)
      let schema ← compileFiles s t
      report (summary schema)
      putText (statementsPath s t.table directory file) schema.toSql
      report ("DDL: " ++ (statementsPath s t.table directory file).text)
      pure (statementsPath s t.table directory file)) := by
  simp only [writeStatements, putText, bind_assoc]

/-- The desk at which a table is compiled into a file of statements, once the directory is made. -/
def begun (d : Desk) (made : Workspace) (t : TableFiles) : Desk :=
  { workspace := made, shown := d.shown ++ Console.line ("Table: " ++ t.table) }

/-- The desk at which the statements of a table are put into their file. -/
def compiled (d : Desk) (made : Workspace) (t : TableFiles) (schema : Schema) : Desk :=
  { workspace := made, shown := (begun d made t).shown ++ Console.line (summary schema) }

section
variable {made : Workspace} (hmade : d.workspace.makeDirectory (directory.getD s.outputDirectory) = .ok made)
include hmade

/-- A table is compiled from the files that are there once the directory is made. -/
theorem writeStatements_of_error (hc : ((compileFiles s t).run.run (begun d made t)).1 = .error f) :
    (writeStatements s t directory file).run.run d = (.error f, begun d made t) := by
  have hcompile := (readsOnly_compileFiles s t).run_eq (begun d made t)
  rw [hc] at hcompile
  rw [writeStatements_eq, run_bind_of_ok (run_change_of_ok hmade), run_bind_of_ok (run_report _ _)]
  exact run_bind_of_error hcompile

theorem writeStatements_of_ok {schema : Schema} (hc : ((compileFiles s t).run.run (begun d made t)).1 = .ok schema) :
    (writeStatements s t directory file).run.run d = (do
      putText (statementsPath s t.table directory file) schema.toSql
      report ("DDL: " ++ (statementsPath s t.table directory file).text)
      pure (statementsPath s t.table directory file) : FileWork Path).run.run (compiled d made t schema) := by
  have hcompile := (readsOnly_compileFiles s t).run_eq (begun d made t)
  rw [hc] at hcompile
  rw [writeStatements_eq, run_bind_of_ok (run_change_of_ok hmade), run_bind_of_ok (run_report _ _)]
  exact (run_bind_of_ok hcompile).trans (run_bind_of_ok (run_report _ _))

end

theorem writeConverted_eq (described rows p : Path) : writeConverted described rows (some p) = (do
    let converted ← convertFile described rows
    putText p (Json.render (.list converted))
    report ("Rows: " ++ Nat.repr converted.length ++ " → " ++ p.text)
    pure converted) := by
  simp only [writeConverted, putText, bind_assoc]

theorem readsOnly_writeConverted (described rows : Path) : ReadsOnly [described, rows] (writeConverted described rows none) :=
  .bind (readsOnly_convertFile described rows) fun converted => .pure converted

/-! ### Work that fails -/

/-- What follows the last step does not fail. -/
theorem grows_of_error_putText {a : α} {line : String}
    (h : (do putText p text; report line; pure a : FileWork α).run.run d = (.error f, d')) :
    d.workspace.Grows d'.workspace := by
  rcases hput : (putText p text).run.run d with ⟨f' | _, d₁⟩
  · rw [run_bind_of_error hput] at h
    cases h
    exact grows_putText hput
  · rw [run_bind_of_ok hput, run_bind_of_ok (run_report _ _), run_pure] at h
    cases h

theorem grows_writeStatements (h : (writeStatements s t directory file).run.run d = (.error f, d')) :
    d.workspace.Grows d'.workspace := by
  cases hmade : d.workspace.makeDirectory (directory.getD s.outputDirectory) with
  | error e =>
    rw [writeStatements_eq, run_bind_of_error (run_change_of_error hmade)] at h
    cases h
    exact .refl _
  | ok made =>
    have hgrows := Workspace.grows_makeDirectory hmade
    cases hc : ((compileFiles s t).run.run (begun d made t)).1 with
    | error f' =>
      rw [writeStatements_of_error hmade hc] at h
      cases h
      exact hgrows
    | ok schema =>
      rw [writeStatements_of_ok hmade hc] at h
      exact hgrows.trans (grows_of_error_putText h)

theorem grows_writeConverted (h : (writeConverted described rows out).run.run d = (.error f, d')) :
    d.workspace.Grows d'.workspace := by
  cases out with
  | none =>
    have hdesk := (readsOnly_writeConverted described rows).desk d
    rw [h] at hdesk
    exact hdesk ▸ .refl _
  | some p =>
    have hconvert := (readsOnly_convertFile described rows).run_eq d
    rw [writeConverted_eq] at h
    cases hc : ((convertFile described rows).run.run d).1 with
    | error f' =>
      rw [hc] at hconvert
      rw [run_bind_of_error hconvert] at h
      cases h
      exact .refl _
    | ok converted =>
      rw [hc] at hconvert
      rw [run_bind_of_ok hconvert] at h
      exact grows_of_error_putText h

/-- The files that are in `after` are those of `w`, each with what it held, and every path at which a text could be read
still leads to that text. There may be new directories. -/
structure SameFiles (w after : Workspace) : Prop where
  files : ∀ names content, after.entry? names = some (.file content) ↔ w.entry? names = some (.file content)
  texts : ∀ p text, w.readText p = .ok text → after.readText p = .ok text

theorem sameFiles_of_grows {w after : Workspace} (h : w.Grows after) : SameFiles w after :=
  ⟨h.entry?_file, fun _ _ hr => h.readText hr⟩

/-- Does work that fails leave all files as they were? -/
def AllOrNothing (work : FileWork α) : Prop :=
  ∀ d d' f, work.run.run d = (.error f, d') → SameFiles d.workspace d'.workspace

theorem AllOrNothing.readText {work : FileWork α} (h : AllOrNothing work) (hf : cause? (work.run.run d).1 = some f)
    (hr : d.workspace.readText p = .ok text) :
    ∃ d', work.run.run d = (.error f, d') ∧ d'.workspace.readText p = .ok text :=
  have hrun := run_eq_error_of_cause? hf
  ⟨_, hrun, (h _ _ _ hrun).texts p text hr⟩

/-- Compiling files into a file of statements and converting a file of rows leave all files as they were whenever they
fail. -/
theorem allOrNothing_write (s : Settings) (t : TableFiles) (directory : Option Path) (file : Option String)
    (described rows : Path) (out : Option Path) :
    AllOrNothing (writeStatements s t directory file) ∧ AllOrNothing (writeConverted described rows out) :=
  ⟨fun _ _ _ h => sameFiles_of_grows (grows_writeStatements h), fun _ _ _ h => sameFiles_of_grows (grows_writeConverted h)⟩

/-- Files around a ledger: its description, in which no column is a key, rows of which the second has an amount that is no
number, and what was written before. -/
def shelf : Workspace :=
  [ (["ledger.json"], "[\x7b\"Field\": \"amount\", \"Type\": \"decimal\", \"Null\": \"NO\", \"Key\": \"\", " ++
      "\"Default\": null, \"Extra\": \"\"\x7d]"),
    (["rows.json"], "[\x7b\"amount\": \"1.50\"\x7d, \x7b\"amount\": \"much\"\x7d]"),
    (["out", "ledger.sql"], "-- before\n"), (["out", "rows.json"], "[]\n") ].foldl
    (fun w f => w.insertFile f.1 f.2.toUTF8) {}

def ledger : TableFiles := { described := ⟨"", ["ledger.json"]⟩, table := "Ledger", synthesis := some false }

theorem allOrNothing_write_ledger :
    (∃ d', (writeStatements {} ledger none none).run.run { workspace := shelf } = (.error (.compile .noPrimaryKey), d') ∧
      d'.workspace.readText ⟨"", ["out", "ledger.sql"]⟩ = .ok "-- before\n") ∧
    ∃ d', (writeConverted ledger.described ⟨"", ["rows.json"]⟩ (some ⟨"", ["out", "rows.json"]⟩)).run.run
        { workspace := shelf } = (.error (.conversion (.notNumeric "amount" "'much'")), d') ∧
      d'.workspace.readText ⟨"", ["out", "rows.json"]⟩ = .ok "[]\n" := by
  obtain ⟨hstatements, hrows⟩ := allOrNothing_write {} ledger none none ledger.described ⟨"", ["rows.json"]⟩
    (some ⟨"", ["out", "rows.json"]⟩)
  constructor
  · refine hstatements.readText ?_ ?_
    · decide +kernel
    · decide +kernel
  · refine hrows.readText ?_ ?_
    · decide +kernel
    · decide +kernel

end FileWork
end SpannerSchema
