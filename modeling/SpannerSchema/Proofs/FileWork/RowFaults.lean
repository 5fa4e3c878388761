import SpannerSchema.CommandLine
import SpannerSchema.Proofs.FileWork.Reconversion
import SpannerSchema.Proofs.Keys.Sorting
import SpannerSchema.Proofs.Rows.FirstFault

/-! Rows that cannot be converted. A value that is no decimal, in a column of decimal type, ends the work with a failure
    that has a title and names the column, and the command shows it. A row of a file that is no record ends the work with
    a failure that has no title, so that the command does not take it up. Which of the two comes is a matter of which
    stands first in the file. -/

namespace SpannerSchema
namespace FileWork
open Conversion CommandLine

variable {names : List String} {row : Value} {rows : List Value} {columns : List Column} {described p : Path} {d : Desk}
  {description : List Value} {f : Failure} {file : Option Path}

/-! ### Rows of a file -/

theorem rowFault?_record_ne_notRow (fields : List (String × Value)) : rowFault? names (.record fields) ≠ some .notRow := by
  intro h
  obtain ⟨f, -, hf⟩ := List.exists_of_findSome?_eq_some h
  obtain ⟨-, shown, -, hne⟩ := fieldFault?_eq_some_iff.mp hf
  cases hne

/-- A row of a file is a record or no row. -/
theorem rowFault?_eq_notRow_iff (h : Json.IsRead row) :
    rowFault? names row = some .notRow ↔ ∀ fields, row ≠ .record fields := by
  cases h with
  | record => simpa using rowFault?_record_ne_notRow _
  | _ => simp [rowFault?]

theorem rowFault?_eq_none_iff (h : Json.IsRead row) : rowFault? names row = none ↔
    ∃ fields, row = .record fields ∧ ∀ f ∈ fields, f.1 ∈ names → ∃ v, toNumeric f.2 = .ok v := by
  cases h with
  | record => simp [rowFault?, fieldFault?_eq_none_iff]
  | _ => simp [rowFault?]

/-! ### The command -/

/-- What the command shows of a failure to convert. -/
def reportOf (w : Workspace) (f : Failure) : Outcome :=
  match f.title? with
  | some title => { exitCode := 1, reported := some (Console.report title (f.message?.getD "")), workspace := w }
  | none => { exitCode := 1, escaped := some f, workspace := w }

theorem run_convert_of_error (h : (convertFile described p).run.run d = (.error f, d)) (s : Settings) :
    (Command.convert described p file).run s d.workspace = reportOf d.workspace f := by
  have hreads := readsOnly_convertFile described p
  have hsame : ((convertFile described p).run.run { workspace := d.workspace }).1 = .error f := by
    rw [hreads.outcome d { workspace := d.workspace } fun _ _ => rfl, h]
  have hrun := hreads.run_eq { workspace := d.workspace }
  rw [hsame] at hrun
  have hconverted : (writeConverted described p file).run.run { workspace := d.workspace }
      = (.error f, { workspace := d.workspace }) := by
    rw [writeConverted, run_bind_of_error hrun]
  cases htitle : f.title? <;> simp only [Command.run, finish, hconverted, reportOf, htitle]

/-! ### How converting ends -/

/-- How converting the rows `rows` of a file ends, where the columns `names` are converted: `converted` is what it comes to
and `shown` how the command ends. -/
structure EndsAtFirstFault (names : List String) (rows : List Value) (converted : Except Failure (List Value))
    (shown : Outcome) (w : Workspace) : Prop where
  returns : ∀ vs, converted = .ok vs ↔ convertRows names rows = .ok vs
  succeeds : (∃ vs, converted = .ok vs) ↔ ∀ row ∈ rows, ∃ fields, row = .record fields ∧
    ∀ f ∈ fields, f.1 ∈ names → ∃ v, toNumeric f.2 = .ok v
  fails : ∀ f, converted = .error f ↔ ∃ e, rows.findSome? (rowFault? names) = some e ∧ f = .conversion e
  titled : ∀ column value, rows.findSome? (rowFault? names) = some (.notNumeric column value) →
    shown = { exitCode := 1, workspace := w, reported := some (Console.report "MalformedInputError"
      ("Column " ++ column ++ ": " ++ notNumericText value)) }
  untitled : rows.findSome? (rowFault? names) = some .notRow →
    shown = { exitCode := 1, workspace := w, escaped := some (.conversion .notRow) }
  noRecord : rows.findSome? (rowFault? names) = some .notRow ↔ ∃ before row after, rows = before ++ row :: after ∧
    (∀ r ∈ before, rowFault? names r = none) ∧ ∀ fields, row ≠ .record fields

/-- Converting a file of rows for a valid table ends at the first fault, or returns if there is none. -/
theorem endsAtFirstFault (htable : rowsOf described (d.workspace.readText described) = .ok description)
    (hvalid : Rows.columns (.list description) = .ok columns) (hgiven : rowsOf p (d.workspace.readText p) = .ok rows)
    (s : Settings) (file : Option Path) :
    EndsAtFirstFault (convertedNames columns) rows ((convertFile described p).run.run d).1
      ((Command.convert described p file).run s d.workspace) d.workspace := by
  have hread := isRead_of_rowsOf hgiven
  have hrun := run_convertFile_of_rows htable hvalid hgiven
  have hfault (e : ConversionError) (h : rows.findSome? (rowFault? (convertedNames columns)) = some e) :
      (convertFile described p).run.run d = (.error (.conversion e), d) := by
    rw [hrun, convertRows_eq_error_iff.mpr h]
    rfl
  constructor
  case returns =>
    intro vs
    rw [hrun]
    exact mapError_eq_ok
  case succeeds =>
    rw [hrun]
    simp only [mapError_eq_ok]
    rw [← exists_convertRows_iff]
    exact forall₂_congr fun row hrow => rowFault?_eq_none_iff (hread row hrow)
  case fails =>
    intro f
    rw [hrun]
    simp only [mapError_eq_error, convertRows_eq_error_iff]
  case titled => exact fun column value h => run_convert_of_error (hfault _ h) s
  case untitled => exact fun h => run_convert_of_error (hfault _ h) s
  case noRecord =>
    rw [List.findSome?_eq_some_iff]
    constructor
    · rintro ⟨before, row, after, rfl, hrow, hbefore⟩
      exact ⟨before, row, after, rfl, hbefore, (rowFault?_eq_notRow_iff (hread row (by simp))).mp hrow⟩
    · rintro ⟨before, row, after, rfl, hbefore, hrow⟩
      exact ⟨before, row, after, rfl, (rowFault?_eq_notRow_iff (hread row (by simp))).mpr hrow, hbefore⟩

/-- The description at the desk is valid, whatever rows are there. -/
theorem table_priced (rows : String) : ∃ description columns,
    rowsOf { names := ["table"] } ((priced rows).workspace.readText { names := ["table"] }) = .ok description ∧
      Rows.columns (.list description) = .ok columns ∧ convertedNames columns = ["price"] := by
  have hsame : (priced rows).workspace.readText { names := ["table"] }
      = (priced "").workspace.readText { names := ["table"] } := rfl
  have hdescribed : (rowsOf { names := ["table"] } ((priced "").workspace.readText { names := ["table"] })).map
      (fun vs => (Rows.columns (.list vs)).map convertedNames) = .ok (.ok ["price"]) := by decide +kernel
  obtain ⟨description, htable, hcolumns⟩ := exists_of_map_eq_ok hdescribed
  obtain ⟨columns, hvalid, hnames⟩ := exists_of_map_eq_ok hcolumns
  exact ⟨description, columns, hsame ▸ htable, hvalid, hnames⟩

/-- Rows of which the second has a value that is no decimal, and the third is no record. -/
def faultyPrices : String := "[\x7b\"price\": \"1.50\"\x7d, \x7b\"note\": [[]], \"price\": [1]\x7d, 7]"

theorem endsAtFirstFault_prices :
    ((convertFile { names := ["table"] } { names := ["rows"] }).run.run (priced faultyPrices)).1
      = .error (.conversion (.notNumeric "price" "[1]")) ∧
    (Command.convert { names := ["table"] } { names := ["rows"] } none).run {} (priced faultyPrices).workspace
      = { exitCode := 1, workspace := (priced faultyPrices).workspace,
          reported := some "MalformedInputError: Column price: [1] is not a NUMERIC value" } := by
  have hfile : (rowsOf { names := ["rows"] } ((priced faultyPrices).workspace.readText { names := ["rows"] })).map
      (fun vs => vs.findSome? (rowFault? ["price"])) = .ok (some (.notNumeric "price" "[1]")) := by decide +kernel
  have hreport : Console.report "MalformedInputError" ("Column " ++ "price" ++ ": " ++ notNumericText "[1]")
      = "MalformedInputError: Column price: [1] is not a NUMERIC value" := by decide +kernel
  obtain ⟨description, columns, htable, hvalid, hnames⟩ := table_priced faultyPrices
  obtain ⟨rows, hgiven, hfault⟩ := exists_of_map_eq_ok hfile
  have hends := endsAtFirstFault htable hvalid hgiven {} none
  rw [hnames] at hends
  refine ⟨(hends.fails _).mpr ⟨_, hfault, rfl⟩, ?_⟩
  rw [hends.titled _ _ hfault, hreport]

/-- A file of rows for a valid table that holds a number in the place of a row: converting it fails without a title, and the
command does not report it. -/
theorem convertFile_number_untitled :
    (∃ description columns,
      rowsOf { names := ["table"] } ((priced "[7]").workspace.readText { names := ["table"] }) = .ok description ∧
      Rows.columns (.list description) = .ok columns) ∧
    rowsOf { names := ["rows"] } ((priced "[7]").workspace.readText { names := ["rows"] }) = .ok [.int 7] ∧
    (∃ f, ((convertFile { names := ["table"] } { names := ["rows"] }).run.run (priced "[7]")).1 = .error f ∧
      f.title? = none) ∧
    (Command.convert { names := ["table"] } { names := ["rows"] } none).run {} (priced "[7]").workspace
      = { exitCode := 1, workspace := (priced "[7]").workspace, escaped := some (.conversion .notRow) } := by
  obtain ⟨description, columns, htable, hvalid, -⟩ := table_priced "[7]"
  have hgiven : rowsOf { names := ["rows"] } ((priced "[7]").workspace.readText { names := ["rows"] })
      = .ok [.int 7] := rfl
  have hrun : (convertFile { names := ["table"] } { names := ["rows"] }).run.run (priced "[7]")
      = (.error (.conversion .notRow), priced "[7]") := run_convertFile_of_rows htable hvalid hgiven
  refine ⟨⟨description, columns, htable, hvalid⟩, hgiven, ⟨_, congrArg Prod.fst hrun, rfl⟩, ?_⟩
  exact run_convert_of_error hrun {}

end FileWork
end SpannerSchema
