import SpannerSchema.Proofs.FileWork.Runs
import SpannerSchema.Proofs.Json.LineBreaks
import SpannerSchema.Proofs.Rows.Restated
import SpannerSchema.Proofs.Text.Encoding

/-! Converting a file of converted rows. Its text is read back as rows that convert to the same rows, so the text does
    not change once it is written. -/

namespace SpannerSchema

/-! ### The text of a file -/

namespace Workspace

/-- A file that holds a text without carriage returns reads as that text. -/
theorem readText_of_read {w : Workspace} {p : Path} {s : String} (h : w.read p = .ok s.toUTF8) (hbreaks : '\r' ∉ s.toList) :
    w.readText p = .ok s := by
  have htext : String.fromUTF8? s.toUTF8 = some s := Text.fromUTF8?_eq_some_iff.mpr rfl
  simp only [readText, h, htext, Text.normalizeBreaks_eq_self hbreaks, String.ofList_toList]

end Workspace

namespace FileWork

variable {α β : Type} {m : FileWork α} {k : α → FileWork β} {d d' : Desk} {p p' : Path} {rows vs : List Value}

/-- The rows in a file do not depend on its path. -/
theorem rowsOf_eq_ok {text : Except FileError String} (h : rowsOf p text = .ok rows) (p' : Path) :
    rowsOf p' text = .ok rows := by
  unfold rowsOf at h ⊢
  split at h
  · cases h
  · split at h
    · cases h
    · cases h
      rfl
    · cases h

theorem isRead_of_rowsOf {text : Except FileError String} (h : rowsOf p text = .ok rows) : ∀ v ∈ rows, Json.IsRead v := by
  unfold rowsOf at h
  split at h
  · cases h
  · split at h
    · cases h
    · next hparse =>
      cases h
      cases Json.isRead_of_parse hparse with
      | list hrows => exact hrows
    · cases h

section
variable {ε ε' : Type} {x : Except ε α} {f : ε → ε'}

theorem mapError_eq_ok {a : α} : x.mapError f = .ok a ↔ x = .ok a := by
  cases x <;> simp [Except.mapError]

theorem mapError_eq_error {e : ε'} : x.mapError f = .error e ↔ ∃ e', x = .error e' ∧ e = f e' := by
  cases x <;> simp [Except.mapError, eq_comm]

end

/-- Files that can be read leave the rows to be converted. -/
theorem run_convertFile_of_rows {described : Path} {description : List Value} {columns : List Column}
    (htable : rowsOf described (d.workspace.readText described) = .ok description)
    (hvalid : Rows.columns (.list description) = .ok columns) (hgiven : rowsOf p (d.workspace.readText p) = .ok rows) :
    (convertFile described p).run.run d =
      ((Conversion.convertRows (Conversion.convertedNames columns) rows).mapError .conversion, d) := by
  have hdescription : (loadRows described).run.run d = (.ok description, d) := by rw [run_loadRows, htable]
  have hcolumns : (ofExcept ((Rows.columns (.list description)).mapError .rows)).run.run d = (.ok columns, d) := by
    rw [run_ofExcept, mapError_eq_ok.mpr hvalid]
  have hrows : (loadRows p).run.run d = (.ok rows, d) := by rw [run_loadRows, hgiven]
  rw [convertFile, run_bind_of_ok hdescription, run_bind_of_ok hcolumns, run_bind_of_ok hrows, run_ofExcept]

/-- The table that `description` describes, and the rows in the file at `p`, which convert to `vs`. -/
structure Converts (d : Desk) (described p : Path) (description rows vs : List Value) (columns : List Column) : Prop where
  table : rowsOf described (d.workspace.readText described) = .ok description
  valid : Rows.columns (.list description) = .ok columns
  given : rowsOf p (d.workspace.readText p) = .ok rows
  converted : Conversion.convertRows (Conversion.convertedNames columns) rows = .ok vs

theorem converts_of_convertFile {described : Path} (h : ((convertFile described p).run.run d).1 = .ok vs) :
    ∃ description rows columns, Converts d described p description rows vs columns := by
  unfold convertFile at h
  obtain ⟨description, d₁, htable, hvalidate⟩ := ok_of_bind h
  obtain ⟨columns, d₂, hvalid, hload⟩ := ok_of_bind hvalidate
  obtain ⟨rows, d₃, hgiven, hconvert⟩ := ok_of_bind hload
  rw [run_loadRows, Prod.mk.injEq] at htable hgiven
  rw [run_ofExcept, Prod.mk.injEq] at hvalid
  rw [run_ofExcept] at hconvert
  obtain ⟨htable, rfl⟩ := htable
  obtain ⟨hvalid, rfl⟩ := hvalid
  exact ⟨description, rows, columns, htable, mapError_eq_ok.mp hvalid, hgiven.1, mapError_eq_ok.mp hconvert⟩

theorem Converts.run_convertFile {described : Path} {description : List Value} {columns : List Column}
    (h : Converts d described p description rows vs columns) : (convertFile described p).run.run d = (.ok vs, d) := by
  rw [run_convertFile_of_rows h.table h.valid h.given, mapError_eq_ok.mpr h.converted]

/-- Rows that a conversion has come to convert to themselves once their text is in a file, so what is written of them then is
that text. The file may be anywhere, at any desk where the table is described by the same text. -/
theorem convertFile_again (described p : Path) (d : Desk) (vs : List Value)
    (hconverted : ((convertFile described p).run.run d).1 = .ok vs) (described' written : Path) (e : Desk)
    (hdescribed : e.workspace.readText described' = d.workspace.readText described)
    (hwritten : e.workspace.read written = .ok (Json.render (.list vs)).toUTF8) :
    (convertFile described' written).run.run e = (.ok vs, e) := by
  obtain ⟨description, rows, columns, hconverts⟩ := converts_of_convertFile hconverted
  obtain ⟨again, hparse, hread, hrender, hagain⟩ :=
    Conversion.parse_converted (isRead_of_rowsOf hconverts.given) hconverts.converted
  have hbreaks : '\r' ∉ (Json.render (.list vs)).toList := hrender ▸ Json.return_not_mem_render hread
  have htext := Workspace.readText_of_read hwritten hbreaks
  have hconverts : Converts e described' written description again vs columns := by
    constructor
    case table =>
      rw [hdescribed]
      exact rowsOf_eq_ok hconverts.table described'
    case valid => exact hconverts.valid
    case given =>
      rw [htext, rowsOf]
      simp only [hparse]
    case converted => exact hagain
  exact hconverts.run_convertFile

/-- A desk with a table that has one column, of decimal type, and with rows for it. -/
def priced (rows : String) : Desk :=
  let description := "[\x7b\"Field\": \"price\", \"Type\": \"decimal(9,2)\", \"Null\": \"NO\", \"Key\": \"\", " ++
    "\"Default\": null, \"Extra\": \"\"\x7d]"
  { workspace := (Workspace.insertFile {} ["table"] description.toUTF8).insertFile ["rows"] rows.toUTF8 }

def givenPrices : String := "[\x7b\"price\": \" 1_0.50\", \"notes\": [\"€\", 1.50]\x7d, \x7b\"price\": 1e22\x7d]"

def statedPrices : String :=
  "[\n  \x7b\n    \"price\": \"10.50\",\n    \"notes\": [\n      \"€\",\n      1.5\n    ]\n  \x7d,\n" ++
    "  \x7b\n    \"price\": \"1E+22\"\n  \x7d\n]\n"

theorem convertFile_again_prices :
    ∃ vs, ((convertFile { names := ["table"] } { names := ["rows"] }).run.run (priced givenPrices)).1 = .ok vs ∧
      Json.render (.list vs) = statedPrices ∧
      (convertFile { names := ["table"] } { names := ["rows"] }).run.run (priced statedPrices) =
        (.ok vs, priced statedPrices) := by
  have hstated : ((convertFile { names := ["table"] } { names := ["rows"] }).run.run (priced givenPrices)).1.map
      (fun vs => Json.render (.list vs)) = .ok statedPrices := by decide +kernel
  cases hrun : ((convertFile { names := ["table"] } { names := ["rows"] }).run.run (priced givenPrices)).1 with
  | error f =>
    rw [hrun] at hstated
    cases hstated
  | ok vs =>
    rw [hrun] at hstated
    have hrender : Json.render (.list vs) = statedPrices := Except.ok.inj hstated
    have hwritten : (priced statedPrices).workspace.read { names := ["rows"] } = .ok (Json.render (.list vs)).toUTF8 := by
      rw [hrender]
      rfl
    exact ⟨vs, rfl, hrender, convertFile_again _ _ _ _ hrun _ _ _ rfl hwritten⟩

end FileWork
end SpannerSchema
