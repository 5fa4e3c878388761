import SpannerSchema.FileWork
import SpannerSchema.Proofs.Workspace.Growth

/-! How a piece of work runs at a desk: step by step, up to the first failure. Compiling and converting only read, so
    they leave the desk as it is and come to the same at every desk whose files read the same. -/

namespace SpannerSchema

/-- The paths of the files that describe a table. -/
def TableFiles.inputs (t : TableFiles) : List Path := t.described :: t.keys.toList

namespace FileWork

variable {α β : Type} {s : Settings} {d d' : Desk} {f : Failure} {m : FileWork α} {k : α → FileWork β}

/-! ### Steps -/

@[simp] theorem run_pure (a : α) (d : Desk) : (pure a : FileWork α).run.run d = (.ok a, d) := rfl

theorem run_bind (m : FileWork α) (k : α → FileWork β) (d : Desk) : (m >>= k).run.run d =
    match m.run.run d with
    | (.ok a, d') => (k a).run.run d'
    | (.error f, d') => (.error f, d') := by
  rw [ExceptT.run_bind, StateT.run_bind]
  rcases m.run.run d with ⟨_ | a, d'⟩ <;> rfl

theorem run_bind_of_ok {a : α} (h : m.run.run d = (.ok a, d')) : (m >>= k).run.run d = (k a).run.run d' := by
  rw [run_bind, h]

theorem run_bind_of_error (h : m.run.run d = (.error f, d')) : (m >>= k).run.run d = (.error f, d') := by
  rw [run_bind, h]

theorem ok_of_bind {b : β} (h : ((m >>= k).run.run d).1 = .ok b) :
    ∃ a d', m.run.run d = (.ok a, d') ∧ ((k a).run.run d').1 = .ok b := by
  rw [run_bind] at h
  rcases hrun : m.run.run d with ⟨f | a, d'⟩
  · rw [hrun] at h
    cases h
  · rw [hrun] at h
    exact ⟨a, d', rfl, h⟩

@[simp] theorem run_ofExcept (x : Except Failure α) (d : Desk) : (ofExcept x).run.run d = (x, d) := by
  cases x <;> rfl

@[simp] theorem run_report (text : String) (d : Desk) :
    (report text).run.run d = (.ok (), { d with shown := d.shown ++ Console.line text }) := rfl

section
variable {g : Workspace → Except FileError Workspace}

theorem run_change_of_ok {w : Workspace} (h : g d.workspace = .ok w) :
    (change g).run.run d = (.ok (), { d with workspace := w }) := by
  have hget : (get : FileWork Desk).run.run d = (.ok d, d) := rfl
  rw [change, run_bind_of_ok hget]
  simp only [h]
  rfl

theorem run_change_of_error {e : FileError} (h : g d.workspace = .error e) :
    (change g).run.run d = (.error (Failure.file e), d) := by
  have hget : (get : FileWork Desk).run.run d = (.ok d, d) := rfl
  rw [change, run_bind_of_ok hget]
  simp only [h]
  rfl

end

/-- Why a piece of work has come to nothing. -/
def cause? : Except Failure α → Option Failure
  | .ok _ => none
  | .error f => some f

theorem run_eq_error_of_cause? (h : cause? (m.run.run d).1 = some f) :
    m.run.run d = (.error f, (m.run.run d).2) := by
  cases hx : (m.run.run d).1 with
  | ok a =>
    rw [hx] at h
    cases h
  | error f' =>
    rw [hx] at h
    cases h
    exact Prod.ext hx rfl

/-! ### Reading -/

/-- The rows in a file with a text, or what keeps it from having rows. -/
def rowsOf (p : Path) (text : Except FileError String) : Except Failure (List Value) :=
  match text with
  | .error e => .error (.file e)
  | .ok text =>
    match Json.parse text with
    | .error reason => .error (.notJson p.text reason)
    | .ok (.list rows) => .ok rows
    | .ok _ => .error (.notRows p.text)

theorem run_loadRows (p : Path) (d : Desk) : (loadRows p).run.run d = (rowsOf p (d.workspace.readText p), d) := by
  have hget : (get : FileWork Desk).run.run d = (.ok d, d) := rfl
  rw [loadRows, run_bind, hget]
  unfold rowsOf
  cases ht : d.workspace.readText p with
  | error e =>
    simp only [ht]
    rfl
  | ok text =>
    simp only [ht]
    cases hp : Json.parse text with
    | error reason => rfl
    | ok v => cases v <;> rfl

/-- Work that only reads the files at `paths`: it leaves the desk as it is, and at two desks with the same texts there it
comes to the same. -/
structure ReadsOnly (paths : List Path) (m : FileWork α) : Prop where
  desk : ∀ d, (m.run.run d).2 = d
  outcome : ∀ d d' : Desk, (∀ p ∈ paths, d'.workspace.readText p = d.workspace.readText p) →
    (m.run.run d').1 = (m.run.run d).1

namespace ReadsOnly

variable {paths paths' : List Path}

theorem run_eq (h : ReadsOnly paths m) (d : Desk) : m.run.run d = ((m.run.run d).1, d) :=
  Prod.ext rfl (h.desk d)

theorem pure (a : α) : ReadsOnly paths (pure a : FileWork α) := ⟨fun _ => rfl, fun _ _ _ => rfl⟩

theorem ofExcept (x : Except Failure α) : ReadsOnly paths (ofExcept x) := by
  constructor
  case desk =>
    intro d
    rw [run_ofExcept]
  case outcome =>
    intro d d' _
    rw [run_ofExcept, run_ofExcept]

theorem loadRows {p : Path} (h : p ∈ paths) : ReadsOnly paths (loadRows p) := by
  constructor
  case desk =>
    intro d
    rw [run_loadRows]
  case outcome =>
    intro d d' hsame
    rw [run_loadRows, run_loadRows, hsame p h]

theorem bind (hm : ReadsOnly paths m) (hk : ∀ a, ReadsOnly paths (k a)) : ReadsOnly paths (m >>= k) := by
  constructor
  case desk =>
    intro d
    rw [run_bind, hm.run_eq d]
    cases (m.run.run d).1 with
    | error f => rfl
    | ok a => exact (hk a).desk d
  case outcome =>
    intro d d' hsame
    rw [run_bind, run_bind, hm.run_eq d, hm.run_eq d', hm.outcome d d' hsame]
    cases (m.run.run d).1 with
    | error f => rfl
    | ok a => exact (hk a).outcome d d' hsame

end ReadsOnly

theorem readsOnly_compileFiles (s : Settings) (t : TableFiles) : ReadsOnly t.inputs (compileFiles s t) := by
  unfold compileFiles
  refine .bind (.ofExcept _) fun b => .bind (.ofExcept _) fun b => .bind (.loadRows (by simp [TableFiles.inputs]))
    fun rows => .bind (.ofExcept _) fun b => ?_
  cases hk : t.keys with
  | none => exact .bind (.pure b) fun b => .ofExcept _
  | some keys =>
    have hkeys : keys ∈ t.inputs := by simp [TableFiles.inputs, hk]
    exact .bind (.loadRows hkeys) fun rows => .bind (.ofExcept _) fun b => .ofExcept _

theorem readsOnly_convertFile (described rows : Path) : ReadsOnly [described, rows] (convertFile described rows) := by
  unfold convertFile
  exact .bind (.loadRows (by simp)) fun description => .bind (.ofExcept _) fun columns =>
    .bind (.loadRows (by simp)) fun vs => .ofExcept _

end FileWork
end SpannerSchema
