import SpannerSchema.Failure
import SpannerSchema.Proofs.Compiler.FirstFault

/-! Failures without a title. A failure of the compiler is reported under a title, and ends the program where it has
    none. One kind has none: the size of a binary type that is written but is no whole number. Such a size is met when
    nothing before it fails, so it is reported as late as any other failure of a type. -/

namespace SpannerSchema

/-! ### Sizes of binary types -/

namespace TypeKind

variable {size initial : Option String} {e : CompileError}

/-- The kinds whose size is read as a number. -/
def binary : List TypeKind := [blob, tinyblob, bytes]

theorem bytesOf_eq_error_iff {usual : Int} : bytesOf size usual = .error e ↔
    ∃ s, size = some s ∧ s ≠ "" ∧ Numeral.toInt? s.toList = none ∧ e = .malformedSize s := by
  cases size with
  | none => simp [bytesOf]
  | some s =>
    by_cases hs : s = ""
    · simp [bytesOf, hs]
    · have hempty : s.isEmpty = false := by simpa using hs
      cases hn : Numeral.toInt? s.toList with
      | none => simp [bytesOf, hempty, hs, hn, eq_comm]
      | some n => simp [bytesOf, hempty, hn]

theorem render_eq_error_iff {kind : TypeKind} : kind.render size initial = .error e ↔
    kind ∈ binary ∧ ∃ s, size = some s ∧ s ≠ "" ∧ Numeral.toInt? s.toList = none ∧ e = .malformedSize s := by
  have hbinary {usual : Int} {kind : TypeKind} (hk : kind ∈ binary) :
      (bytesOf size usual).map (⟨·, none⟩ : String → TargetType) = .error e ↔
        kind ∈ binary ∧ ∃ s, size = some s ∧ s ≠ "" ∧ Numeral.toInt? s.toList = none ∧ e = .malformedSize s := by
    rw [← failure?_eq_some_iff, failure?_map, failure?_eq_some_iff, bytesOf_eq_error_iff]
    exact ⟨fun h => ⟨hk, h⟩, fun h => h.2⟩
  cases kind with
  | blob => exact hbinary (by decide)
  | tinyblob => exact hbinary (by decide)
  | bytes => exact hbinary (by decide)
  | _ => simp [render, binary]

end TypeKind

/-- A type of a binary kind with the size `s`, which is written and is no whole number. -/
structure SourceType.MalformedSize (type s : String) : Prop where
  binary : ∃ kind ∈ TypeKind.binary, TypeKind.resolve? (keyword type) = some kind
  size : size? type = some s
  written : s ≠ ""
  not_number : Numeral.toInt? s.toList = none

theorem SourceType.toTarget_eq_error_iff {type : String} {initial : Option String} {e : CompileError} :
    toTarget type initial = .error e ↔
      (TypeKind.resolve? (keyword type) = none ∧ e = .unmappedType type) ∨
        ∃ s, MalformedSize type s ∧ e = .malformedSize s := by
  unfold toTarget
  cases hk : TypeKind.resolve? (keyword type) with
  | none =>
    constructor
    · intro h
      cases h
      exact Or.inl ⟨rfl, rfl⟩
    · rintro (⟨-, rfl⟩ | ⟨s, hs, -⟩)
      · rfl
      · obtain ⟨kind, -, hkind⟩ := hs.binary
        rw [hk] at hkind
        cases hkind
  | some kind =>
    dsimp only
    rw [TypeKind.render_eq_error_iff]
    constructor
    · rintro ⟨hbinary, s, hsize, hwritten, hnumber, rfl⟩
      exact Or.inr ⟨s, ⟨⟨kind, hbinary, hk⟩, hsize, hwritten, hnumber⟩, rfl⟩
    · rintro (⟨hnone, -⟩ | ⟨s, hs, rfl⟩)
      · cases hnone
      · obtain ⟨kind', hbinary, hkind⟩ := hs.binary
        rw [hk] at hkind
        cases hkind
        exact ⟨hbinary, s, hs.size, hs.written, hs.not_number, rfl⟩

/-! ### Titles -/

namespace CompileRequest
open Classification

variable {r : CompileRequest} {e : CompileError}

/-- The titles of the failures of a compiler. -/
def titles : List String :=
  ["InvalidKeyMarkerError", "MissingKeyDetailError", "PrimaryKeyNotFoundError", "UnmappedTypeError"]

theorem title?_compile (e : CompileError) :
    (∃ title ∈ titles, (Failure.compile e).title? = some title) ∨
      ((Failure.compile e).title? = none ∧ ∃ s, e = .malformedSize s) := by
  cases e with
  | malformedSize s => exact Or.inr ⟨rfl, s, rfl⟩
  | _ => exact Or.inl ⟨_, by decide, rfl⟩

theorem title?_eq_none_iff : (Failure.compile e).title? = none ↔ ∃ s, e = .malformedSize s := by
  constructor
  · intro h
    rcases title?_compile e with ⟨title, -, htitle⟩ | ⟨-, hs⟩
    · rw [h] at htitle
      cases htitle
    · exact hs
  · rintro ⟨s, rfl⟩
    rfl

theorem fault?_ne_malformedSize (keys : List KeyUsage) (c : Column) (s : String) :
    fault? keys c ≠ some (.malformedSize s) := by
  unfold fault?
  split
  · simp
  · split <;> simp

theorem typeFault?_eq_malformedSize_iff {c : Column} {s : String} :
    typeFault? c = some (.malformedSize s) ↔ SourceType.MalformedSize c.type s := by
  rw [typeFault?, failure?_eq_some_iff, SourceType.toTarget_eq_error_iff]
  constructor
  · rintro (⟨-, h⟩ | ⟨s', hs, h⟩)
    · cases h
    · cases h
      exact hs
  · exact fun hs => Or.inr ⟨s, hs, rfl⟩

/-- The first of the columns whose type has no target is binary with the malformed size `s`. -/
def StopsAtSize (columns : List Column) (s : String) : Prop :=
  ∃ before x after, columns = before ++ x :: after ∧ (∀ y ∈ before, typeFault? y = none) ∧
    SourceType.MalformedSize x.type s

theorem firstFault?_eq_malformedSize_iff {s : String} : r.firstFault? = some (.malformedSize s) ↔
    (∀ x ∈ r.columns, fault? r.keys x = none) ∧ (hasPrimary r.columns = true ∨ r.synthesis = true) ∧
      StopsAtSize r.columns s := by
  have hstops : r.columns.findSome? typeFault? = some (.malformedSize s) ↔ StopsAtSize r.columns s := by
    rw [List.findSome?_eq_some_iff]
    constructor
    · rintro ⟨before, x, after, heq, hx, hbefore⟩
      exact ⟨before, x, after, heq, hbefore, typeFault?_eq_malformedSize_iff.mp hx⟩
    · rintro ⟨before, x, after, heq, hbefore, hx⟩
      exact ⟨before, x, after, heq, typeFault?_eq_malformedSize_iff.mpr hx, hbefore⟩
  unfold firstFault?
  rw [findSome?_allColumns, ← hstops, ← List.findSome?_eq_none_iff]
  cases hf : r.columns.findSome? (fault? r.keys) with
  | some e =>
    obtain ⟨x, -, hx⟩ := List.exists_of_findSome?_eq_some hf
    -- A column at fault hides every type.
    have hne : e ≠ .malformedSize s := fun he => fault?_ne_malformedSize r.keys x s (he ▸ hx)
    simp [hne]
  | none =>
    cases hp : hasPrimary r.columns with
    | true => simp
    | false => cases hs : r.synthesis <;> simp

/-- Every failure of the compiler has one of its titles or is that of a malformed size. The latter is what comes of a
table if and only if no marker and no missing key stops it before its types, and the first of its types that has no
target is binary and has a size that is no whole number. -/
theorem compile_titled_or_malformedSize (c : Compiler) (r : CompileRequest) :
    (∀ e, (c.compile r).2 = .error e →
      (∃ title ∈ titles, (Failure.compile e).title? = some title) ∨
        (Failure.compile e).title? = none ∧ ∃ s, e = .malformedSize s ∧ StopsAtSize r.columns s) ∧
    ((∃ e, (c.compile r).2 = .error e ∧ (Failure.compile e).title? = none) ↔
      (∀ x ∈ r.columns, fault? r.keys x = none) ∧ (hasPrimary r.columns = true ∨ r.synthesis = true) ∧
        ∃ s, StopsAtSize r.columns s) := by
  have hfirst (e : CompileError) : (c.compile r).2 = .error e ↔ r.firstFault? = some e := by
    rw [Compiler.compile_snd, ← failure?_eq_some_iff, failure?_compileTable, failure?_parts]
  constructor
  · intro e he
    rcases title?_compile e with htitle | ⟨hnone, s, rfl⟩
    · exact Or.inl htitle
    · obtain ⟨-, -, hstops⟩ := firstFault?_eq_malformedSize_iff.mp ((hfirst _).mp he)
      exact Or.inr ⟨hnone, s, rfl, hstops⟩
  · constructor
    · rintro ⟨e, he, hnone⟩
      obtain ⟨s, rfl⟩ := title?_eq_none_iff.mp hnone
      obtain ⟨hplaced, hkey, hstops⟩ := firstFault?_eq_malformedSize_iff.mp ((hfirst _).mp he)
      exact ⟨hplaced, hkey, s, hstops⟩
    · rintro ⟨hplaced, hkey, s, hstops⟩
      exact ⟨.malformedSize s, (hfirst _).mpr (firstFault?_eq_malformedSize_iff.mpr ⟨hplaced, hkey, hstops⟩), rfl⟩

/-- A table with a key, and with a binary column whose size is a word. -/
def photo : CompileRequest where
  table := "photo"
  columns := [{ name := "id", type := "int", nullable := false, key := some "PRI" }, { name := "body", type := "blob(x)" }]

theorem compile_photo_untitled :
    ∃ e, (({} : Compiler).compile photo).2 = .error e ∧ (Failure.compile e).title? = none := by
  have hphoto : failure? (({} : Compiler).compile photo).2 = some (.malformedSize "x") := by decide +kernel
  exact ⟨.malformedSize "x", failure?_eq_some_iff.mp hphoto, rfl⟩

end CompileRequest
end SpannerSchema
