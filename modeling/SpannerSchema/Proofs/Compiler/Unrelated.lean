import SpannerSchema.Proofs.Compiler.Parts

/-! Records that do not matter. The records of a table are searched twice: by column, for the first record of a column
    that is in an index other than the primary key, and by constraint, for the columns of the constraint that such a
    record names. A record that neither search can meet may stand anywhere among the others: every column goes the way
    it goes without the record and leaves the same buckets, so the table comes to the same. -/

namespace SpannerSchema

/-- The list `all` holds the elements of `kept` and of `extra`, each in their order. -/
inductive Interleaved {α : Type} : List α → List α → List α → Prop where
  | nil : Interleaved [] [] []
  | kept {a : α} {kept extra all : List α} (h : Interleaved kept extra all) : Interleaved (a :: kept) extra (a :: all)
  | extra {a : α} {kept extra all : List α} (h : Interleaved kept extra all) : Interleaved kept (a :: extra) (a :: all)

namespace Interleaved

variable {α : Type} {kept extra all : List α} {p : α → Bool}

theorem find?_eq (h : Interleaved kept extra all) (hp : ∀ a ∈ extra, p a = false) : all.find? p = kept.find? p := by
  induction h with
  | nil => rfl
  | kept _ ih => rw [List.find?_cons, List.find?_cons, ih hp]
  | extra _ ih =>
    obtain ⟨ha, hp⟩ := List.forall_mem_cons.mp hp
    rw [List.find?_cons_of_neg (by simp [ha]), ih hp]

theorem filter_eq (h : Interleaved kept extra all) (hp : ∀ a ∈ extra, p a = false) : all.filter p = kept.filter p := by
  induction h with
  | nil => rfl
  | kept _ ih => rw [List.filter_cons, List.filter_cons, ih hp]
  | extra _ ih =>
    obtain ⟨ha, hp⟩ := List.forall_mem_cons.mp hp
    rw [List.filter_cons_of_neg (by simp [ha]), ih hp]

end Interleaved

namespace Classification

variable {mode : IndexMode} {columns todo : List Column} {keys extra keys' : List KeyUsage} {b : Buckets} {c : Column}
  {k detail : KeyUsage}

/-- A record that no search among `keys` for the described columns can meet: its column is in no index other than the
primary key, and its constraint is not that of a record whose column is in one. -/
structure Unrelated (columns : List Column) (keys : List KeyUsage) (k : KeyUsage) : Prop where
  column : ∀ c ∈ columns, c.Indexed → k.column ≠ c.name
  constraint : ∀ k' ∈ keys, (∃ c ∈ columns, c.Indexed ∧ c.name = k'.column) → k.constraint ≠ k'.constraint

instance (columns : List Column) (keys : List KeyUsage) (k : KeyUsage) : Decidable (Unrelated columns keys k) :=
  decidable_of_iff ((∀ c ∈ columns, c.Indexed → k.column ≠ c.name) ∧
      ∀ k' ∈ keys, (∃ c ∈ columns, c.Indexed ∧ c.name = k'.column) → k.constraint ≠ k'.constraint)
    ⟨fun ⟨hc, hk⟩ => ⟨hc, hk⟩, fun ⟨hc, hk⟩ => ⟨hc, hk⟩⟩

/-! ### One column -/

/-- The records tell the way of a column through the first of them that is of the column, and only if the column is in
an index. -/
theorem route_congr (h : c.Indexed → KeyUsage.firstFor? keys' c.name = KeyUsage.firstFor? keys c.name) :
    route mode keys' c = route mode keys c := by
  unfold route
  cases hm : c.marker? with
  | none => rfl
  | some m =>
    cases m with
    | unmarked => rfl
    | primary => rfl
    | unique =>
      have hkey := (Column.marker?_eq_some_iff (by simp)).mp hm
      rw [h (Or.inl hkey)]
    | multiple =>
      have hkey := (Column.marker?_eq_some_iff (by simp)).mp hm
      rw [h (Or.inr hkey)]

theorem indexed_of_goes_unique (h : Goes mode keys c (.unique detail)) : c.Indexed := by
  rcases h.2 with hk | ⟨hk, -, -⟩
  · exact Or.inl hk
  · exact Or.inr hk

section
variable (hall : Interleaved keys extra keys') (hextra : ∀ k ∈ extra, Unrelated columns keys k)
include hall hextra

theorem firstFor?_of_unrelated (hc : c ∈ columns) (hi : c.Indexed) :
    KeyUsage.firstFor? keys' c.name = KeyUsage.firstFor? keys c.name :=
  hall.find?_eq fun k hk => beq_eq_false_iff_ne.mpr ((hextra k hk).column c hc hi)

theorem members_of_unrelated (hc : c ∈ columns) (hi : c.Indexed)
    (hf : KeyUsage.firstFor? keys c.name = some detail) :
    members keys' detail.constraint = members keys detail.constraint := by
  have hdetail : ∃ c ∈ columns, c.Indexed ∧ c.name = detail.column :=
    ⟨c, hc, hi, (KeyUsage.column_of_firstFor? hf).symm⟩
  have hmem : detail ∈ keys := List.mem_of_find?_eq_some hf
  refine congrArg (List.map (·.column)) (hall.filter_eq fun k hk => ?_)
  exact beq_eq_false_iff_ne.mpr ((hextra k hk).constraint detail hmem hdetail)

/-- A column is placed as it is without the records, and the group that it may start or change is the same. -/
theorem place_of_unrelated (hc : c ∈ columns) : place mode columns keys' b c = place mode columns keys b c := by
  have hroute : route mode keys' c = route mode keys c :=
    route_congr fun hi => firstFor?_of_unrelated hall hextra hc hi
  unfold place
  rw [hroute]
  cases hr : route mode keys c with
  | error e => rfl
  | ok way =>
    have hgoes := goes_of_route hr
    refine congrArg Except.ok ?_
    cases way with
    | unique detail =>
      have hmembers := members_of_unrelated hall hextra hc (indexed_of_goes_unique hgoes) hgoes.1
      simp only [follow, addUnique, hmembers]
    | _ => rfl

/-! ### All columns -/

theorem placeAll_of_unrelated (htodo : ∀ c ∈ todo, c ∈ columns) :
    placeAll mode columns keys' b todo = placeAll mode columns keys b todo := by
  induction todo generalizing b with
  | nil => rfl
  | cons c todo ih =>
    obtain ⟨hc, htodo⟩ := List.forall_mem_cons.mp htodo
    rw [placeAll, placeAll, place_of_unrelated hall hextra hc]
    cases place mode columns keys b c with
    | error e => rfl
    | ok b' => exact ih htodo

theorem classify_of_unrelated (o : ClassifyOptions) : classify mode o columns keys' b = classify mode o columns keys b := by
  unfold classify
  rw [placeAll_of_unrelated hall hextra fun _ hc => hc]

end
end Classification

namespace CompileRequest
open Classification

variable {r : CompileRequest} {extra keys' : List KeyUsage}

/-- A table comes to the same, statements or failure, whatever unrelated records stand among its own. -/
theorem compile_unrelated (c : Compiler) (hall : Interleaved r.keys extra keys')
    (hextra : ∀ k ∈ extra, Unrelated r.columns r.keys k) : c.compile { r with keys := keys' } = c.compile r := by
  have hparts : ({ r with keys := keys' } : CompileRequest).parts c.mode = r.parts c.mode := by
    unfold parts
    rw [classify_of_unrelated hall hextra]
  exact compile_congr c rfl rfl hparts

/-- A table with a composite unique constraint and a foreign key. -/
def desks : CompileRequest where
  table := "desks"
  columns := [{ name := "id", type := "int", nullable := false, key := some "PRI" },
              { name := "floor", type := "int", nullable := false, key := some "UNI" },
              { name := "place", type := "int" },
              { name := "owner", type := "int", key := some "MUL" }]
  keys := [{ table := "desks", column := "floor", constraint := "spot" },
           { table := "desks", column := "place", constraint := "spot" },
           { table := "desks", column := "owner", constraint := "owned", referencedTable := some "people",
             referencedColumn := some "id" }]

/-- The records of the primary key and of a constraint on a column without a marker, listed with the others. -/
theorem compile_unrelated_desks :
    let primary : KeyUsage := { table := "desks", column := "id", constraint := "PRIMARY" }
    let placed : KeyUsage := { table := "desks", column := "place", constraint := "placed" }
    let keys' := primary :: desks.keys.take 1 ++ placed :: desks.keys.drop 1
    (∀ k ∈ [primary, placed], Unrelated desks.columns desks.keys k) ∧
      (∃ s, (({} : Compiler).compile desks).2 = .ok s ∧ s.indexes.length = 1 ∧ s.constraints.length = 1) ∧
      ({} : Compiler).compile { desks with keys := keys' } = ({} : Compiler).compile desks := by
  intro primary placed keys'
  have hextra : ∀ k ∈ [primary, placed], Unrelated desks.columns desks.keys k := by decide
  have hall : Interleaved desks.keys [primary, placed] keys' := .extra (.kept (.extra (.kept (.kept .nil))))
  have hs : (({} : Compiler).compile desks).2 = .ok
      { tables := ["CREATE TABLE `desks` (\n`id` INT64 NOT NULL,\n`floor` INT64 NOT NULL,\n`place` INT64,\n" ++
          "`owner` INT64\n) PRIMARY KEY (id);"]
        indexes := ["CREATE UNIQUE NULL_FILTERED INDEX `spot` ON `desks` (`floor`, `place`);"]
        constraints := ["ALTER TABLE `desks` ADD CONSTRAINT `owned` FOREIGN KEY (`owner`) " ++
          "REFERENCES `people` (`id`);"] } := eq_ok_of_toOption (by decide +kernel)
  exact ⟨hextra, ⟨_, hs, rfl, rfl⟩, compile_unrelated {} hall hextra⟩

end CompileRequest
end SpannerSchema
