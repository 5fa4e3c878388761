import SpannerSchema.Proofs.Compiler.Parts

/-! Foreign keys of a table. They are met column by column: a column of a key that is not unique has a statement if its
    first record names a referenced table, and the statement adds the constraint of that record on that column alone.
    Records of one constraint are not gathered, as those of a unique constraint are. So a constraint on one column comes
    out whole, and a constraint on more columns comes out once for each column that brings it. Other records are not
    met at all: those of a column in the primary key or in a unique key, and those after the first of a column. -/

namespace SpannerSchema
namespace Classification

variable {columns : List Column} {keys : List KeyUsage} {k : KeyUsage}

/-! ### Records that are met -/

theorem foreign?_eq_some_iff {c : Column} : foreign? keys c = some k ↔
    c.key = some "MUL" ∧ KeyUsage.firstFor? keys c.name = some k ∧ k.isForeign = true := by
  unfold foreign?
  by_cases hk : c.key = some "MUL"
  · simp [hk, Option.filter_eq_some_iff]
  · simp [hk]

/-- The records of the foreign keys that columns bring, in the order of the columns. -/
def foreignRecords (keys : List KeyUsage) (columns : List Column) : List KeyUsage := columns.filterMap (foreign? keys)

theorem mem_foreignRecords : k ∈ foreignRecords keys columns ↔
    ∃ c ∈ columns, c.key = some "MUL" ∧ KeyUsage.firstFor? keys c.name = some k ∧ k.isForeign = true := by
  simp only [foreignRecords, List.mem_filterMap, foreign?_eq_some_iff]

theorem mem_keys_of_foreignRecords (h : k ∈ foreignRecords keys columns) : k ∈ keys ∧ k.isForeign = true := by
  obtain ⟨c, -, -, hf, hd⟩ := mem_foreignRecords.mp h
  exact ⟨List.mem_of_find?_eq_some hf, hd⟩

theorem nodup_foreignRecords (keys : List KeyUsage) (hd : (columns.map (·.name)).Nodup) :
    ((foreignRecords keys columns).map (·.column)).Nodup :=
  (sublist_of_brought (fun _ _ => name_of_foreign?) columns).nodup hd

/-! ### Constraints of several columns -/

/-- The columns that the records of foreign keys give to a constraint, each once and in the order of the records. -/
def foreignMembers (keys : List KeyUsage) (constraint : String) : List String :=
  (members (keys.filter (·.isForeign)) constraint).eraseDups

theorem mem_foreignMembers {constraint column : String} : column ∈ foreignMembers keys constraint ↔
    ∃ k ∈ keys, k.isForeign = true ∧ k.constraint = constraint ∧ k.column = column := by
  simp [foreignMembers, members, and_assoc, and_left_comm]

/-- A record stands for its whole constraint if every record of the constraint is of its column. -/
theorem singleton_eq_foreignMembers_iff (hk : k ∈ keys) (hd : k.isForeign = true) :
    [k.column] = foreignMembers keys k.constraint ↔
      ∀ k' ∈ keys, k'.isForeign = true → k'.constraint = k.constraint → k'.column = k.column := by
  constructor
  · intro h k' hk' hd' hname
    have hmem := mem_foreignMembers.mpr ⟨k', hk', hd', hname, rfl⟩
    rw [← h] at hmem
    exact List.mem_singleton.mp hmem
  · intro h
    have hsame (column : String) : column ∈ foreignMembers keys k.constraint ↔ column ∈ [k.column] := by
      rw [mem_foreignMembers, List.mem_singleton]
      constructor
      · rintro ⟨k', hk', hd', hname, rfl⟩
        exact h k' hk' hd' hname
      · rintro rfl
        exact ⟨k, hk, hd, rfl, rfl⟩
    have hnodup : (foreignMembers keys k.constraint).Nodup := FirstSeen.nodup_eraseDups _
    have hperm := (List.perm_ext_iff_of_nodup hnodup (List.nodup_singleton k.column)).mpr hsame
    exact (List.perm_singleton.mp hperm).symm

/-- Statements that add the constraints of the records `added`, each on the column of its record, add every constraint
once and on all of its columns. -/
structure Whole (keys added : List KeyUsage) : Prop where
  once : (added.map (·.constraint)).Nodup
  listed : ∀ k ∈ added, [k.column] = foreignMembers keys k.constraint

theorem whole_foreignRecords_iff (hd : (columns.map (·.name)).Nodup) : Whole keys (foreignRecords keys columns) ↔
    ∀ k ∈ foreignRecords keys columns, ∀ k' ∈ keys, k'.isForeign = true → k'.constraint = k.constraint →
      k'.column = k.column := by
  have hlisted : ∀ k ∈ foreignRecords keys columns, [k.column] = foreignMembers keys k.constraint ↔
      ∀ k' ∈ keys, k'.isForeign = true → k'.constraint = k.constraint → k'.column = k.column := fun k hk => by
    obtain ⟨hmem, hforeign⟩ := mem_keys_of_foreignRecords hk
    exact singleton_eq_foreignMembers_iff hmem hforeign
  constructor
  · intro h k hk
    exact (hlisted k hk).mp (h.listed k hk)
  · intro h
    have hcolumns := nodup_foreignRecords keys hd
    refine ⟨List.Nodup.map_on (fun k hk k' hk' hname => ?_) (List.Nodup.of_map _ hcolumns),
      fun k hk => (hlisted k hk).mpr (h k hk)⟩
    -- Two records of one constraint would be of one column, and a column has one statement.
    obtain ⟨hmem, hforeign⟩ := mem_keys_of_foreignRecords hk
    exact List.inj_on_of_nodup_map hcolumns hk hk' (h k' hk' k hmem hforeign hname)

end Classification

namespace Ddl
open Classification

variable {r : CompileRequest} {s : Schema}

/-- The foreign key statements of a table are those of the records that its columns bring. -/
theorem constraints_of_compile {c : Compiler} (h : (c.compile r).2 = .ok s) :
    s.constraints = (foreignRecords r.keys r.columns).map (addForeignKey r.terminated r.table) := by
  rw [Compiler.compile_snd] at h
  obtain ⟨p, hp, rfl⟩ := CompileRequest.parts_of_compileTable h
  exact congrArg _ (CompileRequest.foreignKeys_parts hp)

/-! ### Whole constraints -/

/-- Each statement adds the constraint of the first record of a column, on that column, and no column has two. So every
constraint is added once and on all of its columns if and only if no constraint that a column brings has a record of
another column. -/
theorem foreignKeys_whole_iff (c : Compiler) (hd : (r.columns.map (·.name)).Nodup) (h : (c.compile r).2 = .ok s) :
    s.constraints = (foreignRecords r.keys r.columns).map (addForeignKey r.terminated r.table) ∧
      ((foreignRecords r.keys r.columns).map (·.column)).Nodup ∧
      (Whole r.keys (foreignRecords r.keys r.columns) ↔
        ∀ x ∈ r.columns, x.key = some "MUL" → ∀ k, KeyUsage.firstFor? r.keys x.name = some k → k.isForeign = true →
          ∀ k' ∈ r.keys, k'.isForeign = true → k'.constraint = k.constraint → k'.column = x.name) := by
  refine ⟨constraints_of_compile h, nodup_foreignRecords r.keys hd, ?_⟩
  rw [whole_foreignRecords_iff hd]
  constructor
  · intro hall x hx hkey k hfirst hforeign k' hk' hforeign' hname
    have hk : k ∈ foreignRecords r.keys r.columns := mem_foreignRecords.mpr ⟨x, hx, hkey, hfirst, hforeign⟩
    rw [hall k hk k' hk' hforeign' hname, KeyUsage.column_of_firstFor? hfirst]
  · intro hall k hk k' hk' hforeign' hname
    obtain ⟨x, hx, hkey, hfirst, hforeign⟩ := mem_foreignRecords.mp hk
    rw [hall x hx hkey k hfirst hforeign k' hk' hforeign' hname, KeyUsage.column_of_firstFor? hfirst]

/-- A table with a foreign key on one column, whose records are listed with an index of the same column. -/
def parcels : CompileRequest where
  table := "parcels"
  columns := [{ name := "id", type := "int", nullable := false, key := some "PRI" },
              { name := "sender", type := "int", key := some "MUL" },
              { name := "weight", type := "float" }]
  keys := [{ table := "parcels", column := "id", constraint := "PRIMARY" },
           { table := "parcels", column := "sender", constraint := "parcel_sender", referencedTable := some "people",
             referencedColumn := some "id" },
           { table := "parcels", column := "sender", constraint := "by_sender" }]

theorem compile_parcels : (({} : Compiler).compile parcels).2 = .ok
    { tables := ["CREATE TABLE `parcels` (\n`id` INT64 NOT NULL,\n`sender` INT64,\n`weight` FLOAT64\n) " ++
        "PRIMARY KEY (id);"]
      constraints := ["ALTER TABLE `parcels` ADD CONSTRAINT `parcel_sender` FOREIGN KEY (`sender`) " ++
        "REFERENCES `people` (`id`);"] } := eq_ok_of_toOption (by decide +kernel)

theorem foreignKeys_whole_parcels :
    (parcels.columns.map (·.name)).Nodup ∧ ∃ s, (({} : Compiler).compile parcels).2 = .ok s ∧
      s.constraints = (foreignRecords parcels.keys parcels.columns).map
        (addForeignKey parcels.terminated parcels.table) ∧
      s.constraints.length = 1 ∧ Whole parcels.keys (foreignRecords parcels.keys parcels.columns) := by
  have hd : (parcels.columns.map (·.name)).Nodup := by decide
  obtain ⟨hs, -, hwhole⟩ := foreignKeys_whole_iff {} hd compile_parcels
  refine ⟨hd, _, compile_parcels, hs, rfl, hwhole.mpr ?_⟩
  intro x hx hkey k hfirst hforeign k' hk' hforeign' hname
  have hsingle : ∀ x ∈ parcels.columns, x.key = some "MUL" → ∀ k ∈ parcels.keys, k.isForeign = true →
      k.column = x.name := by decide
  exact hsingle x hx hkey k' hk' hforeign'

/-- A table whose two columns refer to another table together. -/
def shipments : CompileRequest where
  table := "shipments"
  columns := [{ name := "id", type := "int", nullable := false, key := some "PRI" },
              { name := "shop", type := "int", nullable := false, key := some "MUL" },
              { name := "number", type := "int", nullable := false, key := some "MUL" }]
  keys := [{ table := "shipments", column := "shop", constraint := "shipped_order", referencedTable := some "orders",
             referencedColumn := some "shop" },
           { table := "shipments", column := "number", constraint := "shipped_order", referencedTable := some "orders",
             referencedColumn := some "number" }]

/-- Two statements add one constraint, each on one of its two columns. -/
theorem shipments_not_whole : (shipments.columns.map (·.name)).Nodup ∧ ∃ s : Schema,
    (({} : Compiler).compile shipments).2 = .ok s ∧
    s.constraints =
      ["ALTER TABLE `shipments` ADD CONSTRAINT `shipped_order` FOREIGN KEY (`shop`) REFERENCES `orders` (`shop`);",
       "ALTER TABLE `shipments` ADD CONSTRAINT `shipped_order` FOREIGN KEY (`number`) REFERENCES `orders` (`number`);"] ∧
    s.constraints = (foreignRecords shipments.keys shipments.columns).map
      (addForeignKey shipments.terminated shipments.table) ∧
    ¬((foreignRecords shipments.keys shipments.columns).map (·.constraint)).Nodup ∧
    foreignMembers shipments.keys "shipped_order" = ["shop", "number"] := by
  have h : (({} : Compiler).compile shipments).2 = .ok
      { tables := ["CREATE TABLE `shipments` (\n`id` INT64 NOT NULL,\n`shop` INT64 NOT NULL,\n" ++
          "`number` INT64 NOT NULL\n) PRIMARY KEY (id);"]
        constraints :=
          ["ALTER TABLE `shipments` ADD CONSTRAINT `shipped_order` FOREIGN KEY (`shop`) REFERENCES `orders` (`shop`);",
           "ALTER TABLE `shipments` ADD CONSTRAINT `shipped_order` FOREIGN KEY (`number`) " ++
             "REFERENCES `orders` (`number`);"] } := eq_ok_of_toOption (by decide +kernel)
  exact ⟨by decide, _, h, by decide +kernel, constraints_of_compile h, by decide, by decide +kernel⟩

/-! ### Constraints that are added -/

/-- A foreign key of a column that is in a key that is not unique is added if its record is the first of the column. A
constraint is added only if it is that of such a record, whatever marker its own column has. -/
theorem foreignKey_added_iff (c : Compiler) (h : (c.compile r).2 = .ok s) :
    s.constraints = (foreignRecords r.keys r.columns).map (addForeignKey r.terminated r.table) ∧
      ∀ k ∈ r.keys, k.isForeign = true →
        ((∃ x ∈ r.columns, x.name = k.column ∧ x.key = some "MUL") → KeyUsage.firstFor? r.keys k.column = some k →
          addForeignKey r.terminated r.table k ∈ s.constraints) ∧
        ((∃ k' ∈ foreignRecords r.keys r.columns, k'.constraint = k.constraint) ↔
          ∃ x ∈ r.columns, x.key = some "MUL" ∧ ∃ k', KeyUsage.firstFor? r.keys x.name = some k' ∧
            k'.isForeign = true ∧ k'.constraint = k.constraint) := by
  have hs := constraints_of_compile h
  refine ⟨hs, fun k _ hd => ⟨?_, ?_⟩⟩
  · rintro ⟨x, hx, hname, hkey⟩ hfirst
    have hmem : k ∈ foreignRecords r.keys r.columns := mem_foreignRecords.mpr ⟨x, hx, hkey, hname ▸ hfirst, hd⟩
    rw [hs]
    exact List.mem_map_of_mem hmem
  · constructor
    · rintro ⟨k', hk', hname⟩
      obtain ⟨x, hx, hkey, hfirst, hd'⟩ := mem_foreignRecords.mp hk'
      exact ⟨x, hx, hkey, k', hfirst, hd', hname⟩
    · rintro ⟨x, hx, hkey, k', hfirst, hd', hname⟩
      exact ⟨k', mem_foreignRecords.mpr ⟨x, hx, hkey, hfirst, hd'⟩, hname⟩

theorem foreignKey_added_parcels : ∃ s, (({} : Compiler).compile parcels).2 = .ok s ∧ ∃ k ∈ parcels.keys,
    k.isForeign = true ∧ (∃ x ∈ parcels.columns, x.name = k.column ∧ x.key = some "MUL") ∧
    KeyUsage.firstFor? parcels.keys k.column = some k ∧
    addForeignKey parcels.terminated parcels.table k ∈ s.constraints := by
  let k : KeyUsage := { table := "parcels", column := "sender", constraint := "parcel_sender",
                        referencedTable := some "people", referencedColumn := some "id" }
  have hk : k ∈ parcels.keys := by decide
  have hmarked : ∃ x ∈ parcels.columns, x.name = k.column ∧ x.key = some "MUL" := by decide
  have hfirst : KeyUsage.firstFor? parcels.keys k.column = some k := by decide
  obtain ⟨-, hadded⟩ := foreignKey_added_iff {} compile_parcels
  exact ⟨_, compile_parcels, k, hk, rfl, hmarked, hfirst, (hadded k hk rfl).1 hmarked hfirst⟩

/-- A table with three foreign keys: on a column of the primary key, on one of a unique key, and on one whose unique
constraint is listed before it. -/
def bookings : CompileRequest where
  table := "bookings"
  columns := [{ name := "guest", type := "int", nullable := false, key := some "PRI" },
              { name := "voucher", type := "int", nullable := false, key := some "UNI" },
              { name := "room", type := "int", nullable := false, key := some "MUL" },
              { name := "day", type := "date", nullable := false }]
  keys := [{ table := "bookings", column := "guest", constraint := "booked_by", referencedTable := some "people",
             referencedColumn := some "id" },
           { table := "bookings", column := "voucher", constraint := "paid_with", referencedTable := some "vouchers",
             referencedColumn := some "id" },
           { table := "bookings", column := "room", constraint := "room_day" },
           { table := "bookings", column := "day", constraint := "room_day" },
           { table := "bookings", column := "room", constraint := "booked_room", referencedTable := some "rooms",
             referencedColumn := some "id" }]

/-- None of the three is added. -/
theorem bookings_without_foreignKeys : ∃ s, (({} : Compiler).compile bookings).2 = .ok s ∧ s.constraints = [] ∧
    ∀ column ∈ ["guest", "voucher", "room"],
      (∃ k ∈ bookings.keys, k.column = column ∧ k.isForeign = true) ∧
      ∃ x ∈ bookings.columns, x.name = column ∧ x.key ∈ [some "PRI", some "UNI", some "MUL"] := by
  have h : (({} : Compiler).compile bookings).2 = .ok
      { tables := ["CREATE TABLE `bookings` (\n`guest` INT64 NOT NULL,\n`voucher` INT64 NOT NULL,\n" ++
          "`room` INT64 NOT NULL,\n`day` DATE NOT NULL\n) PRIMARY KEY (guest);"]
        indexes := ["CREATE UNIQUE INDEX `paid_with` ON `bookings` (`voucher`);",
                    "CREATE UNIQUE INDEX `room_day` ON `bookings` (`room`, `day`);"] } :=
    eq_ok_of_toOption (by decide +kernel)
  exact ⟨_, h, rfl, by decide⟩

end Ddl
end SpannerSchema
