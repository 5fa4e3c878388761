import SpannerSchema.Workspace

/-! How the files around a working directory change. Making a directory only adds directories where nothing stood, so
    every path that led somewhere still leads there, and no file is new or holds something else. Writing a file changes
    the one entry at the end of its path. A walk asks for directories only, so it does not see that entry. -/

namespace SpannerSchema
namespace Workspace

variable {w w' after : Workspace} {p : Path} {names other here steps : List String} {content : ByteArray} {e : Entry}

/-! ### Entries -/

/-- The list `entries` with the entry under `names` replaced. -/
def replaced (names : List String) (e : Entry) (entries : List (List String × Entry)) : List (List String × Entry) :=
  entries.map fun f => if f.1 == names then (names, e) else f

section Replaced
variable {entries : List (List String × Entry)} {key : List String} {held : Entry}

theorem replaced_cons_self : replaced names e ((names, held) :: entries) = (names, e) :: replaced names e entries := by
  simp [replaced]

theorem replaced_cons_of_ne (h : key ≠ names) :
    replaced names e ((key, held) :: entries) = (key, held) :: replaced names e entries := by
  simp [replaced, h]

theorem lookup_replaced (h : ∃ f ∈ entries, f.1 = names) : (replaced names e entries).lookup names = some e := by
  induction entries with
  | nil => simp at h
  | cons f fs ih =>
    obtain ⟨key, held⟩ := f
    by_cases hf : key = names
    · rw [hf, replaced_cons_self, List.lookup_cons, beq_self_eq_true]
    · have hrest : ∃ g ∈ fs, g.1 = names := by simpa [hf] using h
      rw [replaced_cons_of_ne hf, List.lookup_cons, beq_false_of_ne (Ne.symm hf)]
      exact ih hrest

theorem lookup_replaced_of_ne (hne : other ≠ names) : (replaced names e entries).lookup other = entries.lookup other := by
  induction entries with
  | nil => rfl
  | cons f fs ih =>
    obtain ⟨key, held⟩ := f
    by_cases hf : key = names
    · rw [hf, replaced_cons_self, List.lookup_cons, List.lookup_cons, beq_false_of_ne hne]
      exact ih
    · rw [replaced_cons_of_ne hf, List.lookup_cons, List.lookup_cons, ih]

end Replaced

theorem lookup_insert (w : Workspace) (names other : List String) (e : Entry) :
    (w.insert names e).entries.lookup other = if other = names then some e else w.entries.lookup other := by
  unfold insert
  split
  · next hmem =>
    have hheld : ∃ f ∈ w.entries, f.1 = names := by simpa using hmem
    split
    · next ho =>
      subst ho
      exact lookup_replaced hheld
    · next ho => exact lookup_replaced_of_ne ho
  · next hmem =>
    have hnew : w.entries.lookup names = none := by
      rw [List.lookup_eq_none_iff]
      intro f hf
      have hne : f.1 ≠ names := by
        intro h
        exact hmem (List.any_eq_true.mpr ⟨f, hf, beq_iff_eq.mpr h⟩)
      simpa using hne.symm
    rw [List.lookup_append]
    split
    · next ho => simp [ho, hnew]
    · next ho => simp [List.lookup_cons, beq_false_of_ne ho]

theorem entry?_of_isAnchor (h : names.all isAnchor = true) : w.entry? names = some .directory := if_pos h

theorem entry?_insert_self (h : w.entry? names ≠ some .directory) : entry? (w.insert names e) names = some e := by
  have hplain : ¬names.all isAnchor = true := fun hall => h (entry?_of_isAnchor hall)
  unfold entry?
  rw [if_neg hplain, lookup_insert, if_pos rfl]

theorem entry?_insert_of_ne (hne : other ≠ names) : entry? (w.insert names e) other = w.entry? other := by
  unfold entry?
  rw [lookup_insert, if_neg hne]

/-! ### Walks -/

/-- A walk asks only for directories. -/
theorem walk_of_directories
    (hdir : ∀ names, w.entry? names = some .directory → after.entry? names = some .directory)
    (h : w.walk here steps = .ok names) : after.walk here steps = .ok names := by
  induction steps generalizing here with
  | nil => exact h
  | cons step steps ih =>
    rw [walk] at h ⊢
    cases he : w.entry? here with
    | none =>
      rw [he] at h
      cases h
    | some found =>
      cases found with
      | file content =>
        rw [he] at h
        cases h
      | directory =>
        rw [hdir here he]
        rw [he] at h
        dsimp only at h ⊢
        split at h
        · next hup => rw [if_pos hup]; exact ih h
        · next hup =>
          rw [if_neg hup]
          split at h
          · cases h
          · next hlong =>
            rw [if_neg hlong]
            split at h
            · next hstep => rw [if_pos hstep]; exact ih h
            · next hstep => rw [if_neg hstep]; exact ih h

theorem reach_of_directories
    (hdir : ∀ names, w.entry? names = some .directory → after.entry? names = some .directory)
    (h : w.reach p = .ok names) : after.reach p = .ok names := by
  unfold reach at h ⊢
  cases hp : pathFault? p with
  | some fault =>
    rw [hp] at h
    cases h
  | none =>
    rw [hp] at h
    exact walk_of_directories hdir h

theorem read_eq_ok_iff : w.read p = .ok content ↔ ∃ names, w.reach p = .ok names ∧ w.entry? names = some (.file content) := by
  unfold read
  cases hr : w.reach p with
  | error fault => simp
  | ok names =>
    cases he : w.entry? names with
    | none => simp [he]
    | some found => cases found <;> simp [he]

/-! ### Growth -/

/-- What stands in `w` stands in `after` too, and what is new there is a directory. -/
structure Grows (w after : Workspace) : Prop where
  kept : ∀ names e, w.entry? names = some e → after.entry? names = some e
  files : ∀ names content, after.entry? names = some (.file content) → w.entry? names = some (.file content)

namespace Grows

theorem refl (w : Workspace) : Grows w w := ⟨fun _ _ h => h, fun _ _ h => h⟩

theorem trans (h : Grows w w') (h' : Grows w' after) : Grows w after where
  kept names e he := h'.kept names e (h.kept names e he)
  files names content hf := h.files names content (h'.files names content hf)

theorem directories (h : Grows w after) (names : List String) (he : w.entry? names = some .directory) :
    after.entry? names = some .directory := h.kept names .directory he

theorem entry?_file (h : Grows w after) (names : List String) (content : ByteArray) :
    after.entry? names = some (.file content) ↔ w.entry? names = some (.file content) :=
  ⟨h.files names content, h.kept names (.file content)⟩

/-- A file that could be read is read as before. -/
theorem read (h : Grows w after) (hr : w.read p = .ok content) : after.read p = .ok content := by
  obtain ⟨names, hreach, he⟩ := read_eq_ok_iff.mp hr
  exact read_eq_ok_iff.mpr ⟨names, reach_of_directories h.directories hreach, h.kept names _ he⟩

theorem readText (h : Grows w after) {text : String} (hr : w.readText p = .ok text) : after.readText p = .ok text := by
  unfold Workspace.readText at hr ⊢
  cases hread : w.read p with
  | error fault =>
    rw [hread] at hr
    cases hr
  | ok content =>
    rw [hread] at hr
    rw [h.read hread]
    exact hr

end Grows

/-- A new directory. -/
theorem grows_insert_directory (h : w.entry? names = none) : Grows w (w.insert names .directory) where
  kept other e he := by
    have hne : other ≠ names := by
      rintro rfl
      rw [h] at he
      cases he
    rw [entry?_insert_of_ne hne, he]
  files other content hf := by
    by_cases ho : other = names
    · subst ho
      rw [entry?_insert_self (by rw [h]; simp)] at hf
      cases hf
    · rwa [entry?_insert_of_ne ho] at hf

theorem grows_makeStep (w : Workspace) (start steps : List String) : Grows w (w.makeStep start steps) := by
  unfold makeStep
  cases w.walk start steps with
  | error fault => exact .refl w
  | ok names =>
    dsimp only
    split
    · exact .refl w
    · next hnone => exact grows_insert_directory (by simpa using hnone)

theorem grows_makeDirectory (h : w.makeDirectory p = .ok after) : Grows w after := by
  have hsteps (lengths : List Nat) (w : Workspace) :
      Grows w (lengths.foldl (fun w n => w.makeStep p.start (p.names.take n)) w) := by
    induction lengths generalizing w with
    | nil => exact .refl w
    | cons n lengths ih => exact (grows_makeStep w p.start (p.names.take n)).trans (ih _)
  unfold makeDirectory at h
  cases hp : pathFault? p with
  | some fault =>
    rw [hp] at h
    cases h
  | none =>
    rw [hp] at h
    dsimp only at h
    split at h
    · cases h
    · split at h
      · cases h
      · cases h
        exact hsteps _ w

/-! ### Writing -/

/-- The entry at the end of the path `p` is a file with `content` in `after`; all others are those of `w`. -/
structure Wrote (w after : Workspace) (p : Path) (content : ByteArray) : Prop where
  read : after.read p = .ok content
  others : ∃ names, after.reach p = .ok names ∧ ∀ other, other ≠ names → after.entry? other = w.entry? other

theorem wrote_of_write (h : w.write p content = .ok after) : Wrote w after p content := by
  unfold write at h
  cases hr : w.reach p with
  | error fault =>
    rw [hr] at h
    cases h
  | ok names =>
    rw [hr] at h
    dsimp only at h
    split at h
    · cases h
    · next hfile =>
      split at h
      · cases h
        have hdirs : ∀ other, w.entry? other = some .directory →
            entry? (w.insert names (.file content)) other = some .directory := by
          intro other ho
          have hne : other ≠ names := by
            rintro rfl
            exact hfile ho
          rw [entry?_insert_of_ne hne, ho]
        have hreach := reach_of_directories hdirs hr
        exact ⟨read_eq_ok_iff.mpr ⟨names, hreach, entry?_insert_self hfile⟩, names, hreach,
          fun other hne => entry?_insert_of_ne hne⟩
      · cases h

/-- Whether a file can be written does not depend on what is written. -/
theorem write_eq_ok_of_write (h : w.write p content = .ok after) (content' : ByteArray) :
    ∃ after', w.write p content' = .ok after' := by
  unfold write at h ⊢
  cases hr : w.reach p with
  | error fault =>
    rw [hr] at h
    cases h
  | ok names =>
    rw [hr] at h
    dsimp only at h ⊢
    split at h
    · cases h
    · next hfile =>
      split at h
      · next hparent =>
        rw [if_pos hparent]
        exact ⟨_, rfl⟩
      · cases h

end Workspace
end SpannerSchema
