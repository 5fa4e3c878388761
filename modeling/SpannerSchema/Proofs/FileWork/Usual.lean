import SpannerSchema.Proofs.FileWork.Runs

/-! Options that are not given. Compiling files takes them from the settings, so it comes to the same when the settings'
    values are given for them: the builder holds those values from the start, and no step up to the description and the
    keys sets another. -/

namespace SpannerSchema

/-- The files of a table with every option given, those of the settings where there was none. -/
def TableFiles.filled (s : Settings) (t : TableFiles) : TableFiles :=
  { t with
    idName := some (t.idName.getD s.idName)
    synthesis := some (t.synthesis.getD s.synthesis)
    terminated := some (t.terminated.getD s.terminated)
    mode := some (t.mode.getD s.mode.text) }

namespace Builder

variable {s : Settings} {b b' : Builder} {v : Value}

theorem chooseMode_text (m : IndexMode) (s : Settings) : chooseMode (some m.text) s = .ok m := by
  cases m <;> rfl

theorem chooseMode_getD (mode : Option String) (s : Settings) :
    chooseMode (some (mode.getD s.mode.text)) s = chooseMode mode s := by
  cases mode with
  | none => exact chooseMode_text s.mode s
  | some name => rfl

/-- A builder whose options are still those of the settings. -/
structure AsUsual (s : Settings) (b : Builder) : Prop where
  idName : b.idName = .text s.idName
  synthesis : b.synthesis = .bool s.synthesis
  terminated : b.terminated = .bool s.terminated

theorem asUsual_new {mode : Option String} (h : new none mode s = .ok b) : AsUsual s b := by
  unfold new at h
  obtain ⟨m, -, rfl⟩ : ∃ m, chooseMode mode s = .ok m ∧ _ = b := by
    cases hm : chooseMode mode s with
    | error f => simp [hm, Except.map] at h
    | ok m => exact ⟨m, rfl, by simpa [hm, Except.map] using h⟩
  exact ⟨rfl, rfl, rfl⟩

theorem AsUsual.setTable (hb : AsUsual s b) {name : String} (h : b.setTable (.text name) = .ok b') : AsUsual s b' := by
  cases h
  exact ⟨hb.idName, hb.synthesis, hb.terminated⟩

theorem AsUsual.setColumns (hb : AsUsual s b) (h : b.setColumns v = .ok b') : AsUsual s b' := by
  unfold Builder.setColumns at h
  split at h
  · cases h
    exact ⟨hb.idName, hb.synthesis, hb.terminated⟩
  · cases h

theorem AsUsual.setKeys (hb : AsUsual s b) (h : b.setKeys v = .ok b') : AsUsual s b' := by
  unfold Builder.setKeys at h
  split at h
  · cases h
    exact ⟨hb.idName, hb.synthesis, hb.terminated⟩
  · cases h

/-- The builder with the options that are given for the table set. -/
def withOptions (t : TableFiles) (b : Builder) : Builder :=
  { b with
    idName := (t.idName.map Value.text).getD b.idName
    synthesis := (t.synthesis.map Value.bool).getD b.synthesis
    terminated := (t.terminated.map Value.bool).getD b.terminated }

theorem AsUsual.withOptions_filled (hb : AsUsual s b) (t : TableFiles) : withOptions (t.filled s) b = withOptions t b := by
  unfold withOptions TableFiles.filled
  rw [hb.idName, hb.synthesis, hb.terminated]
  cases t.idName <;> cases t.synthesis <;> cases t.terminated <;> rfl

end Builder

namespace FileWork

variable {α β : Type} {m : FileWork α} {k k' : α → FileWork β} {P : α → Prop} {Q : β → Prop}

/-- Does `P` hold of all that a piece of work comes to? -/
def Yields (P : α → Prop) (m : FileWork α) : Prop := ∀ d a d', m.run.run d = (.ok a, d') → P a

namespace Yields

theorem pure {a : α} (h : P a) : Yields P (pure a : FileWork α) := by
  intro d a' d' hrun
  cases hrun
  exact h

theorem ofExcept {x : Except Failure α} (h : ∀ a, x = .ok a → P a) : Yields P (ofExcept x) := by
  intro d a d' hrun
  rw [run_ofExcept] at hrun
  exact h a (congrArg Prod.fst hrun)

theorem bind (hm : Yields P m) (hk : ∀ a, P a → Yields Q (k a)) : Yields Q (m >>= k) := by
  intro d b d' hrun
  rw [run_bind] at hrun
  rcases hrun' : m.run.run d with ⟨_ | a, d₁⟩
  · rw [hrun'] at hrun
    cases hrun
  · rw [hrun'] at hrun
    exact hk a (hm d a d₁ hrun') d₁ b d' hrun

theorem bind_any (hk : ∀ a, Yields Q (k a)) : Yields Q (m >>= k) :=
  bind (P := fun _ => True) (fun _ _ _ _ => trivial) fun a _ => hk a

/-- What follows needs to agree only on what the work comes to. -/
theorem bind_congr (hm : Yields P m) (hk : ∀ a, P a → k a = k' a) : m >>= k = m >>= k' := by
  refine ExceptT.ext (StateT.ext fun d => ?_)
  rw [run_bind, run_bind]
  rcases hrun : m.run.run d with ⟨_ | a, d'⟩
  · rfl
  · exact congrArg (fun work => work.run.run d') (hk a (hm d a d' hrun))

end Yields

/-- The builder with all that the files of a table say. -/
def gather (s : Settings) (t : TableFiles) : FileWork Builder := do
  let b ← ofExcept (Builder.new none t.mode s)
  let b ← ofExcept (b.setTable (.text t.table))
  let rows ← loadRows t.described
  let b ← ofExcept (b.setColumns (.list rows))
  match t.keys with
  | none => pure b
  | some keys => do
    let rows ← loadRows keys
    ofExcept (b.setKeys (.list rows))

theorem compileFiles_eq (s : Settings) (t : TableFiles) :
    compileFiles s t = gather s t >>= fun b => ofExcept (b.withOptions t).toSchema.2 := by
  unfold compileFiles gather
  cases t.keys <;> simp only [bind_assoc] <;> rfl

theorem yields_gather (s : Settings) (t : TableFiles) : Yields (Builder.AsUsual s) (gather s t) := by
  unfold gather
  refine .bind (.ofExcept fun b => Builder.asUsual_new) fun b hb => ?_
  refine .bind (.ofExcept fun b' => hb.setTable) fun b hb => .bind_any fun rows => ?_
  refine .bind (.ofExcept fun b' => hb.setColumns) fun b hb => ?_
  cases t.keys with
  | none => exact .pure hb
  | some keys => exact .bind_any fun rows => .ofExcept fun b' => hb.setKeys

theorem gather_filled (s : Settings) (t : TableFiles) : gather s (t.filled s) = gather s t := by
  have hmode : Builder.new none (t.filled s).mode s = Builder.new none t.mode s :=
    congrArg (Except.map _) (Builder.chooseMode_getD t.mode s)
  unfold gather
  rw [hmode]
  rfl

theorem compileFiles_filled (s : Settings) (t : TableFiles) : compileFiles s (t.filled s) = compileFiles s t := by
  rw [compileFiles_eq, compileFiles_eq, gather_filled]
  exact (yields_gather s t).bind_congr fun b hb => by rw [hb.withOptions_filled]

end FileWork
end SpannerSchema
