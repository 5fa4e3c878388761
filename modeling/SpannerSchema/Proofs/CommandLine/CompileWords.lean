import SpannerSchema.CommandLine
import SpannerSchema.Proofs.FileWork.Usual

/-! A compile command in words. The options of a table can be given as data or as words of a command line; the words are
    read back as the command for that data, so that what is shown for them is what the files compile to. -/

namespace SpannerSchema

/-- The options of a table as a user has them: paths are texts, and a mode is one that there is. -/
structure TableOptions where
  described : String
  keys : Option String := none
  table : String
  idName : Option String := none
  synthesis : Option Bool := none
  terminated : Option Bool := none
  mode : Option IndexMode := none
deriving Repr

namespace TableOptions

def files (o : TableOptions) : TableFiles where
  described := Path.ofText o.described
  keys := o.keys.map Path.ofText
  table := o.table
  idName := o.idName
  synthesis := o.synthesis
  terminated := o.terminated
  mode := o.mode.map IndexMode.text

/-- A switch with its value, if there is one. -/
def given (word : String) : Option String → List String
  | none => []
  | some value => [word, value]

/-- One of the switches of a pair, if there is a choice. -/
def chosen (on off : String) : Option Bool → List String
  | none => []
  | some true => [on]
  | some false => [off]

/-- The command line that shows the statements of the table. The name of the table comes after two dashes, since it may
look like a switch. -/
def words (o : TableOptions) : List String :=
  "compile" :: (given "--described" (some o.described) ++ (given "--keys" o.keys ++ (given "--default-id" o.idName ++
    (chosen "--assign-pk" "--no-pk" o.synthesis ++ (chosen "--semicolon" "--no-semicolon" o.terminated ++
      (given "--mul-without-reference" (o.mode.map IndexMode.text) ++ ["--stdout", "--", o.table]))))))

end TableOptions

namespace CommandLine

variable {spelling : Spelling} {word on off : String} {switch : Switch} {pair : Bool → Switch} {rest : List String}
  {w : Words} {o : TableOptions} {s : Settings} {ws : Workspace}

/-! ### Reading the words -/

/-- The words with switches before the others. -/
def Words.withSwitches (given : List (Switch × String)) (w : Words) : Words :=
  { w with switches := given ++ w.switches }

/-- The word is a switch of the spelling, and carries no value itself. -/
structure Spells (spelling : Spelling) (word : String) (switch : Switch) : Prop where
  isSwitch : isSwitch word = true
  noDashes : (word == "--") = false
  read : readSwitch spelling word = .ok (switch, none)

theorem scan_given (h : Spells spelling word switch) (hvalue : switch.takesValue = true)
    (hrest : scan spelling true rest = .ok w) (value : Option String) :
    scan spelling true (TableOptions.given word value ++ rest) =
      .ok (w.withSwitches (value.toList.map fun value => (switch, value))) := by
  cases value with
  | none => exact hrest
  | some value =>
    have hscan : scan spelling true (word :: value :: rest) = (scan spelling true rest).map (·.withSwitch switch value) := by
      rw [scan]
      simp only [h.isSwitch, h.noDashes, h.read, hvalue, if_true, Bool.false_eq_true, if_false]
    exact hscan.trans (congrArg (Except.map _) hrest)

theorem scan_flag (h : Spells spelling word switch) (hvalue : switch.takesValue = false)
    (hrest : scan spelling true rest = .ok w) :
    scan spelling true (word :: rest) = .ok (w.withSwitch switch "") := by
  have hscan : scan spelling true (word :: rest) = (scan spelling true rest).map (·.withSwitch switch "") := by
    rw [scan]
    simp only [h.isSwitch, h.noDashes, h.read, hvalue, if_true, Bool.false_eq_true, if_false]
  exact hscan.trans (congrArg (Except.map _) hrest)

theorem scan_chosen (hon : Spells spelling on (pair true)) (hoff : Spells spelling off (pair false))
    (hvalue : ∀ b, (pair b).takesValue = false) (hrest : scan spelling true rest = .ok w) (choice : Option Bool) :
    scan spelling true (TableOptions.chosen on off choice ++ rest) =
      .ok (w.withSwitches (choice.toList.map fun b => (pair b, ""))) := by
  cases choice with
  | none => exact hrest
  | some b =>
    cases b with
    | true => exact scan_flag hon (hvalue true) hrest
    | false => exact scan_flag hoff (hvalue false) hrest

/-- The switches that the options are given by. -/
def switchesOf (o : TableOptions) : List (Switch × String) :=
  (.described, o.described) :: (o.keys.toList.map (fun v => (.keys, v)) ++ (o.idName.toList.map (fun v => (.idName, v)) ++
    (o.synthesis.toList.map (fun b => (.synthesis b, "")) ++ (o.terminated.toList.map (fun b => (.terminated b, "")) ++
      ((o.mode.map IndexMode.text).toList.map (fun v => (.mode, v)) ++ [(.toStdout, "")])))))

theorem scan_words (o : TableOptions) :
    scan compileSpelling true o.words.tail = .ok { switches := switchesOf o, arguments := [o.table] } := by
  have hend : scan compileSpelling true ["--", o.table] = .ok { arguments := [o.table] } := by
    rw [scan]
    rfl
  have hstdout : Spells compileSpelling "--stdout" .toStdout := ⟨by decide, by decide, rfl⟩
  have hmode : Spells compileSpelling "--mul-without-reference" .mode := ⟨by decide, by decide, rfl⟩
  have hon : Spells compileSpelling "--semicolon" (.terminated true) := ⟨by decide, by decide, rfl⟩
  have hoff : Spells compileSpelling "--no-semicolon" (.terminated false) := ⟨by decide, by decide, rfl⟩
  have hassign : Spells compileSpelling "--assign-pk" (.synthesis true) := ⟨by decide, by decide, rfl⟩
  have hno : Spells compileSpelling "--no-pk" (.synthesis false) := ⟨by decide, by decide, rfl⟩
  have hid : Spells compileSpelling "--default-id" .idName := ⟨by decide, by decide, rfl⟩
  have hkeys : Spells compileSpelling "--keys" .keys := ⟨by decide, by decide, rfl⟩
  have hdescribed : Spells compileSpelling "--described" .described := ⟨by decide, by decide, rfl⟩
  exact scan_given hdescribed rfl (scan_given hkeys rfl (scan_given hid rfl (scan_chosen hassign hno (fun _ => rfl)
    (scan_chosen hon hoff (fun _ => rfl) (scan_given hmode rfl (scan_flag hstdout rfl hend) _) _) _) _) _) _

/-! ### The command -/

/-- The words ask to show the statements of the table with its options, in whatever order and however spelled. -/
structure Asks (o : TableOptions) (w : Words) : Prop where
  table : w.arguments = [o.table]
  described : w.value? .described = some o.described
  keys : w.value? .keys = o.keys
  idName : w.value? .idName = o.idName
  synthesis : w.choice? .synthesis = o.synthesis
  terminated : w.choice? .terminated = o.terminated
  mode : w.value? .mode = o.mode.map IndexMode.text
  toStdout : (w.value? .toStdout).isSome = true
  noHelp : w.value? .help = none
  noPath : ∀ switch, switch = .outputDirectory ∨ switch = .rowsFile → w.value? switch = none

section Found
variable {α : Type} {v : Option α} {f : α → Switch × String} {p : Switch × String → Bool}

theorem find?_given (h : ∀ a, p (f a) = true) : (v.toList.map f).reverse.find? p = v.map f := by
  cases v <;> simp [h]

theorem find?_given_of_not (h : ∀ a, p (f a) = false) : (v.toList.map f).reverse.find? p = none := by
  cases v <;> simp [h]

end Found

theorem asks_words (o : TableOptions) : Asks o { switches := switchesOf o, arguments := [o.table] } := by
  constructor
  case table => rfl
  case noPath => rintro switch (rfl | rfl) <;> simp [Words.value?, switchesOf, find?_given_of_not]
  case described | keys | idName | mode | toStdout | noHelp =>
    simp [Words.value?, switchesOf, find?_given, find?_given_of_not, Function.comp_def]
  case synthesis =>
    have hmap : (o.synthesis.map fun b => Switch.synthesis b == Switch.synthesis true) = o.synthesis := by
      rcases o.synthesis with _ | _ | _ <;> rfl
    simpa [Words.choice?, switchesOf, find?_given, find?_given_of_not, Function.comp_def] using hmap
  case terminated =>
    have hmap : (o.terminated.map fun b => Switch.terminated b == Switch.terminated true) = o.terminated := by
      rcases o.terminated with _ | _ | _ <;> rfl
    simpa [Words.choice?, switchesOf, find?_given, find?_given_of_not, Function.comp_def] using hmap

theorem forM_eq_ok {α : Type} {f : α → Except Refusal Unit} {entries : List α} (h : ∀ a ∈ entries, f a = .ok ()) :
    entries.forM f = .ok () := by
  induction entries with
  | nil => rfl
  | cons a entries ih =>
    have hfirst : (a :: entries).forM f = (f a >>= fun _ => entries.forM f) := rfl
    rw [hfirst, h a (by simp)]
    exact ih fun b hb => h b (by simp [hb])

theorem existing_of_isFile {text : String} (h : ws.isFile (Path.ofText text) = true) :
    existing ws text = .ok (Path.ofText text) := by
  have hnul : (Path.ofText text).hasNul = false := by
    refine Bool.eq_false_iff.mpr fun hnul => ?_
    simp [Workspace.isFile, Workspace.read, Workspace.reach, Workspace.pathFault?, hnul] at h
  have hpath : readPath text = .ok (Path.ofText text) := by
    rw [readPath, hnul]
    rfl
  simp [existing, hpath, h, bind, Except.bind, pure, Except.pure]

/-- Every switch that is given has a value that its check lets pass. -/
theorem checkSwitches_of_asks (h : Asks o w) (hfiles : ∀ p ∈ o.files.inputs, ws.isFile p = true) :
    checkSwitches ws w = .ok () := by
  have hdescribed : existing ws o.described = .ok (Path.ofText o.described) :=
    existing_of_isFile (hfiles _ (by simp [TableFiles.inputs, TableOptions.files]))
  refine forM_eq_ok fun entry hentry => ?_
  obtain ⟨switch, value⟩ := entry
  have hgiven : (w.value? switch).isSome = true := by
    simpa [Words.value?] using ⟨value, hentry⟩
  unfold checkSwitch
  cases switch with
  | described =>
    simp only [h.described, Option.getD_some, hdescribed]
    rfl
  | keys =>
    obtain ⟨keys, hkeys⟩ := Option.isSome_iff_exists.mp (h.keys ▸ hgiven)
    have hexists : existing ws keys = .ok (Path.ofText keys) :=
      existing_of_isFile (hfiles _ (by simp [TableFiles.inputs, TableOptions.files, hkeys]))
    simp only [h.keys, hkeys, Option.getD_some, hexists]
    rfl
  | mode =>
    obtain ⟨mode, hmode⟩ := Option.isSome_iff_exists.mp (show o.mode.isSome = true by simpa [h.mode] using hgiven)
    simp only [h.mode, hmode, Option.map_some, Option.getD_some, readMode, IndexMode.ofText?_text]
    rfl
  | outputDirectory => simp [h.noPath .outputDirectory (.inl rfl)] at hgiven
  | rowsFile => simp [h.noPath .rowsFile (.inr rfl)] at hgiven
  | _ => rfl

theorem readCompile_of_asks (h : Asks o w) (hfiles : ∀ p ∈ o.files.inputs, ws.isFile p = true) :
    readCompile s ws w = .ok (.compile (o.files.filled s) none (w.value? .outputFile) true) := by
  have hend : checkEnd w = .ok () := by rw [checkEnd, h.table]
  have hargument : argument w = .ok o.table := by rw [argument, h.table]
  have hrequired : required w .described = .ok o.described := by rw [required, h.described]
  have hkeys : w.path? .keys = o.files.keys := by rw [Words.path?, h.keys]; rfl
  have hdirectory : w.path? .outputDirectory = none := by rw [Words.path?, h.noPath _ (.inl rfl)]; rfl
  rw [readCompile, checkSwitches_of_asks h hfiles, hargument, hrequired, hend, hkeys, hdirectory, h.idName, h.synthesis,
    h.terminated, h.mode, h.toStdout]
  rfl

/-- A command line that shows the statements of the table with its options. -/
def AsksFor (o : TableOptions) (line : List String) : Prop :=
  ∃ rest w, line = "compile" :: rest ∧ scan compileSpelling true rest = .ok w ∧ Asks o w

theorem asksFor_words (o : TableOptions) : AsksFor o o.words :=
  ⟨_, _, rfl, scan_words o, asks_words o⟩

/-- The level of messages in the settings is one that there is. -/
def KnowsLevel (s : Settings) : Prop := String.ofList (Text.upper s.logLevel.toList) ∈ levels

theorem run_of_asksFor {line : List String} (hlevel : KnowsLevel s) (h : AsksFor o line)
    (hfiles : ∀ p ∈ o.files.inputs, ws.isFile p = true) :
    run s ws line = finish ws (FileWork.compileFiles s o.files) Schema.toSql := by
  obtain ⟨rest, w, rfl, hscan, h⟩ := h
  have hglobal : scan globalSpelling false ("compile" :: rest) = .ok { arguments := "compile" :: rest } := by
    rw [scan]
    rfl
  have hread : readWith compileSpelling rest (readCompile s ws) =
      .ok (some (.compile (o.files.filled s) none (w.value? .outputFile) true)) := by
    rw [readWith, hscan]
    simp only [h.noHelp, Option.isSome_none, Bool.false_eq_true, if_false, readCompile_of_asks h hfiles]
    rfl
  have hcommand : (commands s ws).lookup "compile" =
      some fun words => readWith compileSpelling words (readCompile s ws) := rfl
  have hgiven (switch : Switch) : Words.value? { arguments := "compile" :: rest } switch = none := rfl
  have hknown : levels.contains (String.ofList (Text.upper s.logLevel.toList)) = true := List.contains_iff_mem.mpr hlevel
  rw [run, hglobal]
  simp only [hcommand, hread, hgiven, Option.isSome_none, Option.getD_none, hknown, Bool.not_true, Bool.false_eq_true,
    if_false]
  rw [Command.run, if_pos rfl, FileWork.compileFiles_filled]

end CommandLine
end SpannerSchema
