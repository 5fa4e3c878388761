import SpannerSchema.Builder

/-! Calls of a builder. A setter reads its argument without a look at the builder, and what it reads is put into one
    field; a setter that fails puts nothing. Asking for the request or for the statements leaves every field as it is,
    and the compiler below keeps its mode. So after any calls a field holds what the last call of its own setter that
    succeeded has read, and the statements are those of a new compiler for what the fields hold. -/

namespace SpannerSchema
namespace Builder

/-! ### Fields -/

inductive Field where
  | table
  | columns
  | keys
  | idName
  | synthesis
  | terminated
deriving DecidableEq, Repr

namespace Field

abbrev Content : Field → Type
  | columns => List Column
  | keys => List KeyUsage
  | table | idName | synthesis | terminated => Value

end Field

def content (b : Builder) : (f : Field) → f.Content
  | .table => b.table
  | .columns => b.columns
  | .keys => b.keys
  | .idName => b.idName
  | .synthesis => b.synthesis
  | .terminated => b.terminated

/-- What a field holds before it is set. -/
def usual (s : Settings) : (f : Field) → f.Content
  | .table => .null
  | .columns => []
  | .keys => []
  | .idName => .text s.idName
  | .synthesis => .bool s.synthesis
  | .terminated => .bool s.terminated

def put (b : Builder) : (f : Field) → f.Content → Builder
  | .table, x => { b with table := x }
  | .columns, x => { b with columns := x }
  | .keys, x => { b with keys := x }
  | .idName, x => { b with idName := x }
  | .synthesis, x => { b with synthesis := x }
  | .terminated, x => { b with terminated := x }

section
variable {b : Builder} {f g : Field}

@[simp] theorem compiler_put (x : f.Content) : (b.put f x).compiler = b.compiler := by
  cases f <;> rfl

@[simp] theorem content_put (x : f.Content) : (b.put f x).content f = x := by
  cases f <;> rfl

theorem content_put_of_ne (hne : f ≠ g) (x : f.Content) : (b.put f x).content g = b.content g := by
  revert hne
  cases f <;> cases g <;> simp [put, content]

theorem put_comm (hne : f ≠ g) (x : f.Content) (y : g.Content) : (b.put f x).put g y = (b.put g y).put f x := by
  revert hne
  cases f <;> cases g <;> simp [put]

end

/-! ### Calls -/

/-- What the setter of a field makes of its argument, whatever the builder holds. -/
def accept : (f : Field) → Value → Except Failure f.Content
  | .table, .text s => .ok (.text (String.ofList (Text.lower s.toList)))
  | .table, .bytes bs => .ok (.bytes (bs.map lowerByte))
  | .table, _ => .error .nameNotText
  | .columns, rows => (Rows.columns rows).mapError .rows
  | .keys, rows => (Rows.keyUsage rows).mapError .rows
  | .idName, v | .synthesis, v | .terminated, v => .ok v

def set (b : Builder) : Field → Value → Except Failure Builder
  | .table, v => b.setTable v
  | .columns, v => b.setColumns v
  | .keys, v => b.setKeys v
  | .idName, v => .ok (b.setIdName v)
  | .synthesis, v => .ok (b.setSynthesis v)
  | .terminated, v => .ok (b.setTerminated v)

theorem set_eq (b : Builder) (f : Field) (v : Value) : b.set f v = (accept f v).map (b.put f) := by
  cases f with
  | table => cases v <;> rfl
  | columns =>
    simp only [set, setColumns, accept]
    cases Rows.columns v <;> rfl
  | keys =>
    simp only [set, setKeys, accept]
    cases Rows.keyUsage v <;> rfl
  | idName => rfl
  | synthesis => rfl
  | terminated => rfl

/-- A setter succeeds with what it makes of its argument in its field. -/
theorem accept_eq_ok_iff (b : Builder) (f : Field) (v : Value) (x : f.Content) :
    accept f v = .ok x ↔ ∃ b', b.set f v = .ok b' ∧ b'.content f = x := by
  rw [set_eq]
  constructor
  · intro h
    exact ⟨b.put f x, by rw [h]; rfl, content_put x⟩
  · rintro ⟨b', hb, rfl⟩
    cases h : accept f v with
    | error e =>
      rw [h] at hb
      cases hb
    | ok x =>
      rw [h] at hb
      cases hb
      rw [content_put]

inductive Call where
  | set (f : Field) (argument : Value)
  | request
  | toSchema
deriving Repr

inductive Answer where
  | done
  | request (r : BuildRequest)
  | schema (s : Schema)
deriving Repr

/-- The builder after a call, with the answer. A call that fails in a setter leaves the builder to be called again. -/
def call (b : Builder) : Call → Builder × Except Failure Answer
  | .set f v =>
    match b.set f v with
    | .ok b' => (b', .ok .done)
    | .error e => (b, .error e)
  | .request => (b, b.request.map .request)
  | .toSchema => (b.toSchema.1, b.toSchema.2.map .schema)

def callAll (b : Builder) (calls : List Call) : Builder := calls.foldl (fun b u => (b.call u).1) b

/-- What a call gives to a field: what the setter of the field makes of its argument, if it succeeds. -/
def given? (f : Field) : Call → Option f.Content
  | .set g v => if g = f then (accept f v).toOption else none
  | .request | .toSchema => none

def lastGiven? (f : Field) (calls : List Call) : Option f.Content := calls.reverse.findSome? (given? f)

/-! ### One call -/

section
variable (b : Builder) (f : Field) (v : Value) (u : Call)

theorem call_set_of_ok {x : f.Content} (h : accept f v = .ok x) : b.call (.set f v) = (b.put f x, .ok .done) := by
  simp only [call, set_eq, h, Except.map]

theorem call_set_of_error {e : Failure} (h : accept f v = .error e) : b.call (.set f v) = (b, .error e) := by
  simp only [call, set_eq, h, Except.map]

/-- The answer of a setter does not depend on the builder. -/
theorem answer_call_set : (b.call (.set f v)).2 = (accept f v).map fun _ => .done := by
  cases h : accept f v with
  | ok x => rw [call_set_of_ok b f v h]; rfl
  | error e => rw [call_set_of_error b f v h]; rfl

theorem content_toSchema : b.toSchema.1.content f = b.content f := by
  unfold toSchema
  split
  · rfl
  · cases f <;> rfl

theorem content_call : (b.call u).1.content f = (given? f u).getD (b.content f) := by
  cases u with
  | request => rfl
  | toSchema => exact content_toSchema b f
  | set g v =>
    -- The setter of another field leaves this one alone whether it fails or not.
    by_cases hg : g = f
    · subst hg
      cases h : accept g v with
      | ok x => simp [call_set_of_ok b g v h, given?, h, Except.toOption]
      | error e => simp [call_set_of_error b g v h, given?, h, Except.toOption]
    · rw [given?, if_neg hg]
      cases h : accept g v with
      | ok x => rw [call_set_of_ok b g v h]; exact content_put_of_ne hg x
      | error e => rw [call_set_of_error b g v h]; rfl

/-- A call that fails, and a call that sets nothing, leave every field as it was. -/
theorem content_call_of_error_or_reading
    (h : (∃ e, (b.call u).2 = .error e) ∨ u = .request ∨ u = .toSchema) : (b.call u).1.content f = b.content f := by
  rcases h with ⟨e, he⟩ | rfl | rfl
  · cases u with
    | request => rfl
    | toSchema => exact content_toSchema b f
    | set g v =>
      cases h : accept g v with
      | error e' => rw [call_set_of_error b g v h]
      | ok x =>
        rw [call_set_of_ok b g v h] at he
        cases he
  · rfl
  · exact content_toSchema b f

theorem call_set_comm {f g : Field} (hne : f ≠ g) (v w : Value) :
    ((b.call (.set f v)).1.call (.set g w)).1 = ((b.call (.set g w)).1.call (.set f v)).1 := by
  cases hf : accept f v with
  | error e => rw [call_set_of_error _ f v hf, call_set_of_error _ f v hf]
  | ok x =>
    cases hg : accept g w with
    | error e => rw [call_set_of_error _ g w hg, call_set_of_error _ g w hg]
    | ok y =>
      rw [call_set_of_ok _ f v hf, call_set_of_ok _ f v hf, call_set_of_ok _ g w hg, call_set_of_ok _ g w hg]
      exact put_comm hne x y

end

/-! ### Runs -/

theorem lastGiven?_cons (f : Field) (u : Call) (calls : List Call) :
    lastGiven? f (u :: calls) = (lastGiven? f calls).or (given? f u) := by
  have hone : [u].findSome? (given? f) = given? f u := by
    rw [List.findSome?_cons]
    cases given? f u <;> rfl
  rw [lastGiven?, List.reverse_cons, List.findSome?_append, hone, lastGiven?]

/-- After any calls a field holds what it was last given, or what it held before them. -/
theorem content_callAll (b : Builder) (calls : List Call) (f : Field) :
    (b.callAll calls).content f = (lastGiven? f calls).getD (b.content f) := by
  induction calls generalizing b with
  | nil => rfl
  | cons u calls ih =>
    have hstep : (b.callAll (u :: calls)).content f = (lastGiven? f calls).getD ((b.call u).1.content f) := ih (b.call u).1
    rw [hstep, content_call, lastGiven?_cons]
    cases lastGiven? f calls <;> rfl

theorem exists_of_lastGiven? {f : Field} {calls : List Call} {x : f.Content} (h : lastGiven? f calls = some x) :
    ∃ v, accept f v = .ok x := by
  obtain ⟨u, -, hu⟩ := List.exists_of_findSome?_eq_some h
  cases u with
  | request => cases hu
  | toSchema => cases hu
  | set g v =>
    simp only [given?] at hu
    split at hu
    · cases ha : accept f v with
      | error e =>
        rw [ha] at hu
        cases hu
      | ok y =>
        rw [ha] at hu
        cases hu
        exact ⟨v, ha⟩
    · cases hu

end Builder

/-! ### Statements -/

namespace BuildRequest

theorem compile_fst (c : Compiler) (r : BuildRequest) : (r.compile c).1 = { mode := c.mode } := by
  unfold compile
  split
  · exact Compiler.compile_fst c _
  · have hfst := Compiler.compile_fst c (r.toCompile "")
    split
    · next hc => rw [hc] at hfst; exact hfst
    · next hc =>
      rw [hc] at hfst
      split <;> exact hfst

/-- A failure of the compiler is not taken for one of a table that is not set. -/
theorem compile_ne_build (c : Compiler) (r : BuildRequest) (e : BuildError) : (r.compile c).2 ≠ .error (.build e) := by
  have hmap (x : Except CompileError Schema) : x.mapError Failure.compile ≠ .error (.build e) := by
    intro h
    cases x <;> cases h
  intro h
  unfold compile at h
  split at h
  · exact hmap _ h
  · split at h
    · cases h
    · split at h <;> cases h

theorem compile_snd_of_text {r : BuildRequest} {name : String} (h : r.idName = .text name) (c : Compiler) :
    (r.compile c).2 = (compileTable c.mode (r.toCompile name)).mapError .compile := by
  unfold compile
  rw [h]
  rfl

end BuildRequest

namespace Builder

/-- Is a name missing or empty? -/
def Nameless (table : Value) : Prop := table = .null ∨ table = .text "" ∨ table = .bytes []

theorem toSchema_of_error {b : Builder} {e : Failure} (h : b.request = .error e) : b.toSchema = (b, .error e) := by
  rw [toSchema, h]

theorem toSchema_of_ok {b : Builder} {r : BuildRequest} (h : b.request = .ok r) :
    b.toSchema = ({ b with compiler := (r.compile b.compiler).1 }, (r.compile b.compiler).2) := by
  rw [toSchema, h]

theorem mode_call (b : Builder) (u : Call) : (b.call u).1.compiler.mode = b.compiler.mode := by
  cases u with
  | request => rfl
  | set f v =>
    cases h : accept f v with
    | ok x => rw [call_set_of_ok b f v h, compiler_put]
    | error e => rw [call_set_of_error b f v h]
  | toSchema =>
    cases h : b.request with
    | error e => rw [call, toSchema_of_error h]
    | ok r =>
      rw [call, toSchema_of_ok h]
      show (r.compile b.compiler).1.mode = b.compiler.mode
      rw [BuildRequest.compile_fst]

theorem mode_callAll (b : Builder) (calls : List Call) : (b.callAll calls).compiler.mode = b.compiler.mode := by
  induction calls generalizing b with
  | nil => rfl
  | cons u calls ih => exact (ih (b.call u).1).trans (mode_call b u)

/-- What a builder asks its compiler for, when nothing is missing. -/
def wanted (b : Builder) : BuildRequest where
  table := b.table
  columns := b.columns
  keys := b.keys
  idName := b.idName
  synthesis := b.synthesis
  terminated := b.terminated

theorem toSchema_of_nil {b : Builder} (h : b.columns = []) : b.toSchema.2 = .error (.build .noDescribedTable) := by
  have hr : b.request = .error (.build .noDescribedTable) := by simp [request, h]
  rw [toSchema_of_error hr]

theorem toSchema_of_not_true {b : Builder} (h : b.columns ≠ []) (ht : b.table.countsAsTrue = false) :
    b.toSchema.2 = .error (.build .noTableName) := by
  have hr : b.request = .error (.build .noTableName) := by simp [request, h, ht]
  rw [toSchema_of_error hr]

theorem toSchema_of_true {b : Builder} (h : b.columns ≠ []) (ht : b.table.countsAsTrue = true) :
    b.toSchema.2 = (b.wanted.compile { mode := b.compiler.mode }).2 := by
  have hr : b.request = .ok b.wanted := by simp [request, wanted, h, ht]
  rw [toSchema_of_ok hr]
  rfl

theorem countsAsTrue_of_accept {v x : Value} (h : accept .table v = .ok x) :
    x.countsAsTrue = false ↔ Nameless x := by
  cases v with
  | text s =>
    cases h
    simp [Value.countsAsTrue, Nameless]
  | bytes bs =>
    cases h
    simp [Value.countsAsTrue, Nameless]
  | _ => cases h

/-- The name that a run leaves is of a kind whose truth tells whether it is missing or empty. -/
theorem countsAsTrue_callAll {b : Builder} (h : b.table = .null) (calls : List Call) :
    (b.callAll calls).table.countsAsTrue = false ↔ Nameless (b.callAll calls).table := by
  have hcontent : (b.callAll calls).table = (lastGiven? .table calls).getD b.table := content_callAll b calls .table
  rw [hcontent]
  cases hl : lastGiven? .table calls with
  | none => simp [h, Value.countsAsTrue, Nameless]
  | some x =>
    obtain ⟨v, hv⟩ := exists_of_lastGiven? hl
    exact countsAsTrue_of_accept hv

/-- The mode of the compiler that a builder is built with. -/
def chosenMode (compiler : Option Compiler) (mode : Option String) (s : Settings) : Except Failure IndexMode :=
  match compiler with
  | some c => .ok c.mode
  | none => chooseMode mode s

theorem new_eq_ok {compiler : Option Compiler} {mode : Option String} {s : Settings} {b : Builder}
    (h : Builder.new compiler mode s = .ok b) :
    chosenMode compiler mode s = .ok b.compiler.mode ∧ ∀ f, b.content f = usual s f := by
  have hcontent {c : Compiler} (f : Field) :
      content ⟨c, .null, [], [], .text s.idName, .bool s.synthesis, .bool s.terminated⟩ f = usual s f := by
    cases f <;> rfl
  cases compiler with
  | some c =>
    cases mode with
    | some name => cases h
    | none =>
      cases h
      exact ⟨rfl, hcontent⟩
  | none =>
    cases hm : chooseMode mode s with
    | error e =>
      simp only [Builder.new, hm] at h
      cases h
    | ok m =>
      simp only [Builder.new, hm] at h
      cases h
      exact ⟨hm, hcontent⟩

/-- What holds of a builder after the calls `calls`, if it was built for the mode `m` with the settings `s`. -/
structure Lasting (m : IndexMode) (s : Settings) (calls : List Call) (b : Builder) : Prop where
  content : ∀ f, b.content f = (lastGiven? f calls).getD (usual s f)
  given : ∀ f v x, accept f v = .ok x ↔ ∃ b', b.set f v = .ok b' ∧ b'.content f = x
  kept : ∀ u, (∃ e, (b.call u).2 = .error e) ∨ u = .request ∨ u = .toSchema → ∀ f, (b.call u).1.content f = b.content f
  commute : ∀ f g v w, f ≠ g → ((b.call (.set f v)).1.call (.set g w)).1 = ((b.call (.set g w)).1.call (.set f v)).1
    ∧ ((b.call (.set f v)).1.call (.set g w)).2 = (b.call (.set g w)).2
  no_columns : b.toSchema.2 = .error (.build .noDescribedTable) ↔ b.columns = []
  no_name : b.toSchema.2 = .error (.build .noTableName) ↔ b.columns ≠ [] ∧ Nameless b.table
  missing : ∀ e, b.toSchema.2 = .error (.build e) → b.columns = [] ∨ Nameless b.table
  fresh : b.columns ≠ [] → ¬Nameless b.table → b.toSchema.2 = (b.wanted.compile { mode := m }).2
  fresh_text : ∀ table idName, b.columns ≠ [] → b.table = .text table → table ≠ "" → b.idName = .text idName →
    b.toSchema.2 = (compileTable m
      { table := table, columns := b.columns, keys := b.keys, idName := idName, synthesis := b.synthesis.countsAsTrue,
        terminated := b.terminated.countsAsTrue }).mapError .compile

/-- Whatever is called, and however often, what was built lasts. -/
theorem lasting_callAll {compiler : Option Compiler} {mode : Option String} {s : Settings} {b : Builder}
    (h : Builder.new compiler mode s = .ok b) :
    ∃ m, chosenMode compiler mode s = .ok m ∧ ∀ calls, Lasting m s calls (b.callAll calls) := by
  obtain ⟨hmode, husual⟩ := new_eq_ok h
  refine ⟨b.compiler.mode, hmode, fun calls => ?_⟩
  have hname := countsAsTrue_callAll (husual .table) calls
  have hm := mode_callAll b calls
  have hcontent (f : Field) : (b.callAll calls).content f = (lastGiven? f calls).getD (usual s f) :=
    husual f ▸ content_callAll b calls f
  -- From here on the run does not matter, only what it leaves.
  generalize b.callAll calls = now at *
  have hfresh (hc : now.columns ≠ []) (hn : ¬Nameless now.table) :
      now.toSchema.2 = (now.wanted.compile { mode := b.compiler.mode }).2 := by
    have ht : now.table.countsAsTrue = true := by
      rw [← hname] at hn
      simpa using hn
    rw [toSchema_of_true hc ht, hm]
  have hmissing (e : BuildError) (he : now.toSchema.2 = .error (.build e)) : now.columns = [] ∨ Nameless now.table := by
    by_cases hc : now.columns = []
    · exact Or.inl hc
    · by_cases hn : Nameless now.table
      · exact Or.inr hn
      · rw [hfresh hc hn] at he
        exact absurd he (BuildRequest.compile_ne_build _ _ _)
  constructor
  case content => exact hcontent
  case given => exact accept_eq_ok_iff now
  case kept => exact fun u hu f => content_call_of_error_or_reading now f u hu
  case commute =>
    intro f g v w hne
    exact ⟨call_set_comm now hne v w, by rw [answer_call_set, answer_call_set]⟩
  case no_columns =>
    refine ⟨fun he => ?_, toSchema_of_nil⟩
    rcases hmissing _ he with hc | hn
    · exact hc
    · by_cases hc : now.columns = []
      · exact hc
      · rw [toSchema_of_not_true hc (hname.mpr hn)] at he
        cases he
  case no_name =>
    refine ⟨fun he => ?_, fun ⟨hc, hn⟩ => toSchema_of_not_true hc (hname.mpr hn)⟩
    have hc : now.columns ≠ [] := fun hc => by
      rw [toSchema_of_nil hc] at he
      cases he
    exact ⟨hc, (hmissing _ he).resolve_left hc⟩
  case missing => exact hmissing
  case fresh => exact hfresh
  case fresh_text =>
    intro table idName hc ht hne hid
    have hn : ¬Nameless now.table := by simp [Nameless, ht, hne]
    have htable : now.wanted.table.display = table := by
      show now.table.display = table
      rw [ht, Value.display]
    rw [hfresh hc hn, BuildRequest.compile_snd_of_text hid, BuildRequest.toCompile, htable]
    rfl

/-- Calls of which two fail, between them a table that is described before it has a name. -/
def shopCalls : List Call :=
  [.set .table (.int 3), .toSchema,
   .set .columns (.list [.described { name := "id", type := "int", nullable := false, key := some "PRI", initial := none,
                                      extra := none },
                         .described { name := "city", type := "varchar(40)", nullable := true, key := some "MUL",
                                      initial := none, extra := some "" }]),
   .toSchema, .set .columns (.list [.null]), .set .table (.text "SHOP"), .set .terminated (.bool false), .toSchema]

theorem lasting_callAll_shop :
    ∃ b, Builder.new none (some "secondary") {} = .ok b ∧ Lasting .secondary {} shopCalls (b.callAll shopCalls) ∧
      (b.callAll shopCalls).toSchema.2.toOption = some
        { tables := ["CREATE TABLE `shop` (\n`id` INT64 NOT NULL,\n`city` STRING(40)\n) PRIMARY KEY (id)"]
          indexes := ["CREATE INDEX `ShopByCity` ON `shop` (`city`)"] } := by
  have hnew : Builder.new none (some "secondary") {} =
      .ok ⟨{ mode := .secondary }, .null, [], [], .text "id", .bool true, .bool true⟩ := rfl
  obtain ⟨m, hm, hlasting⟩ := lasting_callAll hnew
  cases hm
  exact ⟨_, hnew, hlasting shopCalls, by decide +kernel⟩

end Builder
end SpannerSchema
