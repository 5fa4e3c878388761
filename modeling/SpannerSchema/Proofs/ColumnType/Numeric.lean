import SpannerSchema.Proofs.ColumnType.Target
import SpannerSchema.Proofs.Compiler.Parts
import SpannerSchema.Rows.Conversion

/-! Decimal columns. Two paths ask whether a type is decimal: a declaration looks its keyword up and may leave out one
    qualifier at its end, and the conversion of rows leaves out every qualifier of the keyword. No end of the qualifier
    is a start of it, so leaving all of them out of a qualified word is leaving them out of the word, and the two paths
    can differ only on words of the table of keywords. There they agree. -/

namespace SpannerSchema

/-! ### Leaving out the qualifier -/

namespace Keyword

variable {cs : List Char} {c : Char}

theorem withoutUnsigned_unsigned_append (cs : List Char) : withoutUnsigned (unsigned ++ cs) = withoutUnsigned cs := by
  rw [withoutUnsigned, dif_pos (by simp), List.drop_left]

theorem withoutUnsigned_cons (h : ¬unsigned <+: c :: cs) :
    withoutUnsigned (c :: cs) = c :: withoutUnsigned cs := by
  rw [withoutUnsigned, dif_neg (fun hp => h (List.isPrefixOf_iff_prefix.mp hp))]

/-- Before a qualifier at the end, no occurrence of the qualifier reaches over its start. -/
theorem prefix_of_prefix_append_unsigned (hne : cs ≠ []) (h : unsigned <+: cs ++ unsigned) : unsigned <+: cs := by
  obtain ⟨rest, hrest⟩ := h
  rcases List.append_eq_append_iff.mp hrest with ⟨a, rfl, -⟩ | ⟨b, hb, hsuffix⟩
  · exact List.prefix_append _ _
  -- The qualifier is `cs ++ b`, and its end `b` starts the qualifier that follows `cs`.
  · have hborder : ∀ n ≤ unsigned.length, unsigned.drop n <+: unsigned → n = 0 ∨ unsigned.drop n = [] := by decide
    have hdrop : unsigned.drop cs.length = b := by rw [hb, List.drop_left]
    have hle : cs.length ≤ unsigned.length := by rw [hb, List.length_append]; omega
    rcases hborder cs.length hle (hdrop ▸ ⟨rest, hsuffix.symm⟩) with hzero | hnil
    · exact absurd (List.length_eq_zero_iff.mp hzero) hne
    · have heq : unsigned = cs := by rw [hb, ← hdrop, hnil, List.append_nil]
      exact ⟨[], by rw [heq, List.append_nil]⟩

theorem withoutUnsigned_append_unsigned (cs : List Char) :
    withoutUnsigned (cs ++ unsigned) = withoutUnsigned cs := by
  induction cs using withoutUnsigned.induct with
  | case1 cs hp ih =>
    obtain ⟨rest, rfl⟩ := List.isPrefixOf_iff_prefix.mp hp
    rw [List.drop_left] at ih
    rw [List.append_assoc, withoutUnsigned_unsigned_append, withoutUnsigned_unsigned_append, ih]
  | case2 _ =>
    rw [List.nil_append, ← List.append_nil unsigned, withoutUnsigned_unsigned_append]
  | case3 c cs hp ih =>
    rw [List.isPrefixOf_iff_prefix] at hp
    have hp' : ¬unsigned <+: c :: (cs ++ unsigned) := fun h =>
      hp (prefix_of_prefix_append_unsigned (List.cons_ne_nil c cs) h)
    rw [List.cons_append, withoutUnsigned_cons hp', withoutUnsigned_cons hp, ih]

end Keyword

/-! ### One type -/

namespace TypeKind

variable {keyword : String} {kind : TypeKind} {size initial : Option String} {t : TargetType}

theorem mem_of_named? (h : named? keyword = some kind) : (keyword, kind) ∈ keywords := by
  obtain ⟨_, _, hsplit, -⟩ := List.lookup_eq_some_iff.mp h
  rw [hsplit]
  exact List.mem_append_right _ List.mem_cons_self

theorem named_iff_decimal (h : named? keyword = some kind) :
    kind = numeric ↔ Keyword.withoutUnsigned keyword.toList = "decimal".toList := by
  have htable : ∀ e ∈ keywords, e.2 = numeric ↔ Keyword.withoutUnsigned e.1.toList = "decimal".toList := by
    decide +kernel
  exact htable _ (mem_of_named? h)

theorem eq_of_unqualified? {base : String} (h : unqualified? keyword = some base) :
    keyword.toList = base.toList ++ Keyword.unsigned := by
  unfold unqualified? at h
  dsimp only at h
  split at h
  · next hs =>
    cases h
    obtain ⟨front, hfront⟩ := List.isSuffixOf_iff_suffix.mp hs
    rw [String.toList_ofList, ← hfront, List.length_append, Nat.add_sub_cancel, List.take_left]
  · cases h

/-- A keyword that has a kind is of decimal kind if it is the word for decimals without its qualifiers. -/
theorem resolve_iff_decimal (h : resolve? keyword = some kind) :
    kind = numeric ↔ Keyword.withoutUnsigned keyword.toList = "decimal".toList := by
  unfold resolve? at h
  split at h
  · next hn =>
    cases h
    exact named_iff_decimal hn
  · obtain ⟨base, hbase, hn⟩ := Option.bind_eq_some_iff.mp h
    rw [eq_of_unqualified? hbase, Keyword.withoutUnsigned_append_unsigned]
    exact named_iff_decimal hn

theorem fragment_ne_of_sized {head s : String} (hhead : head ∈ TargetType.heads) : head ++ s ++ ")" ≠ "NUMERIC" := by
  intro h
  have hl := congrArg String.toList h
  simp only [TargetType.heads, List.mem_cons, List.not_mem_nil, or_false] at hhead
  rcases hhead with rfl | rfl <;> simp at hl

theorem exists_of_stringOf (size : Option String) : ∃ s, stringOf size = "STRING(" ++ s ++ ")" := by
  have husual : "STRING(255)" = "STRING(" ++ "255" ++ ")" := by decide +kernel
  unfold stringOf
  cases size with
  | none => exact ⟨"255", husual⟩
  | some s =>
    dsimp only
    split
    · exact ⟨"255", husual⟩
    · exact ⟨s, rfl⟩

theorem exists_of_bytesOf {usual : Int} {fragment : String} (h : bytesOf size usual = .ok fragment) :
    ∃ s, fragment = "BYTES(" ++ s ++ ")" := by
  unfold bytesOf at h
  cases size with
  | none =>
    cases h
    exact ⟨_, rfl⟩
  | some s =>
    dsimp only at h
    split at h
    · cases h
      exact ⟨_, rfl⟩
    · split at h
      · cases h
        exact ⟨_, rfl⟩
      · cases h

/-- Only the decimal kind is written as the decimal type. -/
theorem fragment_eq_iff_of_render (h : kind.render size initial = .ok t) : t.fragment = "NUMERIC" ↔ kind = numeric := by
  have hother {fragment : String} {options : Option String} (hk : kind ≠ numeric) (hf : fragment ≠ "NUMERIC") :
      TargetType.fragment ⟨fragment, options⟩ = "NUMERIC" ↔ kind = numeric :=
    ⟨fun heq => absurd heq hf, fun heq => absurd heq hk⟩
  have hbytes {usual : Int} (hk : kind ≠ numeric) (hb : (bytesOf size usual).map (⟨·, none⟩) = Except.ok t) :
      t.fragment = "NUMERIC" ↔ kind = numeric := by
    obtain ⟨fragment, hf, rfl⟩ := exists_of_map_eq_ok hb
    obtain ⟨s, rfl⟩ := exists_of_bytesOf hf
    exact hother hk (fragment_ne_of_sized (by decide))
  cases kind with
  | numeric =>
    cases h
    exact ⟨fun _ => rfl, fun _ => rfl⟩
  | blob => exact hbytes (by decide) h
  | tinyblob => exact hbytes (by decide) h
  | bytes => exact hbytes (by decide) h
  | string =>
    cases h
    obtain ⟨s, hs⟩ := exists_of_stringOf size
    exact hother (by decide) (hs ▸ fragment_ne_of_sized (by decide))
  | tinyint =>
    cases h
    cases isOne size <;> exact hother (by decide) (by decide)
  | _ =>
    cases h
    exact hother (by decide) (by decide)

end TypeKind

/-- A type that has a target is written as the decimal type if and only if its values are converted. -/
theorem SourceType.fragment_eq_iff_isNumeric {type : String} {initial : Option String} {t : TargetType}
    (h : toTarget type initial = .ok t) : t.fragment = "NUMERIC" ↔ isNumeric type = true := by
  have htext (cs : List Char) : String.ofList cs = "decimal" ↔ cs = "decimal".toList :=
    ⟨fun heq => by rw [← heq, String.toList_ofList], fun heq => by rw [heq, String.ofList_toList]⟩
  unfold toTarget at h
  split at h
  · next kind hkind =>
    have hkeyword := TypeKind.resolve_iff_decimal hkind
    rw [keyword, String.toList_ofList] at hkeyword
    rw [TypeKind.fragment_eq_iff_of_render h, hkeyword, isNumeric, bareKeyword, beq_iff_eq, htext]
    rfl
  · cases h

/-! ### One table -/

namespace Conversion

variable {columns : List Column} {declared : List CompiledColumn}

/-- The names of the columns that are written as decimal. -/
def numericNames (declared : List CompiledColumn) : List String :=
  (declared.filter fun d => d.fragment == "NUMERIC").map (·.name)

theorem numericNames_of_declares (h : List.Forall₂ Declares columns declared) :
    numericNames declared = (columns.filter fun c => SourceType.isNumeric c.type).map (·.name) := by
  induction h with
  | nil => rfl
  | @cons c d columns declared hd _ ih =>
    have hiff : (d.fragment == "NUMERIC") = SourceType.isNumeric c.type := by
      rw [Bool.eq_iff_iff, beq_iff_eq]
      exact SourceType.fragment_eq_iff_isNumeric hd.target
    unfold numericNames at ih ⊢
    rw [List.filter_cons, List.filter_cons, hiff]
    split
    · rw [List.map_cons, List.map_cons, hd.name, ih]
    · exact ih

/-- The column that a table without a key is given is not decimal. -/
theorem isNumeric_synthesized (name : String) : SourceType.isNumeric (Column.synthesized name).type = false := by
  show SourceType.isNumeric "biginteger unsigned" = false
  decide +kernel

theorem filter_allColumns (r : CompileRequest) :
    (r.allColumns.filter fun c => SourceType.isNumeric c.type) = r.columns.filter fun c => SourceType.isNumeric c.type := by
  unfold CompileRequest.allColumns Classification.withKey
  split
  · rfl
  · split
    · rfl
    · rw [List.filter_cons, isNumeric_synthesized, if_neg (by simp)]

/-- The declaration of a column and the conversion of its values agree on which types are decimal: for every type that
has a target, and so for the columns of every table that is accepted. -/
theorem numeric_iff_converted :
    (∀ (type : String) (initial : Option String) (t : TargetType), SourceType.toTarget type initial = .ok t →
      (t.fragment = "NUMERIC" ↔ SourceType.isNumeric type = true)) ∧
    ∀ (c : Compiler) (r : CompileRequest) (s : Schema), (r.columns.map (·.name)).Nodup → (c.compile r).2 = .ok s →
      ∃ p, r.parts c.mode = .ok p ∧ s = Ddl.assemble r.terminated r.table p.columns p.keys ∧
        convertedNames r.columns = numericNames p.columns := by
  refine ⟨fun type initial t h => SourceType.fragment_eq_iff_isNumeric h, fun c r s hnames h => ?_⟩
  rw [Compiler.compile_snd] at h
  obtain ⟨p, hp, hs⟩ := CompileRequest.parts_of_compileTable h
  refine ⟨p, hp, hs, ?_⟩
  have hdistinct : ((r.columns.filter fun c => SourceType.isNumeric c.type).map (·.name)).Nodup :=
    (List.filter_sublist.map _).nodup hnames
  rw [convertedNames, FirstSeen.eraseDups_of_nodup hdistinct, numericNames_of_declares (CompileRequest.declares_parts hp),
    filter_allColumns]

/-- A table with decimal columns, one qualified and with a parameter list, and one that names the type in a set. -/
def prices : CompileRequest where
  table := "prices"
  columns := [{ name := "net", type := "DECIMAL(10,2) Unsigned ZeroFill" },
              { name := "kind", type := "set('decimal')" },
              { name := "gross", type := "decimal", nullable := false }]

theorem numeric_iff_converted_prices :
    (∃ t, SourceType.toTarget "decimalunsigned (7)" none = .ok t ∧
      (t.fragment = "NUMERIC" ↔ SourceType.isNumeric "decimalunsigned (7)" = true)) ∧
    ∃ s p, (({} : Compiler).compile prices).2 = .ok s ∧ prices.parts .unique = .ok p ∧
      convertedNames prices.columns = numericNames p.columns := by
  have htype : SourceType.toTarget "decimalunsigned (7)" none = .ok ⟨"NUMERIC", none⟩ :=
    eq_ok_of_toOption (by decide +kernel)
  have hcompile : (({} : Compiler).compile prices).2 = .ok
      { tables := ["CREATE TABLE `prices` (\n`id` INT64 NOT NULL,\n`net` NUMERIC,\n`kind` ARRAY<STRING(255)>,\n" ++
          "`gross` NUMERIC NOT NULL\n) PRIMARY KEY (id);"] } := eq_ok_of_toOption (by decide +kernel)
  obtain ⟨htypes, htables⟩ := numeric_iff_converted
  obtain ⟨p, hp, -, hnames⟩ := htables {} prices _ (by decide) hcompile
  exact ⟨⟨_, htype, htypes _ _ _ htype⟩, _, p, hcompile, hp, hnames⟩

end Conversion
end SpannerSchema
