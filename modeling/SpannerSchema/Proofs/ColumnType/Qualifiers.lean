import SpannerSchema.Proofs.ColumnType.Numeric
import SpannerSchema.Proofs.ColumnType.Spelling
import SpannerSchema.Proofs.Text.Blanks

/-! Words that follow a type and do not change its target: the display word, any number of times, and the qualifier of
    numbers that are not negative, at most once, each after blanks and in any case. A blank ends every word, so what
    follows it is read as if it stood alone. The display words go, the blanks go, and at most the qualifier is left at the
    end of the keyword. There it is either part of a keyword of the same kind or looked over. -/

namespace SpannerSchema
open Text

namespace Keyword

variable {cs tail : List Char} {c : Char} {n : Nat}

/-! ### Blanks -/

theorem of_isBlank (h : isBlank c = true) : isWord c = false ∧ ∀ letter ∈ displayWord, isLetter letter c = false := by
  have hblanks : ∀ n ∈ members blankBounds, isWord (Char.ofNat n) = false ∧
      ∀ (i : Nat) (hi : i < displayWord.length), isLetter displayWord[i] (Char.ofNat n) = false := by decide +kernel
  obtain ⟨hword, hletters⟩ := hblanks c.toNat (mem_members_of_inRanges h)
  rw [Char.ofNat_toNat] at hword hletters
  refine ⟨hword, fun letter hletter => ?_⟩
  obtain ⟨i, hi, rfl⟩ := List.getElem_of_mem hletter
  exact hletters i hi

/-- The text is empty or starts with a blank. -/
def StartsBlank (cs : List Char) : Prop := ∀ c ∈ cs.head?, isBlank c = true

theorem startsWord_of_startsBlank (h : StartsBlank tail) : startsWord tail = false := by
  cases tail with
  | nil => rfl
  | cons c tail => exact (of_isBlank (h c rfl)).1

theorem after?_of_startsBlank {letter : Char} {word : List Char} (hletter : letter ∈ displayWord) (h : StartsBlank tail) :
    after? (letter :: word) tail = none := by
  cases tail with
  | nil => rfl
  | cons c tail =>
    have hc := (of_isBlank (h c rfl)).2 letter hletter
    rw [after?, hc]
    rfl

theorem ahead?_of_startsBlank (h : StartsBlank tail) (inWord : Bool) : ahead? inWord tail = none := by
  have hafter : after? displayWord tail = none := after?_of_startsBlank (by decide) h
  rw [ahead?, afterDisplayWord?, hafter]
  cases inWord <;> rfl

theorem withoutDisplayWords_blank (h : isBlank c = true) (inWord : Bool) (cs : List Char) :
    withoutDisplayWords inWord (c :: cs) = c :: withoutDisplayWords false cs := by
  have hstarts : StartsBlank (c :: cs) := by
    rintro d ⟨⟩
    exact h
  rw [withoutDisplayWords_cons (ahead?_of_startsBlank hstarts inWord), (of_isBlank h).1]

theorem withoutDisplayWords_gap {gap : List Char} (h : ∀ c ∈ gap, isBlank c = true) (cs : List Char) :
    withoutDisplayWords false (gap ++ cs) = gap ++ withoutDisplayWords false cs := by
  induction gap with
  | nil => rfl
  | cons c gap ih =>
    rw [List.forall_mem_cons] at h
    rw [List.cons_append, withoutDisplayWords_blank h.1, ih h.2, List.cons_append]

/-! ### Words before a blank -/

section
variable (h : StartsBlank tail)
include h

theorem after?_append {word : List Char} (hword : word ⊆ displayWord) (cs : List Char) :
    after? word (cs ++ tail) = (after? word cs).map (· ++ tail) := by
  induction word generalizing cs with
  | nil => simp [after?]
  | cons letter word ih =>
    obtain ⟨hletter, hrest⟩ := List.cons_subset.mp hword
    cases cs with
    | nil => exact after?_of_startsBlank hletter h
    | cons c cs =>
      rw [List.cons_append, after?, after?]
      split
      · exact ih hrest cs
      · rfl

theorem startsWord_append (cs : List Char) : startsWord (cs ++ tail) = startsWord cs := by
  cases cs with
  | nil => exact startsWord_of_startsBlank h
  | cons c cs => rfl

theorem ahead?_append (inWord : Bool) (cs : List Char) : ahead? inWord (cs ++ tail) = (ahead? inWord cs).map (· ++ tail) := by
  unfold ahead?
  split
  · rfl
  · rw [afterDisplayWord?, afterDisplayWord?, after?_append h (List.Subset.refl _)]
    cases after? displayWord cs with
    | none => rfl
    | some rest =>
      dsimp only [Option.map_some]
      rw [startsWord_append h]
      split <;> rfl

theorem withoutDisplayWords_startsBlank (inWord : Bool) : withoutDisplayWords inWord tail = withoutDisplayWords false tail := by
  cases tail with
  | nil => rw [withoutDisplayWords_nil, withoutDisplayWords_nil]
  | cons c tail => rw [withoutDisplayWords_blank (h c rfl), withoutDisplayWords_blank (h c rfl)]

/-- No display word reaches over a blank. -/
theorem withoutDisplayWords_append (inWord : Bool) (cs : List Char) :
    withoutDisplayWords inWord (cs ++ tail) = withoutDisplayWords inWord cs ++ withoutDisplayWords false tail := by
  induction inWord, cs using withoutDisplayWords.induct with
  | case1 inWord cs rest hrest ih =>
    have hahead : ahead? inWord cs = some rest := hrest
    have hahead' : ahead? inWord (cs ++ tail) = some (rest ++ tail) := by
      rw [ahead?_append h, hahead]
      rfl
    rw [withoutDisplayWords_of_ahead? hahead', withoutDisplayWords_of_ahead? hahead, ih]
  | case2 inWord _ =>
    rw [List.nil_append, withoutDisplayWords_startsBlank h, withoutDisplayWords_nil, List.nil_append]
  | case3 inWord c cs hnone ih =>
    have hahead : ahead? inWord (c :: cs) = none := hnone
    have hahead' : ahead? inWord (c :: (cs ++ tail)) = none := by
      rw [← List.cons_append, ahead?_append h, hahead]
      rfl
    rw [List.cons_append, withoutDisplayWords_cons hahead', withoutDisplayWords_cons hahead, ih, List.cons_append]

end

/-! ### Words after a type -/

/-- The text is blanks, and words of either kind after blanks, `n` of them the qualifier. -/
inductive Trails : Nat → List Char → Prop where
  | blanks {gap : List Char} (hgap : ∀ c ∈ gap, isBlank c = true) : Trails 0 gap
  | display {n : Nat} {gap word cs : List Char} (hne : gap ≠ []) (hgap : ∀ c ∈ gap, isBlank c = true)
      (hword : word.map Char.toLower = displayWord) (h : Trails n cs) : Trails n (gap ++ (word ++ cs))
  | qualifier {n : Nat} {gap word cs : List Char} (hne : gap ≠ []) (hgap : ∀ c ∈ gap, isBlank c = true)
      (hword : word.map Char.toLower = unsigned) (h : Trails n cs) : Trails (n + 1) (gap ++ (word ++ cs))

theorem startsBlank_of_gap {gap : List Char} (hne : gap ≠ []) (hgap : ∀ c ∈ gap, isBlank c = true) (cs : List Char) :
    StartsBlank (gap ++ cs) := by
  obtain ⟨c, gap, rfl⟩ := List.exists_cons_of_ne_nil hne
  rintro d ⟨⟩
  exact hgap c List.mem_cons_self

theorem Trails.startsBlank (h : Trails n tail) : StartsBlank tail := by
  cases h with
  | blanks hgap => exact fun c hc => hgap c (List.mem_of_mem_head? hc)
  | display hne hgap => exact startsBlank_of_gap hne hgap _
  | qualifier hne hgap => exact startsBlank_of_gap hne hgap _

/-- A mark that is no blank and no letter of the words is not among them. -/
theorem Trails.not_mem {mark : Char} (hblank : isBlank mark = false) (hdisplay : mark.toLower ∉ displayWord)
    (hqualifier : mark.toLower ∉ unsigned) (h : Trails n tail) : mark ∉ tail := by
  have hgap : ∀ {gap : List Char}, (∀ c ∈ gap, isBlank c = true) → mark ∉ gap := by
    intro gap hgap hmem
    rw [hgap mark hmem] at hblank
    cases hblank
  induction h with
  | blanks h => exact hgap h
  | display _ h hword _ ih =>
    rw [← hword] at hdisplay
    simpa only [List.mem_append, not_or] using ⟨hgap h, fun hmem => hdisplay (List.mem_map_of_mem hmem), ih⟩
  | qualifier _ h hword _ ih =>
    rw [← hword] at hqualifier
    simpa only [List.mem_append, not_or] using ⟨hgap h, fun hmem => hqualifier (List.mem_map_of_mem hmem), ih⟩

theorem Trails.parentheses_not_mem (h : Trails n tail) : '(' ∉ tail ∧ ')' ∉ tail :=
  ⟨h.not_mem (by decide +kernel) (by decide) (by decide), h.not_mem (by decide +kernel) (by decide) (by decide)⟩

/-! ### Keywords -/

theorem withoutBlanks_gap {gap : List Char} (h : ∀ c ∈ gap, isBlank c = true) : withoutBlanks gap = [] :=
  List.filter_eq_nil_iff.mpr fun c hc => by simp [h c hc]

/-- What the words leave in a keyword. -/
def leftover (cs : List Char) : List Char := withoutBlanks (withoutDisplayWords false (cs.map Char.toLower))

theorem leftover_eq (cs : List Char) : leftover cs = (withoutBlanks (withoutDisplayWords false cs)).map Char.toLower := by
  rw [leftover, withoutDisplayWords_map_toLower, withoutBlanks_map_toLower]

theorem leftover_append (h : StartsBlank tail) (cs : List Char) : leftover (cs ++ tail) = leftover cs ++ leftover tail := by
  simp only [leftover_eq, withoutDisplayWords_append h, withoutBlanks_append, List.map_append]

theorem leftover_gap {gap : List Char} (h : ∀ c ∈ gap, isBlank c = true) (cs : List Char) :
    leftover (gap ++ cs) = leftover cs := by
  rw [leftover_eq, leftover_eq, withoutDisplayWords_gap h, withoutBlanks_append, withoutBlanks_gap h, List.nil_append]

theorem leftover_of_trails (h : Trails n tail) : leftover tail = (List.replicate n unsigned).flatten := by
  induction h with
  | @blanks gap hgap =>
    have hnil := leftover_gap hgap []
    rw [List.append_nil] at hnil
    rw [hnil]
    decide +kernel
  | @display n gap word cs _ hgap hword h ih =>
    have hleft : leftover word = [] := by
      rw [leftover, hword]
      decide +kernel
    rw [leftover_gap hgap, leftover_append h.startsBlank, hleft, List.nil_append, ih]
  | @qualifier n gap word cs _ hgap hword h ih =>
    have hleft : leftover word = unsigned := by
      rw [leftover, hword]
      decide +kernel
    rw [leftover_gap hgap, leftover_append h.startsBlank, hleft, ih, List.replicate_succ, List.flatten_cons]

theorem ofType_eq_leftover (cs : List Char) : ofType cs = lower (leftover (ParameterList.remove cs)) := by
  rw [leftover_eq, lower_map_toLower, ofType]

/-- A keyword without a small sigma comes from a text without a capital one, so its letters do not depend on what
    follows them. -/
theorem ofType_append (hfinal : 'ς' ∉ ofType cs) (hmedial : 'σ' ∉ ofType cs) (h : Trails n tail) :
    ofType (cs ++ tail) = ofType cs ++ lower (List.replicate n unsigned).flatten := by
  obtain ⟨hopen, hclose⟩ := h.parentheses_not_mem
  rw [ofType_eq_leftover] at hfinal hmedial ⊢
  have hcs : 'Σ' ∉ leftover (ParameterList.remove cs) := by
    intro hmem
    rcases sigma_mem_lowerAfter hmem [] with hsigma | hsigma
    · exact hfinal hsigma
    · exact hmedial hsigma
  have htail : 'Σ' ∉ (List.replicate n unsigned).flatten := by
    intro hmem
    obtain ⟨word, hword, hsigma⟩ := List.mem_flatten.mp hmem
    rw [List.eq_of_mem_replicate hword] at hsigma
    exact absurd hsigma (by decide)
  rw [ParameterList.remove_append hopen hclose, leftover_append h.startsBlank, leftover_of_trails h, lower_append hcs htail,
    ofType_eq_leftover]

end Keyword

/-! ### Kinds -/

namespace TypeKind

variable {keyword : String} {kind : TypeKind}

theorem sigma_not_mem_of_named? (h : named? keyword = some kind) : 'ς' ∉ keyword.toList ∧ 'σ' ∉ keyword.toList := by
  have htable : ∀ e ∈ keywords, 'ς' ∉ e.1.toList ∧ 'σ' ∉ e.1.toList := by decide +kernel
  exact htable _ (mem_of_named? h)

theorem unqualified?_append_unsigned (keyword : String) : unqualified? (keyword ++ "unsigned") = some keyword := by
  have hlist : (keyword ++ "unsigned").toList = keyword.toList ++ Keyword.unsigned := String.toList_append
  have hsuffix : Keyword.unsigned.isSuffixOf (keyword.toList ++ Keyword.unsigned) = true :=
    List.isSuffixOf_iff_suffix.mpr (List.suffix_append _ _)
  unfold unqualified?
  dsimp only
  rw [hlist, if_pos hsuffix, List.length_append, Nat.add_sub_cancel, List.take_left, String.ofList_toList]

/-- A qualified word of the table is there without the qualifier too, with the same kind. -/
theorem named?_of_append_unsigned (h : named? (keyword ++ "unsigned") = some kind) : named? keyword = some kind := by
  have htable : ∀ e ∈ keywords, ∀ base ∈ unqualified? e.1, named? base = some e.2 := by decide +kernel
  exact htable _ (mem_of_named? h) keyword (unqualified?_append_unsigned keyword)

theorem resolve?_append_unsigned (h : named? keyword = some kind) : resolve? (keyword ++ "unsigned") = some kind := by
  unfold resolve?
  split
  · next kind' hqualified =>
    have hnamed := named?_of_append_unsigned hqualified
    rw [← hnamed, h]
  · rw [unqualified?_append_unsigned, Option.bind_some, h]

theorem named?_of_resolve? (h : resolve? keyword = some kind) (hends : ¬Keyword.unsigned <:+ keyword.toList) :
    named? keyword = some kind := by
  unfold resolve? at h
  split at h
  · next hnamed => rwa [h] at hnamed
  · obtain ⟨base, hbase, -⟩ := Option.bind_eq_some_iff.mp h
    exact absurd ⟨base.toList, (eq_of_unqualified? hbase).symm⟩ hends

end TypeKind

namespace SourceType

variable {type tail : String} {initial : Option String} {t : TargetType} {n : Nat}

theorem toTarget_eq_ok_iff : toTarget type initial = .ok t ↔
    ∃ kind, TypeKind.resolve? (keyword type) = some kind ∧ kind.render (size? type) initial = .ok t := by
  unfold toTarget
  cases TypeKind.resolve? (keyword type) <;> simp

theorem resolve?_append {kind : TypeKind} (h : TypeKind.named? (keyword type) = some kind)
    (htail : Keyword.Trails n tail.toList) (hn : n ≤ 1) : TypeKind.resolve? (keyword (type ++ tail)) = some kind := by
  obtain ⟨hfinal, hmedial⟩ := TypeKind.sigma_not_mem_of_named? h
  rw [keyword, String.toList_ofList] at hfinal hmedial
  have hkeyword : keyword (type ++ tail)
      = keyword type ++ String.ofList (lower (List.replicate n Keyword.unsigned).flatten) := by
    rw [keyword, String.toList_append, Keyword.ofType_append hfinal hmedial htail, String.ofList_append, keyword]
  rcases Nat.le_one_iff_eq_zero_or_eq_one.mp hn with rfl | rfl
  · have hnone : String.ofList (lower (List.replicate 0 Keyword.unsigned).flatten) = "" := rfl
    rw [hkeyword, hnone, String.append_empty, TypeKind.resolve?, h]
  · have hone : String.ofList (lower (List.replicate 1 Keyword.unsigned).flatten) = "unsigned" := by decide +kernel
    rw [hkeyword, hone, TypeKind.resolve?_append_unsigned h]

theorem size?_append (htail : Keyword.Trails n tail.toList) : size? (type ++ tail) = size? type := by
  obtain ⟨hopen, hclose⟩ := htail.parentheses_not_mem
  rw [size?, size?, String.toList_append, ParameterList.first?_append hopen hclose]

/-- A type keeps its target when display words and at most one qualifier follow it, and when letters outside its lists
    are written in the other case. -/
theorem toTarget_respelled (type : String) (initial : Option String) (t : TargetType) (ht : toTarget type initial = .ok t) :
    (∀ (tail : String) (n : Nat), ¬Keyword.unsigned <:+ (keyword type).toList → Keyword.Trails n tail.toList → n ≤ 1 →
      toTarget (type ++ tail) initial = .ok t) ∧
    ∀ type' : String, ParameterList.Recased type.toList type'.toList → toTarget type' initial = .ok t := by
  refine ⟨fun tail n hends htail hn => ?_, fun type' hcase => toTarget_recased hcase ht⟩
  obtain ⟨kind, hkind, hrender⟩ := toTarget_eq_ok_iff.mp ht
  have hnamed := TypeKind.named?_of_resolve? hkind hends
  refine toTarget_eq_ok_iff.mpr ⟨kind, resolve?_append hnamed htail hn, ?_⟩
  rw [size?_append htail, hrender]

/-- A truth value by its size, with words of both kinds after it, and a type with marks and letters in its list. -/
theorem toTarget_respelled_flag :
    toTarget "TinyInt ( 1 )" none = .ok ⟨"BOOL", none⟩ ∧ ¬Keyword.unsigned <:+ (keyword "TinyInt ( 1 )").toList ∧
    Keyword.Trails 1 "\tZeroFill\nUNSIGNED  zerofill ".toList ∧
    toTarget ("TinyInt ( 1 )" ++ "\tZeroFill\nUNSIGNED  zerofill ") none = .ok ⟨"BOOL", none⟩ ∧
    toTarget "Set('Red','(x')" none = .ok ⟨"ARRAY<STRING(255)>", none⟩ ∧
    ParameterList.Recased "Set('Red','(x')".toList "sET('Red','(x')".toList ∧
    toTarget "sET('Red','(x')" none = .ok ⟨"ARRAY<STRING(255)>", none⟩ := by
  have hflag : toTarget "TinyInt ( 1 )" none = .ok ⟨"BOOL", none⟩ := eq_ok_of_toOption (by decide +kernel)
  have hset : toTarget "Set('Red','(x')" none = .ok ⟨"ARRAY<STRING(255)>", none⟩ := eq_ok_of_toOption (by decide +kernel)
  have hends : ¬Keyword.unsigned <:+ (keyword "TinyInt ( 1 )").toList := by decide +kernel
  have hgap : ∀ gap ∈ ["\t", "\n", "  ", " "], ∀ c ∈ gap.toList, isBlank c = true := by
    simp only [← List.all_eq_true]
    decide +kernel
  have hlast : Keyword.Trails 0 ("  ".toList ++ ("zerofill".toList ++ " ".toList)) :=
    .display (by decide) (hgap _ (by decide)) (by decide) (.blanks (hgap _ (by decide)))
  have hqualifier : Keyword.Trails 1 ("\n".toList ++ ("UNSIGNED".toList ++ _)) :=
    .qualifier (by decide) (hgap _ (by decide)) (by decide) hlast
  have hwords : Keyword.Trails 1 ("\t".toList ++ ("ZeroFill".toList ++ _)) :=
    .display (by decide) (hgap _ (by decide)) (by decide) hqualifier
  have hlist : ParameterList.WellFormed "'Red','(x'".toList :=
    .quoted (s := "Red".toList) (Or.inl rfl) (by decide)
      (.plain (by decide) (.quoted (s := "(x".toList) (Or.inl rfl) (by decide) .nil))
  have hcase : ParameterList.Recased ('S' :: 'e' :: 't' :: '(' :: ("'Red','(x'".toList ++ [')']))
      ('s' :: 'E' :: 'T' :: '(' :: ("'Red','(x'".toList ++ [')'])) :=
    .outside rfl (by simp) (.outside rfl (by simp) (.outside rfl (by simp) (.list hlist .nil)))
  obtain ⟨htail, -⟩ := toTarget_respelled _ _ _ hflag
  obtain ⟨-, hrecased⟩ := toTarget_respelled _ _ _ hset
  exact ⟨hflag, hends, hwords, htail _ _ hends hwords (by decide), hset, hcase, hrecased _ hcase⟩

end SourceType
end SpannerSchema
