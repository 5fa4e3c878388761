import SpannerSchema.Proofs.Json.Numbers
import SpannerSchema.Proofs.Json.ReadValues
import SpannerSchema.Proofs.Json.Strings

/-! Reading what is written. Writing a value that reading can give leads to a text that is read back as it, at any depth and
    whatever follows. -/

namespace SpannerSchema
namespace Json
open Text

variable {c : Char} {cs rest closing separator : List Char} {v : Value} {vs : List Value} {fields : List (String × Value)}
  {depth fuel : Nat}

/-! ### Space -/

theorem skipSpace_cons (h : isSpace c = false) : skipSpace (c :: cs) = c :: cs := by
  simp [skipSpace, h]

theorem skipSpace_newline (depth : Nat) (cs : List Char) : skipSpace (newline depth ++ cs) = skipSpace cs := by
  have hblanks (n : Nat) : skipSpace (List.replicate n ' ' ++ cs) = skipSpace cs := by
    induction n with
    | zero => rfl
    | succ n ih => exact ih
  exact hblanks (2 * depth)

/-! ### First characters -/

/-- Can a value start with `c`? -/
def IsOpening (c : Char) : Prop := c.isDigit = true ∨ c ∈ ['-', 'n', 't', 'f', 'N', 'I', '"', '[', '\x7b']

theorem IsOpening.ne {d : Char} (h : IsOpening c) (hd : ¬IsOpening d) : c ≠ d := by
  rintro rfl
  exact hd h

instance (c : Char) : Decidable (IsOpening c) := inferInstanceAs (Decidable (_ ∨ _))

theorem IsOpening.isSpace (h : IsOpening c) : isSpace c = false := by
  have hspace {d : Char} (hd : ¬IsOpening d) : (c == d) = false := beq_false_of_ne (h.ne hd)
  simp [Json.isSpace, hspace (d := ' ') (by decide), hspace (d := '\t') (by decide), hspace (d := '\n') (by decide),
    hspace (d := '\r') (by decide)]

/-- The first character of a number or a word. -/
theorem head_of_atom {r : Value × List Char} (h : atom cs = .ok r) :
    ∃ c tail, cs = c :: tail ∧ IsOpening c ∧ c ∉ ['"', '[', '\x7b'] := by
  unfold atom at h
  cases hword : words.find? (fun w => w.1.isPrefixOf cs) with
  | some w =>
    have hmem := List.mem_of_find?_eq_some hword
    have hprefix : w.1.isPrefixOf cs = true := by simpa using List.find?_some hword
    obtain ⟨tail, rfl⟩ := List.isPrefixOf_iff_prefix.mp hprefix
    simp only [words, List.mem_cons, List.not_mem_nil, or_false] at hmem
    rcases hmem with rfl | rfl | rfl | rfl | rfl | rfl <;> exact ⟨_, _, rfl, by decide, by decide⟩
  | none =>
    rw [hword] at h
    have hdigit {negative : Bool} {cs : List Char} {r : Value × List Char} (h : unsigned? negative cs = some r) :
        ∃ c tail, cs = c :: tail ∧ IsOpening c ∧ c ∉ ['"', '[', '\x7b'] := by
      obtain ⟨c, tail, rfl, hc⟩ := head_of_unsigned? h
      refine ⟨c, tail, rfl, .inl hc, ?_⟩
      simp [ne_of_isDigit hc (d := '"') rfl, ne_of_isDigit hc (d := '[') rfl, ne_of_isDigit hc (d := '\x7b') rfl]
    cases hnumber : number? cs with
    | none =>
      rw [hnumber] at h
      cases h
    | some r' =>
      unfold number? at hnumber
      split at hnumber
      · exact ⟨_, _, rfl, by decide, by decide⟩
      · exact hdigit hnumber

theorem value_of_atom {r : Value × List Char} (h : atom cs = .ok r) (fuel : Nat) : value (fuel + 1) cs = .ok r := by
  obtain ⟨c, tail, rfl, -, hc⟩ := head_of_atom h
  simp only [List.mem_cons, List.not_mem_nil, or_false, not_or] at hc
  obtain ⟨hquote, hbracket, hbrace⟩ := hc
  rw [value.eq_def]
  split
  · next heq => cases heq
  · next heq =>
    cases heq
    split
    case h_4 => exact h
    all_goals simp_all

theorem opens_of_atom {r : Value × List Char} (h : atom (cs ++ ['\n']) = .ok r) :
    ∃ c tail, cs = c :: tail ∧ IsOpening c := by
  obtain ⟨c, tail, heq, hc, -⟩ := head_of_atom h
  cases cs with
  | nil =>
    cases heq
    exact absurd hc (by decide)
  | cons d cs =>
    cases heq
    exact ⟨_, _, rfl, hc⟩

theorem exists_block (opening closing : Char) (depth : Nat) (parts : List (List Char)) :
    ∃ tail, block opening closing depth parts = opening :: tail := by
  cases parts <;> exact ⟨_, rfl⟩

theorem opens_valueChars (h : IsRead v) (depth : Nat) : ∃ c tail, valueChars depth v = c :: tail ∧ IsOpening c := by
  have hends : Ends ['\n'] := ⟨[], .inr rfl⟩
  rw [valueChars.eq_def]
  cases h with
  | null => exact ⟨_, _, rfl, by decide⟩
  | bool b => cases b <;> exact ⟨_, _, rfl, by decide⟩
  | int n => exact opens_of_atom (atom_ofInt n hends)
  | float hx => exact opens_of_atom (atom_floatChars hx hends)
  | text s => exact ⟨_, _, rfl, by decide⟩
  | list hvs =>
    obtain ⟨tail, htail⟩ := exists_block '[' ']' depth (itemChars (depth + 1) _)
    exact ⟨_, _, htail, by decide⟩
  | record hnames hfields =>
    obtain ⟨tail, htail⟩ := exists_block '\x7b' '\x7d' depth (fieldChars (depth + 1) _)
    exact ⟨_, _, htail, by decide⟩

/-! ### Reading back -/

/-- Is the value read back wherever it is written? It takes two steps for each of its characters at most. -/
def ReadsBack (v : Value) : Prop :=
  ∀ depth rest fuel, Ends rest → 2 * (valueChars depth v).length ≤ fuel →
    value fuel (valueChars depth v ++ rest) = .ok (v, rest)

theorem exists_fuel (h : IsRead v) (depth fuel : Nat) (hfuel : 2 * (valueChars depth v).length ≤ fuel) :
    ∃ n, fuel = n + 1 := by
  obtain ⟨c, tail, hopens, -⟩ := opens_valueChars h depth
  rw [hopens, List.length_cons] at hfuel
  exact ⟨fuel - 1, by omega⟩

theorem readsBack_of_atom (hv : IsRead v)
    (h : ∀ depth rest, Ends rest → atom (valueChars depth v ++ rest) = .ok (v, rest)) : ReadsBack v := by
  intro depth rest fuel hrest hfuel
  obtain ⟨fuel, rfl⟩ := exists_fuel hv depth fuel hfuel
  exact value_of_atom (h depth rest hrest) fuel

theorem readsBack_text (s : String) : ReadsBack (.text s) := by
  intro depth rest fuel hrest hfuel
  obtain ⟨fuel, rfl⟩ := exists_fuel (.text s) depth fuel hfuel
  have hread := readString_flatMap s.toList rest
  have htext : valueChars depth (.text s) ++ rest = '"' :: (s.toList.flatMap escapeChar ++ '"' :: rest) := by
    simp [valueChars, stringChars]
  rw [htext, value]
  simp only [hread, String.ofList_toList]

/-- The parts of a list or record up to its end. -/
def lines (separator closing : List Char) (parts : List (List Char)) : List Char :=
  (parts.intersperse separator).flatten ++ closing

theorem lines_singleton (separator closing part : List Char) : lines separator closing [part] = part ++ closing := by
  simp [lines]

theorem lines_cons_cons (separator closing part next : List Char) (parts : List (List Char)) :
    lines separator closing (part :: next :: parts) = part ++ (separator ++ lines separator closing (next :: parts)) := by
  simp [lines]

/-- What ends a list or record inside `depth` others, and what stands between its parts. -/
def ending (closing : Char) (depth : Nat) : List Char := newline depth ++ [closing]

def between (depth : Nat) : List Char := ',' :: newline (depth + 1)

theorem block_cons (opening closing : Char) (depth : Nat) (part : List Char) (parts : List (List Char)) :
    block opening closing depth (part :: parts) =
      opening :: (newline (depth + 1) ++ lines (between depth) (ending closing depth) (part :: parts)) := by
  simp [block, lines, ending, between]

theorem itemChars_eq (depth : Nat) (vs : List Value) : itemChars depth vs = vs.map (valueChars depth) := by
  induction vs with
  | nil => rfl
  | cons v vs ih => rw [itemChars, ih, List.map_cons]

/-- A field as it is written. -/
def fieldText (depth : Nat) (f : String × Value) : List Char :=
  stringChars f.1.toList ++ ':' :: ' ' :: valueChars depth f.2

theorem length_valueChars_lt (depth : Nat) (f : String × Value) :
    (valueChars depth f.2).length < (fieldText depth f).length := by
  simp [fieldText, stringChars]
  omega

theorem fieldChars_eq (depth : Nat) (fields : List (String × Value)) :
    fieldChars depth fields = fields.map (fieldText depth) := by
  induction fields with
  | nil => rfl
  | cons f fields ih => rw [fieldChars, ih, List.map_cons]; rfl

theorem skipSpace_ending (h : isSpace c = false) (depth : Nat) (rest : List Char) :
    skipSpace (ending c depth ++ rest) = c :: rest := by
  rw [ending, List.append_assoc, skipSpace_newline]
  exact skipSpace_cons h

theorem skipSpace_between (depth : Nat) (rest : List Char) :
    skipSpace (between depth ++ rest) = ',' :: (newline (depth + 1) ++ rest) := skipSpace_cons rfl

theorem ends_ending (c : Char) (depth : Nat) (rest : List Char) : Ends (ending c depth ++ rest) := ⟨_, .inr rfl⟩

theorem ends_between (depth : Nat) (rest : List Char) : Ends (between depth ++ rest) := ⟨_, .inl rfl⟩

theorem length_ending_pos (c : Char) (depth : Nat) : 0 < (ending c depth).length := by simp [ending]

theorem length_between_pos (depth : Nat) : 0 < (between depth).length := by simp [between]

/-- A value does not start with space. -/
theorem skipSpace_valueChars (h : IsRead v) (depth : Nat) (rest : List Char) :
    skipSpace (valueChars depth v ++ rest) = valueChars depth v ++ rest := by
  obtain ⟨c, tail, hopens, hc⟩ := opens_valueChars h depth
  rw [hopens]
  exact skipSpace_cons hc.isSpace

theorem exists_lines (separator closing part : List Char) (parts : List (List Char)) :
    ∃ more, lines separator closing (part :: parts) = part ++ more := by
  cases parts with
  | nil => exact ⟨_, lines_singleton ..⟩
  | cons next parts => exact ⟨_, lines_cons_cons ..⟩

/-- The items of a list inside `depth` others, up to its end. -/
def itemLines (depth : Nat) (vs : List Value) : List Char :=
  lines (between depth) (ending ']' depth) (vs.map (valueChars (depth + 1)))

theorem itemLines_singleton (depth : Nat) (v : Value) :
    itemLines depth [v] = valueChars (depth + 1) v ++ ending ']' depth := lines_singleton ..

theorem itemLines_cons_cons (depth : Nat) (v w : Value) (vs : List Value) : itemLines depth (v :: w :: vs) =
    valueChars (depth + 1) v ++ (between depth ++ itemLines depth (w :: vs)) := lines_cons_cons ..

/-- The first item comes right after the line break before it. -/
theorem skipSpace_itemLines (h : IsRead v) (vs : List Value) (depth : Nat) (rest : List Char) :
    skipSpace (newline (depth + 1) ++ (itemLines depth (v :: vs) ++ rest)) = itemLines depth (v :: vs) ++ rest := by
  obtain ⟨more, hmore⟩ : ∃ more, itemLines depth (v :: vs) = valueChars (depth + 1) v ++ more := exists_lines ..
  rw [skipSpace_newline, hmore, List.append_assoc]
  exact skipSpace_valueChars h _ _

theorem opens_itemLines (h : IsRead v) (vs : List Value) (depth : Nat) :
    ∃ c tail, itemLines depth (v :: vs) = c :: tail ∧ IsOpening c := by
  obtain ⟨more, hmore⟩ : ∃ more, itemLines depth (v :: vs) = valueChars (depth + 1) v ++ more := exists_lines ..
  obtain ⟨c, tail, hopens, hc⟩ := opens_valueChars h (depth + 1)
  exact ⟨c, tail ++ more, by rw [hmore, hopens, List.cons_append], hc⟩

theorem items_itemLines (hvs : ∀ v ∈ vs, IsRead v ∧ ReadsBack v) (hne : vs ≠ []) (depth fuel : Nat) (rest : List Char)
    (hfuel : 2 * (itemLines depth vs).length ≤ fuel) : items fuel (itemLines depth vs ++ rest) = .ok (vs, rest) := by
  induction vs generalizing fuel with
  | nil => exact absurd rfl hne
  | cons v vs ih =>
    obtain ⟨hread, hback⟩ := hvs v (by simp)
    cases vs with
    | nil =>
      have hlength := length_ending_pos ']' depth
      rw [itemLines_singleton, List.length_append] at hfuel
      obtain ⟨fuel, rfl⟩ := exists_fuel hread (depth + 1) fuel (by omega)
      have hfirst := hback (depth + 1) _ fuel (ends_ending ']' depth rest) (by omega)
      rw [itemLines_singleton, List.append_assoc, items, hfirst]
      simp only [skipSpace_ending (show isSpace ']' = false from rfl)]
    | cons w vs =>
      have hlength := length_between_pos depth
      rw [itemLines_cons_cons, List.length_append, List.length_append] at hfuel
      obtain ⟨fuel, rfl⟩ := exists_fuel hread (depth + 1) fuel (by omega)
      have hfirst := hback (depth + 1) _ fuel (ends_between depth (itemLines depth (w :: vs) ++ rest)) (by omega)
      have hnext := skipSpace_itemLines (hvs w (by simp)).1 vs depth rest
      have hrest := ih (fun u hu => hvs u (by simp [hu])) (by simp) fuel (by omega)
      rw [itemLines_cons_cons, List.append_assoc, List.append_assoc, items, hfirst]
      simp only [skipSpace_between, hnext, hrest]

theorem readsBack_list (hvs : ∀ v ∈ vs, IsRead v ∧ ReadsBack v) : ReadsBack (.list vs) := by
  intro depth rest fuel hrest hfuel
  have hread : IsRead (.list vs) := .list fun v hv => (hvs v hv).1
  obtain ⟨fuel, rfl⟩ := exists_fuel hread depth fuel hfuel
  cases vs with
  | nil => rfl
  | cons v vs =>
    have htext : valueChars depth (.list (v :: vs)) = '[' :: (newline (depth + 1) ++ itemLines depth (v :: vs)) := by
      rw [valueChars, itemChars_eq]
      exact block_cons ..
    have hfirst := (hvs v (by simp)).1
    obtain ⟨c, tail, hopens, hc⟩ := opens_itemLines hfirst vs depth
    have hclosed : c ≠ ']' := hc.ne (by decide)
    rw [htext, List.length_cons, List.length_append] at hfuel
    have hitems := items_itemLines hvs (by simp) depth fuel rest (by omega)
    rw [htext, List.cons_append, List.append_assoc, value]
    simp only [skipSpace_itemLines hfirst]
    split
    · next heq =>
      rw [hopens] at heq
      cases heq
      exact absurd rfl hclosed
    · simp only [hitems]

/-! ### Records -/

theorem setField_of_new {name : String} (h : name ∉ fields.map (·.1)) (v : Value) :
    Value.setField fields name v = fields ++ [(name, v)] := by
  have hnone : (fields.any fun f => f.1 == name) = false := by
    rw [List.any_eq_false]
    intro f hf hname
    exact h (List.mem_map.mpr ⟨f, hf, eq_of_beq hname⟩)
  rw [Value.setField, hnone]
  rfl

/-- The first field of a record is read back, be it the last one too or one before others. -/
theorem members_fieldText {f : String × Value} (hread : IsRead f.2) (hback : ReadsBack f.2) (hrest : Ends rest)
    (hfuel : 2 * (valueChars depth f.2).length ≤ fuel) (before : List (String × Value)) :
    (∀ after, skipSpace rest = '\x7d' :: after →
      members (fuel + 1) before (fieldText depth f ++ rest) = .ok (Value.setField before f.1 f.2, after)) ∧
    (∀ after, skipSpace rest = ',' :: after →
      members (fuel + 1) before (fieldText depth f ++ rest) =
        members fuel (Value.setField before f.1 f.2) (skipSpace after)) := by
  have htext : fieldText depth f ++ rest =
      '"' :: (f.1.toList.flatMap escapeChar ++ '"' :: ':' :: ' ' :: (valueChars depth f.2 ++ rest)) := by
    simp [fieldText, stringChars]
  have hname := readString_flatMap f.1.toList (':' :: ' ' :: (valueChars depth f.2 ++ rest))
  have hcolon : skipSpace (':' :: ' ' :: (valueChars depth f.2 ++ rest)) =
      ':' :: ' ' :: (valueChars depth f.2 ++ rest) := skipSpace_cons rfl
  have hblank : skipSpace (' ' :: (valueChars depth f.2 ++ rest)) = valueChars depth f.2 ++ rest :=
    skipSpace_valueChars hread depth rest
  have hvalue := hback depth rest fuel hrest hfuel
  rw [htext, members]
  refine ⟨fun after hafter => ?_, fun after hafter => ?_⟩ <;>
    simp only [hname, hcolon, hblank, hvalue, hafter, String.ofList_toList]

/-- The fields of a record inside `depth` others, up to its end. -/
def memberLines (depth : Nat) (fields : List (String × Value)) : List Char :=
  lines (between depth) (ending '\x7d' depth) (fields.map (fieldText (depth + 1)))

theorem memberLines_singleton (depth : Nat) (f : String × Value) :
    memberLines depth [f] = fieldText (depth + 1) f ++ ending '\x7d' depth := lines_singleton ..

theorem memberLines_cons_cons (depth : Nat) (f g : String × Value) (fields : List (String × Value)) :
    memberLines depth (f :: g :: fields) =
      fieldText (depth + 1) f ++ (between depth ++ memberLines depth (g :: fields)) := lines_cons_cons ..

theorem opens_memberLines (f : String × Value) (fields : List (String × Value)) (depth : Nat) :
    ∃ tail, memberLines depth (f :: fields) = '"' :: tail := by
  obtain ⟨more, hmore⟩ : ∃ more, memberLines depth (f :: fields) = fieldText (depth + 1) f ++ more := exists_lines ..
  exact ⟨_, hmore⟩

theorem skipSpace_memberLines (f : String × Value) (fields : List (String × Value)) (depth : Nat) (rest : List Char) :
    skipSpace (newline (depth + 1) ++ (memberLines depth (f :: fields) ++ rest)) =
      memberLines depth (f :: fields) ++ rest := by
  obtain ⟨tail, hopens⟩ := opens_memberLines f fields depth
  rw [skipSpace_newline, hopens]
  exact skipSpace_cons rfl

theorem members_memberLines (hfields : ∀ f ∈ fields, IsRead f.2 ∧ ReadsBack f.2) (hne : fields ≠ [])
    (before : List (String × Value)) (hnames : ((before ++ fields).map (·.1)).Nodup) (depth fuel : Nat) (rest : List Char)
    (hfuel : 2 * (memberLines depth fields).length ≤ fuel) :
    members fuel before (memberLines depth fields ++ rest) = .ok (before ++ fields, rest) := by
  induction fields generalizing fuel before with
  | nil => exact absurd rfl hne
  | cons f fields ih =>
    obtain ⟨hread, hback⟩ := hfields f (by simp)
    have hset : Value.setField before f.1 f.2 = before ++ [f] := by
      refine setField_of_new (fun hmem => ?_) f.2
      rw [List.map_append, List.nodup_append] at hnames
      exact hnames.2.2 _ hmem _ (by simp) rfl
    have hvalue := length_valueChars_lt (depth + 1) f
    cases fields with
    | nil =>
      have hlength := length_ending_pos '\x7d' depth
      rw [memberLines_singleton, List.length_append] at hfuel
      obtain ⟨fuel, rfl⟩ : ∃ n, fuel = n + 1 := ⟨fuel - 1, by omega⟩
      have hbound : 2 * (valueChars (depth + 1) f.2).length ≤ fuel := by omega
      have hread := members_fieldText hread hback (ends_ending '\x7d' depth rest) hbound before
      rw [memberLines_singleton, List.append_assoc, hread.1 _ (skipSpace_ending rfl depth rest), hset]
    | cons g fields =>
      have hlength := length_between_pos depth
      have hsplit : before ++ f :: g :: fields = before ++ [f] ++ g :: fields := by simp
      rw [memberLines_cons_cons, List.length_append, List.length_append] at hfuel
      obtain ⟨fuel, rfl⟩ : ∃ n, fuel = n + 1 := ⟨fuel - 1, by omega⟩
      have hbound : 2 * (valueChars (depth + 1) f.2).length ≤ fuel := by omega
      have hread := members_fieldText hread hback (ends_between depth (memberLines depth (g :: fields) ++ rest)) hbound before
      have hlater := ih (fun h hh => hfields h (by simp [hh])) (by simp) (before ++ [f]) (hsplit ▸ hnames) fuel (by omega)
      rw [memberLines_cons_cons, List.append_assoc, List.append_assoc, hread.2 _ (skipSpace_between depth _),
        skipSpace_memberLines, hset, hlater, hsplit]

theorem readsBack_record (hfields : ∀ f ∈ fields, IsRead f.2 ∧ ReadsBack f.2) (hnames : (fields.map (·.1)).Nodup) :
    ReadsBack (.record fields) := by
  intro depth rest fuel hrest hfuel
  have hread : IsRead (.record fields) := .record hnames fun f hf => (hfields f hf).1
  obtain ⟨fuel, rfl⟩ := exists_fuel hread depth fuel hfuel
  cases fields with
  | nil => rfl
  | cons f fields =>
    have htext : valueChars depth (.record (f :: fields)) =
        '\x7b' :: (newline (depth + 1) ++ memberLines depth (f :: fields)) := by
      rw [valueChars, fieldChars_eq]
      exact block_cons ..
    obtain ⟨tail, hopens⟩ := opens_memberLines f fields depth
    rw [htext, List.length_cons, List.length_append] at hfuel
    have hmembers := members_memberLines hfields (by simp) [] hnames depth fuel rest (by omega)
    rw [htext, List.cons_append, List.append_assoc, value]
    simp only [skipSpace_memberLines]
    split
    · next heq =>
      rw [hopens] at heq
      cases heq
    · simp only [hmembers, List.nil_append]

/-! ### Texts as a whole -/

theorem readsBack_of_isRead (h : IsRead v) : ReadsBack v := by
  induction h with
  | null => exact readsBack_of_atom .null fun _ rest _ => atom_null rest
  | bool b =>
    refine readsBack_of_atom (.bool b) fun _ rest _ => ?_
    cases b with
    | true => exact atom_true rest
    | false => exact atom_false rest
  | int n => exact readsBack_of_atom (.int n) fun _ _ => atom_ofInt n
  | float hx => exact readsBack_of_atom (.float hx) fun _ _ => atom_floatChars hx
  | text s => exact readsBack_text s
  | list hvs ih => exact readsBack_list fun v hv => ⟨hvs v hv, ih v hv⟩
  | record hnames hfields ih => exact readsBack_record (fun f hf => ⟨hfields f hf, ih f hf⟩) hnames

/-- A written text is read back as its value. -/
theorem parse_render (h : IsRead v) : parse (render v) = .ok v := by
  obtain ⟨c, tail, hopens, hc⟩ := opens_valueChars h 0
  have hmark : (valueChars 0 v ++ ['\n']).head? ≠ some '\ufeff' := by
    rw [hopens]
    simpa using hc.ne (by decide)
  have hvalue := readsBack_of_isRead h 0 ['\n'] (2 * (valueChars 0 v ++ ['\n']).length + 2) ⟨[], .inr rfl⟩
    (by simp; omega)
  have hdocument : document (valueChars 0 v ++ ['\n']) = .ok v := by
    rw [document, if_neg (by simpa using hmark), skipSpace_valueChars h, hvalue]
    rfl
  rw [parse, render, String.toList_ofList, hdocument]

end Json
end SpannerSchema
