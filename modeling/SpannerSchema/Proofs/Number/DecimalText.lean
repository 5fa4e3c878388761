import SpannerSchema.Proofs.Number.Denotation

/-! The text of a decimal is read back as it, with its sign, its zeros and its exponent, if the exponent is within the
    bounds; and that is so of every decimal that has been read. -/

namespace SpannerSchema
namespace Decimal
open Text

variable {c : Char} {cs whole fraction tail : List Char} {n : Nat} {x : Int} {negative : Bool} {d : Decimal}

/-! ### Characters -/

/-- The characters that the text of a decimal has. -/
def IsPlain (c : Char) : Prop := c.isDigit = true ∨ c ∈ ['-', '+', '.', 'E', 'I', 'n', 'f', 'i', 't', 'y', 'N', 'a', 's']

instance (c : Char) : Decidable (IsPlain c) := inferInstanceAs (Decidable (_ ∨ _))

/-- Reading takes a plain character as it is. -/
theorem isPlain_read (h : IsPlain c) : isBlank c = false ∧ (c != '_') = true ∧ asciiDigit c = c := by
  rcases h with h | h
  · exact read_of_isDigit h
  · simp only [List.mem_cons, List.not_mem_nil, or_false] at h
    rcases h with rfl | rfl | rfl | rfl | rfl | rfl | rfl | rfl | rfl | rfl | rfl | rfl | rfl <;> decide

/-- There is nothing to clean in plain characters. -/
theorem cleaned_eq_self (h : ∀ c ∈ cs, IsPlain c) : ((strip isBlank cs).filter (· != '_')).map asciiDigit = cs := by
  have hblank : ∀ c ∈ cs, isBlank c = false := fun c hc => (isPlain_read (h c hc)).1
  have hfilter : cs.filter (· != '_') = cs := List.filter_eq_self.mpr fun c hc => (isPlain_read (h c hc)).2.1
  rw [strip_eq_self hblank, hfilter]
  exact (List.map_congr_left fun c hc => (isPlain_read (h c hc)).2.2).trans (List.map_id cs)

/-! ### Numbers -/

/-- What follows the mantissa of a number: nothing, or an exponent. -/
inductive Exponent : List Char → Int → Prop where
  | none : Exponent [] 0
  | some {cs : List Char} {x : Int} (h : exponent? cs = some x) : Exponent ('E' :: cs) x

theorem exponent?_signed (e : Int) : exponent? (if 0 ≤ e then '+' :: Numeral.ofInt e else Numeral.ofInt e) = some e := by
  have hdigits (n : Nat) : digits? (digitChars n) = some ((digitChars n).map fun c => c.toNat - 48) :=
    digits?_of_digits (digits_digitChars n)
  have hempty (n : Nat) : (digitChars n).isEmpty = false := by simpa using digitChars_ne_nil n
  cases e with
  | ofNat n => simp [Numeral.ofInt, exponent?, hempty, hdigits, ofDigits_map]
  | negSucc n =>
    have hneg : ¬(0 : Int) ≤ Int.negSucc n := by omega
    rw [if_neg hneg]
    simp [Numeral.ofInt, exponent?, hempty, hdigits, ofDigits_map]
    omega

theorem Exponent.isPower (h : Exponent tail x) : IsPower x tail := by
  cases h with
  | none => exact .none
  | some h =>
    obtain ⟨negative, sign, digits, hsign, hdigits, hne, rfl, rfl⟩ := exists_of_exponent? h
    exact .some (.inr rfl) hsign hdigits hne

/-! ### Texts -/

/-- A text of the number `c · 10^x`: digits, perhaps more after a point, and perhaps an exponent. -/
inductive Spells (c : Nat) (x : Int) : List Char → Prop where
  | parts {whole fraction tail : List Char} {y : Int} (hwhole : Digits whole) (hfraction : Digits fraction) (hne : whole ≠ [])
    (htail : Exponent tail y) (hplain : ∀ d ∈ tail, IsPlain d) (hc : numberOf (whole ++ fraction) = c)
    (hx : y - fraction.length = x) : Spells c x (whole ++ pointed fraction ++ tail)

theorem Spells.isNumeral {text : List Char} {m : Nat} (h : Spells m x text) : IsNumeral m x text := by
  cases h with
  | parts hwhole hfraction hne htail hplain hc hx =>
    exact .parts hwhole hfraction (by simp [hne]) (isFraction_pointed _) htail.isPower hc hx

theorem spells_of_point {m : Nat} (hwhole : Digits whole) (hfraction : Digits fraction) (hne : whole ≠ [])
    (hm : numberOf (whole ++ fraction) = m) : Spells m (-fraction.length) (whole ++ pointed fraction) := by
  have hspells := Spells.parts hwhole hfraction hne .none (by simp) hm (Int.zero_sub _)
  rwa [List.append_nil] at hspells

theorem pointed_of_ne_nil (h : fraction ≠ []) : pointed fraction = '.' :: fraction := by
  simp [pointed, h]

/-- The point stands among the digits. -/
theorem spells_inner (c : Nat) {places : Nat} (hpos : 0 < places) (hshort : places < (digitChars c).length) :
    Spells c (-places) ((digitChars c).take ((digitChars c).length - places) ++
      '.' :: (digitChars c).drop ((digitChars c).length - places)) := by
  have hsplit := List.take_append_drop ((digitChars c).length - places) (digitChars c)
  have hlength : ((digitChars c).drop ((digitChars c).length - places)).length = places := by
    rw [List.length_drop]
    omega
  have hfraction : (digitChars c).drop ((digitChars c).length - places) ≠ [] := by
    rw [ne_eq, List.drop_eq_nil_iff]
    omega
  have hwhole : (digitChars c).take ((digitChars c).length - places) ≠ [] := by
    rw [ne_eq, List.take_eq_nil_iff, not_or]
    exact ⟨by omega, digitChars_ne_nil c⟩
  have hdigits := digits_digitChars c
  rw [← hsplit] at hdigits
  have hnumber := congrArg numberOf hsplit
  rw [numberOf_digitChars] at hnumber
  have hspells := spells_of_point hdigits.of_append_left hdigits.of_append_right hwhole hnumber
  rwa [hlength, pointed_of_ne_nil hfraction] at hspells

/-- The point stands before the digits, with zeros between. -/
theorem spells_padded (c : Nat) {places : Nat} (hlong : (digitChars c).length ≤ places) :
    Spells c (-places) ('0' :: '.' :: (List.replicate (places - (digitChars c).length) '0' ++ digitChars c)) := by
  have hfraction := (digits_replicate_zero (places - (digitChars c).length)).append (digits_digitChars c)
  have hne : List.replicate (places - (digitChars c).length) '0' ++ digitChars c ≠ [] := by
    simp [digitChars_ne_nil c]
  have hnumber : numberOf (['0'] ++ (List.replicate (places - (digitChars c).length) '0' ++ digitChars c)) = c := by
    rw [List.singleton_append, numberOf_zero_cons, numberOf_append, numberOf_replicate_zero, numberOf_digitChars]
    omega
  have hlength : (List.replicate (places - (digitChars c).length) '0' ++ digitChars c).length = places := by
    rw [List.length_append, List.length_replicate]
    omega
  have hspells := spells_of_point (digits_replicate_zero 1) hfraction (List.cons_ne_nil _ _) hnumber
  rwa [hlength, pointed_of_ne_nil hne] at hspells

/-- A text without an exponent. -/
theorem spells_plainText (c : Nat) (hx : x ≤ 0) : Spells c x (plainText c x) := by
  obtain ⟨places, hplaces⟩ : ∃ places : Nat, (-x).toNat = places := ⟨_, rfl⟩
  obtain rfl : x = -(places : Int) := by omega
  unfold plainText
  simp only [hplaces]
  split
  · next hzero =>
    subst hzero
    have hnone : Digits [] := fun _ hd => by cases hd
    have hspells := spells_of_point (m := c) (digits_digitChars c) hnone (digitChars_ne_nil c) (by simp)
    have htext : digitChars c ++ pointed [] = digitChars c := List.append_nil _
    rwa [htext] at hspells
  · next hpos =>
    split
    · next hshort => exact spells_inner c (Nat.pos_of_ne_zero hpos) hshort
    · next hlong => exact spells_padded c (Nat.le_of_not_lt hlong)

theorem isPlain_of_digits (h : Digits cs) : ∀ d ∈ cs, IsPlain d := fun d hd => .inl (h d hd)

theorem isPlain_ofInt (n : Int) : ∀ d ∈ Numeral.ofInt n, IsPlain d := by
  cases n with
  | ofNat n => exact isPlain_of_digits (digits_digitChars n)
  | negSucc n =>
    intro d hd
    rcases List.mem_cons.mp hd with rfl | hd
    · exact .inr (by decide)
    · exact isPlain_of_digits (digits_digitChars _) d hd

theorem isPlain_exponent (e : Int) :
    ∀ d ∈ 'E' :: (if 0 ≤ e then '+' :: Numeral.ofInt e else Numeral.ofInt e), IsPlain d := by
  intro d hd
  rcases List.mem_cons.mp hd with rfl | hd
  · exact .inr (by decide)
  · split at hd
    · rcases List.mem_cons.mp hd with rfl | hd
      · exact .inr (by decide)
      · exact isPlain_ofInt _ d hd
    · exact isPlain_ofInt _ d hd

/-- A text with an exponent. -/
theorem spells_scientificText (c : Nat) (x : Int) : Spells c x (scientificText c x) := by
  obtain ⟨lead, fraction, hsplit⟩ := List.exists_cons_of_ne_nil (digitChars_ne_nil c)
  have hdigits : Digits ([lead] ++ fraction) := by
    rw [List.singleton_append, ← hsplit]
    exact digits_digitChars c
  have hnumber : numberOf ([lead] ++ fraction) = c := by
    rw [List.singleton_append, ← hsplit, numberOf_digitChars]
  have hplace : adjusted c x - fraction.length = x := by
    rw [adjusted, hsplit, List.length_cons]
    omega
  have hspells := Spells.parts hdigits.of_append_left hdigits.of_append_right (List.cons_ne_nil _ _)
    (.some (exponent?_signed (adjusted c x))) (isPlain_exponent (adjusted c x)) hnumber hplace
  have htext : scientificText c x = [lead] ++ pointed fraction ++
      'E' :: (if 0 ≤ adjusted c x then '+' :: Numeral.ofInt (adjusted c x) else Numeral.ofInt (adjusted c x)) := by
    rw [scientificText, hsplit]
    cases fraction <;> rfl
  rwa [htext]

/-! ### Reading back -/

/-- The text of a number without its sign. -/
def bodyText (c : Nat) (x : Int) : List Char :=
  if x ≤ 0 && -6 ≤ adjusted c x then plainText c x else scientificText c x

theorem spells_bodyText (c : Nat) (x : Int) : Spells c x (bodyText c x) := by
  unfold bodyText
  split
  · next h =>
    simp only [Bool.and_eq_true, decide_eq_true_eq] at h
    exact spells_plainText c h.1
  · exact spells_scientificText c x

theorem Spells.isPlain {text : List Char} {m : Nat} (h : Spells m x text) : ∀ d ∈ text, IsPlain d := by
  cases h with
  | parts hwhole hfraction hne htail hplain hc hx =>
    intro d hd
    rcases List.mem_append.mp hd with hd | hd
    · rcases List.mem_append.mp hd with hd | hd
      · exact isPlain_of_digits hwhole d hd
      · rcases mem_pointed hd with rfl | hd
        · exact .inr (by decide)
        · exact isPlain_of_digits hfraction d hd
    · exact hplain d hd

/-- A number starts with a digit. -/
theorem Spells.head {text : List Char} {m : Nat} (h : Spells m x text) :
    ∃ lead rest, text = lead :: rest ∧ lead.isDigit = true := by
  cases h with
  | @parts whole fraction tail y hwhole hfraction hne htail hplain hc hx =>
    obtain ⟨lead, rest, rfl⟩ := List.exists_cons_of_ne_nil hne
    exact ⟨lead, _, rfl, hwhole lead (by simp)⟩

theorem map_toLower_of_digits (h : Digits cs) : cs.map Char.toLower = cs :=
  (List.map_congr_left fun c hc => toLower_of_isDigit (h c hc)).trans (List.map_id cs)

/-- The digits that a NaN carries. -/
def payloadText (payload : Nat) : List Char := if payload = 0 then [] else digitChars payload

theorem digits_payloadText (payload : Nat) : Digits (payloadText payload) := by
  unfold payloadText
  split
  · intro d hd
    cases hd
  · exact digits_digitChars payload

theorem numberOf_payloadText (payload : Nat) : numberOf (payloadText payload) = payload := by
  unfold payloadText
  split
  · next h =>
    rw [h]
    rfl
  · exact numberOf_digitChars payload

theorem magnitude?_nan (negative signaling : Bool) (payload : Nat) :
    magnitude? negative ((if signaling then "sNaN".toList else "NaN".toList) ++ payloadText payload) =
      some (nan negative signaling payload) := by
  have hdigits := digits?_of_digits (digits_payloadText payload)
  have hlower := map_toLower_of_digits (digits_payloadText payload)
  have hnumber := ofDigits_map (payloadText payload)
  rw [numberOf_payloadText] at hnumber
  unfold magnitude?
  cases signaling <;> simp [List.isPrefixOf, hlower, hdigits, hnumber]

theorem magnitude?_infinity (negative : Bool) : magnitude? negative "Infinity".toList = some (infinite negative) := by
  cases negative <;> decide

/-- The text of the decimal without its sign. -/
def unsignedText : Decimal → List Char
  | finite _ c x => bodyText c x
  | infinite _ => "Infinity".toList
  | nan _ signaling payload => (if signaling then "sNaN".toList else "NaN".toList) ++ payloadText payload

def isNegative : Decimal → Bool
  | finite negative .. | infinite negative | nan negative .. => negative

theorem chars_eq (d : Decimal) : d.chars = signText d.isNegative ++ d.unsignedText := by
  cases d with
  | finite negative c x => rfl
  | infinite negative => rfl
  | nan negative signaling payload => exact List.append_assoc ..

/-- Can the decimal be read? -/
def IsBounded : Decimal → Prop
  | finite _ c x => inBounds c x = true
  | _ => True

theorem magnitude?_unsignedText (h : d.IsBounded) : magnitude? d.isNegative d.unsignedText = some d := by
  cases d with
  | finite negative c x => exact magnitude?_eq_finite_iff.mpr ⟨rfl, (spells_bodyText c x).isNumeral, h⟩
  | infinite negative => exact magnitude?_infinity negative
  | nan negative signaling payload => exact magnitude?_nan negative signaling payload

theorem isPlain_word : ∀ c ∈ "sNaN".toList ++ "NaN".toList ++ "Infinity".toList, IsPlain c := by
  intro c hc
  have hall : ("sNaN".toList ++ "NaN".toList ++ "Infinity".toList).all (fun c => decide (IsPlain c)) = true := by decide
  exact of_decide_eq_true (List.all_eq_true.mp hall c hc)

theorem isPlain_unsignedText (d : Decimal) : ∀ c ∈ d.unsignedText, IsPlain c := by
  cases d with
  | finite negative c x => exact (spells_bodyText c x).isPlain
  | infinite negative => exact fun c hc => isPlain_word c (List.mem_append_right _ hc)
  | nan negative signaling payload =>
    intro c hc
    rcases List.mem_append.mp hc with hc | hc
    · refine isPlain_word c (List.mem_append_left _ (List.mem_append.mpr ?_))
      cases signaling with
      | true => exact .inl hc
      | false => exact .inr hc
    · exact isPlain_of_digits (digits_payloadText payload) c hc

/-- No text without its sign starts with one. -/
theorem head_unsignedText (d : Decimal) : ∃ lead rest, d.unsignedText = lead :: rest ∧ lead ≠ '-' ∧ lead ≠ '+' := by
  cases d with
  | finite negative c x =>
    obtain ⟨lead, rest, hlead, hdigit⟩ := (spells_bodyText c x).head
    refine ⟨lead, rest, hlead, ?_, ?_⟩ <;>
      · rintro rfl
        exact absurd hdigit (by decide)
  | infinite negative => exact ⟨_, _, rfl, by decide, by decide⟩
  | nan negative signaling payload => cases signaling <;> exact ⟨_, _, rfl, by decide, by decide⟩

theorem isPlain_chars (d : Decimal) : ∀ c ∈ d.chars, IsPlain c := by
  rw [chars_eq]
  intro c hc
  rcases List.mem_append.mp hc with hc | hc
  · unfold signText at hc
    split at hc
    · obtain rfl := List.mem_singleton.mp hc
      exact .inr (by decide)
    · cases hc
  · exact isPlain_unsignedText d c hc

theorem ofChars?_chars (h : d.IsBounded) : ofChars? d.chars = some d := by
  have hclean := cleaned_eq_self (isPlain_chars d)
  have hread := magnitude?_unsignedText h
  obtain ⟨lead, rest, hlead, hminus, hplus⟩ := head_unsignedText d
  rw [ofChars?, hclean, chars_eq]
  cases hsign : d.isNegative with
  | true =>
    rw [hsign] at hread
    exact hread
  | false =>
    rw [hsign] at hread
    simp only [signText, Bool.false_eq_true, if_false, List.nil_append]
    split
    · next heq =>
      rw [hlead] at heq
      cases heq
      exact absurd rfl hminus
    · next heq =>
      rw [hlead] at heq
      cases heq
      exact absurd rfl hplus
    · exact hread

/-- Whatever the number, its text spells it, with all the digits of its coefficient. -/
theorem spelled_chars (negative : Bool) (c : Nat) (x : Int) : Spelled negative c x (finite negative c x).chars :=
  spelled_of_isSign (isSign_signText negative) (spells_bodyText c x).isNumeral

/-! ### What reading gives -/

theorem isBounded_of_unsigned? (h : unsigned? negative cs = some d) : d.IsBounded := by
  obtain ⟨c, x, -, hbounds, rfl⟩ := unsigned?_eq_some_iff.mp h
  exact hbounds

theorem isBounded_of_magnitude? (h : magnitude? negative cs = some d) : d.IsBounded := by
  unfold magnitude? at h
  dsimp only at h
  split at h
  · cases h
    trivial
  · split at h
    · obtain ⟨ds, -, rfl⟩ := Option.map_eq_some_iff.mp h
      trivial
    · split at h
      · obtain ⟨ds, -, rfl⟩ := Option.map_eq_some_iff.mp h
        trivial
      · exact isBounded_of_unsigned? h

theorem isBounded_of_ofText? {s : String} (h : ofText? s = some d) : d.IsBounded := by
  unfold ofText? ofChars? at h
  split at h <;> exact isBounded_of_magnitude? h

/-- A decimal that has been read is read again from its own text. -/
theorem ofText?_text (h : d.IsBounded) : ofText? d.text = some d := by
  rw [ofText?, text, String.toList_ofList]
  exact ofChars?_chars h

end Decimal
end SpannerSchema
