import SpannerSchema.Json.Reader
import SpannerSchema.Proofs.Number.Denotation
import SpannerSchema.Proofs.Number.Scientific

/-! The numbers of JSON as they stand in a text. A literal with a point or an exponent is read as the binary number nearest to
    the number that it denotes, any other as an integer. The text of a binary number is such a literal: its digits may be moved
    around its point, which is a coefficient with other zeros at its end, and the same number. -/

namespace SpannerSchema
namespace Json
open Text Decimal

variable {cs ds whole fraction tail rest : List Char} {negative floating : Bool} {c : Nat} {x y : Int}

/-! ### Parts of a number -/

/-- The digits before a point. -/
def IsWhole (cs : List Char) : Prop := cs = ['0'] ∨ Leads cs

theorem isWhole_zero : IsWhole ['0'] := .inl rfl

theorem IsWhole.digits (h : IsWhole cs) : Digits cs := by
  rcases h with rfl | h
  · exact digits_replicate_zero 1
  · exact h.digits

theorem IsWhole.ne_nil (h : IsWhole cs) : cs ≠ [] := by
  rcases h with rfl | h
  · exact List.cons_ne_nil _ _
  · exact h.ne_nil

theorem isWhole_digitChars (n : Nat) : IsWhole (digitChars n) := by
  rcases Nat.eq_zero_or_pos n with rfl | hn
  · exact .inl rfl
  · exact .inr (leads_digitChars hn)

theorem wholePart_append (h : IsWhole whole) (hrest : NoDigit rest) : wholePart (whole ++ rest) = whole := by
  rcases h with rfl | h
  · rfl
  · obtain ⟨c, hc, hzero⟩ := h.head
    obtain ⟨cs, rfl⟩ : ∃ cs, whole = c :: cs := by
      cases whole with
      | nil => cases hc
      | cons d cs => exact ⟨cs, by cases hc; rfl⟩
    have htake := takeWhile_digits h.digits hrest
    rw [List.cons_append] at htake ⊢
    simp only [wholePart, beq_iff_eq, hzero, if_false, htake]

/-- A text that does not go on with more of a number but an exponent. -/
def Breaks (tail : List Char) : Prop := ∀ c, tail.head? = some c → c.isDigit = false ∧ c ≠ '.'

theorem Breaks.noDigit (h : Breaks tail) : NoDigit tail := fun c hc => (h c hc).1

theorem fractionPart_pointed (hfraction : Digits fraction) (htail : Breaks tail) :
    fractionPart (pointed fraction ++ tail) = fraction := by
  unfold pointed
  cases fraction with
  | nil =>
    cases tail with
    | nil => rfl
    | cons c tail =>
      have hpoint : c ≠ '.' := (htail c rfl).2
      simp only [List.isEmpty_nil, if_true, List.nil_append]
      unfold fractionPart
      split
      · next heq =>
        cases heq
        exact absurd rfl hpoint
      · rfl
  | cons c cs => exact takeWhile_digits hfraction htail.noDigit

theorem fractionLength_pointed (hfraction : Digits fraction) (htail : Breaks tail) :
    fractionLength (pointed fraction ++ tail) = (pointed fraction).length := by
  unfold fractionLength
  rw [fractionPart_pointed hfraction htail]
  cases fraction <;> rfl

theorem noDigit_pointed (htail : Breaks tail) : NoDigit (pointed fraction ++ tail) := by
  cases fraction with
  | nil => exact htail.noDigit
  | cons c cs =>
    rintro d ⟨rfl⟩
    rfl

/-- A number in its parts. -/
theorem unsigned?_append (negative : Bool) (hwhole : IsWhole whole) (hfraction : Digits fraction) (htail : Breaks tail) :
    unsigned? negative (whole ++ (pointed fraction ++ tail)) =
      match exponentPart? tail with
      | some (x, size) =>
        some (.float (Binary64.ofScientific negative (numberOf (whole ++ fraction)) (x - fraction.length)), tail.drop size)
      | none =>
        if fraction.isEmpty then
          some (.int (if negative then -numberOf (whole ++ fraction) else numberOf (whole ++ fraction)), tail)
        else some (.float (Binary64.ofScientific negative (numberOf (whole ++ fraction)) (-fraction.length)), tail) := by
  have hne : whole.isEmpty = false := by simpa using hwhole.ne_nil
  unfold unsigned?
  cases hexponent : exponentPart? tail <;>
    simp only [wholePart_append hwhole (noDigit_pointed htail), hne, List.drop_left, fractionPart_pointed hfraction htail,
      fractionLength_pointed hfraction htail, ofDigits_map, hexponent, Bool.false_eq_true, if_false]

/-! ### What follows a number -/

/-- Does the text go on with nothing that would belong to a number before it? -/
def Closes (rest : List Char) : Prop := ∀ c, rest.head? = some c → c.isDigit = false ∧ c ≠ '.' ∧ isExponentMark c = false

theorem Closes.breaks (h : Closes rest) : Breaks rest := fun c hc => ⟨(h c hc).1, (h c hc).2.1⟩

theorem Closes.exponentPart? (h : Closes rest) : exponentPart? rest = none := by
  cases rest with
  | nil => rfl
  | cons c rest =>
    have hmark := (h c rfl).2.2
    rw [isExponentMark] at hmark
    simp only [Json.exponentPart?, hmark, Bool.false_eq_true, if_false]

theorem exponentPart?_append {mark : Char} {sign digits : List Char} (hmark : mark = 'e' ∨ mark = 'E')
    (hsign : IsSign negative sign) (hdigits : Digits digits) (hne : digits ≠ []) (hrest : NoDigit rest) :
    exponentPart? (mark :: (sign ++ digits) ++ rest) =
      some (signed negative (numberOf digits), (mark :: (sign ++ digits)).length) := by
  have htake := takeWhile_digits hdigits hrest
  have hempty : digits.isEmpty = false := by simpa using hne
  have hopens : (mark == 'e' || mark == 'E') = true := by simpa using hmark
  cases hsign with
  | minus =>
    simp [exponentPart?, hopens, htake, hempty, ofDigits_map, signed]
    omega
  | plus =>
    simp [exponentPart?, hopens, htake, hempty, ofDigits_map, signed]
    omega
  | none =>
    obtain ⟨lead, digits, rfl⟩ := List.exists_cons_of_ne_nil hne
    have hlead : lead.isDigit = true := hdigits lead List.mem_cons_self
    have hminus : lead ≠ '-' := ne_of_isDigit hlead rfl
    have hplus : lead ≠ '+' := ne_of_isDigit hlead rfl
    have hnumber := ofDigits_map (lead :: digits)
    rw [List.cons_append] at htake
    rw [List.map_cons] at hnumber
    simp [exponentPart?, hopens, hminus, hplus, htake, hnumber, signed]
    omega

/-- An exponent is read up to what follows it. -/
theorem exponentPart?_of_isPower (htail : IsPower y tail) (hrest : Closes rest) :
    exponentPart? (tail ++ rest) = if tail.isEmpty then none else some (y, tail.length) := by
  cases htail with
  | none => exact hrest.exponentPart?
  | some hmark hsign hdigits hne => exact exponentPart?_append hmark hsign hdigits hne hrest.breaks.noDigit

theorem breaks_power (htail : IsPower y tail) (hrest : Closes rest) : Breaks (tail ++ rest) := by
  cases htail with
  | none => exact hrest.breaks
  | some hmark =>
    rintro c ⟨rfl⟩
    rcases hmark with rfl | rfl <;> exact ⟨rfl, by decide⟩

/-! ### Literals -/

/-- A number without its sign, as it stands in a text, for `c · 10^x`. It is floating if it has a point or an exponent. -/
inductive IsLiteral (c : Nat) (x : Int) : Bool → List Char → Prop where
  | integer {whole : List Char} (hwhole : IsWhole whole) (hc : numberOf whole = c) (hx : x = 0) : IsLiteral c x false whole
  | floating {whole fraction tail : List Char} {y : Int} (hwhole : IsWhole whole) (hfraction : Digits fraction)
    (htail : IsPower y tail) (hne : fraction ++ tail ≠ []) (hc : numberOf (whole ++ fraction) = c)
    (hx : y - fraction.length = x) : IsLiteral c x true (whole ++ pointed fraction ++ tail)

/-- What a literal is read as. -/
def literalValue (negative : Bool) (c : Nat) (x : Int) (floating : Bool) : Value :=
  if floating then .float (Binary64.ofScientific negative c x) else .int (signed negative c)

/-- A literal is read up to what follows it. -/
theorem unsigned?_of_isLiteral (h : IsLiteral c x floating cs) (hrest : Closes rest) (negative : Bool) :
    unsigned? negative (cs ++ rest) = some (literalValue negative c x floating, rest) := by
  cases h with
  | integer hwhole hc hx =>
    have hdigits : Digits [] := fun _ hc => by cases hc
    have hread := unsigned?_append negative hwhole hdigits hrest.breaks
    rw [hrest.exponentPart?, List.append_nil, hc] at hread
    exact hread
  | @floating whole fraction tail y hwhole hfraction htail hne hc hx =>
    have hread := unsigned?_append negative hwhole hfraction (breaks_power htail hrest)
    rw [exponentPart?_of_isPower htail hrest, hc] at hread
    rw [List.append_assoc, List.append_assoc, hread, literalValue]
    cases htail with
    | none =>
      have hempty : fraction.isEmpty = false := by simpa using hne
      simp only [← hx, hempty, List.isEmpty_nil, List.nil_append, Int.zero_sub, Bool.false_eq_true, if_false, if_true]
    | some => simp only [List.isEmpty_cons, Bool.false_eq_true, if_false, hx, List.drop_left, if_true]

/-- A literal denotes its number. -/
theorem IsLiteral.isNumeral (h : IsLiteral c x floating cs) : IsNumeral c x cs := by
  cases h with
  | @integer whole hwhole hc hx =>
    have hnone : Digits [] := fun _ hd => by cases hd
    have hparts := IsNumeral.parts hwhole.digits hnone (by simp [hwhole.ne_nil]) (.none rfl) .none rfl rfl
    simp only [List.append_nil, hc] at hparts
    rw [hx]
    exact hparts
  | floating hwhole hfraction htail hne hc hx =>
    exact .parts hwhole.digits hfraction (by simp [hwhole.ne_nil]) (isFraction_pointed _) htail hc hx

/-! ### What is read as a number -/

theorem digits_takeWhile (cs : List Char) : Digits (cs.takeWhile Char.isDigit) := fun c hc =>
  List.all_eq_true.mp List.all_takeWhile c hc

theorem exists_wholePart (h : wholePart cs ≠ []) : ∃ after, cs = wholePart cs ++ after ∧ IsWhole (wholePart cs) := by
  cases cs with
  | nil => exact absurd rfl h
  | cons c cs =>
    unfold wholePart at h ⊢
    dsimp only at h ⊢
    split
    · next hzero =>
      obtain rfl := eq_of_beq hzero
      exact ⟨cs, rfl, isWhole_zero⟩
    · next hzero =>
      rw [if_neg hzero] at h
      have hdigit : c.isDigit = true := by
        by_contra hnot
        simp [hnot] at h
      refine ⟨_, (List.takeWhile_append_dropWhile).symm, .inr ⟨digits_takeWhile _, c, ?_, ?_⟩⟩
      · simp [hdigit]
      · simpa using hzero

theorem exists_fractionPart (cs : List Char) : ∃ after, cs = pointed (fractionPart cs) ++ after ∧
    (pointed (fractionPart cs)).length = fractionLength cs ∧ Digits (fractionPart cs) := by
  have hlength : (pointed (fractionPart cs)).length = fractionLength cs := by
    unfold pointed fractionLength
    split <;> simp_all
  unfold fractionPart at hlength ⊢
  split at hlength
  · next tail =>
    by_cases hnil : tail.takeWhile Char.isDigit = []
    · exact ⟨'.' :: tail, by simp [hnil, pointed], hlength, digits_takeWhile _⟩
    · refine ⟨tail.dropWhile Char.isDigit, ?_, hlength, digits_takeWhile _⟩
      simp [pointed, hnil, List.takeWhile_append_dropWhile]
  · exact ⟨_, rfl, hlength, fun _ hd => by cases hd⟩

/-- The sign that a text starts with, or none. -/
theorem exists_sign (cs : List Char) : ∃ negative,
    IsSign negative ((cs.take 1).filter fun s => s == '-' || s == '+') ∧
    (((cs.take 1).filter fun s => s == '-' || s == '+') == ['-']) = negative ∧
    cs = ((cs.take 1).filter fun s => s == '-' || s == '+') ++
      cs.drop ((cs.take 1).filter fun s => s == '-' || s == '+').length := by
  cases cs with
  | nil => exact ⟨false, .none, rfl, rfl⟩
  | cons c cs =>
    by_cases hminus : c = '-'
    · subst hminus
      exact ⟨true, .minus, rfl, rfl⟩
    · by_cases hplus : c = '+'
      · subst hplus
        exact ⟨false, .plus, rfl, rfl⟩
      · have hnone : ((c :: cs).take 1).filter (fun s => s == '-' || s == '+') = [] := by simp [hminus, hplus]
        rw [hnone]
        exact ⟨false, .none, rfl, rfl⟩

theorem exists_exponentPart {size : Nat} (h : exponentPart? cs = some (y, size)) :
    ∃ tail after, cs = tail ++ after ∧ tail.length = size ∧ IsPower y tail ∧ tail ≠ [] := by
  cases cs with
  | nil => cases h
  | cons mark cs =>
    unfold exponentPart? at h
    dsimp only at h
    obtain ⟨negative, hsign, hnegative, hsplit⟩ := exists_sign cs
    generalize (cs.take 1).filter (fun s => s == '-' || s == '+') = sign at h hsign hnegative hsplit
    generalize cs.drop sign.length = tail at h hsplit
    split at h
    · next hmark =>
      split at h
      · cases h
      · next hempty =>
        cases h
        have hdigits := digits_takeWhile tail
        have hne : tail.takeWhile Char.isDigit ≠ [] := mt List.isEmpty_iff.mpr hempty
        have hpower : IsPower _ (mark :: (sign ++ tail.takeWhile Char.isDigit)) :=
          .some (by simpa using hmark) hsign hdigits hne
        refine ⟨mark :: (sign ++ tail.takeWhile Char.isDigit), tail.dropWhile Char.isDigit, ?_, ?_, ?_, List.cons_ne_nil _ _⟩
        · rw [List.cons_append, List.append_assoc, List.takeWhile_append_dropWhile, hsplit]
        · rw [List.length_cons, List.length_append]
          omega
        · rw [ofDigits_map, hnegative]
          exact hpower
    · cases h

/-- What is read as a number is a literal for it. -/
theorem isLiteral_of_unsigned? {v : Value} (h : unsigned? negative cs = some (v, rest)) : ∃ c x floating literal,
    cs = literal ++ rest ∧ IsLiteral c x floating literal ∧ v = literalValue negative c x floating := by
  unfold unsigned? at h
  dsimp only at h
  split at h
  · cases h
  · next hne =>
    obtain ⟨afterWhole, hcs, hwhole⟩ := exists_wholePart (mt List.isEmpty_iff.mpr hne)
    have hdropWhole := congrArg (List.drop (wholePart cs).length) hcs
    rw [List.drop_left] at hdropWhole
    obtain ⟨afterFraction, hafter, hlength, hfraction⟩ := exists_fractionPart afterWhole
    have hdropFraction := congrArg (List.drop (fractionLength afterWhole)) hafter
    rw [← hlength, List.drop_left, hlength] at hdropFraction
    rw [hdropWhole, hdropFraction, ofDigits_map] at h
    generalize wholePart cs = whole at hcs hwhole h
    generalize fractionPart afterWhole = fraction at hafter hfraction h
    split at h
    · next y size hexponent =>
      cases h
      obtain ⟨tail, after, rfl, rfl, htail, hne⟩ := exists_exponentPart hexponent
      refine ⟨_, _, true, whole ++ pointed fraction ++ tail, ?_, .floating hwhole hfraction htail (by simp [hne]) rfl rfl, rfl⟩
      rw [List.drop_left, List.append_assoc, List.append_assoc, ← hafter, hcs]
    · split at h
      · next hempty =>
        cases h
        obtain rfl := List.isEmpty_iff.mp hempty
        refine ⟨_, _, false, whole, ?_, .integer hwhole rfl rfl, ?_⟩
        · rw [hcs, hafter]
          rfl
        · rw [List.append_nil]
          rfl
      · next hempty =>
        cases h
        have hliteral := IsLiteral.floating hwhole hfraction .none (by simpa using hempty) rfl rfl
        rw [List.append_nil, Int.zero_sub] at hliteral
        exact ⟨_, _, true, _, by rw [List.append_assoc, ← hafter, hcs], hliteral, rfl⟩

/-! ### The text of a binary number -/

/-- The exponent as it is written has at least two digits. -/
def exponentDigits (e : Int) : List Char :=
  if (digitChars e.natAbs).length < 2 then '0' :: digitChars e.natAbs else digitChars e.natAbs

theorem digits_exponentDigits (e : Int) : Digits (exponentDigits e) := by
  unfold exponentDigits
  split
  · exact (digits_replicate_zero 1).append (digits_digitChars _)
  · exact digits_digitChars _

theorem exponentDigits_ne_nil (e : Int) : exponentDigits e ≠ [] := by
  unfold exponentDigits
  split
  · exact List.cons_ne_nil _ _
  · exact digitChars_ne_nil _

theorem numberOf_exponentDigits (e : Int) : numberOf (exponentDigits e) = e.natAbs := by
  unfold exponentDigits
  split <;> simp

theorem exists_lead (h : Leads ds) : ∃ lead fraction, ds = lead :: fraction ∧ IsWhole [lead] ∧ Digits fraction := by
  cases ds with
  | nil => exact absurd rfl h.ne_nil
  | cons lead fraction =>
    have h : Leads ([lead] ++ fraction) := h
    exact ⟨lead, fraction, rfl, .inr (h.take (List.cons_ne_nil _ _)), h.digits.of_append_right⟩

/-- Where there is an exponent. -/
theorem pointText_scientific {lead : Char} {point : Int} (h : ¬(-4 ≤ point - 1 ∧ point - 1 < 16)) :
    Binary64.pointText (lead :: fraction) point =
      [lead] ++ (pointed fraction ++ 'e' :: (if point - 1 < 0 then '-' else '+') :: exponentDigits (point - 1)) := by
  have hdecide : (decide (-4 ≤ point - 1) && decide (point - 1 < 16)) = false := by simpa using h
  unfold Binary64.pointText pointed exponentDigits
  simp only [hdecide, Bool.false_eq_true, if_false]
  cases fraction <;> rfl

theorem isPower_exponentDigits (e : Int) : IsPower e ('e' :: (if e < 0 then '-' else '+') :: exponentDigits e) := by
  have hpower {negative : Bool} {sign : List Char} (hsign : IsSign negative sign) (he : signed negative e.natAbs = e) :
      IsPower e ('e' :: (sign ++ exponentDigits e)) := by
    have hpower : IsPower _ ('e' :: (sign ++ exponentDigits e)) :=
      .some (.inl rfl) hsign (digits_exponentDigits e) (exponentDigits_ne_nil e)
    rwa [numberOf_exponentDigits, he] at hpower
  split
  · next hneg => exact hpower .minus (by simp only [signed, if_true]; omega)
  · next hpos => exact hpower .plus (by simp only [signed, Bool.false_eq_true, if_false]; omega)

theorem isLiteral_scientific (h : Leads ds) {point : Int} (hpoint : ¬(-4 ≤ point - 1 ∧ point - 1 < 16)) :
    IsLiteral (numberOf ds) (point - ds.length) true (Binary64.pointText ds point) := by
  obtain ⟨lead, fraction, rfl, hwhole, hfraction⟩ := exists_lead h
  rw [pointText_scientific hpoint, ← List.append_assoc]
  refine .floating hwhole hfraction (isPower_exponentDigits _) (by simp) rfl ?_
  rw [List.length_cons]
  omega

theorem isLiteral_plain (hwhole : IsWhole whole) (hfraction : Digits fraction) (hne : fraction ≠ [])
    (hc : numberOf (whole ++ fraction) = c) (hx : -(fraction.length : Int) = x) :
    IsLiteral c x true (whole ++ '.' :: fraction) := by
  have hpointed : '.' :: fraction = pointed fraction := by simp [pointed, hne]
  rw [hpointed, ← List.append_nil (whole ++ pointed fraction)]
  exact .floating hwhole hfraction .none (by simpa using hne) hc (by omega)

/-- The number is below one, with zeros between the point and its digits. -/
theorem isLiteral_below (h : Leads ds) (k : Nat) :
    IsLiteral (numberOf ds) (-(k + ds.length : Nat)) true ('0' :: '.' :: (List.replicate k '0' ++ ds)) := by
  have hfraction := (digits_replicate_zero k).append h.digits
  refine isLiteral_plain isWhole_zero hfraction (by simp [h.ne_nil]) ?_ ?_
  · rw [List.singleton_append, numberOf_zero_cons, numberOf_append, numberOf_replicate_zero, Nat.zero_mul, Nat.zero_add]
  · rw [List.length_append, List.length_replicate]

/-- The digits end before the point, with zeros up to there and one after it. -/
theorem isLiteral_ended (h : Leads ds) (k : Nat) :
    IsLiteral (numberOf ds * 10 ^ (k + 1)) (-1) true (ds ++ List.replicate k '0' ++ ['.', '0']) := by
  have hwhole : IsWhole (ds ++ List.replicate k '0') := .inr (h.append (digits_replicate_zero k))
  refine isLiteral_plain hwhole (digits_replicate_zero 1) (List.cons_ne_nil _ _) ?_ rfl
  rw [List.append_assoc, ← List.replicate_succ', numberOf_append, numberOf_replicate_zero, List.length_replicate, Nat.add_zero]

/-- The point stands among the digits. -/
theorem isLiteral_inner (h : Leads ds) {n : Nat} (hpos : 0 < n) (hshort : n < ds.length) :
    IsLiteral (numberOf ds) (n - ds.length) true (ds.take n ++ '.' :: ds.drop n) := by
  have hsplit := List.take_append_drop n ds
  have hwhole : ds.take n ≠ [] := by
    rw [ne_eq, List.take_eq_nil_iff, not_or]
    exact ⟨hpos.ne', h.ne_nil⟩
  have hfraction : ds.drop n ≠ [] := by
    rw [ne_eq, List.drop_eq_nil_iff]
    omega
  have hleads : Leads (ds.take n ++ ds.drop n) := hsplit.symm ▸ h
  refine isLiteral_plain (.inr (hleads.take hwhole)) hleads.digits.of_append_right hfraction (congrArg numberOf hsplit) ?_
  rw [List.length_drop]
  omega

/-- The text of a binary number is a literal for its digits, with at most sixteen zeros after them. -/
theorem isLiteral_pointText (h : Leads ds) (point : Int) :
    ∃ k : Nat, k ≤ 16 ∧ IsLiteral (numberOf ds * 10 ^ k) (point - ds.length - k) true (Binary64.pointText ds point) := by
  have hexact {x : Int} {cs : List Char} (hcs : IsLiteral (numberOf ds) x true cs) (hx : x = point - ds.length) :
      ∃ k : Nat, k ≤ 16 ∧ IsLiteral (numberOf ds * 10 ^ k) (point - ds.length - k) true cs := by
    refine ⟨0, by decide, ?_⟩
    rwa [Nat.pow_zero, Nat.mul_one, Nat.cast_zero, Int.sub_zero, ← hx]
  by_cases hplain : -4 ≤ point - 1 ∧ point - 1 < 16
  · have hdecide : (decide (-4 ≤ point - 1) && decide (point - 1 < 16)) = true := by simpa using hplain
    unfold Binary64.pointText
    simp only [hdecide, if_true]
    split
    · exact hexact (isLiteral_below h (-point).toNat) (by omega)
    · split
      · have hpos := List.length_pos_of_ne_nil h.ne_nil
        refine ⟨point.toNat - ds.length + 1, by omega, ?_⟩
        have hx : point - ds.length - (point.toNat - ds.length + 1 : Nat) = -1 := by omega
        rw [hx]
        exact isLiteral_ended h _
      · exact hexact (isLiteral_inner h (n := point.toNat) (by omega) (by omega)) (by omega)
  · exact hexact (isLiteral_scientific h hplain) rfl

/-- The text of a binary number is a literal for its shortest digits. -/
theorem exists_isLiteral_chars {m : Nat} {e : Int} (hm : 0 < m) (h : (Binary64.finite negative m e).IsCanonical) :
    ∃ cs c x, (Binary64.finite negative m e).chars = signText negative ++ cs ∧ IsLiteral c x true cs ∧
      Binary64.Shifted c x (Binary64.shortest m e).1 (Binary64.shortest m e).2 ∧ (Binary64.shortest m e).2 - 16 ≤ x := by
  have hpos := Binary64.shortest_pos hm h
  rcases hs : Binary64.shortest m e with ⟨c', x'⟩
  rw [hs] at hpos
  dsimp only at hpos ⊢
  obtain ⟨zeros, hzeros⟩ := exists_eq_stripped_append (digitChars c')
  have hnumber : c' = numberOf (stripped (digitChars c')) * 10 ^ zeros := by
    have hsame := congrArg numberOf hzeros
    rwa [numberOf_digitChars, numberOf_append, numberOf_replicate_zero, List.length_replicate, Nat.add_zero] at hsame
  have hlength := congrArg List.length hzeros
  rw [List.length_append, List.length_replicate] at hlength
  obtain ⟨k, hk, hliteral⟩ := isLiteral_pointText (leads_stripped hpos) ((digitChars c').length + x')
  refine ⟨_, _, _, by rw [Binary64.chars, if_neg hm.ne', hs]; rfl, hliteral, ⟨_, k, zeros, rfl, hnumber, ?_⟩, ?_⟩
  · omega
  · omega

end Json
end SpannerSchema
