import Mathlib.Data.Rat.Defs
import SpannerSchema.Number.Decimal
import SpannerSchema.Proofs.Text.Blanks
import SpannerSchema.Proofs.Text.Digits

/-! What a text denotes as a number. A numeral has digits, perhaps with a point among, before or after them, a sign and an
    exponent; low lines in it and blanks around it do not count, and its digits may be of any script. Reading a text gives
    exactly the number that it denotes, with the digits after the point counted, if the exponent is within the bounds. -/

namespace SpannerSchema
namespace Decimal
open Text

variable {cs sign digits whole fraction point tail : List Char} {c c' : Nat} {x x' y : Int} {negative negative' : Bool}
  {d : Decimal}

/-! ### Numerals -/

/-- A sign, or none. -/
inductive IsSign : Bool → List Char → Prop where
  | none : IsSign false []
  | plus : IsSign false ['+']
  | minus : IsSign true ['-']

def signed (negative : Bool) (n : Nat) : Int := if negative then -n else n

/-- An exponent, or none, for `10^y`. -/
inductive IsPower : Int → List Char → Prop where
  | none : IsPower 0 []
  | some {mark : Char} {negative : Bool} {sign digits : List Char} (hmark : mark = 'e' ∨ mark = 'E')
    (hsign : IsSign negative sign) (hdigits : Digits digits) (hne : digits ≠ []) :
    IsPower (signed negative (numberOf digits)) (mark :: (sign ++ digits))

/-- A point with the digits after it, or neither. A point may stand without digits. -/
inductive IsFraction (fraction : List Char) : List Char → Prop where
  | point : IsFraction fraction ('.' :: fraction)
  | none (h : fraction = []) : IsFraction fraction []

/-- A numeral without a sign, of the number `c · 10^x`: its digits make up `c`, and each one after the point takes one off
the exponent. -/
inductive IsNumeral (c : Nat) (x : Int) : List Char → Prop where
  | parts {whole fraction point tail : List Char} {y : Int} (hwhole : Digits whole) (hfraction : Digits fraction)
    (hne : whole ++ fraction ≠ []) (hpoint : IsFraction fraction point) (htail : IsPower y tail)
    (hc : numberOf (whole ++ fraction) = c) (hx : y - fraction.length = x) : IsNumeral c x (whole ++ point ++ tail)

/-- What counts of a text: no low lines, and for digits of any script the ASCII ones. -/
def cleaned (cs : List Char) : List Char := (cs.filter (· != '_')).map asciiDigit

/-- A text for the number `± c · 10^x`. -/
inductive Spelled (negative : Bool) (c : Nat) (x : Int) : List Char → Prop where
  | text {before body after sign digits : List Char} (hbefore : ∀ c ∈ before, isBlank c = true)
    (hafter : ∀ c ∈ after, isBlank c = true) (hbody : cleaned body = sign ++ digits) (hsign : IsSign negative sign)
    (hdigits : IsNumeral c x digits) : Spelled negative c x (before ++ body ++ after)

/-- The number `± c · 10^x`. -/
def valueOf (negative : Bool) (c : Nat) (x : Int) : ℚ := signed negative c * 10 ^ x

/-- The text denotes the number `q` with the exponent `x`, which is that of its last digit. -/
def Denotes (q : ℚ) (x : Int) (cs : List Char) : Prop := ∃ negative c, Spelled negative c x cs ∧ valueOf negative c x = q

/-! ### Parts -/

theorem digits?_of_digits (h : Digits cs) : digits? cs = some (cs.map fun c => c.toNat - 48) := by
  unfold digits?
  induction cs with
  | nil => rfl
  | cons c cs ih =>
    have hc : c.isDigit = true := h c (by simp)
    rw [List.mapM_cons, ih fun c hc => h c (by simp [hc]), if_pos hc, digit?_of_isDigit hc]
    rfl

theorem digits_of_digits? {ds : List Nat} (h : digits? cs = some ds) : Digits cs := by
  unfold digits? at h
  induction cs generalizing ds with
  | nil =>
    intro c hc
    cases hc
  | cons c cs ih =>
    rw [List.mapM_cons] at h
    obtain ⟨d, hd, hrest⟩ := Option.bind_eq_some_iff.mp h
    obtain ⟨rest, hcs, -⟩ := Option.bind_eq_some_iff.mp hrest
    have hc : c.isDigit = true := by
      by_contra hnot
      rw [if_neg hnot] at hd
      cases hd
    exact List.forall_mem_cons.mpr ⟨hc, ih hcs⟩

theorem digits?_eq_some_iff {ds : List Nat} : digits? cs = some ds ↔ Digits cs ∧ ds = cs.map fun c => c.toNat - 48 := by
  constructor
  · intro h
    have hdigits := digits_of_digits? h
    rw [digits?_of_digits hdigits] at h
    exact ⟨hdigits, (Option.some.inj h).symm⟩
  · rintro ⟨h, rfl⟩
    exact digits?_of_digits h

theorem exponent?_append (hsign : IsSign negative sign) (hdigits : Digits digits) (hne : digits ≠ []) :
    exponent? (sign ++ digits) = some (signed negative (numberOf digits)) := by
  have hempty : digits.isEmpty = false := by simpa using hne
  have hread := digits?_of_digits hdigits
  have hnumber := ofDigits_map digits
  cases hsign with
  | minus => simp [exponent?, hempty, hread, hnumber, signed]
  | plus => simp [exponent?, hempty, hread, hnumber, signed]
  | none =>
    rw [List.nil_append]
    unfold exponent?
    split
    · exact absurd (hdigits _ List.mem_cons_self) (by decide)
    · exact absurd (hdigits _ List.mem_cons_self) (by decide)
    · simp [hempty, hread, hnumber, signed]

/-- An exponent is digits with a sign or without. -/
theorem exists_of_exponent? (h : exponent? cs = some y) : ∃ negative sign digits,
    IsSign negative sign ∧ Digits digits ∧ digits ≠ [] ∧ cs = sign ++ digits ∧ y = signed negative (numberOf digits) := by
  have hread {digits : List Char} {f : List Nat → Int}
      (h : (if digits.isEmpty then none else (digits? digits).map f) = some y) :
      Digits digits ∧ digits ≠ [] ∧ y = f (digits.map fun c => c.toNat - 48) := by
    split at h
    · cases h
    · next hempty =>
      obtain ⟨ds, hds, rfl⟩ := Option.map_eq_some_iff.mp h
      obtain ⟨hdigits, rfl⟩ := digits?_eq_some_iff.mp hds
      exact ⟨hdigits, mt List.isEmpty_iff.mpr hempty, rfl⟩
  unfold exponent? at h
  split at h
  · obtain ⟨hdigits, hne, rfl⟩ := hread h
    exact ⟨_, _, _, .minus, hdigits, hne, rfl, by simp [ofDigits_map, signed]⟩
  · obtain ⟨hdigits, hne, rfl⟩ := hread h
    exact ⟨_, _, _, .plus, hdigits, hne, rfl, by simp [ofDigits_map, signed]⟩
  · obtain ⟨hdigits, hne, rfl⟩ := hread h
    exact ⟨_, _, _, .none, hdigits, hne, rfl, by simp [ofDigits_map, signed]⟩

/-! ### Numbers without a sign -/

/-- The exponent that follows the digits of a number. -/
def power? : List Char → Option Int
  | [] => some 0
  | _ :: rest => exponent? rest

theorem power?_of_isPower (h : IsPower y tail) : power? tail = some y := by
  cases h with
  | none => rfl
  | some _ hsign hdigits hne => exact exponent?_append hsign hdigits hne

/-- What follows the digits opens with a mark. -/
theorem isPower_of_power? (hopens : ∀ mark, tail.head? = some mark → isExponentMark mark = true) (h : power? tail = some y) :
    IsPower y tail := by
  cases tail with
  | nil =>
    obtain rfl := Option.some.inj h
    exact .none
  | cons mark rest =>
    obtain ⟨negative, sign, digits, hsign, hdigits, hne, rfl, rfl⟩ := exists_of_exponent? h
    exact .some (by simpa [isExponentMark] using hopens mark rfl) hsign hdigits hne

theorem IsPower.opens (h : IsPower y tail) :
    tail.takeWhile (fun c => !isExponentMark c) = [] ∧ tail.dropWhile (fun c => !isExponentMark c) = tail := by
  cases h with
  | none => exact ⟨rfl, rfl⟩
  | @some mark _ _ _ hmark =>
    have hopens : isExponentMark mark = true := by simpa [isExponentMark] using hmark
    simp [hopens]

/-- The digits before the point and after it. -/
theorem split_point (hwhole : Digits whole) (hpoint : IsFraction fraction point) :
    (whole ++ point).takeWhile (· != '.') = whole ∧ ((whole ++ point).dropWhile (· != '.')).drop 1 = fraction := by
  have hdigit : ∀ c ∈ whole, (c != '.') = true := by
    intro c hc
    exact bne_iff_ne.mpr (ne_of_isDigit (hwhole c hc) rfl)
  rw [List.takeWhile_append_of_pos hdigit, List.dropWhile_append_of_pos hdigit]
  cases hpoint with
  | point => exact ⟨List.append_nil whole, rfl⟩
  | none h =>
    subst h
    exact ⟨List.append_nil whole, rfl⟩

theorem isFraction_pointed (fraction : List Char) : IsFraction fraction (pointed fraction) := by
  cases fraction with
  | nil => exact .none rfl
  | cons c cs => exact .point

/-- No exponent starts among the digits. -/
theorem not_isExponentMark (hwhole : Digits whole) (hfraction : Digits fraction) (hpoint : IsFraction fraction point) :
    ∀ c ∈ whole ++ point, (!isExponentMark c) = true := by
  have hdigit {c : Char} (hc : c.isDigit = true) : (!isExponentMark c) = true := by
    simp [isExponentMark, ne_of_isDigit hc (d := 'e') rfl, ne_of_isDigit hc (d := 'E') rfl]
  intro c hc
  rcases List.mem_append.mp hc with hc | hc
  · exact hdigit (hwhole c hc)
  · cases hpoint with
    | none => cases hc
    | point =>
      rcases List.mem_cons.mp hc with rfl | hc
      · rfl
      · exact hdigit (hfraction c hc)

/-- What stands before the point, and the point with what stands after it. -/
theorem exists_point (cs : List Char) : ∃ point, cs = cs.takeWhile (· != '.') ++ point ∧
    IsFraction ((cs.dropWhile (· != '.')).drop 1) point := by
  refine ⟨cs.dropWhile (· != '.'), (List.takeWhile_append_dropWhile).symm, ?_⟩
  cases hrest : cs.dropWhile (· != '.') with
  | nil => exact .none rfl
  | cons d rest =>
    have hd : d = '.' := by
      have hhead := List.head?_dropWhile_not (· != '.') cs
      rw [hrest] at hhead
      simpa using hhead
    rw [hd]
    exact .point

/-- The digits before the point of a number and after it, and what follows them. -/
def wholeOf (cs : List Char) : List Char := (cs.takeWhile fun c => !isExponentMark c).takeWhile (· != '.')

def fractionOf (cs : List Char) : List Char := ((cs.takeWhile fun c => !isExponentMark c).dropWhile (· != '.')).drop 1

def tailOf (cs : List Char) : List Char := cs.dropWhile fun c => !isExponentMark c

/-- The coefficient of a number and its exponent, whatever they are. -/
def parts? (cs : List Char) : Option (Nat × Int) :=
  (power? (tailOf cs)).bind fun y =>
    (digits? (wholeOf cs ++ fractionOf cs)).bind fun ds =>
      if ds.isEmpty then none else some (ofDigits ds, y - (fractionOf cs).length)

theorem parts?_of_isNumeral (h : IsNumeral c x cs) : parts? cs = some (c, x) := by
  cases h with
  | @parts whole fraction point tail y hwhole hfraction hne hpoint htail hc hx =>
    have hmark := not_isExponentMark hwhole hfraction hpoint
    obtain ⟨htake, hdrop⟩ := htail.opens
    obtain ⟨hbefore, hafter⟩ := split_point hwhole hpoint
    have hdigits := digits?_of_digits (hwhole.append hfraction)
    have hempty : ((whole ++ fraction).map fun c => c.toNat - 48).isEmpty = false := by simpa using hne
    simp only [parts?, wholeOf, fractionOf, tailOf, List.takeWhile_append_of_pos hmark, List.dropWhile_append_of_pos hmark,
      htake, hdrop, List.append_nil, hbefore, hafter, hdigits, power?_of_isPower htail, Option.bind_some, hempty,
      Bool.false_eq_true, if_false, ofDigits_map, hc, hx]

theorem isNumeral_of_parts? (h : parts? cs = some (c, x)) : IsNumeral c x cs := by
  obtain ⟨y, hy, h⟩ := Option.bind_eq_some_iff.mp h
  obtain ⟨ds, hds, h⟩ := Option.bind_eq_some_iff.mp h
  obtain ⟨hdigits, rfl⟩ := digits?_eq_some_iff.mp hds
  split at h
  · cases h
  · next hempty =>
    cases h
    have hne := fun hnil => hempty (List.isEmpty_iff.mpr (List.map_eq_nil_iff.mpr hnil))
    obtain ⟨point, hmantissa, hpoint⟩ := exists_point (cs.takeWhile fun c => !isExponentMark c)
    have hopens (mark : Char) (hmark : (tailOf cs).head? = some mark) : isExponentMark mark = true := by
      have hhead := List.head?_dropWhile_not (fun c => !isExponentMark c) cs
      rw [← tailOf, hmark] at hhead
      simpa using hhead
    have hparts := IsNumeral.parts hdigits.of_append_left hdigits.of_append_right hne hpoint (isPower_of_power? hopens hy) rfl rfl
    rw [wholeOf, ← hmantissa, tailOf, List.takeWhile_append_dropWhile] at hparts
    rwa [ofDigits_map]

theorem parts?_eq_some_iff : parts? cs = some (c, x) ↔ IsNumeral c x cs := ⟨isNumeral_of_parts?, parts?_of_isNumeral⟩

/-- A number is read as its parts, where they are within the bounds. -/
theorem unsigned?_eq (negative : Bool) (cs : List Char) : unsigned? negative cs =
    (parts? cs).bind fun p => if inBounds p.1 p.2 then some (finite negative p.1 p.2) else none := by
  have hread : unsigned? negative cs = (power? (tailOf cs)).bind fun y =>
      (digits? (wholeOf cs ++ fractionOf cs)).bind fun ds =>
        if ds.isEmpty then none
        else if inBounds (ofDigits ds) (y - (fractionOf cs).length) then
          some (finite negative (ofDigits ds) (y - (fractionOf cs).length))
        else none := by
    unfold unsigned? tailOf
    cases cs.dropWhile fun c => !isExponentMark c <;> rfl
  rw [hread, parts?]
  cases power? (tailOf cs) with
  | none => rfl
  | some y =>
    cases digits? (wholeOf cs ++ fractionOf cs) with
    | none => rfl
    | some ds =>
      simp only [Option.bind_some]
      split <;> rfl

theorem unsigned?_eq_some_iff : unsigned? negative cs = some d ↔
    ∃ c x, IsNumeral c x cs ∧ inBounds c x = true ∧ d = finite negative c x := by
  simp only [unsigned?_eq, Option.bind_eq_some_iff, Prod.exists, parts?_eq_some_iff, Option.ite_none_right_eq_some,
    Option.some.injEq, eq_comm (b := d)]

/-! ### Numbers with a sign -/

theorem isSign_signText (negative : Bool) : IsSign negative (signText negative) := by
  cases negative with
  | true => exact .minus
  | false => exact .none

/-- The first character of a number without its sign. -/
theorem IsNumeral.head (h : IsNumeral c x cs) : ∃ lead rest, cs = lead :: rest ∧ (lead.isDigit = true ∨ lead = '.') := by
  cases h with
  | @parts whole fraction point tail y hwhole hfraction hne hpoint htail hc hx =>
    cases whole with
    | cons lead whole => exact ⟨lead, _, rfl, .inl (hwhole lead List.mem_cons_self)⟩
    | nil =>
      cases hpoint with
      | point => exact ⟨'.', _, rfl, .inr rfl⟩
      | none hnil => exact absurd hnil hne

theorem toLower_of_isDigit {c : Char} (h : c.isDigit = true) : c.toLower = c := by
  have hbounds := toNat_of_isDigit h
  unfold Char.toLower
  split
  · next hupper =>
    have habove : 65 ≤ c.toNat := UInt32.le_iff_toNat_le.mp hupper.1
    omega
  · rfl

/-- No word starts as a number does. -/
theorem magnitude?_of_isNumeral (h : IsNumeral c x cs) (negative : Bool) : magnitude? negative cs = unsigned? negative cs := by
  obtain ⟨lead, rest, rfl, hlead⟩ := h.head
  have hne : lead.toLower ≠ 'i' ∧ lead.toLower ≠ 'n' ∧ lead.toLower ≠ 's' := by
    rcases hlead with hdigit | rfl
    · rw [toLower_of_isDigit hdigit]
      exact ⟨ne_of_isDigit hdigit rfl, ne_of_isDigit hdigit rfl, ne_of_isDigit hdigit rfl⟩
    · decide
  unfold magnitude?
  simp [List.isPrefixOf, hne.1, hne.2.1.symm, hne.2.2.symm]

theorem magnitude?_eq_finite_iff {n : Bool} : magnitude? negative cs = some (finite n c x) ↔
    n = negative ∧ IsNumeral c x cs ∧ inBounds c x = true := by
  constructor
  · intro h
    have hunsigned : unsigned? negative cs = some (finite n c x) := by
      unfold magnitude? at h
      dsimp only at h
      split at h
      · cases h
      · split at h
        · obtain ⟨ds, -, hds⟩ := Option.map_eq_some_iff.mp h
          cases hds
        · split at h
          · obtain ⟨ds, -, hds⟩ := Option.map_eq_some_iff.mp h
            cases hds
          · exact h
    obtain ⟨c', x', hnumeral, hbounds, hd⟩ := unsigned?_eq_some_iff.mp hunsigned
    cases hd
    exact ⟨rfl, hnumeral, hbounds⟩
  · rintro ⟨rfl, h, hbounds⟩
    rw [magnitude?_of_isNumeral h]
    exact unsigned?_eq_some_iff.mpr ⟨c, x, h, hbounds, rfl⟩

/-- A number with its sign is read by that. -/
theorem magnitude?_of_isSign (hsign : IsSign negative sign) (hdigits : IsNumeral c x digits) :
    (match sign ++ digits with
      | '-' :: rest => magnitude? true rest
      | '+' :: rest => magnitude? false rest
      | rest => magnitude? false rest) = magnitude? negative digits := by
  cases hsign with
  | minus => rfl
  | plus => rfl
  | none =>
    obtain ⟨lead, rest, rfl, hlead⟩ := hdigits.head
    rw [List.nil_append]
    split
    · next heq =>
      cases heq
      exact absurd hlead (by decide)
    · next heq =>
      cases heq
      exact absurd hlead (by decide)
    · rfl

/-! ### Texts -/

/-- Reading takes a digit as it is. -/
theorem read_of_isDigit {c : Char} (h : c.isDigit = true) : isBlank c = false ∧ (c != '_') = true ∧ asciiDigit c = c := by
  have hdigit := digit?_of_isDigit h
  obtain ⟨hlow, hhigh⟩ := toNat_of_isDigit h
  refine ⟨?_, bne_iff_ne.mpr (ne_of_isDigit h rfl), ?_⟩
  · by_contra hblank
    rw [digit?_of_isBlank (eq_true_of_ne_false hblank)] at hdigit
    cases hdigit
  · have hsame : 48 + (c.toNat - 48) = c.toNat := by omega
    rw [asciiDigit, hdigit]
    simp only [hsame, Char.ofNat_toNat]

/-- The characters of a number. -/
def IsPart (c : Char) : Prop := c.isDigit = true ∨ c ∈ ['.', 'e', 'E', '+', '-']

theorem IsPart.read {c : Char} (h : IsPart c) : isBlank c = false ∧ (c != '_') = true ∧ asciiDigit c = c := by
  rcases h with h | h
  · exact read_of_isDigit h
  · simp only [List.mem_cons, List.not_mem_nil, or_false] at h
    rcases h with rfl | rfl | rfl | rfl | rfl <;> decide

theorem IsSign.isPart (h : IsSign negative sign) : ∀ c ∈ sign, IsPart c := by
  cases h <;> simp [IsPart]

theorem IsNumeral.isPart (h : IsNumeral c x cs) : ∀ d ∈ cs, IsPart d := by
  have hpart {ds : List Char} (hds : Digits ds) : ∀ d ∈ ds, IsPart d := fun d hd => .inl (hds d hd)
  cases h with
  | @parts whole fraction point tail y hwhole hfraction hne hpoint htail hc hx =>
    have hpoint : ∀ d ∈ point, IsPart d := by
      cases hpoint with
      | point => exact List.forall_mem_cons.mpr ⟨.inr (by decide), hpart hfraction⟩
      | none => exact fun _ hd => by cases hd
    have htail : ∀ d ∈ tail, IsPart d := by
      cases htail with
      | none => exact fun _ hd => by cases hd
      | some hmark hsign hdigits =>
        refine List.forall_mem_cons.mpr ⟨?_, List.forall_mem_append.mpr ⟨hsign.isPart, hpart hdigits⟩⟩
        rcases hmark with rfl | rfl <;> exact .inr (by decide)
    exact List.forall_mem_append.mpr ⟨List.forall_mem_append.mpr ⟨hpart hwhole, hpoint⟩, htail⟩

/-- A blank stays a blank. -/
theorem asciiDigit_of_isBlank {c : Char} (h : isBlank c = true) : asciiDigit c = c := by
  rw [asciiDigit, digit?_of_isBlank h]

theorem mem_cleaned_of_isBlank {c : Char} (h : isBlank c = true) (hc : c ∈ cs) : c ∈ cleaned cs := by
  have hline : (c != '_') = true := by
    rw [bne_iff_ne]
    rintro rfl
    exact absurd h (by decide)
  exact List.mem_map.mpr ⟨c, List.mem_filter.mpr ⟨hc, hline⟩, asciiDigit_of_isBlank h⟩

theorem spelled_iff : Spelled negative c x cs ↔
    ∃ sign digits, cleaned (strip isBlank cs) = sign ++ digits ∧ IsSign negative sign ∧ IsNumeral c x digits := by
  constructor
  · rintro ⟨hbefore, hafter, hbody, hsign, hdigits⟩
    rename_i before body after sign digits
    have hnone : ∀ c ∈ body, isBlank c = false := by
      intro c hc
      by_contra hblank
      have hpart := List.forall_mem_append.mpr ⟨hsign.isPart, hdigits.isPart⟩ c
        (hbody ▸ mem_cleaned_of_isBlank (eq_true_of_ne_false hblank) hc)
      exact hblank hpart.read.1
    have hne : body ≠ [] := by
      rintro rfl
      obtain ⟨lead, rest, rfl, -⟩ := hdigits.head
      exact absurd hbody.symm (by simp [cleaned])
    rw [strip_append hbefore hafter hnone hne]
    exact ⟨sign, digits, hbody, hsign, hdigits⟩
  · rintro ⟨sign, digits, hcleaned, hsign, hdigits⟩
    obtain ⟨before, after, heq, hbefore, hafter⟩ := exists_eq_strip_append isBlank cs
    rw [heq]
    exact .text hbefore hafter hcleaned hsign hdigits

/-- A sign and a number are a text as they stand. -/
theorem spelled_of_isSign (hsign : IsSign negative sign) (hdigits : IsNumeral c x digits) :
    Spelled negative c x (sign ++ digits) := by
  have hread : ∀ d ∈ sign ++ digits, IsPart d := List.forall_mem_append.mpr ⟨hsign.isPart, hdigits.isPart⟩
  have hcleaned : cleaned (sign ++ digits) = sign ++ digits := by
    rw [cleaned, List.filter_eq_self.mpr fun d hd => (hread d hd).read.2.1]
    exact (List.map_congr_left fun d hd => (hread d hd).read.2.2).trans (List.map_id _)
  have htext : Spelled negative c x ([] ++ (sign ++ digits) ++ []) :=
    .text (by simp) (by simp) hcleaned hsign hdigits
  rwa [List.nil_append, List.append_nil] at htext

/-- A text is read as the number that it denotes, if its exponent is within the bounds. -/
theorem ofChars?_of_spelled (h : Spelled negative c x cs) :
    ofChars? cs = if inBounds c x then some (finite negative c x) else none := by
  obtain ⟨sign, digits, hcleaned, hsign, hdigits⟩ := spelled_iff.mp h
  have hread : ofChars? cs = magnitude? negative digits := by
    rw [ofChars?, ← cleaned, hcleaned]
    exact magnitude?_of_isSign hsign hdigits
  rw [hread, magnitude?_of_isNumeral hdigits, unsigned?_eq, parts?_of_isNumeral hdigits, Option.bind_some]

theorem spelled_of_ofChars? (h : ofChars? cs = some (finite negative c x)) :
    Spelled negative c x cs ∧ inBounds c x = true := by
  rw [spelled_iff]
  rw [ofChars?, ← cleaned] at h
  split at h
  · next digits hcleaned =>
    obtain ⟨rfl, hnumeral, hbounds⟩ := magnitude?_eq_finite_iff.mp h
    exact ⟨⟨_, digits, hcleaned, .minus, hnumeral⟩, hbounds⟩
  · next digits hcleaned =>
    obtain ⟨rfl, hnumeral, hbounds⟩ := magnitude?_eq_finite_iff.mp h
    exact ⟨⟨_, digits, hcleaned, .plus, hnumeral⟩, hbounds⟩
  · obtain ⟨rfl, hnumeral, hbounds⟩ := magnitude?_eq_finite_iff.mp h
    exact ⟨⟨_, _, rfl, .none, hnumeral⟩, hbounds⟩

theorem ofChars?_eq_finite_iff :
    ofChars? cs = some (finite negative c x) ↔ Spelled negative c x cs ∧ inBounds c x = true := by
  constructor
  · exact spelled_of_ofChars?
  · rintro ⟨h, hbounds⟩
    rw [ofChars?_of_spelled h, if_pos hbounds]

/-- A sign and a number in one way only. -/
theorem IsSign.unique {sign' digits' : List Char} (hsign : IsSign negative sign) (hsign' : IsSign negative' sign')
    (hdigits : IsNumeral c x digits) (hdigits' : IsNumeral c' x' digits') (h : sign ++ digits = sign' ++ digits') :
    negative = negative' ∧ digits = digits' := by
  obtain ⟨lead, rest, rfl, hlead⟩ := hdigits.head
  obtain ⟨lead', rest', rfl, hlead'⟩ := hdigits'.head
  have hplus : ¬('+'.isDigit = true ∨ '+' = '.') := by decide
  have hminus : ¬('-'.isDigit = true ∨ '-' = '.') := by decide
  cases hsign <;> cases hsign' <;> cases h <;> first | exact ⟨rfl, rfl⟩ | contradiction

/-- No text is one of two numbers. -/
theorem Spelled.unique (h : Spelled negative c x cs) (h' : Spelled negative' c' x' cs) :
    negative = negative' ∧ c = c' ∧ x = x' := by
  obtain ⟨sign, digits, hcleaned, hsign, hdigits⟩ := spelled_iff.mp h
  obtain ⟨sign', digits', hcleaned', hsign', hdigits'⟩ := spelled_iff.mp h'
  obtain ⟨rfl, rfl⟩ := hsign.unique hsign' hdigits hdigits' (hcleaned.symm.trans hcleaned')
  have hparts := (parts?_of_isNumeral hdigits).symm.trans (parts?_of_isNumeral hdigits')
  cases hparts
  exact ⟨rfl, rfl, rfl⟩

/-- The text of a number denotes its value, and nothing else. -/
theorem Spelled.denotes_iff {q : ℚ} (h : Spelled negative c x cs) : Denotes q x' cs ↔ q = valueOf negative c x ∧ x' = x := by
  constructor
  · rintro ⟨negative', c', h', rfl⟩
    obtain ⟨rfl, rfl, rfl⟩ := h.unique h'
    exact ⟨rfl, rfl⟩
  · rintro ⟨rfl, rfl⟩
    exact ⟨negative, c, h, rfl⟩

end Decimal
end SpannerSchema
