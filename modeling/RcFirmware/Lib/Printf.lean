import Mathlib.Algebra.Order.Field.Rat
import Mathlib.Data.List.TakeWhile
import Mathlib.Tactic.FieldSimp
import Mathlib.Tactic.Linarith

/-!
# Formatted integers

A format prints literal text and integers in decimal, each padded with zeros to a width that counts its
sign. Where every integer is followed by something that cannot be a digit of it, the format can be read
back and loses nothing.

A fixed-point number is often printed as two integers with a point between them. Read as a decimal, the
second of them has as many places as it has digits on paper, so the print is right when those are as
many as the fraction has.
-/

namespace Printf

inductive Piece where
  | text (chars : List Char)
  | int (width : Nat)
  deriving DecidableEq, Repr

def zeroPadded (width n : Nat) : List Char := (Nat.toDigits 10 n).leftpad width '0'

/-- `%0wd`; the width of `%d` is 0. -/
def printInt (width : Nat) (n : Int) : List Char :=
  if n < 0 then '-' :: zeroPadded (width - 1) n.natAbs else zeroPadded width n.natAbs

def print : List Piece → List Int → List Char
  | [], _ => []
  | .text chars :: format, args => chars ++ print format args
  | .int _ :: _, [] => []
  | .int width :: format, arg :: args => printInt width arg ++ print format args

def conversions : List Piece → Nat
  | [] => 0
  | .text _ :: format => conversions format
  | .int _ :: format => conversions format + 1

/-! ### Reading back -/

def StartsWithDigit (chars : List Char) : Prop := ∃ c ∈ chars.head?, c.isDigit

/-- All the digits in front, and what comes after them. -/
def scanNat? (chars : List Char) : Option (Nat × List Char) :=
  let digits := chars.takeWhile Char.isDigit
  if digits = [] then none
  else some (Nat.ofDigitChars 10 digits 0, chars.dropWhile Char.isDigit)

def scanInt? (chars : List Char) : Option (Int × List Char) :=
  if chars.head? = some '-' then (scanNat? chars.tail).map fun read => (-read.1, read.2)
  else (scanNat? chars).map fun read => (read.1, read.2)

def scan? : List Piece → List Char → Option (List Int)
  | [], [] => some []
  | [], _ :: _ => none
  | .text chars :: format, line => (chars.isPrefixOf? line).bind (scan? format)
  | .int _ :: format, line =>
      (scanInt? line).bind fun read => (scan? format read.2).map (read.1 :: ·)

/-- Nothing printed after an integer begins with a digit. -/
def Delimited : List Piece → Prop
  | [] => True
  | .text _ :: format => Delimited format
  | .int _ :: [] => True
  | .int _ :: .text [] :: _ => False
  | .int _ :: .text (c :: _) :: format => ¬ c.isDigit ∧ Delimited format
  | .int _ :: .int _ :: _ => False

theorem isDigit_of_mem_zeroPadded {width n : Nat} : ∀ c ∈ zeroPadded width n, c.isDigit := by
  intro c hc
  rw [zeroPadded, List.leftpad, List.mem_append] at hc
  obtain hzero | hdigit := hc
  · rw [List.eq_of_mem_replicate hzero]
    rfl
  · exact Nat.isDigit_of_mem_toDigits (by decide) (by decide) hdigit

theorem zeroPadded_ne_nil (width n : Nat) : zeroPadded width n ≠ [] := by
  rw [zeroPadded, List.leftpad]
  exact List.append_ne_nil_of_right_ne_nil _ Nat.toDigits_ne_nil

theorem ofDigitChars_zeroPadded (width n : Nat) :
    Nat.ofDigitChars 10 (zeroPadded width n) 0 = n := by
  rw [zeroPadded, List.leftpad, Nat.ofDigitChars_append, Nat.ofDigitChars_replicate_zero, Nat.mul_zero,
    Nat.ofDigitChars_ten_toDigits]

theorem length_zeroPadded (width n : Nat) :
    (zeroPadded width n).length = max width (Nat.toDigits 10 n).length := by
  rw [zeroPadded, List.length_leftpad]

theorem takeWhile_digits {digits rest : List Char} (hdigits : ∀ c ∈ digits, c.isDigit)
    (hrest : ¬ StartsWithDigit rest) :
    (digits ++ rest).takeWhile Char.isDigit = digits
      ∧ (digits ++ rest).dropWhile Char.isDigit = rest := by
  rw [List.takeWhile_append_of_pos hdigits, List.dropWhile_append_of_pos hdigits]
  cases rest with
  | nil => simp
  | cons c rest =>
      have hc : ¬ c.isDigit := fun hdigit => hrest ⟨c, rfl, hdigit⟩
      rw [List.takeWhile_cons_of_neg hc, List.dropWhile_cons_of_neg hc, List.append_nil]
      exact ⟨rfl, rfl⟩

theorem scanNat?_zeroPadded (width n : Nat) {rest : List Char} (hrest : ¬ StartsWithDigit rest) :
    scanNat? (zeroPadded width n ++ rest) = some (n, rest) := by
  obtain ⟨htake, hdrop⟩ := takeWhile_digits (@isDigit_of_mem_zeroPadded width n) hrest
  simp only [scanNat?, htake, hdrop, zeroPadded_ne_nil, ofDigitChars_zeroPadded, if_false]

theorem head?_zeroPadded (width n : Nat) (rest : List Char) :
    (zeroPadded width n ++ rest).head? ≠ some '-' := by
  cases hdigits : zeroPadded width n with
  | nil => exact absurd hdigits (zeroPadded_ne_nil width n)
  | cons c digits =>
      have hc : c.isDigit := isDigit_of_mem_zeroPadded c (hdigits ▸ List.mem_cons_self)
      rintro ⟨⟩
      exact absurd hc (by decide)

theorem scanInt?_printInt (width : Nat) (n : Int) {rest : List Char}
    (hrest : ¬ StartsWithDigit rest) :
    scanInt? (printInt width n ++ rest) = some (n, rest) := by
  rw [printInt]
  split_ifs with hsign
  · rw [scanInt?, List.cons_append, List.head?_cons, if_pos rfl, List.tail_cons,
      scanNat?_zeroPadded _ _ hrest, Option.map_some]
    simp only [Option.some.injEq, Prod.mk.injEq, and_true]
    omega
  · rw [scanInt?, if_neg (head?_zeroPadded _ _ _), scanNat?_zeroPadded _ _ hrest, Option.map_some]
    simp only [Option.some.injEq, Prod.mk.injEq, and_true]
    omega

theorem not_startsWithDigit_print {width : Nat} {format : List Piece}
    (hdelimited : Delimited (.int width :: format)) (args : List Int) :
    ¬ StartsWithDigit (print format args) := by
  cases format with
  | nil => simp [print, StartsWithDigit]
  | cons piece format =>
      cases piece with
      | int _ => exact absurd hdelimited id
      | text chars =>
          cases chars with
          | nil => exact absurd hdelimited id
          | cons c chars =>
              rintro ⟨first, hfirst, hdigit⟩
              cases hfirst
              exact hdelimited.1 hdigit

theorem Delimited.tail {piece : Piece} {format : List Piece}
    (hdelimited : Delimited (piece :: format)) : Delimited format := by
  cases piece with
  | text chars => exact hdelimited
  | int width =>
      cases format with
      | nil => trivial
      | cons piece format =>
          cases piece with
          | int _ => exact absurd hdelimited id
          | text chars =>
              cases chars with
              | nil => exact absurd hdelimited id
              | cons c chars => exact hdelimited.2

/-- **Round trip.** What a delimited format prints is read back as what it printed. -/
theorem scan?_print {format : List Piece} (hdelimited : Delimited format) {args : List Int}
    (hargs : args.length = conversions format) : scan? format (print format args) = some args := by
  induction format generalizing args with
  | nil =>
      obtain rfl := List.length_eq_zero_iff.mp hargs
      rfl
  | cons piece format ih =>
      cases piece with
      | text chars =>
          have hrest : chars.isPrefixOf? (chars ++ print format args) = some (print format args) :=
            List.isPrefixOf?_eq_some_iff_append_eq.mpr rfl
          rw [print, scan?, hrest, Option.bind_some, ih hdelimited.tail hargs]
      | int width =>
          cases args with
          | nil => exact absurd hargs (Nat.zero_ne_add_one _)
          | cons arg args =>
              rw [print, scan?, scanInt?_printInt width arg (not_startsWithDigit_print hdelimited args),
                Option.bind_some, ih hdelimited.tail (Nat.succ_injective hargs)]
              rfl

/-! ### Numbers with a point -/

/-- A number without a sign: digits, a point and digits up to the end. -/
def unsigned? (chars : List Char) : Option Rat :=
  (scanNat? chars).bind fun whole =>
    if whole.2.head? = some '.' then
      (scanNat? whole.2.tail).bind fun places =>
        if places.2 = [] then
          some ((whole.1 : Rat) + places.1 / 10 ^ (whole.2.tail.takeWhile Char.isDigit).length)
        else none
    else none

/-- What a number with a point says to a reader. -/
def decimal? (chars : List Char) : Option Rat :=
  if chars.head? = some '-' then (unsigned? chars.tail).map fun value => -value
  else unsigned? chars

/-- `%d.%0wd`. -/
def fixedPoint (width : Nat) : List Piece := [.int 0, .text ['.'], .int width]

/-- The places that are printed of a fraction. -/
def places (width n : Nat) : Nat := max width (Nat.toDigits 10 n).length

theorem unsigned?_zeroPadded (wholeWidth width whole n : Nat) :
    unsigned? (zeroPadded wholeWidth whole ++ '.' :: zeroPadded width n) =
      some ((whole : Rat) + n / 10 ^ places width n) := by
  have hpoint : ¬ StartsWithDigit ('.' :: zeroPadded width n) := by
    rintro ⟨c, hc, hdigit⟩
    cases hc
    exact absurd hdigit (by decide)
  have hend : ¬ StartsWithDigit [] := fun ⟨_, hc, _⟩ => nomatch hc
  have hplaces := scanNat?_zeroPadded width n hend
  have hdigits := (takeWhile_digits (@isDigit_of_mem_zeroPadded width n) hend).1
  rw [List.append_nil] at hplaces hdigits
  rw [unsigned?, scanNat?_zeroPadded wholeWidth whole hpoint, Option.bind_some, List.head?_cons,
    if_pos rfl, List.tail_cons, hplaces, Option.bind_some, if_pos rfl, hdigits, length_zeroPadded,
    places]

theorem unsigned?_minus (wholeWidth whole : Nat) (chars : List Char) :
    unsigned? (zeroPadded wholeWidth whole ++ '.' :: '-' :: chars) = none := by
  have hpoint : ¬ StartsWithDigit ('.' :: '-' :: chars) := by
    rintro ⟨c, hc, hdigit⟩
    cases hc
    exact absurd hdigit (by decide)
  rw [unsigned?, scanNat?_zeroPadded wholeWidth whole hpoint, Option.bind_some, List.head?_cons,
    if_pos rfl, List.tail_cons]
  rfl

theorem print_fixedPoint (width : Nat) (whole fraction : Int) :
    print (fixedPoint width) [whole, fraction] = printInt 0 whole ++ '.' :: printInt width fraction := by
  simp [print, fixedPoint]

/-- The second integer with a sign makes no number at all. -/
theorem decimal?_of_neg (width : Nat) (whole : Int) {fraction : Int} (hfraction : fraction < 0) :
    decimal? (print (fixedPoint width) [whole, fraction]) = none := by
  rw [print_fixedPoint, printInt, printInt, if_pos hfraction, decimal?]
  split_ifs with hsign hminus hminus
  · rw [List.cons_append, List.tail_cons, unsigned?_minus, Option.map_none]
  · exact absurd rfl hminus
  · exact absurd hminus (head?_zeroPadded _ _ _)
  · exact unsigned?_minus _ _ _

theorem decimal?_of_nonneg (width : Nat) {whole : Int} (hwhole : 0 ≤ whole) {fraction : Int}
    (hfraction : 0 ≤ fraction) :
    decimal? (print (fixedPoint width) [whole, fraction]) =
      some ((whole : Rat) + fraction / 10 ^ places width fraction.natAbs) := by
  rw [print_fixedPoint, printInt, printInt, if_neg hwhole.not_gt, if_neg hfraction.not_gt, decimal?,
    if_neg (head?_zeroPadded _ _ _), unsigned?_zeroPadded, Nat.cast_natAbs, Nat.cast_natAbs,
    abs_of_nonneg hwhole, abs_of_nonneg hfraction]

/-- A fraction of nothing is printed as what it is. -/
theorem decimal?_of_zero (width : Nat) (whole : Int) :
    decimal? (print (fixedPoint width) [whole, 0]) = some (whole : Rat) := by
  obtain hwhole | hwhole := le_or_gt 0 whole
  · rw [decimal?_of_nonneg width hwhole le_rfl, Int.cast_zero, zero_div, add_zero]
  · rw [print_fixedPoint, printInt, printInt, if_pos hwhole, if_neg (lt_irrefl 0), decimal?,
      List.cons_append, List.head?_cons, if_pos rfl, List.tail_cons, unsigned?_zeroPadded,
      Int.natAbs_zero, Nat.cast_zero, zero_div, add_zero, Option.map_some, Nat.cast_natAbs,
      abs_of_neg hwhole, Int.cast_neg, neg_neg]

theorem length_toDigits_eq_iff {decimals n : Nat} (hdecimals : 1 < decimals) (hn : n < 10 ^ decimals) :
    (Nat.toDigits 10 n).length = decimals ↔ 10 ^ (decimals - 1) ≤ n := by
  have hle := (Nat.length_toDigits_le_iff (b := 10) (by decide) (by omega)).mpr hn
  have hshort := Nat.length_toDigits_le_iff (b := 10) (n := n) (k := decimals - 1) (by decide) (by omega)
  omega

theorem places_le {decimals width n : Nat} (hwidth : width < decimals) (hn : n < 10 ^ decimals) :
    places width n ≤ decimals := by
  have hle := (Nat.length_toDigits_le_iff (b := 10) (by decide) (by omega)).mpr hn
  exact max_le hwidth.le hle

theorem places_eq_iff {decimals width n : Nat} (hdecimals : 1 < decimals) (hwidth : width < decimals)
    (hn : n < 10 ^ decimals) : places width n = decimals ↔ 10 ^ (decimals - 1) ≤ n := by
  rw [← length_toDigits_eq_iff hdecimals hn, places]
  omega

section

variable {decimals width : Nat} {whole fraction : Int}

/-- **Fixed point.** A number with a fraction in units of its last decimal, printed with fewer places
than it has decimals, reads right exactly when the fraction is zero or has no zero in front. -/
theorem decimal?_fixedPoint_iff (hdecimals : 1 < decimals) (hwidth : width < decimals)
    (hfraction : fraction.natAbs < 10 ^ decimals)
    (hsigns : (0 ≤ whole ∧ 0 ≤ fraction) ∨ (whole ≤ 0 ∧ fraction ≤ 0)) :
    decimal? (print (fixedPoint width) [whole, fraction]) =
        some (((whole * 10 ^ decimals + fraction : Int) : Rat) / 10 ^ decimals)
      ↔ fraction = 0 ∨ 10 ^ (decimals - 1) ≤ fraction := by
  have htrue : (((whole * 10 ^ decimals + fraction : Int) : Rat) / 10 ^ decimals) =
      whole + fraction / 10 ^ decimals := by
    push_cast
    field_simp
  have hpow : (0 : Int) < 10 ^ (decimals - 1) := by positivity
  rw [htrue]
  obtain hnegative | rfl | hpositive := lt_trichotomy fraction 0
  · rw [decimal?_of_neg width whole hnegative]
    apply iff_of_false
    · exact fun h => nomatch h
    · omega
  · rw [decimal?_of_zero, Int.cast_zero, zero_div, add_zero]
    exact iff_of_true rfl (.inl rfl)
  · have hwhole : 0 ≤ whole := by omega
    have hdigits := places_eq_iff hdecimals hwidth hfraction
    have hcast : (10 : Int) ^ (decimals - 1) ≤ fraction ↔ 10 ^ (decimals - 1) ≤ fraction.natAbs := by
      zify
      rw [abs_of_pos hpositive]
    have hne : (fraction : Rat) ≠ 0 := Int.cast_ne_zero.mpr hpositive.ne'
    rw [decimal?_of_nonneg width hwhole hpositive.le, Option.some_inj, add_right_inj, hcast, ← hdigits,
      or_iff_right hpositive.ne']
    constructor
    · intro hequal
      have hpows : (10 : Rat) ^ places width fraction.natAbs = 10 ^ decimals :=
        by
        rw [div_eq_mul_inv, div_eq_mul_inv] at hequal
        exact inv_injective (mul_left_cancel₀ hne hequal)
      exact pow_right_injective₀ (by norm_num) (by norm_num) hpows
    · intro hequal
      rw [hequal]

/-- A print that reads wrong reads too much. -/
theorem le_decimal?_fixedPoint (hwidth : width < decimals) (hfraction : fraction.natAbs < 10 ^ decimals)
    (hwhole : 0 ≤ whole) (hnonneg : 0 ≤ fraction) :
    ∃ shown, decimal? (print (fixedPoint width) [whole, fraction]) = some shown
      ∧ ((whole * 10 ^ decimals + fraction : Int) : Rat) / 10 ^ decimals ≤ shown := by
  refine ⟨_, decimal?_of_nonneg width hwhole hnonneg, ?_⟩
  have hcast : (0 : Rat) ≤ fraction := Int.cast_nonneg hnonneg
  calc
    ((whole * 10 ^ decimals + fraction : Int) : Rat) / 10 ^ decimals
      = whole + fraction / 10 ^ decimals := by
        push_cast
        field_simp
    _ ≤ whole + fraction / 10 ^ places width fraction.natAbs := by
        gcongr
        · norm_num
        · exact places_le hwidth hfraction

end

/-- What has no fewer digits than the width has no zero in front. -/
theorem pow_places_le {width n : Nat} (hpos : 0 < n) (hwidth : 10 ^ (width - 1) ≤ n) :
    10 ^ places width n ≤ 10 * n := by
  have hdigits : 10 ^ (Nat.toDigits 10 n).length ≤ 10 * n := by
    obtain hone | hmore := Nat.eq_or_lt_of_le (Nat.length_toDigits_pos (b := 10) (n := n))
    · rw [← hone]
      omega
    · have hshort := Nat.length_toDigits_le_iff (b := 10) (n := n)
        (k := (Nat.toDigits 10 n).length - 1) (by decide) (by omega)
      obtain ⟨k, hk⟩ := Nat.exists_eq_add_of_lt hmore
      rw [hk] at hshort ⊢
      rw [Nat.add_sub_cancel] at hshort
      rw [Nat.pow_succ]
      omega
  rw [places]
  obtain hmax | hmax := max_choice width (Nat.toDigits 10 n).length
  · rw [hmax]
    cases width with
    | zero => omega
    | succ width =>
        rw [Nat.add_sub_cancel] at hwidth
        rw [Nat.pow_succ]
        omega
  · rwa [hmax]

end Printf
