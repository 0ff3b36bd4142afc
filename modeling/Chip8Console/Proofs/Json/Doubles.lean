import Chip8Console.Proofs.Doubles.Shortest
import Chip8Console.Proofs.Json.Members

/-! # Written doubles read back

What is written for a positive double is a number of the grammar that stands for the shortest digits of the double
(`standsFor_decimal`).  They lie around it, so the double is what they are read as (`readsAs_writeDouble`).

That digits are read as the nearest double is what this rests on (`ReadsNearest`).  It is true of `magnitude?`, but it
is an assumption about a reader that is free to trade the last place for speed.
-/

namespace Chip8Console

namespace Json

/-! ## Digits -/

theorem appendDigits_zeros (n k : ℕ) : appendDigits n (List.replicate k '0') = n * 10 ^ k := by
  induction k generalizing n with
  | zero => simp [appendDigits]
  | succ k ih =>
    have step : appendDigits n (List.replicate (k + 1) '0') = appendDigits (n * 10) (List.replicate k '0') := rfl
    rw [step, ih, pow_succ]
    ring

theorem digitsValue_append_zeros (ds : List Char) (k : ℕ) :
    digitsValue (ds ++ List.replicate k '0') = digitsValue ds * 10 ^ k := by
  rw [← appendDigits_digitsValue, appendDigits_zeros]

theorem digitsValue_zeros_append (ds : List Char) (k : ℕ) :
    digitsValue (List.replicate k '0' ++ ds) = digitsValue ds := by
  have zero : digitsValue (List.replicate k '0') = 0 := by rw [digitsValue, appendDigits_zeros, Nat.zero_mul]
  rw [← appendDigits_digitsValue, zero]
  rfl

end Json

namespace Decimal

/-- The digits of a number without the zeros at its end. -/
def significantDigits (n : ℕ) : List Char :=
  ((Nat.toDigits 10 n).reverse.dropWhile (· == '0')).reverse

theorem toDigits_eq_significantDigits (n : ℕ) :
    ∃ k, Nat.toDigits 10 n = significantDigits n ++ List.replicate k '0' := by
  refine ⟨((Nat.toDigits 10 n).reverse.takeWhile (· == '0')).length, ?_⟩
  have zeros : (Nat.toDigits 10 n).reverse.takeWhile (· == '0') =
      List.replicate ((Nat.toDigits 10 n).reverse.takeWhile (· == '0')).length '0' := by
    rw [List.eq_replicate_iff]
    exact ⟨rfl, fun c among => by simpa using List.mem_takeWhile_imp among⟩
  have parts := congrArg List.reverse
    (List.takeWhile_append_dropWhile (p := (· == '0')) (l := (Nat.toDigits 10 n).reverse))
  rw [List.reverse_append, List.reverse_reverse, zeros, List.reverse_replicate] at parts
  exact parts.symm

theorem significantDigits_cons {n : ℕ} (positive : 0 < n) :
    ∃ d ds, significantDigits n = d :: ds ∧ d ≠ '0' ∧ ∀ c ∈ d :: ds, c.isDigit := by
  obtain ⟨k, parts⟩ := toDigits_eq_significantDigits n
  obtain ⟨d, ds, front, lead⟩ := Json.toDigits_eq_cons n
  have other : d ≠ '0' := fun zero => by
    have := lead zero
    omega
  cases digits : significantDigits n with
  | nil =>
    -- The first digit would be one of the zeros at the end.
    rw [digits, List.nil_append, front] at parts
    exact absurd (List.eq_of_mem_replicate (parts ▸ List.mem_cons_self)) other
  | cons c cs =>
    rw [digits, front] at parts
    obtain ⟨rfl, -⟩ := List.cons.inj parts
    refine ⟨d, cs, rfl, other, fun a among => ?_⟩
    have listed : a ∈ Nat.toDigits 10 n := by
      rw [front, parts]
      exact List.mem_append_left _ among
    exact Nat.isDigit_of_mem_toDigits (by decide) (by decide) listed

end Decimal

namespace Json

open Decimal (positionalText exponentText significantDigits)

/-! ## Numbers in either notation -/

/-- This text is a number that stands for `v`, and it is not written as an integer. -/
def StandsFor (cs : List Char) (v : ℚ) : Prop :=
  ∃ numeral, Magnitude cs numeral ∧ numeral.whole = false ∧ (numeral.digits : ℚ) * 10 ^ numeral.exponent = v

theorem standsFor_point {whole ds : List Char} (isWhole : Whole whole) (digits : Digits ds) :
    StandsFor (whole ++ '.' :: ds) (digitsValue (whole ++ ds) * 10 ^ (-ds.length : ℤ)) := by
  have magnitude := Magnitude.mk isWhole (.point digits) .none
  rw [List.append_nil] at magnitude
  exact ⟨_, magnitude, rfl, by rw [Int.add_zero]⟩

theorem isDigit_replicate_zero {n : ℕ} {c : Char} (among : c ∈ List.replicate n '0') : c.isDigit := by
  rw [List.eq_of_mem_replicate among]
  rfl

section Notations

variable {d : Char} {ds : List Char}

theorem standsFor_positionalText (lead : d ≠ '0') (digits : ∀ c ∈ d :: ds, c.isDigit) (point : ℤ) :
    StandsFor (positionalText number (d :: ds) point).toList
      (digitsValue (d :: ds) * 10 ^ (point - (d :: ds).length)) := by
  unfold positionalText
  split
  · next low =>
    -- All digits stand behind the point, with zeros in front of them.
    have fraction : Digits (List.replicate (-point).toNat '0' ++ d :: ds) := by
      refine ⟨by simp, fun c among => ?_⟩
      rcases List.mem_append.mp among with isZero | among
      · exact isDigit_replicate_zero isZero
      · exact digits c among
    have stands := standsFor_point .zero fraction
    have value : digitsValue (['0'] ++ (List.replicate (-point).toNat '0' ++ d :: ds)) = digitsValue (d :: ds) :=
      digitsValue_zeros_append (d :: ds) ((-point).toNat + 1)
    have power : (-(List.replicate (-point).toNat '0' ++ d :: ds).length : ℤ) = point - (d :: ds).length := by
      simp only [List.length_append, List.length_replicate]
      omega
    rw [value, power] at stands
    simpa [Decimal.zeros] using stands
  · simp only
    split
    · next few =>
      -- All digits stand before the point, with zeros to fill up, and one more zero behind it.
      have whole : ∀ c ∈ d :: (ds ++ List.replicate (point.toNat - (d :: ds).length) '0'), c.isDigit := by
        intro c among
        rw [← List.cons_append] at among
        rcases List.mem_append.mp among with among | isZero
        · exact digits c among
        · exact isDigit_replicate_zero isZero
      have stands := standsFor_point (.digits lead whole) (show Digits ['0'] from ⟨by simp, by simp⟩)
      have value : digitsValue (d :: (ds ++ List.replicate (point.toNat - (d :: ds).length) '0') ++ ['0']) =
          digitsValue (d :: ds) * 10 ^ (point.toNat - (d :: ds).length + 1) := by
        rw [← digitsValue_append_zeros, List.replicate_succ', ← List.append_assoc]
        rfl
      have power : (10 : ℚ) ^ (point.toNat - (d :: ds).length + 1) * 10 ^ (-['0'].length : ℤ) =
          10 ^ (point - (d :: ds).length) := by
        rw [← zpow_natCast, ← zpow_add₀ (by norm_num)]
        congr 1
        simp only [List.length_cons, List.length_nil] at few ⊢
        omega
      rw [value, Nat.cast_mul, Nat.cast_pow, Nat.cast_ofNat, mul_assoc, power] at stands
      simpa [Decimal.zeros, number] using stands
    · next more =>
      -- The point stands between the digits.
      obtain ⟨places, count⟩ : ∃ places, point.toNat = places + 1 := ⟨point.toNat - 1, by omega⟩
      have whole : ∀ c ∈ d :: ds.take places, c.isDigit := by
        intro c among
        have listed : c ∈ (d :: ds).take (places + 1) := by rwa [List.take_succ_cons]
        exact digits c (List.mem_of_mem_take listed)
      have fraction : Digits ((d :: ds).drop (places + 1)) := by
        refine ⟨?_, fun c among => digits c (List.mem_of_mem_drop among)⟩
        rw [ne_eq, List.drop_eq_nil_iff]
        omega
      have stands := standsFor_point (.digits lead whole) fraction
      have value : d :: ds.take places ++ (d :: ds).drop (places + 1) = d :: ds := by simp
      have power : (-((d :: ds).drop (places + 1)).length : ℤ) = point - (d :: ds).length := by
        rw [List.length_drop]
        omega
      rw [value, power] at stands
      simpa [count] using stands

theorem digits_toString (n : ℕ) : Digits (toString n).toList ∧ digitsValue (toString n).toList = n := by
  have same : (toString n).toList = Nat.toDigits 10 n := by
    simp [toString, Nat.repr]
  rw [same]
  have digits : ∀ c ∈ Nat.toDigits 10 n, c.isDigit := fun c => Nat.isDigit_of_mem_toDigits (by decide) (by decide)
  exact ⟨⟨Nat.toDigits_ne_nil, digits⟩, digitsValue_toDigits n⟩

theorem standsFor_exponentText (lead : d ≠ '0') (digits : ∀ c ∈ d :: ds, c.isDigit) (exponent : ℤ) :
    StandsFor (exponentText (d :: ds) exponent).toList (digitsValue (d :: ds) * 10 ^ (exponent - ds.length)) := by
  have whole : Whole [d] := .digits lead fun c among => digits c (by simp_all)
  have fraction : Fraction (if ds.isEmpty then "" else "." ++ String.ofList ds).toList ds := by
    cases ds with
    | nil => exact .none
    | cons c cs =>
      have run : Digits (c :: cs) := ⟨by simp, fun a among => digits a (List.mem_cons_of_mem _ among)⟩
      simpa using Fraction.point run
  have sign : Sign (if exponent < 0 then "-" else "+").toList (decide (exponent < 0)) := by
    by_cases negative : exponent < 0
    · simpa [negative] using Sign.minus
    · simpa [negative] using Sign.plus
  obtain ⟨size, value⟩ := digits_toString exponent.natAbs
  have magnitude := Magnitude.mk whole fraction (.power (.inl rfl) sign size)
  have power : (-ds.length : ℤ) + (if decide (exponent < 0) then -digitsValue (toString exponent.natAbs).toList
      else digitsValue (toString exponent.natAbs).toList : ℤ) = exponent - ds.length := by
    rw [value]
    split
    · next negative =>
      have := of_decide_eq_true negative
      omega
    · next negative =>
      have := of_decide_eq_false (Bool.eq_false_iff.mpr negative)
      omega
  rw [power] at magnitude
  have text : (exponentText (d :: ds) exponent).toList =
      [d] ++ ((if ds.isEmpty then "" else "." ++ String.ofList ds).toList ++
        'e' :: ((if exponent < 0 then "-" else "+").toList ++ (toString exponent.natAbs).toList)) := by
    simp [exponentText]
  rw [text]
  exact ⟨_, magnitude, by simp, rfl⟩

end Notations

theorem standsFor_decimal {d : Decimal} (positive : 0 < d.coefficient) :
    StandsFor (number.decimal d).toList (d.coefficient * 10 ^ d.exponent) := by
  obtain ⟨k, parts⟩ := Decimal.toDigits_eq_significantDigits d.coefficient
  obtain ⟨c, cs, front, lead, digits⟩ := Decimal.significantDigits_cons positive
  have total := congrArg digitsValue parts
  have length := congrArg List.length parts
  rw [digitsValue_toDigits, digitsValue_append_zeros, front] at total
  rw [List.length_append, List.length_replicate, front] at length
  have value : (d.coefficient : ℚ) * 10 ^ d.exponent = digitsValue (c :: cs) * 10 ^ (k + d.exponent : ℤ) := by
    rw [zpow_add₀ (by norm_num), zpow_natCast, ← mul_assoc]
    congr 1
    exact_mod_cast total
  unfold Decimal.Style.decimal
  simp only [length]
  rw [significantDigits] at front
  rw [front, value]
  split
  · have stands := standsFor_positionalText lead digits (((c :: cs).length + k : ℕ) + d.exponent)
    have power : (((c :: cs).length + k : ℕ) + d.exponent - (c :: cs).length : ℤ) = k + d.exponent := by omega
    rwa [power] at stands
  · have stands := standsFor_exponentText lead digits (((c :: cs).length + k : ℕ) + d.exponent - 1)
    have power : (((c :: cs).length + k : ℕ) + d.exponent - 1 - cs.length : ℤ) = k + d.exponent := by
      rw [List.length_cons]
      omega
    rwa [power] at stands

/-! ## Reading -/

/-- Between which powers of ten a number is that is written with so many digits. -/
theorem toDigits_bounds {n : ℕ} (positive : 0 < n) :
    10 ^ ((Nat.toDigits 10 n).length - 1) ≤ n ∧ n < 10 ^ (Nat.toDigits 10 n).length := by
  have some : 0 < (Nat.toDigits 10 n).length := Nat.length_toDigits_pos
  refine ⟨?_, (Nat.length_toDigits_le_iff (by decide) some).mp (Nat.le_refl _)⟩
  by_contra small
  rw [not_le] at small
  by_cases one : (Nat.toDigits 10 n).length = 1
  · rw [one] at small
    omega
  · -- Then one digit less would be enough.
    have fewer := (Nat.length_toDigits_le_iff (by decide) (by omega)).mpr small
    omega

section Reading

open Doubles (Around)

variable {x : Float} {m : ℕ} {e : ℤ} {positive : 0 < m}

theorem ofFloat_of_unpack (unpacked : x.toModel.unpack = .finite .positive m e positive) :
    Binary64.ofFloat x = .finite false m e := by
  rw [Binary64.ofFloat_eq, unpacked]
  rfl

theorem two_pow_lt_ten_pow : (2 : ℚ) ^ 1200 < 10 ^ 400 := by
  have small : (2 : ℚ) ^ 3 < 10 := by norm_num
  calc (2 : ℚ) ^ 1200 = (2 ^ 3) ^ 400 := by rw [← pow_mul]
    _ < 10 ^ 400 := pow_lt_pow_left₀ small (by norm_num) (by norm_num)

theorem around_bounds (finite : Binary64.ofFloat x = .finite false m e) (positive : 0 < m) {v : ℚ}
    (around : Around m e v) : (10 : ℚ) ^ (-400 : ℤ) < v ∧ v < 10 ^ (400 : ℤ) := by
  have canonical := Doubles.canonical_of_ofFloat finite
  have unit : (0 : ℚ) < 2 ^ e := by positivity
  constructor
  · have half : (1 / 2 : ℚ) ≤ m - if m = 2 ^ 52 ∧ -1074 < e then 1 / 4 else 1 / 2 := by
      have : (1 : ℚ) ≤ m := by exact_mod_cast positive
      split <;> linarith
    calc (10 : ℚ) ^ (-400 : ℤ) = (10 ^ 400)⁻¹ := by rw [zpow_neg, zpow_ofNat]
      _ < (2 ^ 1200)⁻¹ := inv_strictAnti₀ (by positivity) two_pow_lt_ten_pow
      _ = 2 ^ (-1200 : ℤ) := by rw [zpow_neg, zpow_ofNat]
      _ ≤ 2 ^ (e - 1) := zpow_le_zpow_right₀ (by norm_num) (by have := canonical.least; omega)
      _ = 1 / 2 * 2 ^ e := by rw [zpow_sub_one₀ (by norm_num)]; ring
      _ ≤ _ := mul_le_mul_of_nonneg_right half unit.le
      _ ≤ v := around.least
  · have most : (m + 1 / 2 : ℚ) ≤ 2 ^ 53 := by
      have : ((m + 1 : ℕ) : ℚ) ≤ (2 ^ 53 : ℕ) := by exact_mod_cast canonical.small
      push_cast at this
      linarith
    calc v ≤ (m + 1 / 2) * 2 ^ e := around.most
      _ ≤ 2 ^ 53 * 2 ^ e := mul_le_mul_of_nonneg_right most unit.le
      _ = 2 ^ (53 + e) := by rw [zpow_add₀ (by norm_num), zpow_ofNat]
      _ ≤ 2 ^ (1200 : ℤ) := zpow_le_zpow_right₀ (by norm_num) (by have := Doubles.exponent_le_of_ofFloat finite; omega)
      _ = 2 ^ 1200 := zpow_ofNat ..
      _ < 10 ^ 400 := two_pow_lt_ten_pow
      _ = 10 ^ (400 : ℤ) := (zpow_ofNat ..).symm

theorem pos_of_around (finite : Binary64.ofFloat x = .finite false m e) (positive : 0 < m) {n : ℕ} {k : ℤ}
    (around : Around m e (n * 10 ^ k)) : 0 < n := by
  by_contra none
  obtain ⟨above, -⟩ := around_bounds finite positive around
  rw [Nat.eq_zero_of_not_pos none, Nat.cast_zero, zero_mul] at above
  exact absurd above (not_lt_of_ge (by positivity))

/-- Digits that make a number around a positive double are read as this double. -/
def ReadsNearest (read? : ℕ → ℤ → Option Float) : Prop :=
  ∀ {x : Float} {m : ℕ} {e : ℤ} {positive : 0 < m}, x.toModel.unpack = .finite .positive m e positive →
    ∀ {n : ℕ} {k : ℤ}, Around m e (n * 10 ^ k) → read? n k = some x

theorem readsNearest_magnitude? : ReadsNearest magnitude? := by
  intro x m e positive unpacked n k around
  have digits := pos_of_around (ofFloat_of_unpack unpacked) positive around
  obtain ⟨above, below⟩ := around_bounds (ofFloat_of_unpack unpacked) positive around
  obtain ⟨least, most⟩ := toDigits_bounds digits
  have places : 0 < (Nat.toDigits 10 n).length := Nat.length_toDigits_pos
  have low : -400 < (Nat.toDigits 10 n).length + k := by
    have upper : (n : ℚ) * 10 ^ k < 10 ^ ((Nat.toDigits 10 n).length + k : ℤ) := by
      rw [zpow_add₀ (by norm_num), zpow_natCast]
      exact mul_lt_mul_of_pos_right (by exact_mod_cast most) (by positivity)
    exact (zpow_lt_zpow_iff_right₀ (by norm_num : (1 : ℚ) < 10)).mp (above.trans upper)
  have high : (Nat.toDigits 10 n).length - 1 + k < 400 := by
    have lower : (10 : ℚ) ^ (((Nat.toDigits 10 n).length - 1 : ℕ) + k : ℤ) ≤ n * 10 ^ k := by
      rw [zpow_add₀ (by norm_num), zpow_natCast]
      exact mul_le_mul_of_nonneg_right (by exact_mod_cast least) (by positivity)
    have := (zpow_lt_zpow_iff_right₀ (by norm_num : (1 : ℚ) < 10)).mp (lower.trans_lt below)
    omega
  have bits : (Nat.toDigits 10 n).length - 1 ≤ n.log2 :=
    (Nat.le_log2 digits.ne').mpr ((Nat.pow_le_pow_left (by decide) _).trans least)
  have value := Doubles.ofScientific_eq unpacked digits around (by omega) (by omega)
  have notInf : x.isInf = false := by
    change x.toModel.unpack.isInf = false
    rw [unpacked]
    rfl
  unfold magnitude?
  simp only [digits.ne', value, notInf]
  rw [if_neg (by simp; omega), if_neg (by omega)]
  rfl

/-- A number that is not written as an integer, and lies around a double, is read as that double. -/
theorem StandsFor.readsAs {cs : List Char} {v : ℚ} (stands : StandsFor cs v)
    (unpacked : x.toModel.unpack = .finite .positive m e positive) (around : Around m e v) : ReadsAs readDouble cs x := by
  obtain ⟨numeral, magnitude, real, rfl⟩ := stands
  intro before rest blank settled
  have value := readsNearest_magnitude? unpacked around
  have scanned := magnitude.scan .thorough false settled
  obtain ⟨d, ds, front, digit⟩ := magnitude.begins
  rw [front, List.cons_append] at scanned ⊢
  rw [readDouble, readHead_append blank, readHead_of_isDigit digit, readNumber, scanned]
  simp [Numeral.head, real, value, bind, Except.bind, pure, Except.pure]

/-- A positive double is read back from what is written for it. -/
theorem readsAs_writeDouble (unpacked : x.toModel.unpack = .finite .positive m e positive) :
    ReadsAs readDouble (writeDouble x) x := by
  have finite := ofFloat_of_unpack unpacked
  have around := Decimal.around_shortest .even positive (Doubles.canonical_of_ofFloat finite).least
  have written : writeDouble x = (number.decimal (Decimal.shortest .even m e)).toList := by
    simp [writeDouble, Decimal.text, finite, Nat.ne_of_gt positive, number]
  rw [written]
  exact (standsFor_decimal (pos_of_around finite positive around)).readsAs unpacked around

end Reading

end Json

end Chip8Console
