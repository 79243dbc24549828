import Mathlib.Data.List.TakeWhile
import RapidLang.Number.Decimal
import RapidLang.Proofs.Number.Rounding

/-!
# Numbers read back

The text of a finite number that was read from a program is read as the same number.
-/

set_option autoImplicit false

namespace RapidLang

variable {negative : Bool} {digits count significand exponent : Nat} {power : Int}

theorem tenPower_eq (exponent : Nat) : tenPower exponent = 10 ^ exponent := rfl

theorem tenPower_pos (exponent : Nat) : 0 < tenPower exponent := Nat.pow_pos (by decide)

/-! ## The number of digits -/

theorem digitCount_of_ne_zero (some : digits ≠ 0) :
    digitCount digits = (Nat.toDigits 10 digits).length :=
  if_neg some

theorem digitCount_le_iff (some : digits ≠ 0) (positive : 0 < count) :
    digitCount digits ≤ count ↔ digits < tenPower count := by
  rw [digitCount_of_ne_zero some]
  exact Nat.length_toDigits_le_iff (by decide) positive

theorem digitCount_ten_mul (some : digits ≠ 0) : digitCount (10 * digits) = digitCount digits + 1 := by
  have large : 10 ≤ 10 * digits := by omega
  rw [digitCount_of_ne_zero (by omega), digitCount_of_ne_zero some,
    Nat.toDigits_of_base_le (by decide) large, Nat.mul_div_cancel_left _ (by decide)]
  simp

/-! ## Decimals of one value -/

namespace Binary64

/-- A power of ten may be moved between the digits and the exponent. -/
theorem ofDecimal_ten_mul (some : digits ≠ 0) (negative : Bool) (power : Int) :
    ofDecimal negative ⟨10 * digits, power⟩ = ofDecimal negative ⟨digits, power + 1⟩ := by
  have some' : 10 * digits ≠ 0 := by omega
  have size : (digitCount (10 * digits) : Int) + power = digitCount digits + (power + 1) := by
    rw [digitCount_ten_mul some]
    omega
  have quotient : ofQuotient negative (10 * digits * tenPower power.toNat) (tenPower (-power).toNat) =
      ofQuotient negative (digits * tenPower (power + 1).toNat)
        (tenPower (-(power + 1)).toNat) := by
    cases power with
    | ofNat power =>
        have before : (Int.ofNat power).toNat = power := rfl
        have after : (Int.ofNat power + 1).toNat = power + 1 := rfl
        have below : (-Int.ofNat power).toNat = 0 := by simp
        have below' : (-(Int.ofNat power + 1)).toNat = 0 := by
          rw [Int.ofNat_eq_natCast]
          omega
        rw [before, after, below, below', tenPower_eq, tenPower_eq (power + 1), Nat.pow_succ]
        congr 1
        rw [Nat.mul_comm 10, Nat.mul_assoc, Nat.mul_comm 10]
    | negSucc power =>
        have before : (Int.negSucc power).toNat = 0 := rfl
        have after : (Int.negSucc power + 1).toNat = 0 := by omega
        have below : (-Int.negSucc power).toNat = power + 1 := rfl
        have below' : (-(Int.negSucc power + 1)).toNat = power := by omega
        rw [before, after, below, below', tenPower_eq 0, tenPower_eq (power + 1), tenPower_eq power,
          Nat.pow_zero, Nat.mul_one, Nat.mul_one, Nat.pow_succ, Nat.mul_comm (10 ^ power)]
        exact ofQuotient_mul (by decide) _ _ _
  simp only [ofDecimal, some, some', if_false, size, quotient]

theorem ofDecimal_mul_tenPower (some : digits ≠ 0) (negative : Bool) (power : Int) (count : Nat) :
    ofDecimal negative ⟨digits * 10 ^ count, power⟩ =
      ofDecimal negative ⟨digits, power + count⟩ := by
  induction count generalizing power with
  | zero => simp
  | succ count ih =>
      have some' : digits * 10 ^ count ≠ 0 :=
        Nat.mul_ne_zero some (Nat.pos_iff_ne_zero.mp (Nat.pow_pos (by decide)))
      rw [Nat.pow_succ, ← Nat.mul_assoc, Nat.mul_comm _ 10, ofDecimal_ten_mul some', ih]
      congr 2
      omega

theorem ofDecimal_dropZerosFuel (negative : Bool) (fuel : Nat) (decimal : Decimal) :
    ofDecimal negative (decimal.dropZerosFuel fuel) = ofDecimal negative decimal := by
  induction fuel generalizing decimal with
  | zero => rfl
  | succ fuel ih =>
      rw [Decimal.dropZerosFuel]
      split
      next zero =>
        obtain ⟨some, divides⟩ := zero
        rw [ih, ← ofDecimal_ten_mul (by omega)]
        congr 2
        omega
      next => rfl

theorem ofDecimal_dropZeros (negative : Bool) (decimal : Decimal) :
    ofDecimal negative decimal.dropZeros = ofDecimal negative decimal :=
  ofDecimal_dropZerosFuel _ _ _

/-- What a decimal is read as is infinite or a number in normal form, and has its sign. -/
theorem ofDecimal_cases (negative : Bool) (decimal : Decimal) :
    ofDecimal negative decimal = .infinite negative ∨
      ∃ significand exponent, Normal significand exponent ∧
        ofDecimal negative decimal = .finite negative significand exponent := by
  have zero : Normal 0 0 := ⟨by decide, .inl rfl, by decide⟩
  simp only [ofDecimal]
  split
  · exact .inr ⟨0, 0, zero, rfl⟩
  split
  · exact .inl rfl
  split
  · exact .inr ⟨0, 0, zero, rfl⟩
  · exact ofQuotient_cases _ _ _

/-! ## The shortest decimal -/

theorem withDigits?_reads {tie : TieRule} {number : Binary64} {numerator denominator count : Nat}
    {decimal : Decimal}
    (found : Decimal.withDigits? tie number numerator denominator count = some decimal) :
    ofDecimal false decimal = number := by
  simp only [Decimal.withDigits?] at found
  generalize Decimal.scaleOf numerator denominator - (count : Int) = power at found
  generalize numerator * tenPower (-power).toNat / (denominator * tenPower power.toNat) = low at found
  have reads : ∀ digits, decide (ofDecimal false ⟨digits, power⟩ = number) = true →
      some (⟨digits, power⟩ : Decimal) = some decimal → ofDecimal false decimal = number := by
    rintro digits same found
    cases found
    exact of_decide_eq_true same
  split at found
  next same _ => exact reads low same found
  next _ same => exact reads (low + 1) same found
  next => cases found
  next same same' =>
    split at found
    · exact reads low same found
    split at found
    · exact reads (low + 1) same' found
    split at found
    · split at found
      · exact reads low same found
      · exact reads (low + 1) same' found
    · exact reads (low + 1) same' found

/-- The exact decimal of a number in normal form is neither too large nor too small. -/
theorem ofDecimal_exact (normal : Normal significand exponent) (some : significand ≠ 0) :
    ofDecimal false ⟨significand * twoPower exponent * Nat.pow 5 1074, -1074⟩ =
      .finite false significand exponent := by
  have low : tenPower 743 ≤ Nat.pow 5 1074 := by decide +kernel
  have high : twoPower 53 * twoPower maxExponent * Nat.pow 5 1074 ≤ tenPower 1384 := by decide +kernel
  have factors : tenPower 1074 = Nat.pow 5 1074 * twoPower 1074 := by decide +kernel
  have positive : 0 < Nat.pow 5 1074 := Nat.lt_of_lt_of_le (tenPower_pos 743) low
  generalize Nat.pow 5 1074 = five at low high factors positive ⊢
  have below : significand * twoPower exponent < twoPower 53 * twoPower maxExponent :=
    Nat.mul_lt_mul_of_lt_of_le normal.below (twoPower_le normal.inRange) (twoPower_pos maxExponent)
  have above : 0 < significand * twoPower exponent :=
    Nat.mul_pos (Nat.pos_of_ne_zero some) (twoPower_pos exponent)
  have faithful := ofQuotient_exact normal some false
  rw [← twoPower_eq exponent] at faithful
  generalize significand * twoPower exponent = product at below above faithful ⊢
  have some' : product * five ≠ 0 := Nat.mul_ne_zero (by omega) (by omega)
  have short : digitCount (product * five) ≤ 1384 :=
    (digitCount_le_iff some' (by decide)).mpr
      (Nat.lt_of_lt_of_le (Nat.mul_lt_mul_of_pos_right below positive) high)
  have long : ¬ digitCount (product * five) ≤ 743 := by
    rw [digitCount_le_iff some' (by decide), Nat.not_lt]
    exact Nat.le_trans low (Nat.le_mul_of_pos_left five above)
  have small : ¬ (310 < (digitCount (product * five) : Int) + -1074) := by omega
  have large : ¬ ((digitCount (product * five) : Int) + -1074 < -330) := by omega
  have whole : tenPower (-1074 : Int).toNat = 1 := rfl
  have scale : (-(-1074) : Int).toNat = 1074 := rfl
  simp only [ofDecimal, some', small, large, whole, scale, factors, if_false, Nat.mul_one]
  rw [Nat.mul_comm product, ofQuotient_mul positive, faithful]

/-- The decimal that a number in normal form is written as is read as this number. -/
theorem ofDecimal_shortest (normal : Normal significand exponent) (some : significand ≠ 0)
    (tie : TieRule) :
    ofDecimal false (Decimal.shortest tie significand exponent) =
      .finite false significand exponent := by
  simp only [Decimal.shortest]
  split
  next decimal found =>
    obtain ⟨count, _, found⟩ := List.exists_of_findSome?_eq_some found
    rw [ofDecimal_dropZeros]
    exact withDigits?_reads found
  next =>
    rw [ofDecimal_dropZeros]
    exact ofDecimal_exact normal some

/-! ## Reading digits -/

theorem toLower_of_isDigit {c : Char} (digit : c.isDigit) : c.toLower = c := by
  have small : ¬ c.isUpper := by
    delta Char.isUpper
    simp only [Char.isDigit, Bool.and_eq_true, decide_eq_true_eq,
      UInt32.le_iff_toNat_le, ge_iff_le] at digit ⊢
    have : ('9' : Char).val.toNat = 57 := rfl
    have : ('A' : Char).val.toNat = 65 := rfl
    omega
  delta Char.isUpper at small
  simp only [decide_eq_true_eq] at small
  exact dif_neg small

/-- A text that begins with a digit is read as a decimal without a sign. -/
theorem read?_of_isDigit {text : String} {c : Char} {rest : List Char}
    (starts : text.toList = c :: rest) (digit : c.isDigit) :
    read? text = (readDecimal? (c :: rest)).map (ofDecimal false) := by
  have apart : ∀ d : Char, d.isDigit = false → c ≠ d := by
    rintro d other rfl
    rw [digit] at other
    cases other
  simp [read?, starts, toLower_of_isDigit digit, apart '-' rfl, apart '+' rfl, apart 'i' rfl,
    apart 'n' rfl]

theorem readDecimal?_of_digits {text : List Char} (filled : text ≠ [])
    (allDigits : ∀ c ∈ text, c.isDigit) : readDecimal? text = some ⟨digitsValue text, 0⟩ := by
  have taken : text.takeWhile Char.isDigit = text := List.takeWhile_eq_self_iff.mpr allDigits
  have left : text.dropWhile Char.isDigit = [] := List.dropWhile_eq_nil_iff.mpr allDigits
  simp [readDecimal?, taken, left, filled]

theorem readDecimal?_of_point {whole fraction : List Char} (filled : whole ≠ [])
    (wholeDigits : ∀ c ∈ whole, c.isDigit) (fractionDigits : ∀ c ∈ fraction, c.isDigit) :
    readDecimal? (whole ++ '.' :: fraction) =
      some ⟨digitsValue (whole ++ fraction), -fraction.length⟩ := by
  have taken : (whole ++ '.' :: fraction).takeWhile Char.isDigit = whole := by
    rw [List.takeWhile_append_of_pos wholeDigits, List.takeWhile_cons_of_neg (by decide),
      List.append_nil]
  have left : (whole ++ '.' :: fraction).dropWhile Char.isDigit = '.' :: fraction := by
    rw [List.dropWhile_append_of_pos wholeDigits, List.dropWhile_cons_of_neg (by decide)]
  have taken' : fraction.takeWhile Char.isDigit = fraction :=
    List.takeWhile_eq_self_iff.mpr fractionDigits
  have left' : fraction.dropWhile Char.isDigit = [] :=
    List.dropWhile_eq_nil_iff.mpr fractionDigits
  simp [readDecimal?, taken, left, taken', left', filled]

/-- What a text that begins with a digit is read as. -/
theorem read?_cases {text : String} {c : Char} {rest : List Char} {value : Binary64}
    (starts : text.toList = c :: rest) (digit : c.isDigit) (found : read? text = some value) :
    value = .infinite false ∨
      ∃ significand exponent, Normal significand exponent ∧
        value = .finite false significand exponent := by
  rw [read?_of_isDigit starts digit] at found
  obtain ⟨decimal, _, rfl⟩ := Option.map_eq_some_iff.mp found
  exact ofDecimal_cases false decimal

/-! ## Writing digits -/

/-- A text is one of digits, perhaps with a point among them. -/
def IsNumeral (text : List Char) : Prop :=
  (text ≠ [] ∧ ∀ c ∈ text, c.isDigit) ∨
    ∃ whole fraction, text = whole ++ '.' :: fraction ∧ whole ≠ [] ∧ fraction ≠ [] ∧
      (∀ c ∈ whole, c.isDigit) ∧ ∀ c ∈ fraction, c.isDigit

theorem IsNumeral.cons {text : List Char} (numeral : IsNumeral text) :
    ∃ c rest, text = c :: rest ∧ c.isDigit := by
  rcases numeral with ⟨filled, allDigits⟩ | ⟨whole, fraction, rfl, filled, _, allDigits, _⟩
  · obtain ⟨c, rest, rfl⟩ := List.exists_cons_of_ne_nil filled
    exact ⟨c, rest, rfl, allDigits c List.mem_cons_self⟩
  · obtain ⟨c, rest, rfl⟩ := List.exists_cons_of_ne_nil filled
    exact ⟨c, rest ++ '.' :: fraction, rfl, allDigits c List.mem_cons_self⟩

/-- Zeros before or behind digits. -/
theorem digitsValue_zeros (before digits behind : Nat) :
    digitsValue (List.replicate before '0' ++ Nat.toDigits 10 digits ++
      List.replicate behind '0') = digits * 10 ^ behind := by
  show Nat.ofDigitChars 10 _ 0 = _
  rw [Nat.ofDigitChars_append, Nat.ofDigitChars_append, Nat.ofDigitChars_replicate_zero,
    Nat.ofDigitChars_replicate_zero, Nat.mul_zero, Nat.ofDigitChars_ten_toDigits, Nat.mul_comm]

theorem isDigit_of_mem_zeros (before : Nat) {digits : Nat} (behind : Nat) {c : Char}
    (member : c ∈ List.replicate before '0' ++ Nat.toDigits 10 digits ++
      List.replicate behind '0') : c.isDigit := by
  rcases List.mem_append.mp member with member | member
  · rcases List.mem_append.mp member with member | member
    · rw [List.eq_of_mem_replicate member]
      decide
    · exact Nat.isDigit_of_mem_toDigits (by decide) (by decide) member
  · rw [List.eq_of_mem_replicate member]
    decide

theorem read?_whole (nonzero : digits ≠ 0) (count : Nat) {text : String}
    (written : text.toList = Nat.toDigits 10 digits ++ List.replicate count '0') :
    IsNumeral text.toList ∧ read? text = some (ofDecimal false ⟨digits, count⟩) := by
  have filled : text.toList ≠ [] := by simp [written]
  have allDigits : ∀ c ∈ text.toList, c.isDigit := by
    rw [written]
    intro c member
    exact isDigit_of_mem_zeros 0 count member
  have numeral : IsNumeral text.toList := .inl ⟨filled, allDigits⟩
  obtain ⟨c, rest, starts, digit⟩ := numeral.cons
  have value : digitsValue text.toList = digits * 10 ^ count := by
    rw [written]
    exact digitsValue_zeros 0 digits count
  refine ⟨numeral, ?_⟩
  rw [read?_of_isDigit starts digit, ← starts, readDecimal?_of_digits filled allDigits, value,
    Option.map_some, ofDecimal_mul_tenPower nonzero, Int.zero_add]

theorem read?_point (digits : Nat) {places : Nat} (positive : 0 < places) {text : String}
    {padded : List Char} (padding : padded =
      List.replicate (places + 1 - (Nat.toDigits 10 digits).length) '0' ++ Nat.toDigits 10 digits)
    (written : text.toList =
      padded.take (padded.length - places) ++ '.' :: padded.drop (padded.length - places)) :
    IsNumeral text.toList ∧ read? text = some (ofDecimal false ⟨digits, -places⟩) := by
  have long : places < padded.length := by
    rw [padding, List.length_append, List.length_replicate]
    omega
  have allDigits : ∀ c ∈ padded, c.isDigit := by
    rw [padding]
    intro c member
    exact isDigit_of_mem_zeros _ 0 (by simpa using member)
  have value : digitsValue padded = digits := by
    have zeros := digitsValue_zeros (places + 1 - (Nat.toDigits 10 digits).length) digits 0
    rwa [List.replicate_zero, List.append_nil, ← padding, Nat.pow_zero, Nat.mul_one] at zeros
  have filled : padded.take (padded.length - places) ≠ [] := by
    rw [Ne, List.take_eq_nil_iff, ← List.length_eq_zero_iff]
    omega
  have length : (padded.drop (padded.length - places)).length = places := by
    rw [List.length_drop]
    omega
  have filled' : padded.drop (padded.length - places) ≠ [] := by
    rw [Ne, ← List.length_eq_zero_iff, length]
    omega
  have wholeDigits : ∀ c ∈ padded.take (padded.length - places), c.isDigit :=
    fun c member => allDigits c (List.mem_of_mem_take member)
  have fractionDigits : ∀ c ∈ padded.drop (padded.length - places), c.isDigit :=
    fun c member => allDigits c (List.mem_of_mem_drop member)
  have numeral : IsNumeral text.toList :=
    .inr ⟨_, _, written, filled, filled', wholeDigits, fractionDigits⟩
  obtain ⟨c, rest, starts, digit⟩ := numeral.cons
  refine ⟨numeral, ?_⟩
  rw [read?_of_isDigit starts digit, ← starts, written,
    readDecimal?_of_point filled wholeDigits fractionDigits, List.take_append_drop, value, length,
    Option.map_some]

/-- The text of a decimal is read as a number of the same value. -/
theorem read?_positional {decimal : Decimal} (nonzero : decimal.digits ≠ 0) :
    IsNumeral decimal.positional.toList ∧
      read? decimal.positional = some (ofDecimal false decimal) := by
  obtain ⟨digits, power⟩ := decimal
  cases power with
  | ofNat count => exact read?_whole nonzero count String.toList_ofList
  | negSucc count =>
      exact read?_point digits (Nat.succ_pos count) rfl String.toList_ofList

/-- A number in normal form is read back from the text that it is written as. -/
theorem read?_sourceText (normal : Normal significand exponent) :
    IsNumeral (Binary64.finite false significand exponent).sourceText.toList ∧
      read? (Binary64.finite false significand exponent).sourceText =
        some (.finite false significand exponent) := by
  by_cases zero : significand = 0
  · have least : exponent = 0 := by
      rcases normal.filled with least | filled
      · exact least
      · omega
    have written : (Binary64.finite false 0 0).sourceText = "0" := rfl
    rw [zero, least, written]
    exact ⟨.inl ⟨by decide, by simp⟩, by decide +kernel⟩
  · have reads := ofDecimal_shortest normal zero .awayFromZero
    have nonzero : (Decimal.shortest .awayFromZero significand exponent).digits ≠ 0 := by
      intro none
      simp only [ofDecimal, none, if_true, Binary64.zero] at reads
      cases reads
      exact zero rfl
    have written := read?_positional nonzero
    rw [reads] at written
    simpa [sourceText, zero] using written

end Binary64

end RapidLang
