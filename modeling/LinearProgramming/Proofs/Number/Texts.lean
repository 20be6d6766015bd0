import LinearProgramming.Number.Decimal
import LinearProgramming.Proofs.Number.Words
import LinearProgramming.Proofs.Number.Rounding
import LinearProgramming.Proofs.Text.Layout

/-!
# What the text of a number denotes

A text denotes the number that is read from it. A number that is shown with a fixed count of
decimal places is read back with as many places, the digits are those of the nearest integer
count of the last place, and the sign is kept, also that of a zero.
-/

namespace LinearProgramming

namespace Numeral

/-- The number as it is written, exactly. -/
def value? : Numeral → Option ℚ
  | nan => none
  | infinite _ => none
  | decimal negative count exponent =>
    some (if negative then -(count * 10 ^ exponent) else count * 10 ^ exponent)

end Numeral

/-- Whether a text is read as this number. -/
def Denotes (text : String) (x : ℚ) : Prop :=
  ∃ numeral, Numeral.read? text.toList = some numeral ∧ numeral.value? = some x

theorem isDigit_of_mem_digits {n : Nat} {c : Char} (h : c ∈ digits n) : c.isDigit = true :=
  Nat.isDigit_of_mem_toDigits (by decide) (by decide) h

theorem digitsValue_replicate_append_digits (zeros n : Nat) :
    digitsValue (List.replicate zeros '0' ++ digits n) = n := by
  show Nat.ofDigitChars 10 (List.replicate zeros '0' ++ Nat.toDigits 10 n) 0 = n
  rw [Nat.ofDigitChars_append, Nat.ofDigitChars_replicate_zero, Nat.mul_zero,
    Nat.ofDigitChars_ten_toDigits]

/-- A run of digits, with zeros in front where the count is too short for its places. -/
theorem exists_positional (count places : Nat) : ∃ whole fraction : List Char,
    whole ≠ [] ∧ fraction.length = places ∧ (∀ c ∈ whole ++ fraction, c.isDigit = true) ∧
      digitsValue (whole ++ fraction) = count ∧
      (positional count places).toList =
        if places = 0 then whole else whole ++ '.' :: fraction := by
  unfold positional
  split
  case isTrue hplaces =>
    refine ⟨digits count, [], Nat.toDigits_ne_nil, hplaces.symm, ?_, ?_, String.toList_ofList⟩
    · rw [List.append_nil]
      exact fun c => isDigit_of_mem_digits
    · simpa using digitsValue_replicate_append_digits 0 count
  case isFalse hplaces =>
    dsimp only
    generalize hpadded :
      List.replicate (places + 1 - (digits count).length) '0' ++ digits count = padded
    have hlength : places < padded.length := by
      rw [← hpadded, List.length_append, List.length_replicate]
      omega
    refine ⟨padded.take (padded.length - places), padded.drop (padded.length - places),
      ?_, ?_, ?_, ?_, String.toList_ofList⟩
    · rw [← List.length_pos_iff, List.length_take]
      omega
    · rw [List.length_drop]
      omega
    · rw [List.take_append_drop, ← hpadded]
      intro c hc
      rcases List.mem_append.mp hc with hzero | hdigit
      · rw [List.eq_of_mem_replicate hzero]
        rfl
      · exact isDigit_of_mem_digits hdigit
    · rw [List.take_append_drop, ← hpadded]
      exact digitsValue_replicate_append_digits _ count

namespace Numeral

variable {whole fraction : List Char}

theorem takeWhile_isDigit (h : ∀ c ∈ whole, c.isDigit = true) :
    whole.takeWhile Char.isDigit = whole ∧ whole.dropWhile Char.isDigit = [] :=
  Text.cut_eq_iff.mpr ⟨(List.append_nil whole).symm, h, by simp⟩

theorem readDecimal?_whole (hne : whole ≠ []) (h : ∀ c ∈ whole, c.isDigit = true)
    (negative : Bool) :
    readDecimal? negative whole = some (.decimal negative (digitsValue whole) 0) := by
  obtain ⟨htake, hdrop⟩ := takeWhile_isDigit h
  unfold readDecimal?
  simp [htake, hdrop, hne, readExponent?]

theorem readDecimal?_point (hne : whole ≠ []) (hwhole : ∀ c ∈ whole, c.isDigit = true)
    (hfraction : ∀ c ∈ fraction, c.isDigit = true) (negative : Bool) :
    readDecimal? negative (whole ++ '.' :: fraction) =
      some (.decimal negative (digitsValue (whole ++ fraction)) (-fraction.length)) := by
  obtain ⟨htake, hdrop⟩ := Text.cut_eq_iff.mpr
    ⟨(rfl : whole ++ '.' :: fraction = whole ++ '.' :: fraction), hwhole,
      (by simp : ∀ c ∈ ('.' :: fraction).head?, c.isDigit = false)⟩
  obtain ⟨htake', hdrop'⟩ := takeWhile_isDigit hfraction
  unfold readDecimal?
  simp [htake, hdrop, htake', hdrop', hne, readExponent?]

theorem toLower_of_isDigit {c : Char} (h : c.isDigit = true) : c.toLower = c := by
  unfold Char.isDigit at h
  unfold Char.toLower
  split
  case isTrue hupper =>
    simp only [Bool.and_eq_true, decide_eq_true_iff] at h
    grind
  case isFalse => rfl

theorem splitSign_signText {c : Char} (hc : c.isDigit = true) (text : List Char)
    (negative : Bool) :
    splitSign ((signText negative).toList ++ c :: text) = (negative, c :: text) := by
  cases negative with
  | true => rfl
  | false =>
    show splitSign (c :: text) = _
    unfold splitSign
    split
    case h_1 heq =>
      cases heq
      exact absurd hc (by decide)
    case h_2 heq =>
      cases heq
      exact absurd hc (by decide)
    case h_3 => rfl

/-- A text that starts with a digit is none of the words that are read as numbers. -/
theorem read?_signText {c : Char} (hc : c.isDigit = true) (text : List Char) (negative : Bool) :
    read? ((signText negative).toList ++ c :: text) = readDecimal? negative (c :: text) := by
  have hword {d : Char} (hd : d.isDigit = false) {word : String} {rest : List Char}
      (h : word.toList = d :: rest) : String.ofList ((c :: text).map Char.toLower) ≠ word := by
    rintro rfl
    rw [String.toList_ofList, List.map_cons, toLower_of_isDigit hc] at h
    cases h
    exact Bool.false_ne_true (hd.symm.trans hc)
  unfold read?
  rw [splitSign_signText hc]
  dsimp only
  split
  case h_1 heq => exact absurd heq (hword rfl rfl)
  case h_2 heq => exact absurd heq (hword rfl rfl)
  case h_3 heq => exact absurd heq (hword rfl rfl)
  case h_4 => rfl

/-- A positional text is read as its count, with as many places as it has. -/
theorem read?_positional (negative : Bool) (count places : Nat) :
    read? (signText negative ++ positional count places).toList =
      some (.decimal negative count (-places)) := by
  obtain ⟨whole, fraction, hne, hplaces, hdigits, hcount, htext⟩ :=
    exists_positional count places
  have hwhole : ∀ c ∈ whole, c.isDigit = true := fun c hc => hdigits c (by simp [hc])
  have hfraction : ∀ c ∈ fraction, c.isDigit = true := fun c hc => hdigits c (by simp [hc])
  obtain ⟨first, rest, rfl⟩ := List.exists_cons_of_ne_nil hne
  rw [String.toList_append, htext]
  split
  case isTrue hzero =>
    have hnil : fraction = [] := List.length_eq_zero_iff.mp (hplaces.trans hzero)
    rw [hnil, List.append_nil] at hcount
    rw [read?_signText (hwhole first List.mem_cons_self), readDecimal?_whole hne hwhole, hcount,
      hzero]
    rfl
  case isFalse =>
    rw [List.cons_append, read?_signText (hwhole first List.mem_cons_self), ← List.cons_append,
      readDecimal?_point hne hwhole hfraction, hcount, hplaces]

end Numeral

/-- What is written with as many places tells the count and the sign. -/
theorem positional_inj {negative negative' : Bool} {count count' places : Nat}
    (h : signText negative ++ positional count places =
      signText negative' ++ positional count' places) :
    negative = negative' ∧ count = count' := by
  have hread := congrArg (fun text => Numeral.read? text.toList) h
  simp only [Numeral.read?_positional, Option.some.injEq, Numeral.decimal.injEq] at hread
  exact ⟨hread.1, hread.2.1⟩

namespace Binary

/-- The count of the last place that is shown of a number. -/
def shown (places significand : Nat) (exponent : Int) : Nat :=
  roundHalfEven ((quotient significand exponent).1 * tenTo places)
    (quotient significand exponent).2

theorem fixed_finite (places : Nat) (negative : Bool) (significand : Nat) (exponent : Int) :
    (finite negative significand exponent).fixed places =
      signText negative ++ positional (shown places significand exponent) places := rfl

theorem isNearestEven_shown (places significand : Nat) (exponent : Int) :
    IsNearestEven (size significand exponent * 10 ^ places) (shown places significand exponent) := by
  have hnearest := isNearestEven_roundHalfEven
    ((quotient significand exponent).1 * tenTo places) (quotient_den_pos significand exponent)
  rw [Nat.cast_mul, mul_div_right_comm, quotient_div, tenTo, Nat.pow_eq, Nat.cast_pow,
    Nat.cast_ofNat] at hnearest
  exact hnearest

end Binary

/-- Whether a text denotes a number after it is rounded to a count of decimal places. -/
def ShowsRounded (places : Nat) (text : String) (x : ℚ) : Prop :=
  ∃ k : ℤ, IsNearestEven (x * 10 ^ places) k ∧ Denotes text (k / 10 ^ places)

theorem denotes_positional (negative : Bool) (count places : Nat) :
    Denotes (signText negative ++ positional count places)
      ((if negative then -count else count : ℤ) / 10 ^ places) := by
  refine ⟨_, Numeral.read?_positional negative count places, ?_⟩
  have hplaces : (10 : ℚ) ^ (-(places : ℤ)) = ((10 : ℚ) ^ places)⁻¹ := by
    rw [zpow_neg, zpow_natCast]
  cases negative <;> simp [Numeral.value?, hplaces, div_eq_mul_inv]

/-- A count of the last place, written out, denotes the number it is nearest to. -/
theorem showsRounded_positional {places count : Nat} {size : ℚ}
    (h : IsNearestEven (size * 10 ^ places) count) (negative : Bool) :
    ShowsRounded places (signText negative ++ positional count places)
      (if negative then -size else size) := by
  refine ⟨_, ?_, denotes_positional negative count places⟩
  cases negative with
  | true => simpa using h.neg
  | false => exact h

/-- Both zeros denote a number that rounds to zero. -/
theorem showsRounded_zero {places : Nat} {x : ℚ} (h : IsNearestEven (x * 10 ^ places) 0)
    (negative : Bool) : ShowsRounded places (signText negative ++ positional 0 places) x := by
  refine ⟨0, h, ?_⟩
  have hzero := denotes_positional negative 0 places
  rwa [Nat.cast_zero, neg_zero, ite_self] at hzero

end LinearProgramming
