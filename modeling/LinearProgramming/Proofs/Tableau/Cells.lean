import LinearProgramming.Proofs.Number.Texts
import Mathlib.Algebra.Order.Ring.Abs

/-!
# The texts of cells

A number in a cell is shown with four decimal places, and as a plain zero below a cut-off that
stands for half of the last place. The cut-off is itself a number of the format, so it is
rounded. No other number of the format lies between it and half of the last place, and the text
always denotes the rounded number. A zero loses its sign except in one place: where the cut-off
is rounded down, its own negative is not below it and still rounds to zero. That is so for
numbers of 32 bits, and not for those of 64 bits.
-/

namespace LinearProgramming

namespace Cell

/-- Half of the last place that is shown. -/
def half : ℚ := 1 / 2 / 10 ^ places

/-- The word of the cut-off. -/
def cutWord (f : BinaryFormat) : Nat := Numeral.roundDecimal f 5 (-(places : Int) - 1)

/-- The cut-off. -/
def cutoff (f : BinaryFormat) : ℚ := f.sizeAt (cutWord f)

/-- Whether the cut-off of a format is a positive number, and no number of the format is nearer
to half of the last place. -/
structure CutsAtHalf (f : BinaryFormat) : Prop where
  finite : ∃ significand exponent, halfPlace f = .finite false significand exponent ∧
    Binary.size significand exponent = cutoff f
  pos : 0 < cutoff f
  nearest : ∀ word, |half - cutoff f| ≤ |half - f.sizeAt word|

theorem abs_le_half_iff {v : ℚ} : |v| ≤ half ↔ IsNearestEven (v * 10 ^ places) 0 := by
  have hplaces : (0 : ℚ) < 10 ^ places := pow_pos (by norm_num) places
  rw [IsNearestEven.zero_iff, abs_mul, abs_of_pos hplaces]
  exact le_div_iff₀ hplaces

namespace CutsAtHalf

variable {f : BinaryFormat} (h : CutsAtHalf f) {word : Nat}

include h

/-- No number lies between half of the last place and a greater cut-off. -/
theorem lt_half (hword : f.sizeAt word < cutoff f) : f.sizeAt word < half := by
  by_contra hge
  have hnearest := h.nearest word
  rw [abs_of_nonpos (by linarith), abs_of_nonpos (by linarith)] at hnearest
  linarith

/-- No number lies between half of the last place and a smaller cut-off. -/
theorem half_lt (hword : cutoff f < f.sizeAt word) : half < f.sizeAt word := by
  by_contra hge
  have hnearest := h.nearest word
  rw [abs_of_nonneg (by linarith), abs_of_nonneg (by linarith)] at hnearest
  linarith

end CutsAtHalf

section Text

variable {F : Type} [Floating F] {x : F} {v : ℚ}

/-- The text of a finite number: a plain zero below the cut-off, and else the count of the last
place it is nearest to, with its sign. -/
theorem text_number (h : CutsAtHalf (Floating.format F))
    (hx : (Floating.toBinary x).value? = some v) :
    ∃ (negative : Bool) (count word : Nat), (if negative then -|v| else |v|) = v ∧
      |v| = (Floating.format F).sizeAt word ∧ IsNearestEven (|v| * 10 ^ places) count ∧
      (number x).text =
        if |v| < cutoff (Floating.format F) then signText false ++ positional 0 places
        else signText negative ++ positional count places := by
  obtain ⟨negative, m, e, hfinite, rfl⟩ := Binary.exists_finite_of_value? hx
  obtain ⟨m', e', hcut, hsize⟩ := h.finite
  rw [Binary.abs_signed_size]
  refine ⟨negative, Binary.shown places m e, _, rfl, BinaryFormat.size_of_decode hfinite,
    Binary.isNearestEven_shown places m e, ?_⟩
  have hzero : Binary.shown places 0 0 = 0 := by decide
  unfold text Floating.fixed
  simp only [hfinite, hcut, Binary.isSmaller_finite_iff, hsize, Binary.fixed_finite, hzero]

theorem showsRounded_text (h : CutsAtHalf (Floating.format F))
    (hx : (Floating.toBinary x).value? = some v) : ShowsRounded places (number x).text v := by
  obtain ⟨negative, count, word, hsign, hword, hcount, htext⟩ := text_number h hx
  rw [htext]
  split
  case isTrue hlt =>
    rw [hword] at hlt
    exact showsRounded_zero (abs_le_half_iff.mp (hword ▸ (h.lt_half hlt).le)) false
  case isFalse => exact hsign ▸ showsRounded_positional hcount negative

/-- A negative zero is shown for one number at most. -/
theorem text_eq_negative_zero_iff (h : CutsAtHalf (Floating.format F))
    (hx : (Floating.toBinary x).value? = some v) :
    (number x).text = signText true ++ positional 0 places ↔
      v = -cutoff (Floating.format F) ∧ cutoff (Floating.format F) ≤ half := by
  obtain ⟨negative, count, word, hsign, hword, hcount, htext⟩ := text_number h hx
  rw [htext]
  constructor
  · intro hzero
    split at hzero
    case isTrue => exact absurd (positional_inj hzero).1 Bool.false_ne_true
    case isFalse hge =>
      obtain ⟨rfl, rfl⟩ := positional_inj hzero
      rw [if_pos rfl] at hsign
      have hle : |v| ≤ half := by
        rw [← abs_abs, abs_le_half_iff]
        exact hcount
      have hcut : |v| = cutoff (Floating.format F) := by
        rw [hword] at hge hle ⊢
        exact (not_lt.mp fun hlt => (h.half_lt hlt).not_ge hle).antisymm (not_lt.mp hge)
      exact ⟨hcut ▸ hsign.symm, hcut ▸ hle⟩
  · rintro ⟨rfl, hle⟩
    have habs := abs_of_pos h.pos
    have hzero := hcount.unique (abs_le_half_iff.mp (by rwa [abs_abs, abs_neg, habs]))
    obtain rfl : count = 0 := by exact_mod_cast hzero
    rw [abs_neg, habs] at hsign ⊢
    rw [if_neg (lt_irrefl _)]
    cases negative with
    | true => rfl
    | false => exact absurd hsign (neg_lt_self h.pos).ne'

end Text

/-- The cut-off is nearest to half of the last place if the words next to it lie on either side
of that and are not nearer. -/
theorem cutsAtHalf_of_decode {f : BinaryFormat} {m : Nat} {e : Int}
    (hfits : cutWord f + 1 < f.signWord)
    (hbelow : f.decode (cutWord f - 1) = .finite false m e)
    (hcut : halfPlace f = .finite false (m + 1) e)
    (habove : f.decode (cutWord f + 1) = .finite false (m + 2) e)
    (hlow : |half - Binary.size (m + 1) e| ≤ half - Binary.size m e)
    (hhigh : |half - Binary.size (m + 1) e| ≤ Binary.size (m + 2) e - half) :
    CutsAtHalf f ∧ cutoff f = Binary.size (m + 1) e := by
  have hsize {word significand : Nat} (hword : word < f.signWord)
      (h : f.decode word = .finite false significand e) :
      f.sizeAt word = Binary.size significand e := by
    rw [BinaryFormat.size_of_decode h, Nat.mod_eq_of_lt hword]
  have hcutoff : cutoff f = Binary.size (m + 1) e := hsize (by omega) hcut
  have hmono := f.strictMono_sizeAt.monotone
  refine ⟨⟨⟨m + 1, e, hcut, hcutoff.symm⟩, ?_, fun word => ?_⟩, hcutoff⟩
  · rw [hcutoff]
    exact mul_pos (by positivity) (zpow_pos two_pos e)
  · rw [hcutoff]
    rcases lt_trichotomy word (cutWord f) with hlt | rfl | hgt
    · have hle := hmono (Nat.le_sub_one_of_lt hlt)
      rw [hsize (by omega) hbelow] at hle
      exact hlow.trans ((sub_le_sub_left hle half).trans (le_abs_self _))
    · exact hcutoff ▸ le_rfl
    · have hle := hmono (Nat.succ_le_of_lt hgt)
      rw [Nat.succ_eq_add_one, hsize hfits habove] at hle
      rw [abs_sub_comm half (f.sizeAt word)]
      exact hhigh.trans ((sub_le_sub_right hle half).trans (le_abs_self _))

theorem cutsAtHalf_binary32 :
    CutsAtHalf .binary32 ∧ cutoff .binary32 = Binary.size 13743895 (-38) :=
  cutsAtHalf_of_decode (by decide) (by decide) (by decide) (by decide)
    (by norm_num [Binary.size, half, places, abs_le])
    (by norm_num [Binary.size, half, places, abs_le])

theorem cutsAtHalf_binary64 :
    CutsAtHalf .binary64 ∧ cutoff .binary64 = Binary.size 7378697629483821 (-67) :=
  cutsAtHalf_of_decode (by decide) (by decide) (by decide) (by decide)
    (by norm_num [Binary.size, half, places, abs_le])
    (by norm_num [Binary.size, half, places, abs_le])

theorem negative_zero_text : signText true ++ positional 0 places = "-0.0000" := by decide

section Formats

variable {F : Type} [Floating F] {x : F} {v : ℚ}

theorem text_binary32 (hformat : Floating.format F = .binary32)
    (hx : (Floating.toBinary x).value? = some v) :
    ShowsRounded places (number x).text v ∧
      ((number x).text = "-0.0000" ↔ v = -(13743895 / 2 ^ 38)) := by
  obtain ⟨hcuts, hcutoff⟩ := hformat ▸ cutsAtHalf_binary32
  have hvalue : Binary.size 13743895 (-38) = 13743895 / 2 ^ 38 := by norm_num [Binary.size]
  have hle : (13743895 / 2 ^ 38 : ℚ) ≤ half := by norm_num [half, places]
  rw [← negative_zero_text, text_eq_negative_zero_iff hcuts hx, hcutoff, hvalue,
    and_iff_left hle]
  exact ⟨showsRounded_text hcuts hx, Iff.rfl⟩

theorem text_binary64 (hformat : Floating.format F = .binary64)
    (hx : (Floating.toBinary x).value? = some v) :
    ShowsRounded places (number x).text v ∧ (number x).text ≠ "-0.0000" := by
  obtain ⟨hcuts, hcutoff⟩ := hformat ▸ cutsAtHalf_binary64
  have hlt : half < Binary.size 7378697629483821 (-67) := by
    norm_num [Binary.size, half, places]
  rw [← negative_zero_text, ne_eq, text_eq_negative_zero_iff hcuts hx, hcutoff]
  exact ⟨showsRounded_text hcuts hx, fun h => h.2.not_gt hlt⟩

end Formats

/-- **The texts of numbers in cells.** The text of every finite number of 32 or 64 bits denotes
the number rounded to four decimal places, halves to even. It is that of a negative zero for
just one number of 32 bits, the negative of the cut-off, which is nearest to half of the last
place and lies below it. With 64 bits the cut-off lies above, and there is no such number. -/
theorem text_number_rounded {F : Type} [Floating F]
    (hformat : Floating.format F = .binary32 ∨ Floating.format F = .binary64) (x : F)
    (hx : Floating.isFinite x = true) :
    ∃ v, (Floating.toBinary x).value? = some v ∧ ShowsRounded places (number x).text v ∧
      ((number x).text = "-0.0000" ↔
        Floating.format F = .binary32 ∧ v = -(13743895 / 2 ^ 38)) := by
  obtain ⟨v, hv⟩ := Floating.exists_value?_of_isFinite hx
  refine ⟨v, hv, ?_⟩
  rcases hformat with hnarrow | hwide
  · obtain ⟨hshows, hzero⟩ := text_binary32 hnarrow hv
    exact ⟨hshows, hzero.trans (and_iff_right hnarrow).symm⟩
  · obtain ⟨hshows, hne⟩ := text_binary64 hwide hv
    have hformats : Floating.format F ≠ .binary32 := by
      rw [hwide]
      decide
    exact ⟨hshows, iff_of_false hne fun h => hformats h.1⟩

/-- The number of 32 bits nearest to `-0.00005`. -/
def negativeHalf : Float32 := Float32.ofBits 0xb851b717

/-- The number of 64 bits nearest to `-0.00005`. -/
def negativeHalfWide : Float := Float.ofBits 0xbf0a36e2eb1c432d

theorem text_number_rounded_negativeHalf :
    (Floating.format Float32 = .binary32 ∧ Floating.isFinite negativeHalf = true ∧
      (number negativeHalf).text = "-0.0000" ∧
      ShowsRounded places (number negativeHalf).text (-(13743895 / 2 ^ 38))) ∧
    Floating.format Float = .binary64 ∧ Floating.isFinite negativeHalfWide = true ∧
      (number negativeHalfWide).text = "-0.0001" ∧
      ShowsRounded places (number negativeHalfWide).text (-(7378697629483821 / 2 ^ 67)) := by
  have hfinite : Floating.isFinite negativeHalf = true := by decide +kernel
  have htext : (number negativeHalf).text = "-0.0000" := by decide +kernel
  have hfinite' : Floating.isFinite negativeHalfWide = true := by decide +kernel
  have hbinary : Floating.toBinary negativeHalfWide = .finite true 7378697629483821 (-67) := by
    decide +kernel
  obtain ⟨v, -, hshows, hzero⟩ := text_number_rounded (.inl rfl) negativeHalf hfinite
  obtain ⟨v', hv', hshows', -⟩ := text_number_rounded (.inr rfl) negativeHalfWide hfinite'
  have hvalue : v' = -(7378697629483821 / 2 ^ 67) := by
    rw [hbinary] at hv'
    rw [← Option.some.inj hv']
    norm_num [Binary.size]
  exact ⟨⟨rfl, hfinite, htext, (hzero.mp htext).2 ▸ hshows⟩, rfl, hfinite', by decide +kernel,
    hvalue ▸ hshows'⟩

/-- Not every finite number avoids the text of a negative zero. -/
theorem not_text_number_unsigned :
    (Floating.read? "-0.00005".toList : Option Float32).map Floating.toWord = some 0xb851b717 ∧
    ¬ ∀ x : Float32, Floating.isFinite x = true → (number x).text ≠ "-0.0000" := by
  refine ⟨by decide +kernel, fun h => h negativeHalf (by decide +kernel) (by decide +kernel)⟩

end Cell

end LinearProgramming
