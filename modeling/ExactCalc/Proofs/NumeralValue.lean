import ExactCalc.Numeral
import Mathlib

/-!
# The value of a literal

Zeros in front of a literal do not count, neither for its value nor for its
length, so counting significant digits before converting refuses no literal that
fits thirty-two bits: a longer one is out of range in any case. The sign and the
digits of a numeral are found again in its text.
-/

namespace ExactCalc.Numeral

theorem value_cons (c : Char) (digits : List Char) :
    value (c :: digits) = 10 ^ digits.length * (c.toNat - '0'.toNat) + value digits := by
  rw [value, value, Nat.ofDigitChars_cons, Nat.ofDigitChars_eq_ofDigitChars_zero]
  simp

theorem value_significant (digits : List Char) : value (significant digits) = value digits := by
  unfold significant
  induction digits with
  | nil => rfl
  | cons c rest ih =>
    by_cases hc : c = '0'
    · subst hc
      rw [List.dropWhile_cons_of_pos (by simp), ih, value_cons]
      simp
    · rw [List.dropWhile_cons_of_neg (by simpa using hc)]

/-- A run of digits with another digit than zero in front is at least a power of ten. -/
theorem pow_le_value {c : Char} (hc : c.isDigit = true) (hz : c ≠ '0') (digits : List Char) :
    10 ^ digits.length ≤ value (c :: digits) := by
  have hd : 1 ≤ c.toNat - '0'.toNat := by
    have hlow : '0'.toNat ≤ c.toNat := (Char.isDigit_iff_toNat.mp hc).1
    have hne : c.toNat ≠ '0'.toNat := fun h => hz (Char.toNat_inj.mp h)
    omega
  rw [value_cons]
  exact (Nat.le_mul_of_pos_right _ hd).trans (Nat.le_add_right _ _)

theorem length_significant_le {digits : List Char} {n : ℕ} (hd : ∀ c ∈ digits, c.isDigit = true)
    (h : value digits < 10 ^ n) : (significant digits).length ≤ n := by
  rw [← value_significant] at h
  have hmem : ∀ c ∈ significant digits, c.isDigit = true :=
    fun c hc => hd c ((List.dropWhile_sublist _).mem hc)
  have hhead := List.head?_dropWhile_not (· == '0') digits
  cases hs : significant digits with
  | nil => simp
  | cons c rest =>
    rw [← significant, hs] at hhead
    rw [hs] at h hmem
    have hle := pow_le_value (hmem c (by simp)) (by simpa using hhead) rest
    have hlt : rest.length < n := (Nat.pow_lt_pow_iff_right (by decide)).mp (hle.trans_lt h)
    simpa using hlt

/-- Counting digits first agrees with converting a literal of any length and comparing it with
the range. -/
theorem word32?_eq {digits : List Char} (hd : ∀ c ∈ digits, c.isDigit = true) (negative : Bool) :
    word32? negative digits =
      if -2 ^ 31 ≤ withSign negative (value digits) ∧
          withSign negative (value digits) ≤ 2 ^ 31 - 1 then
        some (withSign negative (value digits))
      else none := by
  unfold word32?
  simp only [value_significant]
  by_cases hlen : (significant digits).length ≤ word32Digits
  · rw [if_pos hlen]
    rfl
  · have hlarge : 10 ^ 10 ≤ value digits := by
      by_contra h
      exact hlen (length_significant_le hd (not_le.mp h))
    rw [if_neg hlen, if_neg]
    rintro ⟨hlow, hhigh⟩
    cases negative <;> simp only [withSign, Bool.false_eq_true, if_true, if_false] at hlow hhigh <;>
      omega

theorem split?_signed {digits : List Char} (hne : digits ≠ [])
    (hd : ∀ c ∈ digits, c.isDigit = true) (negative : Bool) :
    split? (if negative then '-' :: digits else digits) = some (negative, digits) := by
  have hall : digits.all Char.isDigit = true := List.all_eq_true.mpr hd
  cases negative with
  | true => simp [split?, hne, hall]
  | false =>
    have hhead : digits.head? ≠ some '-' := by
      intro h
      exact absurd (hd '-' (List.mem_of_head? h)) (by decide)
    simp [split?, hne, hall, hhead]

/-! ## Canonical numerals -/

theorem value_toDigits (n : ℕ) : value (Nat.toDigits 10 n) = n :=
  Nat.ofDigitChars_toDigits (by decide) (by decide)

theorem isDigit_of_mem_toDigits {n : ℕ} {c : Char} (h : c ∈ Nat.toDigits 10 n) :
    c.isDigit = true :=
  Nat.isDigit_of_mem_toDigits (by decide) (by decide) h

theorem withSign_natAbs (n : ℤ) : withSign (n < 0) n.natAbs = n := by
  unfold withSign
  split_ifs with h <;> simp at h <;> omega

theorem toList_ofInt (n : ℤ) :
    (ofInt n).toList =
      if n < 0 then '-' :: Nat.toDigits 10 n.natAbs else Nat.toDigits 10 n.natAbs := by
  cases n with
  | ofNat m => simp [ofInt, Nat.toList_repr]
  | negSucc m => simp [ofInt, Nat.toList_repr, Int.negSucc_lt_zero]

/-- The numeral of an integer is a literal of that integer. -/
theorem toInt?_ofInt (n : ℤ) : toInt? (ofInt n).toList = some n := by
  have hdigits : ∀ c ∈ Nat.toDigits 10 n.natAbs, c.isDigit = true := by
    intro c hc
    exact isDigit_of_mem_toDigits hc
  have hsplit := split?_signed Nat.toDigits_ne_nil hdigits (n < 0)
  simp only [decide_eq_true_eq] at hsplit
  rw [toInt?, toList_ofInt, hsplit, Option.map_some]
  dsimp only
  rw [value_toDigits, withSign_natAbs]

theorem ofInt_injective : Function.Injective ofInt := by
  intro m n h
  have hm := toInt?_ofInt m
  rw [h, toInt?_ofInt] at hm
  exact (Option.some.inj hm).symm

/-- How many digits the numeral of an integer has; its sign is none. -/
def digitCount (n : ℤ) : ℕ := (Nat.toDigits 10 n.natAbs).length

theorem digitCount_le_iff {n : ℤ} {places : ℕ} (h : 0 < places) :
    digitCount n ≤ places ↔ n.natAbs < 10 ^ places :=
  Nat.length_toDigits_le_iff (by decide) h

end ExactCalc.Numeral
