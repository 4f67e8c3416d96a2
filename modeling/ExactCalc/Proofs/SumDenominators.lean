import ExactCalc.Proofs.FractionLaws

/-!
# Denominators of sums

Two fractions are added over the least common multiple of their denominators, and
the divisions that bring their numerators there leave no remainder. So the
denominator of a sum of any number of fractions, in any order and grouped in any
way, is known beforehand: its absolute value is the least common multiple of all
the denominators, and its sign is the product of their signs.
-/

namespace ExactCalc.Fraction

/-! ## Two fractions -/

section Pairs

variable {a b : ℤ}

theorem commonDenominator?_of_ne_zero (ha : a ≠ 0) (b : ℤ) :
    commonDenominator? a b = some (commonDenominator a b) := by
  apply if_neg
  intro hgcd
  exact ha (Int.gcd_eq_zero_iff.mp hgcd).1

/-- No common multiple is smaller. -/
theorem abs_commonDenominator_dvd {m : ℤ} (ha : a ∣ m) (hb : b ∣ m) :
    |commonDenominator a b| ∣ m := by
  rw [Int.abs_eq_natAbs, natAbs_commonDenominator]
  exact Int.coe_lcm_dvd ha hb

theorem commonDenominator_self (ha : 0 < a) : commonDenominator a a = a := by
  apply eq_of_sign_of_natAbs
  · rw [sign_commonDenominator, Int.sign_eq_one_of_pos ha, mul_one]
  · rw [natAbs_commonDenominator, Int.lcm_self]

end Pairs

/-- Both fractions are brought over the common denominator by whole factors. -/
theorem exists_add_eq (a b : Fraction) :
    ∃ k l : ℤ, (a.add b).den = a.den * k ∧ (a.add b).den = b.den * l ∧
      (a.add b).num = a.num * k + b.num * l := by
  obtain ⟨⟨k, hk⟩, ⟨l, hl⟩⟩ := dvd_commonDenominator a.den b.den
  have hleft : (commonDenominator a.den b.den).fdiv a.den = k := by
    rw [hk, Int.mul_fdiv_cancel_left k a.den_ne_zero]
  have hright : (commonDenominator a.den b.den).fdiv b.den = l := by
    rw [hl, Int.mul_fdiv_cancel_left l b.den_ne_zero]
  refine ⟨k, l, hk, hl, ?_⟩
  rw [← hleft, ← hright]
  rfl

/-! ## Any number of fractions -/

/-- Fractions that are added up, in an order and a grouping. -/
inductive Summation
  | term (a : Fraction)
  | plus (left right : Summation)
  deriving DecidableEq, Repr

namespace Summation

/-- The fractions from left to right. -/
def terms : Summation → List Fraction
  | term a => [a]
  | plus left right => left.terms ++ right.terms

def total : Summation → Fraction
  | term a => a
  | plus left right => left.total.add right.total

/-- Adding the fractions of a list one after the other. -/
def inTurn (first : Fraction) (rest : List Fraction) : Summation :=
  rest.foldl (fun sum a => plus sum (term a)) (term first)

theorem inTurn_append_singleton (first : Fraction) (rest : List Fraction) (a : Fraction) :
    inTurn first (rest ++ [a]) = plus (inTurn first rest) (term a) := by
  rw [inTurn, List.foldl_append]
  rfl

theorem terms_inTurn (first : Fraction) (rest : List Fraction) :
    (inTurn first rest).terms = first :: rest := by
  induction rest using List.reverseRecOn with
  | nil => rfl
  | append_singleton rest a ih =>
    rw [inTurn_append_singleton, terms, ih]
    rfl

theorem total_inTurn (first : Fraction) (rest : List Fraction) :
    (inTurn first rest).total = rest.foldl add first := by
  induction rest using List.reverseRecOn with
  | nil => rfl
  | append_singleton rest a ih =>
    rw [inTurn_append_singleton, total, ih, List.foldl_append]
    rfl

theorem abs_den_total (s : Summation) :
    |s.total.den| = Multiset.lcm (s.terms.map den : List ℤ) := by
  induction s with
  | term a => rw [total, terms, List.map_singleton, Multiset.coe_singleton, Multiset.lcm_singleton,
      Int.abs_eq_normalize]
  | plus left right ihl ihr =>
    -- The least common multiple does not depend on signs, so those of the two sums may be dropped.
    rw [terms, List.map_append, ← Multiset.coe_add, Multiset.lcm_add, ← ihl, ← ihr, ← Int.coe_lcm,
      Int.lcm, Int.natAbs_abs, Int.natAbs_abs, Int.abs_eq_natAbs]
    exact congrArg Nat.cast (natAbs_commonDenominator left.total.den right.total.den)

theorem sign_den_total (s : Summation) :
    s.total.den.sign = (s.terms.map fun a => a.den.sign).prod := by
  induction s with
  | term a => rw [total, terms, List.map_singleton, List.prod_singleton]
  | plus left right ihl ihr =>
    rw [terms, List.map_append, List.prod_append, ← ihl, ← ihr]
    exact sign_commonDenominator left.total.den right.total.den

/-- Over one positive denominator the sum has that denominator again. -/
theorem den_total_of_forall {s : Summation} {d : ℤ} (hd : 0 < d)
    (h : ∀ a ∈ s.terms, a.den = d) : s.total.den = d := by
  induction s with
  | term a => exact h a (List.mem_singleton_self a)
  | plus left right ihl ihr =>
    have hleft := ihl fun a ha => h a (List.mem_append_left _ ha)
    have hright := ihr fun a ha => h a (List.mem_append_right _ ha)
    calc
      (plus left right).total.den = commonDenominator left.total.den right.total.den := rfl
      _ = d := by rw [hleft, hright, commonDenominator_self hd]

end Summation

/-- The common denominator of two integers other than zero is found by a division without remainder.
It is not zero, is divided by both without remainder, has the sign of their product, and divides all
their common multiples. An addition brings both fractions over it by whole factors. So fractions
that are added up, one after the other or in any order and grouping, have a sum whose denominator
is the least common multiple of theirs, with the product of their signs. If all have one positive
denominator, the sum has it too. -/
theorem den_total_eq_lcm :
    (∀ a b : ℤ, a ≠ 0 → b ≠ 0 →
      commonDenominator? a b = some (commonDenominator a b) ∧
        (a * b).fmod (a.gcd b) = 0 ∧
        commonDenominator a b ≠ 0 ∧
        (commonDenominator a b).fmod a = 0 ∧ (commonDenominator a b).fmod b = 0 ∧
        (commonDenominator a b).sign = (a * b).sign ∧
        ∀ m, a ∣ m → b ∣ m → |commonDenominator a b| ∣ m) ∧
    (∀ a b : Fraction, (a.add b).den = commonDenominator a.den b.den ∧
      ∃ k l : ℤ, (a.add b).den = a.den * k ∧ (a.add b).den = b.den * l ∧
        (a.add b).num = a.num * k + b.num * l) ∧
    (∀ (first : Fraction) (rest : List Fraction),
      ∃ s : Summation, s.terms = first :: rest ∧ s.total = rest.foldl add first) ∧
    ∀ (fractions : List Fraction) (s : Summation), s.terms.Perm fractions →
      |s.total.den| = Multiset.lcm (fractions.map den : List ℤ) ∧
        s.total.den.sign = (fractions.map fun a => a.den.sign).prod ∧
        ∀ d, 0 < d → (∀ a ∈ fractions, a.den = d) → s.total.den = d := by
  refine ⟨?_, ?_, ?_, ?_⟩
  · intro a b ha hb
    obtain ⟨hleft, hright⟩ := dvd_commonDenominator a b
    have hgcd : (a.gcd b : ℤ) ∣ a * b := Dvd.intro_left _ (commonDenominator_mul_gcd a b)
    refine ⟨commonDenominator?_of_ne_zero ha b, Int.fmod_eq_zero_of_dvd hgcd,
      commonDenominator_ne_zero ha hb, Int.fmod_eq_zero_of_dvd hleft,
      Int.fmod_eq_zero_of_dvd hright, ?_, fun m => abs_commonDenominator_dvd⟩
    rw [sign_commonDenominator, Int.sign_mul]
  · intro a b
    exact ⟨rfl, exists_add_eq a b⟩
  · intro first rest
    exact ⟨.inTurn first rest, Summation.terms_inTurn first rest, Summation.total_inTurn first rest⟩
  · intro fractions s h
    refine ⟨?_, ?_, ?_⟩
    · rw [s.abs_den_total, Multiset.coe_eq_coe.mpr (h.map den)]
    · rw [s.sign_den_total, (h.map fun a => a.den.sign).prod_eq]
    · intro d hd hall
      exact Summation.den_total_of_forall hd fun a ha => hall a (h.mem_iff.mp ha)

/-- Three fractions, one of them with a negative denominator, grouped from the right and listed in
another order; two fractions over one denominator. -/
theorem den_total_eq_lcm_negative :
    let s : Summation := .plus (.term ⟨1, 4, by decide⟩)
      (.plus (.term ⟨1, -6, by decide⟩) (.term ⟨3, 10, by decide⟩))
    let t : Summation := .plus (.term ⟨5, 7, by decide⟩) (.term ⟨2, 7, by decide⟩)
    commonDenominator? 4 (-6) = some (-12) ∧ (-12 : ℤ).fmod (-6) = 0 ∧ |(-12 : ℤ)| ∣ 36 ∧
      |s.total.den| = 60 ∧ s.total.den.sign = -1 ∧ t.total.den = 7 := by
  intro s t
  obtain ⟨hpair, -, -, hsum⟩ := den_total_eq_lcm
  obtain ⟨hcommon, -, -, -, hremainder, -, hleast⟩ := hpair 4 (-6) (by decide) (by decide)
  have hdenominator : commonDenominator 4 (-6) = -12 := by decide
  rw [hdenominator] at hcommon hremainder hleast
  obtain ⟨hlcm, hsign, -⟩ := hsum [⟨3, 10, by decide⟩, ⟨1, 4, by decide⟩, ⟨1, -6, by decide⟩] s
    (by decide)
  obtain ⟨-, -, hsame⟩ := hsum t.terms t (.refl _)
  refine ⟨hcommon, hremainder, hleast 36 (by decide) (by decide), ?_, ?_, ?_⟩
  · rw [hlcm]
    decide
  · rw [hsign]
    decide
  · exact hsame 7 (by decide) (by decide)

end ExactCalc.Fraction
