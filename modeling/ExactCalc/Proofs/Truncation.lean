import ExactCalc.Proofs.FaithfulDisplay
import ExactCalc.Proofs.GuardedArithmetic
import ExactCalc.Proofs.TableRows

/-!
# The integer part

The integer part of a fraction is found from the absolute values of its parts and from
their signs, and whether a fraction is an integer from a remainder that takes the sign
of the denominator. Both depend on the value of the fraction alone: the integer part
is the one integer on the same side of zero that is no larger in size and less than one
away, and nothing is cut off exactly when it is equal to the value. The table of steps
says that a result was truncated in the other cases and in no others, and it does so at
the end of its last row, however that row is wrapped.
-/

namespace ExactCalc

/-! ## Truncation of rational numbers -/

/-- What remains of a number without its fractional part. -/
structure IsTruncation (r : ℚ) (q : ℤ) : Prop where
  size : |(q : ℚ)| ≤ |r|
  distance : |r - q| < 1
  side : q = 0 ∨ SignType.sign (q : ℚ) = SignType.sign r

section Numbers

variable {r : ℚ} {q : ℤ}

theorem IsTruncation.neg (h : IsTruncation r q) : IsTruncation (-r) (-q) where
  size := by
    rw [Int.cast_neg, abs_neg, abs_neg]
    exact h.size
  distance := by
    rw [Int.cast_neg, ← neg_sub', abs_neg]
    exact h.distance
  side := by
    rcases h.side with rfl | hsign
    · exact .inl neg_zero
    · right
      rw [Int.cast_neg, Left.sign_neg, Left.sign_neg, hsign]

theorem isTruncation_floor (hr : 0 ≤ r) : IsTruncation r ⌊r⌋ where
  size := by
    have hfloor : (0 : ℚ) ≤ ⌊r⌋ := Int.cast_nonneg (Int.floor_nonneg.mpr hr)
    rw [abs_of_nonneg hfloor, abs_of_nonneg hr]
    exact Int.floor_le r
  distance := by
    rw [abs_of_nonneg (sub_nonneg.mpr (Int.floor_le r))]
    linarith [Int.lt_floor_add_one r]
  side := by
    rcases (Int.floor_nonneg.mpr hr).eq_or_lt with hzero | hpos
    · exact .inl hzero.symm
    · have hone : (1 : ℚ) ≤ ⌊r⌋ := by exact_mod_cast hpos
      right
      rw [sign_pos (by linarith), sign_pos (by linarith [Int.floor_le r])]

theorem isTruncation_towardZero (r : ℚ) : IsTruncation r (towardZero r) := by
  rcases le_total 0 r with hr | hr
  · rw [towardZero, if_pos hr]
    exact isTruncation_floor hr
  · -- The mirror image of the other case.
    have hmirror := (isTruncation_floor (neg_nonneg.mpr hr)).neg
    have hfloor : ⌊-r⌋ = towardZero (-r) := (if_pos (neg_nonneg.mpr hr)).symm
    rwa [hfloor, towardZero_neg, neg_neg, neg_neg] at hmirror

/-- Size and distance leave one integer; its sign follows. -/
theorem IsTruncation.eq_towardZero (h : IsTruncation r q) : q = towardZero r := by
  obtain ⟨hbelow, habove⟩ := abs_lt.mp h.distance
  obtain ⟨hlow, hhigh⟩ := abs_le.mp h.size
  unfold towardZero
  split_ifs with hr
  · rw [abs_of_nonneg hr] at hhigh
    exact (Int.floor_eq_iff.mpr ⟨hhigh, by linarith⟩).symm
  · rw [abs_of_neg (not_le.mp hr), neg_neg] at hlow
    exact (Int.ceil_eq_iff.mpr ⟨by linarith, hlow⟩).symm

theorem isTruncation_iff : IsTruncation r q ↔ q = towardZero r := by
  constructor
  · exact IsTruncation.eq_towardZero
  · rintro rfl
    exact isTruncation_towardZero r

end Numbers

/-! ## Fractions -/

namespace Fraction

variable {a b : Fraction}

theorem value_eq_of_cross_mul (h : a.num * b.den = b.num * a.den) : a.value = b.value := by
  have ha : (a.den : ℚ) ≠ 0 := Int.cast_ne_zero.mpr a.den_ne_zero
  have hb : (b.den : ℚ) ≠ 0 := Int.cast_ne_zero.mpr b.den_ne_zero
  rw [value, value, div_eq_div_iff ha hb]
  exact_mod_cast h

theorem isInteger_iff (a : Fraction) : a.isInteger = true ↔ a.truncate * a.den = a.num := by
  rw [isInteger, beq_iff_eq, ← Int.dvd_iff_emod_eq_zero]
  constructor
  · intro hdvd
    exact Int.tdiv_mul_cancel hdvd
  · intro hexact
    exact Dvd.intro_left a.truncate hexact

/-- Nothing is cut off from an integer, and something from every other fraction. -/
theorem isInteger_iff_value (a : Fraction) : a.isInteger = true ↔ (a.truncate : ℚ) = a.value := by
  rw [isInteger_iff, value, eq_div_iff (Int.cast_ne_zero.mpr a.den_ne_zero)]
  norm_cast

theorem truncate_eq_of_value (h : a.value = b.value) : a.truncate = b.truncate := by
  rw [truncate_eq, truncate_eq, h]

theorem isInteger_eq_of_value (h : a.value = b.value) : a.isInteger = b.isInteger := by
  rw [Bool.eq_iff_iff, isInteger_iff_value, isInteger_iff_value, truncate_eq_of_value h, h]

end Fraction

/-! ## The table of steps -/

namespace Command

theorem stdout_present {c : Calculation} {a : Fraction} (h : c.outcome = .ok a) (level : Level) :
    (present level true c).stdout =
      page (Numeral.ofInt a.truncate :: StepTable.lines (c.steps.map Step.text) (exactRow a)) := by
  unfold present
  rw [h]
  rfl

/-- The note stands in the last row exactly when something was cut off. -/
theorem note_infix_exactRow_iff (a : Fraction) :
    "(truncated toward zero)".toList <:+: (exactRow a).toList ↔ (a.truncate : ℚ) ≠ a.value := by
  rw [Ne, ← Fraction.isInteger_iff_value, ← paren_not_mem_exactRow_iff, not_not]
  constructor
  · intro hinfix
    exact hinfix.subset (by decide)
  · intro hparen
    have hinteger : ¬a.isInteger = true := by
      rw [← paren_not_mem_exactRow_iff, not_not]
      exact hparen
    rw [toList_exactRow, truncationNote, if_neg hinteger]
    refine ⟨"exact: ".toList ++ (a.text.toList ++ [' ']), [], ?_⟩
    simp

open StepTable

/-- A number that is shown is not empty and does not end in a space. -/
theorem trimEnd_display (n : ℤ) :
    (Numeral.display n).toList ≠ [] ∧
      trimEnd (Numeral.display n).toList = (Numeral.display n).toList := by
  by_cases hbits : bitLength n.natAbs ≤ 10000
  · rw [Numeral.display_of_le hbits]
    constructor
    · intro hempty
      have hread := Numeral.toInt?_ofInt n
      have hnone : Numeral.toInt? [] = none := rfl
      rw [hempty, hnone] at hread
      cases hread
    · apply trimEnd_of_not_mem
      intro hspace
      exact absurd (Numeral.eq_or_isDigit_of_mem_ofInt hspace) (by decide)
  · rw [Numeral.display_of_lt (not_le.mp hbits), String.toList_append]
    have hend : " digits>".toList ≠ [] := by decide
    exact ⟨List.append_ne_nil_of_right_ne_nil _ hend, trimEnd_append_self hend (by decide) _⟩

theorem trimEnd_append_text (front : List Char) (a : Fraction) :
    trimEnd (front ++ a.text.toList) = front ++ a.text.toList := by
  by_cases hden : a.den = 1
  · obtain ⟨hne, htrim⟩ := trimEnd_display a.num
    rw [Fraction.text_of_eq_one hden]
    exact trimEnd_append_self hne htrim front
  · obtain ⟨hne, htrim⟩ := trimEnd_display a.den
    rw [Fraction.toList_text_of_ne_one hden, List.append_cons, ← List.append_assoc]
    exact trimEnd_append_self hne htrim _

theorem trimEnd_exactRow (a : Fraction) : trimEnd (exactRow a).toList = (exactRow a).toList := by
  rw [toList_exactRow, truncationNote, ← List.append_assoc]
  split_ifs
  · rw [String.toList_empty, List.append_nil]
    exact trimEnd_append_text _ a
  · exact trimEnd_append_self (by decide) (by decide) _

/-- However the last row is wrapped, the note is read at the end of its cells exactly when something
was cut off. Its longest word has ten characters. -/
theorem note_suffix_cells_iff (a : Fraction) {width : ℕ}
    (hwidth : ¬a.isInteger = true → 10 ≤ width) :
    "(truncated toward zero)".toList <:+ joined (wrap width (exactRow a).toList) ↔
      (a.truncate : ℚ) ≠ a.value := by
  rw [Ne, ← Fraction.isInteger_iff_value]
  constructor
  · intro hsuffix hinteger
    have hparen : '(' ∈ joined (wrap width (exactRow a).toList) := hsuffix.subset (by decide)
    rcases mem_joined hparen with h | ⟨cell, hcell, hmem⟩
    · exact absurd h (by decide)
    · rcases mem_wrap hcell hmem with h | h
      · exact (paren_not_mem_exactRow_iff a).mpr hinteger h
      · exact absurd h (by decide)
  · intro hinteger
    have hrow : (exactRow a).toList =
        ("exact: ".toList ++ a.text.toList) ++ ' ' :: '(' :: "truncated toward zero)".toList := by
      rw [toList_exactRow, truncationNote, if_neg hinteger, List.append_assoc]
      rfl
    have hwords : words ('(' :: "truncated toward zero)".toList) =
        ["(truncated ".toList, "toward ".toList] ++ ["zero)".toList] := by decide
    have hcut (word : List Char) (h : word.length ≤ 10) : cut width word = word :=
      cut_of_le (h.trans (hwidth hinteger))
    rw [hrow, joined_wrap_append (trimEnd_append_text _ a) (by decide) hwords (by decide)
      (by decide)]
    simp only [List.cons_append, List.nil_append, List.flatMap_cons, List.flatMap_nil]
    rw [hcut _ (by decide), hcut _ (by decide), hcut _ (by decide)]
    refine ⟨joined (wrap width ("exact: ".toList ++ a.text.toList ++ [' '])) ++ [' '], ?_⟩
    rw [List.append_assoc]
    rfl

/-- With fewer than `10 ^ 63` steps, their indices leave room for the words of the note. -/
theorem note_suffix_lastCells_iff {steps : List String} (a : Fraction)
    (hsteps : steps.length < 10 ^ 63) :
    "(truncated toward zero)".toList <:+ joined (lastCells steps (exactRow a)) ↔
      (a.truncate : ℚ) ≠ a.value := by
  refine note_suffix_cells_iff a ?_
  intro hinteger
  have hindex : (Layout.ofRows (rows steps (exactRow a))).index ≤ 63 :=
    index_ofRows_le (by decide) hsteps
  refine Layout.le_step_ofRows (mem_rows_last steps (exactRow a)) ?_ ?_
  · rw [toList_exactRow, truncationNote, if_neg hinteger]
    simp
  · rw [frameWidth, totalWidth]
    omega

end Command

/-- The integer part, as it is found from absolute values and signs, is the truncation of the value
and the only one. It is the same for all fractions of one value, and so is the test whether a
fraction is an integer, which holds exactly when the integer part times the denominator gives back
the numerator. The table of steps ends in a row that has the note exactly when the integer that is
printed differs from the exact value. The cells of that row are the last lines of the table but for
its edge; the row has one cell where it fits, and read across its cells it ends in the note in the
same cases. -/
theorem Fraction.truncate_toward_zero :
    (∀ a : Fraction, Guarded.truncate a = .ok a.truncate ∧ Guarded.isInteger a = .ok a.isInteger) ∧
    (∀ (a : Fraction) (q : ℤ), q = a.truncate ↔ IsTruncation ((a.num : ℚ) / a.den) q) ∧
    (∀ a b : Fraction, a.num * b.den = b.num * a.den →
      a.truncate = b.truncate ∧ a.isInteger = b.isInteger) ∧
    (∀ a : Fraction, a.isInteger = true ↔ a.truncate * a.den = a.num) ∧
    ∀ (level : Level) (c : Calculation) (a : Fraction), c.outcome = .ok a →
      let steps := c.steps.map Step.text
      let layout := Command.StepTable.Layout.ofRows
        (Command.StepTable.rows steps (Command.exactRow a))
      let cells := Command.StepTable.lastCells steps (Command.exactRow a)
      (Command.present level true c).stdout =
        Command.page (Numeral.ofInt a.truncate ::
          Command.StepTable.lines steps (Command.exactRow a)) ∧
      ("(truncated toward zero)".toList <:+: (Command.exactRow a).toList ↔
        (a.truncate : ℚ) ≠ (a.num : ℚ) / a.den) ∧
      (Command.StepTable.rows steps (Command.exactRow a)).getLast? =
        some ([], (Command.exactRow a).toList) ∧
      (∃ above below, Command.StepTable.lines steps (Command.exactRow a) =
        above ++ cells.map (fun cell => .ofList ("| ".toList ++
          Command.StepTable.spaces layout.index ++ " | ".toList ++ cell ++
          Command.StepTable.spaces (layout.step - cell.length) ++ " |".toList)) ++ [below]) ∧
      (layout.index + 7 + (Command.exactRow a).length ≤ 80 →
        cells = [(Command.exactRow a).toList]) ∧
      (c.steps.length < 10 ^ 63 →
        ("(truncated toward zero)".toList <:+ Command.StepTable.joined cells ↔
          (a.truncate : ℚ) ≠ (a.num : ℚ) / a.den)) := by
  refine ⟨?_, ?_, ?_, isInteger_iff, ?_⟩
  · intro a
    exact ⟨Guarded.truncate_eq a, Guarded.isInteger_eq a⟩
  · intro a q
    rw [truncate_eq]
    exact isTruncation_iff.symm
  · intro a b h
    have hvalue := value_eq_of_cross_mul h
    exact ⟨truncate_eq_of_value hvalue, isInteger_eq_of_value hvalue⟩
  · intro level c a h steps layout cells
    refine ⟨Command.stdout_present h level, Command.note_infix_exactRow_iff a, ?_, ?_, ?_, ?_⟩
    · rw [Command.StepTable.rows, List.getLast?_concat]
    · obtain ⟨above, hlines⟩ := Command.StepTable.lines_last steps (Command.exactRow a)
      simp only [Command.StepTable.Layout.line_nil] at hlines
      exact ⟨above, _, hlines⟩
    · exact Command.StepTable.lastCells_of_le (Command.trimEnd_exactRow a)
    · intro hsteps
      refine Command.note_suffix_lastCells_iff a ?_
      rwa [List.length_map]

/-- Two fractions of the value minus eleven quarters, one of them with a negative denominator, and
the table for the first of them. -/
theorem Fraction.truncate_toward_zero_quarters :
    let a : Fraction := ⟨-11, 4, by decide⟩
    let b : Fraction := ⟨22, -8, by decide⟩
    a.num * b.den = b.num * a.den ∧ a.truncate = b.truncate ∧ a.isInteger = b.isInteger ∧
      IsTruncation (((22 : ℤ) : ℚ) / (-8 : ℤ)) (-2) ∧
      (Command.present .warning true ⟨"div(-11, 4)", [], .ok a⟩).stdout =
        Command.page ("-2" ::
          Command.StepTable.lines [] "exact: -11/4 (truncated toward zero)") ∧
      (∃ above below, Command.StepTable.lines [] "exact: -11/4 (truncated toward zero)" =
        above ++ ["|   | exact: -11/4 (truncated toward zero) |"] ++ [below]) ∧
      ((-2 : ℤ) : ℚ) ≠ ((-11 : ℤ) : ℚ) / (4 : ℤ) := by
  intro a b
  have hpart : a.truncate = -2 := by decide
  have hnumeral : Numeral.ofInt (-2) = "-2" := by decide
  have hrow : Command.exactRow a = "exact: -11/4 (truncated toward zero)" := by decide +kernel
  obtain ⟨-, hunique, hsame, -, htable⟩ := Fraction.truncate_toward_zero
  obtain ⟨htruncate, hinteger⟩ := hsame a b (by decide)
  obtain ⟨hprinted, hnote, -, hlines, hfits, -⟩ := htable .warning ⟨"div(-11, 4)", [], .ok a⟩ a rfl
  rw [hrow, hpart] at hprinted hnote
  rw [hnumeral, List.map_nil] at hprinted
  rw [hrow, List.map_nil] at hfits hlines
  refine ⟨by decide, htruncate, hinteger, (hunique b (-2)).mp (by decide), hprinted, ?_, ?_⟩
  · rw [hfits (by decide +kernel)] at hlines
    obtain ⟨above, below, hlines⟩ := hlines
    exact ⟨above, below, hlines⟩
  · exact hnote.mp ⟨"exact: -11/4 ".toList, [], by decide⟩

end ExactCalc
