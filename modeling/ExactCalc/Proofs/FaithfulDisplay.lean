import ExactCalc.Command
import ExactCalc.Proofs.DivisionFree
import ExactCalc.Proofs.EnclosingLets
import ExactCalc.Proofs.Punctuation

/-!
# Faithful display

An integer of at most ten thousand binary digits is shown by its numeral, which then
has at most 3011 decimal digits. A longer one is shown in angle brackets, and these
stand in no numeral, so it is never taken for another integer. A text without angle
brackets tells the fraction that it shows, both parts of it: the stroke between the
parts, a denominator of one that is left out and the sign of a denominator leave no
doubt. The same holds of the value in a step and in the last row of the table, whatever
stands around it.
-/

namespace ExactCalc

/-! ## Numerals -/

namespace Numeral

theorem countP_isDigit_ofInt (n : ℤ) :
    (ofInt n).toList.countP Char.isDigit = (Nat.toDigits 10 n.natAbs).length := by
  have hdigits : (Nat.toDigits 10 n.natAbs).countP Char.isDigit =
      (Nat.toDigits 10 n.natAbs).length :=
    List.countP_eq_length.mpr fun _ hc => isDigit_of_mem_toDigits hc
  rw [toList_ofInt]
  split_ifs
  · rw [List.countP_cons_of_neg (by decide), hdigits]
  · exact hdigits

/-- A number has no more decimal digits than are needed for all numbers of as many binary ones. -/
theorem length_toDigits_le {n bits places : ℕ} (hn : bitLength n ≤ bits) (hplaces : 0 < places)
    (hpowers : 2 ^ bits ≤ 10 ^ places) : (Nat.toDigits 10 n).length ≤ places := by
  rw [Nat.length_toDigits_le_iff (by decide) hplaces]
  exact (bitLength_le_iff.mp hn).trans_le hpowers

theorem two_pow_le_ten_pow : 2 ^ 10000 ≤ 10 ^ 3011 := by
  -- Ninety-three binary digits are worth no more than twenty-eight decimal ones.
  have hbase : 2 ^ 93 ≤ 10 ^ 28 := by decide
  have hrest : 2 ^ 49 ≤ 10 ^ 15 := by decide
  calc
    2 ^ 10000 = (2 ^ 93) ^ 107 * 2 ^ 49 := by rw [← pow_mul, ← pow_add]
    _ ≤ (10 ^ 28) ^ 107 * 10 ^ 15 := Nat.mul_le_mul (Nat.pow_le_pow_left hbase 107) hrest
    _ = 10 ^ 3011 := by rw [← pow_mul, ← pow_add]

/-- Angle brackets mark the integers that are not shown in full. -/
theorem bracket_mem_display_iff (n : ℤ) :
    '<' ∈ (display n).toList ↔ 10000 < bitLength n.natAbs := by
  constructor
  · intro hmem
    by_contra hshort
    rw [display_of_le (not_lt.mp hshort)] at hmem
    exact absurd (eq_or_isDigit_of_mem_ofInt hmem) (by decide)
  · intro hlong
    rw [display_of_lt hlong]
    simp only [String.toList_append, List.mem_append]
    exact .inl (.inl (.inr (by decide)))

theorem display_of_not_mem {n : ℤ} (h : '<' ∉ (display n).toList) : display n = ofInt n := by
  rw [bracket_mem_display_iff, not_lt] at h
  exact display_of_le h

theorem eq_of_display {m n : ℤ} (h : display m = display n) (hfull : '<' ∉ (display m).toList) :
    m = n := by
  have hm := display_of_not_mem hfull
  rw [h] at hfull
  rw [hm, display_of_not_mem hfull] at h
  exact ofInt_injective h

/-- The characters in which numbers are shown: digits, the sign, the stroke of a fraction, and those
of an estimate. -/
def isShown (c : Char) : Bool :=
  c.isDigit || ['-', '/', '<', '~', ' ', 'd', 'i', 'g', 't', 's', '>'].contains c

theorem isShown_of_mem_display {n : ℤ} {c : Char} (h : c ∈ (display n).toList) :
    isShown c = true := by
  have hdigit (hc : c.isDigit = true) : isShown c = true := by rw [isShown, hc, Bool.true_or]
  by_cases hbits : bitLength n.natAbs ≤ 10000
  · rw [display_of_le hbits] at h
    rcases eq_or_isDigit_of_mem_ofInt h with rfl | hc
    · decide
    · exact hdigit hc
  · have hmarks (marks : String) (hall : marks.toList.all isShown = true)
        (hc : c ∈ marks.toList) : isShown c = true := List.all_eq_true.mp hall c hc
    rw [display_of_lt (not_le.mp hbits)] at h
    simp only [String.toList_append, List.mem_append] at h
    rcases h with ((h | h) | h) | h
    · refine hmarks _ ?_ h
      split_ifs <;> decide
    · exact hmarks "<~" (by decide) h
    · exact hdigit (isDigit_of_mem_repr h)
    · exact hmarks " digits>" (by decide) h

end Numeral

/-! ## Fractions -/

/-- A text is cut in one way at the last place of a character. -/
theorem append_cons_inj_of_not_mem {s t s' t' : List Char} {c : Char} (ht : c ∉ t) (ht' : c ∉ t')
    (h : s ++ c :: t = s' ++ c :: t') : s = s' ∧ t = t' := by
  rcases append_cons_cases h with ⟨m, -, rfl⟩ | ⟨rfl, -, rfl⟩ | ⟨m, -, rfl⟩
  · simp at ht'
  · exact ⟨rfl, rfl⟩
  · simp at ht

namespace Fraction

variable {a b : Fraction}

theorem toList_text_of_ne_one (h : a.den ≠ 1) :
    a.text.toList = (Numeral.display a.num).toList ++ '/' :: (Numeral.display a.den).toList := by
  rw [text, if_neg h]
  simp

theorem text_of_eq_one (h : a.den = 1) : a.text = Numeral.display a.num := if_pos h

theorem isShown_of_mem_text {c : Char} (h : c ∈ a.text.toList) : Numeral.isShown c = true := by
  by_cases hden : a.den = 1
  · rw [text_of_eq_one hden] at h
    exact Numeral.isShown_of_mem_display h
  · rw [toList_text_of_ne_one hden] at h
    rcases List.mem_append.mp h with h | h
    · exact Numeral.isShown_of_mem_display h
    · rcases List.mem_cons.mp h with rfl | h
      · decide
      · exact Numeral.isShown_of_mem_display h

/-- A character of another kind is part of no fraction, and shows where one ends. -/
theorem not_mem_text {c : Char} (hc : Numeral.isShown c = false) (a : Fraction) :
    c ∉ a.text.toList := by
  intro hmem
  rw [isShown_of_mem_text hmem] at hc
  cases hc

/-- A stroke is shown exactly when the denominator is. -/
theorem stroke_mem_text_iff : '/' ∈ a.text.toList ↔ a.den ≠ 1 := by
  constructor
  · intro hmem hden
    rw [text_of_eq_one hden] at hmem
    exact Numeral.slash_not_mem_display a.num hmem
  · intro hden
    rw [toList_text_of_ne_one hden]
    simp

/-- The stroke tells whether a denominator is shown, and then where the parts are. -/
theorem eq_of_text (h : a.text = b.text) (hfull : '<' ∉ a.text.toList) : a = b := by
  have hone : a.den = 1 ↔ b.den = 1 := by
    have hstroke := @stroke_mem_text_iff a
    rw [h, stroke_mem_text_iff] at hstroke
    exact (not_iff_not.mp hstroke).symm
  by_cases hden : a.den = 1
  · rw [text_of_eq_one hden] at h hfull
    rw [text_of_eq_one (hone.mp hden)] at h
    rw [eq_ofInt_of_den hden, eq_ofInt_of_den (hone.mp hden), Numeral.eq_of_display h hfull]
  · have hlists := congrArg String.toList h
    rw [toList_text_of_ne_one hden] at hlists hfull
    rw [toList_text_of_ne_one (mt hone.mpr hden)] at hlists
    obtain ⟨hnum, hden'⟩ := append_cons_inj_of_not_mem (Numeral.slash_not_mem_display a.den)
      (Numeral.slash_not_mem_display b.den) hlists
    simp only [List.mem_append, List.mem_cons, not_or] at hfull
    have hnums : a.num = b.num := Numeral.eq_of_display (String.toList_inj.mp hnum) hfull.1
    have hdens : a.den = b.den := Numeral.eq_of_display (String.toList_inj.mp hden') hfull.2.2
    cases a
    cases b
    congr

end Fraction

/-! ## Steps and the last row -/

/-- The value that a step shows at its end. -/
def Step.value : Step → Fraction
  | read _ value => value
  | computed _ _ _ result => result
  | bound _ value => value

theorem Step.exists_stem (s : Step) :
    ∃ stem, s.text.toList = stem ++ '=' :: ' ' :: s.value.text.toList := by
  cases s with
  | read name value =>
    refine ⟨s!"{name} ".toList, ?_⟩
    simp [text, Step.value, toString]
  | computed op left right result =>
    refine ⟨s!"{op.keyword}({left.text}, {right.text}) ".toList, ?_⟩
    simp [text, Step.value, toString]
  | bound name value =>
    refine ⟨s!"let {name} ".toList, ?_⟩
    simp [text, Step.value, toString]

/-- Names and operands may be of any kind: the value stands behind the last equals sign. -/
theorem Step.value_eq_of_text {s t : Step} (h : s.text = t.text) (hfull : '<' ∉ s.text.toList) :
    s.value = t.value := by
  obtain ⟨stem, hs⟩ := s.exists_stem
  obtain ⟨stem', ht⟩ := t.exists_stem
  have hequals (a : Fraction) : '=' ∉ ' ' :: a.text.toList := by
    rw [List.mem_cons, not_or]
    exact ⟨by decide, a.not_mem_text (by decide)⟩
  have hlists : stem ++ '=' :: ' ' :: s.value.text.toList =
      stem' ++ '=' :: ' ' :: t.value.text.toList := by rw [← hs, ← ht, h]
  obtain ⟨-, hvalues⟩ := append_cons_inj_of_not_mem (hequals s.value) (hequals t.value) hlists
  rw [hs] at hfull
  simp only [List.mem_append, List.mem_cons, not_or] at hfull
  exact Fraction.eq_of_text (String.toList_inj.mp (List.cons.inj hvalues).2) hfull.2.2.2

namespace Command

/-- What the last row says of a result that is no integer. -/
def truncationNote (a : Fraction) : String :=
  if a.isInteger then "" else " (truncated toward zero)"

theorem toList_exactRow (a : Fraction) :
    (exactRow a).toList = "exact: ".toList ++ (a.text.toList ++ (truncationNote a).toList) := by
  unfold exactRow truncationNote
  split_ifs <;> simp [toString]

/-- The row has no parenthesis exactly when it has no note. -/
theorem paren_not_mem_exactRow_iff (a : Fraction) :
    '(' ∉ (exactRow a).toList ↔ a.isInteger = true := by
  have htext : '(' ∉ a.text.toList := a.not_mem_text (by decide)
  rw [toList_exactRow, truncationNote]
  cases a.isInteger with
  | true => simp [htext]
  | false => simp

theorem eq_of_exactRow {a b : Fraction} (h : exactRow a = exactRow b)
    (hfull : '<' ∉ (exactRow a).toList) : a = b := by
  have hnotes : truncationNote a = truncationNote b := by
    have hinteger : a.isInteger = b.isInteger := by
      rw [Bool.eq_iff_iff, ← paren_not_mem_exactRow_iff, ← paren_not_mem_exactRow_iff, h]
    rw [truncationNote, truncationNote, hinteger]
  have hlists := congrArg String.toList h
  rw [toList_exactRow, toList_exactRow, hnotes] at hlists
  have htexts := List.append_cancel_right (List.append_cancel_left hlists)
  rw [toList_exactRow] at hfull
  simp only [List.mem_append, not_or] at hfull
  exact Fraction.eq_of_text (String.toList_inj.mp htexts) hfull.2.1

end Command

/-- An integer of at most ten thousand binary digits is shown by its numeral, in 3011 decimal digits
at most. All others have angle brackets, and no numeral has any. A fraction, the value of a step
and the value in the last row of the table are determined by a text without angle brackets. -/
theorem Fraction.text_faithful :
    (∀ n : ℤ,
      (bitLength n.natAbs ≤ 10000 → Numeral.display n = Numeral.ofInt n ∧
        Numeral.toInt? (Numeral.display n).toList = some n ∧
        (Numeral.display n).toList.countP Char.isDigit ≤ 3011) ∧
      ('<' ∈ (Numeral.display n).toList ↔ 10000 < bitLength n.natAbs) ∧
      (10000 < bitLength n.natAbs → ∀ m, Numeral.display n ≠ Numeral.ofInt m)) ∧
    (∀ a b : Fraction, a.text = b.text → '<' ∉ a.text.toList → a.num = b.num ∧ a.den = b.den) ∧
    (∀ s t : Step, s.text = t.text → '<' ∉ s.text.toList → s.value = t.value) ∧
    ∀ a b : Fraction, Command.exactRow a = Command.exactRow b →
      '<' ∉ (Command.exactRow a).toList → a = b := by
  refine ⟨?_, ?_, ?_, ?_⟩
  · intro n
    refine ⟨?_, Numeral.bracket_mem_display_iff n, ?_⟩
    · intro hshort
      rw [Numeral.display_of_le hshort]
      refine ⟨rfl, Numeral.toInt?_ofInt n, ?_⟩
      rw [Numeral.countP_isDigit_ofInt]
      exact Numeral.length_toDigits_le hshort (by decide) Numeral.two_pow_le_ten_pow
    · intro hlong m hsame
      have hmem := (Numeral.bracket_mem_display_iff n).mpr hlong
      rw [hsame] at hmem
      exact absurd (Numeral.eq_or_isDigit_of_mem_ofInt hmem) (by decide)
  · intro a b h hfull
    have hab := eq_of_text h hfull
    rw [hab]
    exact ⟨rfl, rfl⟩
  · intro s t h hfull
    exact Step.value_eq_of_text h hfull
  · intro a b h hfull
    exact Command.eq_of_exactRow h hfull

/-- The shortest integer in angle brackets, a denominator of minus one, a name that looks like a
binding, and two fractions of one value. -/
theorem Fraction.text_faithful_negative :
    (∀ m, Numeral.display (2 ^ 10000) ≠ Numeral.ofInt m) ∧
      (∀ b : Fraction, b.text = "5/-1" → b.num = 5 ∧ b.den = -1) ∧
      (∀ t : Step, t.text = "let x = 5/-2" → t.value = ⟨5, -2, by decide⟩) ∧
      (Step.read "let x" ⟨5, -2, by decide⟩).text = (Step.bound "x" ⟨5, -2, by decide⟩).text ∧
      Command.exactRow ⟨2, 4, by decide⟩ ≠ Command.exactRow ⟨1, 2, by decide⟩ := by
  obtain ⟨hdisplay, htext, hstep, hrow⟩ := Fraction.text_faithful
  refine ⟨?_, ?_, ?_, by decide, ?_⟩
  · have hbits : 10000 < bitLength ((2 : ℤ) ^ 10000).natAbs := by
      rw [bitLength_two_pow]
      decide
    exact (hdisplay _).2.2 hbits
  · intro b hb
    have hsame : (⟨5, -1, by decide⟩ : Fraction).text = "5/-1" := by decide
    obtain ⟨hnum, hden⟩ := htext ⟨5, -1, by decide⟩ b (hsame.trans hb.symm) (by decide)
    exact ⟨hnum.symm, hden.symm⟩
  · intro t ht
    have hsame : (Step.read "let x" ⟨5, -2, by decide⟩).text = "let x = 5/-2" := by decide
    exact (hstep _ t (hsame.trans ht.symm) (by decide)).symm
  · intro hsame
    exact absurd (hrow _ _ hsame (by decide)) (by decide)

end ExactCalc
