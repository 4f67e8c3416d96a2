import ExactCalc.Expr.Reader
import ExactCalc.Proofs.NumeralValue

/-!
# Literals by value

A literal denotes an integer by the places of its digits, however many digits it has
and however many zeros stand in front. The reader counts significant digits before it
converts any, and never converts a long literal. All the same a literal is read
exactly when the integer that it denotes has thirty-two bits, and as that integer;
otherwise the whole literal is rejected.
-/

namespace ExactCalc

namespace Numeral

/-- The number that digits denote by their places: the last one counts ones, the one before it
tens, and so on. -/
def positional (digits : List Char) : ℕ :=
  Nat.ofDigits 10 (digits.reverse.map fun c => c.toNat - '0'.toNat)

/-- The texts of the shape `-?[0-9]+` and the integers that they denote. -/
inductive Denotes : List Char → ℤ → Prop
  | plain {digits} (hne : digits ≠ []) (hd : ∀ c ∈ digits, c.isDigit = true) :
      Denotes digits (positional digits)
  | negated {digits} (hne : digits ≠ []) (hd : ∀ c ∈ digits, c.isDigit = true) :
      Denotes ('-' :: digits) (-positional digits)

/-- Reading digits from left to right gives each of them the value of its place. -/
theorem value_eq_positional (digits : List Char) : value digits = positional digits := by
  induction digits with
  | nil => rfl
  | cons c digits ih =>
    have hplaces : positional (c :: digits) =
        positional digits + 10 ^ digits.length * (c.toNat - '0'.toNat) := by
      unfold positional
      rw [List.reverse_cons, List.map_append, Nat.ofDigits_append, List.length_map,
        List.length_reverse, List.map_singleton, Nat.ofDigits_singleton]
    rw [value_cons, hplaces, ih, add_comm]

section Denotes

variable {text : List Char} {n : ℤ}

/-- The sign and the digits of a literal make up the integer that it denotes. -/
theorem Denotes.exists_split? (h : Denotes text n) :
    ∃ negative digits, split? text = some (negative, digits) ∧
      (∀ c ∈ digits, c.isDigit = true) ∧ withSign negative (value digits) = n := by
  cases h with
  | @plain digits hne hd =>
    refine ⟨false, text, split?_signed hne hd false, hd, ?_⟩
    rw [value_eq_positional, withSign, if_neg Bool.false_ne_true]
  | @negated digits hne hd =>
    refine ⟨true, digits, split?_signed hne hd true, hd, ?_⟩
    rw [value_eq_positional, withSign, if_pos rfl]

theorem Denotes.toInt?_eq (h : Denotes text n) : toInt? text = some n := by
  obtain ⟨negative, digits, hsplit, -, rfl⟩ := h.exists_split?
  rw [toInt?, hsplit, Option.map_some]

end Denotes

end Numeral

/-- Under a limit that admits a text at all, a literal is read by its value. -/
theorem Expr.ofText_of_denotes {limit : ℤ} (hlimit : 0 ≤ limit) {text : String} {n : ℤ}
    (h : Numeral.Denotes (Text.withoutBlanks text).toList n) :
    Expr.ofText limit text =
      if -2 ^ 31 ≤ n ∧ n ≤ 2 ^ 31 - 1 then .ok (.number n)
      else .error ⟨.outOfRange, Text.withoutBlanks text, 0⟩ := by
  obtain ⟨negative, digits, hsplit, hd, rfl⟩ := h.exists_split?
  have hshape : Shape.ofText (Text.withoutBlanks text).toList = .literal negative digits := by
    rw [Shape.ofText, hsplit]
  rw [Expr.ofText, Expr.read_literal hlimit hshape, Numeral.word32?_eq hd, String.ofList_toList]
  split_ifs with hrange
  · rfl
  · rfl

/-- A literal of any length is read exactly when the integer that it denotes has thirty-two bits,
and is read as that integer. Otherwise the whole of it is reported to be out of range. So counting
significant digits first comes to the same as converting all digits and comparing the result with
the range. -/
theorem Expr.ofText_numeral {limit : ℤ} (hlimit : 0 ≤ limit) {text : String} {n : ℤ}
    (h : Numeral.Denotes (Text.withoutBlanks text).toList n) :
    ((∃ e, Expr.ofText limit text = .ok e) ↔ -2 ^ 31 ≤ n ∧ n ≤ 2 ^ 31 - 1) ∧
      (∀ e, Expr.ofText limit text = .ok e → e = .number n) ∧
      (∀ r, Expr.ofText limit text = .error r →
        r.report = ⟨"parse_failure",
          "Integer literal out of 32-bit range: " ++ Text.withoutBlanks text,
          some (Text.withoutBlanks text), some 0, none⟩) ∧
      ∃ negative digits,
        Numeral.split? (Text.withoutBlanks text).toList = some (negative, digits) ∧
        Numeral.word32? negative digits =
          (Numeral.toInt? (Text.withoutBlanks text).toList).filter fun m =>
            -2 ^ 31 ≤ m ∧ m ≤ 2 ^ 31 - 1 := by
  rw [Expr.ofText_of_denotes hlimit h]
  refine ⟨?_, ?_, ?_, ?_⟩
  · constructor
    · rintro ⟨e, he⟩
      by_contra hrange
      rw [if_neg hrange] at he
      cases he
    · intro hrange
      exact ⟨.number n, if_pos hrange⟩
  · intro e he
    split_ifs at he
    cases he
    rfl
  · intro r hr
    split_ifs at hr
    cases hr
    rfl
  · obtain ⟨negative, digits, hsplit, hd, hn⟩ := h.exists_split?
    refine ⟨negative, digits, hsplit, ?_⟩
    rw [h.toInt?_eq, Numeral.word32?_eq hd, hn, Option.filter_some]
    simp only [decide_eq_true_eq]

/-- The least of the integers, and the first that is too large, with more zeros in front than such
an integer has digits. -/
theorem Expr.ofText_numeral_bounds :
    Expr.ofText 0 "-000000000000 2147483648" = .ok (.number (-2147483648)) ∧
      ∃ r, Expr.ofText 0 "000000000000 2147483648" = .error r ∧
        r.report.message = "Integer literal out of 32-bit range: " ++ "0000000000002147483648" ∧
        r.report.offendingText = some "0000000000002147483648" ∧ r.report.position = some 0 := by
  have hleast : (Text.withoutBlanks "-000000000000 2147483648").toList =
      '-' :: "0000000000002147483648".toList := by decide +kernel
  have hlarge : Text.withoutBlanks "000000000000 2147483648" = "0000000000002147483648" := by
    decide +kernel
  have hnumeric : ∀ c ∈ "0000000000002147483648".toList, c.isDigit = true :=
    List.all_eq_true.mp (by decide +kernel)
  have hvalue : Numeral.positional "0000000000002147483648".toList = 2147483648 := by
    decide +kernel
  have hne : "0000000000002147483648".toList ≠ [] := by decide +kernel
  have hnegated := Numeral.Denotes.negated hne hnumeric
  have hplain := Numeral.Denotes.plain hne hnumeric
  rw [hvalue, ← hleast] at hnegated
  rw [hvalue, ← hlarge] at hplain
  obtain ⟨hread, hnumber, -⟩ := Expr.ofText_numeral le_rfl hnegated
  obtain ⟨hread', -, hreport, -⟩ := Expr.ofText_numeral le_rfl hplain
  constructor
  · obtain ⟨e, he⟩ := hread.mpr (by decide)
    rw [he, hnumber e he]
    rfl
  · cases hr : Expr.ofText 0 "000000000000 2147483648" with
    | ok e => exact absurd (hread'.mp ⟨e, hr⟩) (by decide)
    | error r =>
      have hfields := hreport r hr
      rw [hlarge] at hfields
      refine ⟨r, rfl, ?_⟩
      rw [hfields]
      exact ⟨rfl, rfl, rfl⟩

end ExactCalc
