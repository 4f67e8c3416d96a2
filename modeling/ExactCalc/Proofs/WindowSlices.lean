import ExactCalc.Proofs.ArgumentSpans
import ExactCalc.Proofs.GuardedReader

/-!
# Windows and slices

The arguments in a window of a text can be listed in two ways: by a scan that moves
through the places of the window and cuts each argument out of the whole text, or
from the slice that the window shows, with places counted from its beginning. Both
list the same arguments and reject with the same report. A window that reaches past
the end of the text is scanned as far as the text goes, so what is rejected before
the end is reported, and only then is the missing character met.
-/

namespace ExactCalc

section Windows

variable {limit offset depth : ℤ} {text : List Char} {first stop : ℕ}

theorem readWindow_of_stop_le (h : stop ≤ first) :
    readWindow limit text first stop offset depth = .ok [] := by
  rw [readWindow, Nat.sub_eq_zero_of_le h, List.take_zero, readArguments_nil]
  exact if_neg (by omega)

/-- No character is missing before the end of the text, nor in a window without places. -/
theorem readWindow_ne_pastEnd (h : stop ≤ max first text.length) :
    readWindow limit text first stop offset depth ≠ .error .pastEnd := by
  have hwithin : ¬(first < stop ∧ text.length < stop) := by omega
  rw [readWindow]
  cases readArguments limit depth 0 (offset + first) [] ((text.drop first).take (stop - first)) with
  | error r => simp
  | ok arguments =>
    dsimp only
    rw [if_neg hwithin]
    simp

/-- The slice holds all that the window shows; its own places begin at zero. -/
theorem readWindow_extract (hfirst : first ≤ stop) (hstop : stop ≤ text.length) :
    readWindow limit (text.extract first stop) 0 (stop - first) (offset + first) depth =
      readWindow limit text first stop offset depth := by
  have hlength : (text.extract first stop).length = stop - first := by
    rw [List.extract_eq_take_drop, List.length_take, List.length_drop]
    omega
  have hwhole : (text.extract first stop).extract 0 (stop - first) = text.extract first stop := by
    rw [List.extract_eq_take_drop, List.drop_zero, List.take_of_length_le (by omega)]
  rw [readWindow_of_le hlength.ge, readWindow_of_le hstop, hwhole, Nat.cast_zero, add_zero]

/-- A window that is too long is read up to the end of the text, where a character is missing. -/
theorem readWindow_of_past (hfirst : first < stop) (hstop : text.length < stop) :
    readWindow limit text first stop offset depth =
      readWindow limit text first (max first text.length) offset depth >>=
        fun _ => .error .pastEnd := by
  have hrest (stop : ℕ) (h : text.length ≤ stop) :
      (text.drop first).take (stop - first) = text.drop first := by
    apply List.take_of_length_le
    rw [List.length_drop]
    omega
  rw [readWindow, readWindow, hrest stop hstop.le, hrest _ (le_max_right first text.length)]
  cases readArguments limit depth 0 (offset + first) [] (text.drop first) with
  | error r => rfl
  | ok arguments =>
    dsimp only
    rw [if_pos ⟨hfirst, hstop⟩, if_neg (by omega)]
    rfl

end Windows

namespace Guarded

/-- Lists the arguments in a window place by place, with a guard at every place. Numbers in messages
may be of any length. -/
def scanWindow (limit : ℤ) (text : List Char) (first stop : ℕ) (offset depth : ℤ) :
    Guarded (List Draft) :=
  scan none limit text offset depth stop first 0 first []

/-- What is read from a window, as a guarded result; `place` is where a character is missing. -/
def relayWindow (place : ℕ) : Except WindowError (List Expr) → Guarded (List Draft)
  | .ok arguments => .ok (arguments.map Expr.draft)
  | .error (.rejected r) => .error (.failure (.rejected r))
  | .error .pastEnd => .error (.hazard (.noCharacter place))

/-- The first place without a character is the end of the text, or the window begins behind it. -/
theorem scanWindow_eq (limit : ℤ) (text : List Char) (first stop : ℕ) (offset depth : ℤ) :
    scanWindow limit text first stop offset depth =
      relayWindow (max first text.length) (readWindow limit text first stop offset depth) := by
  have hstart : Aligned text offset first 0 first (offset + first) [] := ⟨by simp, by omega⟩
  rw [scanWindow, scan_eq (fun piece _ place => read_eq (Cap.allows_none _) limit piece place _)
    hstart, List.drop_take, readWindow]
  cases readArguments limit depth 0 (offset + first) [] ((text.drop first).take (stop - first)) with
  | error r =>
    rw [relay_error, reject_of_allows fun _ _ => Cap.allows_none _]
    rfl
  | ok arguments =>
    rw [relay_ok, ok_bind, List.nil_append, finish]
    split_ifs
    · rfl
    · rfl

end Guarded

/-- A scan that moves through the places of a window, with a guard at every place, finds what
reading the window finds, and meets a missing character exactly where the window is said to reach
past the end. A window inside of the text is read like the slice that it shows, with the same
arguments or the same rejection, and no character is missing. A window that reaches past the end of
the text is rejected like the part of it inside of the text, if that is rejected, and otherwise a
character is missing. In an empty window there are no arguments. -/
theorem readWindow_slice (limit : ℤ) (text : List Char) (first stop : ℕ) (offset depth : ℤ) :
    Guarded.scanWindow limit text first stop offset depth =
        Guarded.relayWindow (max first text.length)
          (readWindow limit text first stop offset depth) ∧
      (first ≤ stop → stop ≤ text.length →
        readWindow limit text first stop offset depth =
            readWindow limit (text.extract first stop) 0 (stop - first) (offset + first) depth ∧
          readWindow limit text first stop offset depth ≠ .error .pastEnd) ∧
      (first < stop → text.length < stop →
        (∃ r, readWindow limit text first (max first text.length) offset depth =
              .error (.rejected r) ∧
            readWindow limit text first stop offset depth = .error (.rejected r)) ∨
          (∃ arguments, readWindow limit text first (max first text.length) offset depth =
              .ok arguments) ∧
            readWindow limit text first stop offset depth = .error .pastEnd) ∧
      (stop ≤ first → readWindow limit text first stop offset depth = .ok []) := by
  refine ⟨Guarded.scanWindow_eq limit text first stop offset depth, ?_, ?_, readWindow_of_stop_le⟩
  · intro hfirst hstop
    exact ⟨(readWindow_extract hfirst hstop).symm, readWindow_ne_pastEnd (by omega)⟩
  · intro hfirst hstop
    rw [readWindow_of_past hfirst hstop]
    have hwithin : readWindow limit text first (max first text.length) offset depth ≠
        .error .pastEnd := readWindow_ne_pastEnd le_rfl
    cases hinside : readWindow limit text first (max first text.length) offset depth with
    | ok arguments => exact .inr ⟨⟨arguments, rfl⟩, rfl⟩
    | error e =>
      cases e with
      | rejected r => exact .inl ⟨r, rfl, rfl⟩
      | pastEnd => exact absurd hinside hwithin

/-- A rejected argument of an argument, in a window behind a stray parenthesis: it stands at the
same place of the source for the slice and for a window that is far too long. Without it the first
missing character is met, and a window that ends before it begins has no arguments. -/
theorem readWindow_slice_nested :
    readWindow 8 "(1,add(2,3x),".toList 0 13 12 0 = .error (.rejected ⟨.unreadable, "3x", 21⟩) ∧
      readWindow 8 "x)(1,add(2,3x),y".toList 2 15 10 0 =
        .error (.rejected ⟨.unreadable, "3x", 21⟩) ∧
      readWindow 8 "x)(1,add(2,3x),y".toList 2 99 10 0 =
        .error (.rejected ⟨.unreadable, "3x", 21⟩) ∧
      readWindow 8 "(1,2)".toList 0 9 0 0 = .error .pastEnd ∧
      Guarded.scanWindow 8 "(1,2)".toList 0 9 0 0 = .error (.hazard (.noCharacter 5)) ∧
      readWindow 8 "(1,2)".toList 3 1 0 0 = .ok [] := by
  have hslice : readWindow 8 "(1,add(2,3x),".toList 0 13 12 0 =
      .error (.rejected ⟨.unreadable, "3x", 21⟩) := by cbv
  have hinside : readWindow 8 "x)(1,add(2,3x),y".toList 2 16 10 0 =
      .error (.rejected ⟨.unreadable, "3x", 21⟩) := by cbv
  have hlist : readWindow 8 "(1,2)".toList 0 5 0 0 = .ok [.number 1, .number 2] := by cbv
  obtain ⟨-, hwindow, -, -⟩ := readWindow_slice 8 "x)(1,add(2,3x),y".toList 2 15 10 0
  obtain ⟨-, -, hlong, -⟩ := readWindow_slice 8 "x)(1,add(2,3x),y".toList 2 99 10 0
  obtain ⟨hscan, -, hpast, -⟩ := readWindow_slice 8 "(1,2)".toList 0 9 0 0
  obtain ⟨-, -, -, hempty⟩ := readWindow_slice 8 "(1,2)".toList 3 1 0 0
  rw [show max 2 "x)(1,add(2,3x),y".toList.length = 16 by decide, hinside] at hlong
  rw [show max 0 "(1,2)".toList.length = 5 by decide] at hscan hpast
  rw [hlist] at hpast
  obtain ⟨r, hrejected, -⟩ | ⟨-, hmissing⟩ := hpast (by decide) (by decide)
  · cases hrejected
  rw [hmissing] at hscan
  refine ⟨hslice, ?_, ?_, hmissing, hscan, hempty (by decide)⟩
  · rw [(hwindow (by decide) (by decide)).1]
    exact hslice
  · obtain ⟨r, hrejected, hlong⟩ | ⟨⟨arguments, hok⟩, -⟩ := hlong (by decide) (by decide)
    · rw [hlong, hrejected]
    · cases hok

end ExactCalc
