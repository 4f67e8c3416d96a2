import ExactCalc.Command.StepTable
import Mathlib

/-!
# Rows of the table

A row of the table is shown in cells, one below the other. The cells hold the words of
the row in their order: a blank between two words may have become the end of a cell,
and a word that is wider than the column ends in an ellipsis, but no other character is
lost and none is added. A row that is no wider than its column has one cell.
-/

namespace ExactCalc.Command.StepTable

/-! ## Words -/

theorem flatten_pushFront (c : Char) (list : List (List Char)) :
    (pushFront c list).flatten = c :: list.flatten := by
  cases list with
  | nil => rfl
  | cons word rest => rfl

theorem pushFront_append (c : Char) {list : List (List Char)} (h : list ≠ [])
    (more : List (List Char)) : pushFront c (list ++ more) = pushFront c list ++ more := by
  cases list with
  | nil => exact absurd rfl h
  | cons word rest => rfl

/-- Every character of a text is part of one word. -/
theorem flatten_words (text : List Char) : (words text).flatten = text := by
  fun_induction words text with
  | case1 => rfl
  | case2 c => rfl
  | case3 c d rest _ ih => rw [List.flatten_cons, ih, List.singleton_append]
  | case4 c d rest _ ih => rw [flatten_pushFront, ih]

theorem words_ne_nil {text : List Char} (h : text ≠ []) : words text ≠ [] := by
  intro hwords
  have hflatten := flatten_words text
  rw [hwords, List.flatten_nil] at hflatten
  exact h hflatten.symm

theorem ne_nil_of_mem_words {text word : List Char} (h : word ∈ words text) : word ≠ [] := by
  fun_induction words text with
  | case1 => cases h
  | case2 c => simp_all
  | case3 c d rest _ ih =>
    rcases List.mem_cons.mp h with rfl | h
    · simp
    · exact ih h
  | case4 c d rest _ ih =>
    cases hwords : words (d :: rest) with
    | nil => exact absurd hwords (words_ne_nil (by simp))
    | cons first others =>
      rw [hwords] at h ih
      rcases List.mem_cons.mp h with rfl | h
      · simp
      · exact ih (by simp [h])

/-- A word ends where a space stands in front of something else. -/
theorem words_append_space (front : List Char) {d : Char} (hd : d ≠ ' ') (rest : List Char) :
    words (front ++ ' ' :: d :: rest) = words (front ++ [' ']) ++ words (d :: rest) := by
  induction front with
  | nil => simp [words, hd]
  | cons c front ih =>
    cases front with
    | nil =>
      rw [List.nil_append] at ih
      simp only [List.cons_append, List.nil_append, words, ne_eq, not_true_eq_false, and_false,
        if_false] at ih ⊢
      simp [hd, pushFront]
    | cons b front =>
      have hne : words (b :: front ++ [' ']) ≠ [] := words_ne_nil (by simp)
      simp only [List.cons_append] at ih hne ⊢
      rw [words, words, ih]
      split_ifs
      · rfl
      · exact pushFront_append c hne _

/-! ## Spaces at the end -/

theorem trimEnd_append (front back : List Char) :
    trimEnd (front ++ back) =
      if trimEnd back = [] then trimEnd front else front ++ trimEnd back := by
  unfold trimEnd
  rw [List.reverse_append, List.dropWhile_append]
  simp only [List.isEmpty_iff, List.reverse_eq_nil_iff]
  split_ifs
  · rfl
  · rw [List.reverse_append, List.reverse_reverse]

theorem trimEnd_prefix_self (text : List Char) : trimEnd text <+: text :=
  List.rdropWhile_prefix (· == ' ') text

theorem trimEnd_of_not_mem {text : List Char} (h : ' ' ∉ text) : trimEnd text = text := by
  refine List.rdropWhile_eq_self_iff.mpr ?_
  intro hne hspace
  exact h (beq_iff_eq.mp hspace ▸ List.getLast_mem hne)

/-- What stands in front does not matter for the end. -/
theorem trimEnd_append_self {back : List Char} (hne : back ≠ []) (h : trimEnd back = back)
    (front : List Char) : trimEnd (front ++ back) = front ++ back := by
  rw [trimEnd_append, h, if_neg hne]

theorem trimEnd_of_append {front back : List Char} (h : trimEnd (front ++ back) = front ++ back) :
    trimEnd back = back := by
  rw [trimEnd_append] at h
  split_ifs at h with hback
  · have hle := (trimEnd_prefix_self front).length_le
    rw [h, List.length_append] at hle
    rw [hback, List.length_eq_zero_iff.mp (by omega : back.length = 0)]
  · exact List.append_cancel_left h

/-- There is one space at the end, and no more. -/
def OneSpace (text : List Char) : Prop := trimEnd text ++ [' '] = text

instance (text : List Char) : Decidable (OneSpace text) :=
  inferInstanceAs (Decidable (trimEnd text ++ [' '] = text))

theorem oneSpace_concat {text : List Char} (h : trimEnd text = text) :
    OneSpace (text ++ [' ']) := by
  rw [OneSpace, trimEnd_append, if_pos (by decide), h]

theorem OneSpace.append {word : List Char} (h : OneSpace word) (hword : trimEnd word ≠ [])
    (front : List Char) : OneSpace (front ++ word) := by
  rw [OneSpace, trimEnd_append, if_neg hword, List.append_assoc, h]

/-! ## Cells -/

/-- A text as it is read across its cells, with a blank between two of them. -/
def joined (cells : List (List Char)) : List Char := [' '].intercalate cells

theorem joined_cons {rest : List (List Char)} (h : rest ≠ []) (cell : List Char) :
    joined (cell :: rest) = cell ++ ' ' :: joined rest := by
  cases rest with
  | nil => exact absurd rfl h
  | cons next rest => simp [joined, List.intercalate_cons_cons]

theorem joined_concat {front : List (List Char)} (h : front ≠ []) (cell : List Char) :
    joined (front ++ [cell]) = joined front ++ ' ' :: cell := by
  induction front with
  | nil => exact absurd rfl h
  | cons first front ih =>
    cases front with
    | nil => simp [joined, List.intercalate_cons_cons]
    | cons next front =>
      have hnext : next :: front ≠ [] := by simp
      rw [List.cons_append, joined_cons (by simp), ih hnext, joined_cons hnext]
      simp

/-- The last cell stands at the end. -/
theorem joined_concat_append (front : List (List Char)) (cell more : List Char) :
    joined (front ++ [cell ++ more]) = joined (front ++ [cell]) ++ more := by
  cases front with
  | nil => simp [joined]
  | cons first front =>
    rw [joined_concat (by simp), joined_concat (by simp), List.append_assoc, List.cons_append]

theorem mem_joined {cells : List (List Char)} {c : Char} (h : c ∈ joined cells) :
    c = ' ' ∨ ∃ cell ∈ cells, c ∈ cell := by
  induction cells with
  | nil => simp [joined] at h
  | cons first rest ih =>
    by_cases hrest : rest = []
    · subst hrest
      right
      exact ⟨first, by simp, by simpa [joined] using h⟩
    · rw [joined_cons hrest, List.mem_append, List.mem_cons] at h
      rcases h with h | rfl | h
      · exact .inr ⟨first, by simp, h⟩
      · exact .inl rfl
      · rcases ih h with rfl | ⟨cell, hcell, hc⟩
        · exact .inl rfl
        · exact .inr ⟨cell, by simp [hcell], hc⟩

theorem cut_of_le {width : ℕ} {line : List Char} (h : line.length ≤ width) :
    cut width line = line := if_pos h

theorem mem_cut {width : ℕ} {line : List Char} {c : Char} (h : c ∈ cut width line) :
    c ∈ line ∨ c = '…' := by
  unfold cut at h
  split_ifs at h
  · exact .inl h
  · rcases List.mem_append.mp h with h | h
    · exact .inl (List.mem_of_mem_take h)
    · exact .inr (List.mem_singleton.mp h)

/-! ## Filling -/

namespace Filling

variable {width : ℕ} {f : Filling} {word : List Char}

/-- All lines, the current one last. -/
def lines (f : Filling) : List (List Char) := f.finished ++ [f.current]

/-- What is shown of the lines. -/
def cells (width : ℕ) (f : Filling) : List (List Char) :=
  f.lines.map fun line => cut width (trimEnd line)

/-- What counts as used is the current line. -/
def Counted (f : Filling) : Prop := f.used = f.current.length

theorem counted_empty : Counted {} := by
  rw [Counted]
  rfl

theorem Counted.place (h : f.Counted) (width : ℕ) (word : List Char) :
    (f.place width word).Counted := by
  unfold Counted Filling.place at *
  split_ifs with _ hzero
  · simp [h]
  · have hempty : f.current = [] := List.length_eq_zero_iff.mp (h ▸ hzero)
    simp [hempty]
  · rfl

/-- Placing a word puts it behind all that was placed before. -/
theorem flatten_place (width : ℕ) (f : Filling) (word : List Char) :
    (f.place width word).lines.flatten = f.lines.flatten ++ word := by
  unfold Filling.place lines
  split_ifs
  · simp
  · simp
  · simp

theorem current_place (width : ℕ) (f : Filling) (word : List Char) :
    ∃ front, (f.place width word).current = front ++ word := by
  unfold Filling.place
  split_ifs
  · exact ⟨f.current, rfl⟩
  · exact ⟨f.current, rfl⟩
  · exact ⟨[], rfl⟩

theorem flatten_foldl (width : ℕ) (f : Filling) (list : List (List Char)) :
    (list.foldl (Filling.place width) f).lines.flatten = f.lines.flatten ++ list.flatten := by
  induction list generalizing f with
  | nil => simp
  | cons word list ih =>
    rw [List.foldl_cons, ih, flatten_place, List.flatten_cons, List.append_assoc]

theorem Counted.foldl (h : f.Counted) (width : ℕ) (list : List (List Char)) :
    (list.foldl (Filling.place width) f).Counted := by
  induction list generalizing f with
  | nil => exact h
  | cons word list ih => exact ih (h.place width word)

theorem current_foldl_ne_nil {list : List (List Char)} (hne : list ≠ [])
    (h : ∀ word ∈ list, word ≠ []) (width : ℕ) (f : Filling) :
    (list.foldl (Filling.place width) f).current ≠ [] := by
  induction list using List.reverseRecOn with
  | nil => exact absurd rfl hne
  | append_singleton init last _ =>
    rw [List.foldl_append, List.foldl_cons, List.foldl_nil]
    obtain ⟨front, hfront⟩ := current_place width (init.foldl (Filling.place width) f) last
    rw [hfront]
    exact List.append_ne_nil_of_right_ne_nil _ (h last (by simp))

/-- The filling goes on behind a single space. -/
structure Ready (f : Filling) : Prop where
  counted : f.Counted
  oneSpace : OneSpace f.current

/-- Whether a word is placed on the current line or on a new one, it is shown behind a blank. -/
theorem Ready.joined_place (h : f.Ready) (hword : trimEnd word ≠ []) (width : ℕ) :
    joined ((f.place width word).cells width) =
      joined (f.cells width) ++ ' ' :: cut width (trimEnd word) := by
  have hlength := congrArg List.length h.oneSpace
  have hcounted : f.used = f.current.length := h.counted
  simp only [List.length_append, List.length_singleton] at hlength
  unfold Filling.place cells lines
  split_ifs with hfits hzero
  · -- The line stays short enough, so that nothing of it is cut.
    have hline : trimEnd (f.current ++ word) = trimEnd f.current ++ ' ' :: trimEnd word := by
      rw [trimEnd_append, if_neg hword, List.append_cons, h.oneSpace]
    rw [List.map_append, List.map_append, List.map_singleton, List.map_singleton, hline,
      cut_of_le (by simp; omega), cut_of_le (by omega), cut_of_le (by omega),
      joined_concat_append]
  · omega
  · rw [List.map_append, List.map_singleton, joined_concat (by simp)]

theorem Ready.place (h : f.Ready) (hword : trimEnd word ≠ []) (hspace : OneSpace word)
    (width : ℕ) : (f.place width word).Ready where
  counted := h.counted.place width word
  oneSpace := by
    obtain ⟨front, hfront⟩ := current_place width f word
    rw [hfront]
    exact hspace.append hword front

theorem Ready.joined_foldl {list : List (List Char)} (h : f.Ready)
    (hlist : ∀ word ∈ list, trimEnd word ≠ [] ∧ OneSpace word) (width : ℕ) :
    (list.foldl (Filling.place width) f).Ready ∧
      joined ((list.foldl (Filling.place width) f).cells width) =
        joined (f.cells width) ++ list.flatMap fun word => ' ' :: cut width (trimEnd word) := by
  induction list generalizing f with
  | nil => exact ⟨h, by simp⟩
  | cons word list ih =>
    obtain ⟨hword, hspace⟩ := hlist word (by simp)
    obtain ⟨hready, hjoined⟩ := ih (h.place hword hspace width) fun w hw => hlist w (by simp [hw])
    refine ⟨hready, ?_⟩
    rw [List.foldl_cons, hjoined, h.joined_place hword, List.flatMap_cons, List.append_assoc]

/-- A text that ends in one space is filled up to that space. -/
theorem ready_words {front : List Char} (hfront : trimEnd front = front) (width : ℕ) :
    ((words (front ++ [' '])).foldl (Filling.place width) {}).Ready := by
  obtain ⟨f, hf⟩ : ∃ f, (words (front ++ [' '])).foldl (Filling.place width) {} = f := ⟨_, rfl⟩
  have hcounted : f.Counted := by
    rw [← hf]
    exact counted_empty.foldl width _
  have hcurrent : f.current ≠ [] := by
    rw [← hf]
    exact current_foldl_ne_nil (words_ne_nil (by simp)) (fun _ hw => ne_nil_of_mem_words hw) width _
  -- The current line is the end of the text.
  have hflatten : f.finished.flatten ++ f.current = front ++ [' '] := by
    have hall := flatten_foldl width {} (words (front ++ [' ']))
    rw [hf, flatten_words] at hall
    simpa [lines] using hall
  rw [hf]
  refine ⟨hcounted, ?_⟩
  rw [← List.dropLast_append_getLast hcurrent, ← List.append_assoc] at hflatten
  obtain ⟨hrest, hlast⟩ := List.append_inj' hflatten rfl
  rw [← List.dropLast_append_getLast hcurrent, hlast]
  rw [← hrest] at hfront
  exact oneSpace_concat (trimEnd_of_append hfront)

/-- Words that fit all together stay on one line. -/
theorem foldl_of_le {list : List (List Char)} (h : f.Counted)
    (hfits : f.current.length + list.flatten.length ≤ width) :
    (list.foldl (Filling.place width) f).lines = f.finished ++ [f.current ++ list.flatten] := by
  induction list generalizing f with
  | nil => simp [lines]
  | cons word list ih =>
    have hcounted : f.used = f.current.length := h
    rw [List.flatten_cons, List.length_append] at hfits
    have htrim := (trimEnd_prefix_self word).length_le
    have hplace : f.place width word =
        { f with current := f.current ++ word, used := f.used + word.length } :=
      if_pos (by omega)
    have hrest : (f.place width word).current.length + list.flatten.length ≤ width := by
      rw [hplace, List.length_append]
      omega
    rw [List.foldl_cons, ih (h.place width word) hrest, hplace, List.flatten_cons,
      List.append_assoc]

end Filling

/-! ## Wrapped texts -/

variable {width : ℕ}

theorem wrap_eq (width : ℕ) (text : List Char) :
    wrap width text = ((words text).foldl (Filling.place width) {}).cells width := rfl

theorem wrap_of_le {text : List Char} (h : text.length ≤ width) :
    wrap width text = [trimEnd text] := by
  have hfits : ([] : List Char).length + (words text).flatten.length ≤ width := by
    rwa [flatten_words, List.length_nil, Nat.zero_add]
  have htrim := (trimEnd_prefix_self text).length_le
  rw [wrap_eq, Filling.cells, Filling.foldl_of_le Filling.counted_empty hfits, flatten_words]
  simp [cut_of_le (htrim.trans h)]

/-- Only an ellipsis stands in a cell and not in the text. -/
theorem mem_wrap {text cell : List Char} {c : Char} (hcell : cell ∈ wrap width text)
    (hc : c ∈ cell) : c ∈ text ∨ c = '…' := by
  obtain ⟨line, hline, rfl⟩ := List.mem_map.mp hcell
  rcases mem_cut hc with hc | hc
  · left
    have hall := Filling.flatten_foldl width {} (words text)
    rw [flatten_words] at hall
    have hmem := List.mem_flatten_of_mem hline ((trimEnd_prefix_self line).subset hc)
    change c ∈ (((words text).foldl (Filling.place width) {}).lines).flatten at hmem
    rw [hall] at hmem
    simpa [Filling.lines] using hmem
  · exact .inr hc

/-- The words behind a blank are shown at the end, in their order. -/
theorem joined_wrap_append {front : List Char} (hfront : trimEnd front = front) {d : Char}
    (hd : d ≠ ' ') {rest last : List Char} {list : List (List Char)}
    (hwords : words (d :: rest) = list ++ [last])
    (hlist : ∀ word ∈ list, trimEnd word ≠ [] ∧ OneSpace word) (hlast : trimEnd last ≠ []) :
    joined (wrap width (front ++ ' ' :: d :: rest)) =
      joined (wrap width (front ++ [' '])) ++
        (list ++ [last]).flatMap fun word => ' ' :: cut width (trimEnd word) := by
  obtain ⟨hready, hjoined⟩ := (Filling.ready_words hfront width).joined_foldl hlist width
  rw [wrap_eq, words_append_space front hd, hwords, List.foldl_append, List.foldl_append,
    List.foldl_cons, List.foldl_nil, hready.joined_place hlast, hjoined, List.flatMap_append,
    List.append_assoc, wrap_eq]
  simp

/-! ## Columns -/

theorem foldl_max_le_iff {list : List ℕ} {least most : ℕ} :
    list.foldl max least ≤ most ↔ least ≤ most ∧ ∀ n ∈ list, n ≤ most := by
  induction list generalizing least with
  | nil => simp
  | cons n list ih =>
    rw [List.foldl_cons, ih, max_le_iff, List.forall_mem_cons, and_assoc]

theorem le_foldl_max {list : List ℕ} {least n : ℕ} (h : n ∈ list) : n ≤ list.foldl max least :=
  (foldl_max_le_iff.mp le_rfl).2 n h

namespace Layout

variable {rows : List (List Char × List Char)} {row : List Char × List Char}

/-- The column is as wide as a row in it, or it takes all that the index leaves. -/
theorem le_step_ofRows (h : row ∈ rows) {width : ℕ} (hrow : width ≤ row.2.length)
    (htotal : (ofRows rows).index + frameWidth + width ≤ totalWidth) :
    width ≤ (ofRows rows).step := by
  have hmem : row.2.length ∈ rows.map (·.2.length) := List.mem_map_of_mem h
  have hlongest : row.2.length ≤ (rows.map (·.2.length)).foldl max 4 := le_foldl_max hmem
  have hindex : (ofRows rows).index = (rows.map (·.1.length)).foldl max 1 := rfl
  rw [hindex] at htotal
  refine le_min (hrow.trans hlongest) ?_
  omega

/-- A line without an index. -/
theorem line_nil (layout : Layout) (cell : List Char) :
    layout.line [] cell = "| ".toList ++ spaces layout.index ++ " | ".toList ++ cell ++
      spaces (layout.step - cell.length) ++ " |".toList := by
  simp [line, padLeft, padRight]

/-- A row without an index is its cells in the frame, one below the other. -/
theorem row_nil (layout : Layout) (step : List Char) :
    layout.row [] step = (wrap layout.step step).map (layout.line []) := by
  unfold row
  cases wrap layout.step step with
  | nil => rfl
  | cons first rest => rfl

end Layout

/-- The index of a step has no more digits than the number of steps. -/
theorem index_ofRows_le {steps : List String} {last : String} {digits : ℕ} (hdigits : 0 < digits)
    (h : steps.length < 10 ^ digits) : (Layout.ofRows (rows steps last)).index ≤ digits := by
  have hindex : (Layout.ofRows (rows steps last)).index =
      ((rows steps last).map (·.1.length)).foldl max 1 := rfl
  rw [hindex, foldl_max_le_iff]
  refine ⟨hdigits, ?_⟩
  intro n hn
  obtain ⟨row, hrow, rfl⟩ := List.mem_map.mp hn
  rcases List.mem_append.mp hrow with hrow | hrow
  · obtain ⟨⟨step, i⟩, hstep, rfl⟩ := List.mem_map.mp hrow
    have hi : i < steps.length := by simpa using (List.mem_zipIdx hstep).2.1
    dsimp only
    rw [Nat.toList_repr, Nat.length_toDigits_le_iff (by decide) hdigits]
    omega
  · rw [List.mem_singleton.mp hrow]
    exact Nat.zero_le digits

/-- The cells in which the last row is shown. -/
def lastCells (steps : List String) (last : String) : List (List Char) :=
  wrap (Layout.ofRows (rows steps last)).step last.toList

theorem mem_rows_last (steps : List String) (last : String) :
    ([], last.toList) ∈ rows steps last := by
  simp [rows]

/-- The lines of the row handed over last stand above the lower edge. -/
theorem layOut_concat (title : List Char) (init : List (List Char × List Char))
    (index step : List Char) :
    let layout := Layout.ofRows (init ++ [(index, step)])
    ∃ above : List (List Char), layOut title (init ++ [(index, step)]) =
      above ++ layout.row index step ++ [layout.edge] := by
  intro layout
  unfold layOut
  dsimp only
  rw [List.flatMap_append, List.flatMap_singleton, ← List.append_assoc]
  exact ⟨_, rfl⟩

/-- The cells of the last row stand in their frame above the lower edge. -/
theorem lines_last (steps : List String) (last : String) :
    let layout := Layout.ofRows (rows steps last)
    ∃ above : List String, lines steps last =
      above ++ (lastCells steps last).map (fun cell => .ofList (layout.line [] cell)) ++
        [.ofList layout.edge] := by
  intro layout
  obtain ⟨above, habove⟩ : ∃ above : List (List Char), layOut s!"Steps [{steps.length.repr}]".toList
      (rows steps last) = above ++ layout.row [] last.toList ++ [layout.edge] :=
    layOut_concat _ _ [] last.toList
  refine ⟨above.map .ofList, ?_⟩
  rw [lines, habove, Layout.row_nil, List.map_append, List.map_append, List.map_map, lastCells]
  rfl

/-- A last row with room for it has one cell. -/
theorem lastCells_of_le {steps : List String} {last : String}
    (htrim : trimEnd last.toList = last.toList)
    (h : (Layout.ofRows (rows steps last)).index + frameWidth + last.length ≤ totalWidth) :
    lastCells steps last = [last.toList] := by
  rw [← String.length_toList] at h
  rw [lastCells, wrap_of_le (Layout.le_step_ofRows (mem_rows_last steps last) le_rfl h), htrim]

end ExactCalc.Command.StepTable
