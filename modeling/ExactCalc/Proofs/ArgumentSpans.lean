import ExactCalc.Proofs.Pieces

/-!
# Argument lists by their delimiters

Where the arguments in a window of a text stand can be told without scanning it.
The level of a place is the number of parentheses opened less the number closed
since the window began; a parenthesis that opens at level zero is a delimiter, and
so are a comma and a closing parenthesis at level one. An argument is what stands
between an opening parenthesis or comma and the next delimiter. The scanner counts
levels as it goes and keeps one place to which it can go back; it is shown to read
exactly these arguments, in their order, up to the first rejection.
-/

namespace ExactCalc

/-- Parentheses opened less parentheses closed from `first` up to, not including, `place`. -/
def levelAt (text : List Char) (first place : ℕ) : ℤ :=
  (text.extract first place).count '(' - (text.extract first place).count ')'

def IsDelimiter (text : List Char) (first place : ℕ) : Prop :=
  text[place]? = some '(' ∧ levelAt text first place = 0 ∨
    text[place]? = some ',' ∧ levelAt text first place = 1 ∨
    text[place]? = some ')' ∧ levelAt text first place = 1

instance (text : List Char) (first : ℕ) : DecidablePred (IsDelimiter text first) := fun _ =>
  inferInstanceAs (Decidable (_ ∨ _ ∨ _))

/-- The delimiters in a window that begins at `first`, of the `count` places from `place` on. -/
def delimitersFrom (text : List Char) (first place count : ℕ) : List ℕ :=
  (List.range' place count).filter (IsDelimiter text first ·)

/-- An argument can begin behind this place. -/
def OpensArgument (text : List Char) (place : ℕ) : Prop :=
  text[place]? = some '(' ∨ text[place]? = some ','

/-- An argument can end before this place. -/
def ClosesArgument (text : List Char) (place : ℕ) : Prop :=
  text[place]? = some ',' ∨ text[place]? = some ')'

instance (text : List Char) : DecidablePred (OpensArgument text) := fun _ =>
  inferInstanceAs (Decidable (_ ∨ _))

instance (text : List Char) : DecidablePred (ClosesArgument text) := fun _ =>
  inferInstanceAs (Decidable (_ ∨ _))

/-- A stretch of a text, without the character at `stop`. -/
structure Span where
  start : ℕ
  stop : ℕ
  deriving DecidableEq, Repr

def Span.text (span : Span) (text : List Char) : List Char := text.extract span.start span.stop

/-- What stands between two of these places that follow one another, where the first can open an
argument and the second can close one. -/
def spansBetween (text : List Char) (places : List ℕ) : List Span :=
  ((places.zip places.tail).filter fun pair =>
    OpensArgument text pair.1 ∧ ClosesArgument text pair.2).map fun pair => ⟨pair.1 + 1, pair.2⟩

/-- The arguments in the characters from `first` up to, not including, `stop`. -/
def argumentSpans (text : List Char) (first stop : ℕ) : List Span :=
  spansBetween text (delimitersFrom text first first (stop - first))

/-! ## Levels and delimiters -/

section Places

variable {text : List Char} {first place : ℕ} {c : Char}

theorem extract_succ (hfirst : first ≤ place) (hc : text[place]? = some c) :
    text.extract first (place + 1) = text.extract first place ++ [c] := by
  rw [List.extract_eq_take_drop, List.extract_eq_take_drop, Nat.succ_sub hfirst, List.take_add_one,
    List.getElem?_drop, Nat.add_sub_cancel' hfirst, hc]
  rfl

theorem extract_cons (hc : text[place]? = some c) (count : ℕ) :
    text.extract place (place + (count + 1)) =
      c :: text.extract (place + 1) (place + 1 + count) := by
  obtain ⟨hplace, rfl⟩ := List.getElem?_eq_some_iff.mp hc
  rw [List.extract_eq_take_drop, List.extract_eq_take_drop, Nat.add_sub_cancel_left,
    Nat.add_sub_cancel_left, List.drop_eq_getElem_cons hplace, List.take_succ_cons]

theorem levelAt_self (text : List Char) (first : ℕ) : levelAt text first first = 0 := by
  simp [levelAt]

theorem levelAt_succ (hfirst : first ≤ place) (hc : text[place]? = some c) :
    levelAt text first (place + 1) = levelAfter (levelAt text first place) c := by
  have hcount (d : Char) : ((text.extract first (place + 1)).count d : ℤ) =
      (text.extract first place).count d + if c = d then 1 else 0 := by
    rw [extract_succ hfirst hc, List.count_append, List.count_singleton]
    simp
  rw [levelAt, levelAt, hcount, hcount, levelAfter]
  by_cases hopen : c = '('
  · subst hopen
    rw [if_pos rfl, if_neg (by decide), if_pos rfl]
    ring
  · rw [if_neg hopen, if_neg hopen]
    split_ifs <;> ring

theorem isDelimiter_iff (hc : text[place]? = some c) :
    IsDelimiter text first place ↔ c = '(' ∧ levelAt text first place = 0 ∨
      (c = ',' ∨ c = ')') ∧ levelAt text first place = 1 := by
  simp only [IsDelimiter, hc, Option.some.injEq]
  tauto

theorem delimitersFrom_cons (h : IsDelimiter text first place) (count : ℕ) :
    delimitersFrom text first place (count + 1) =
      place :: delimitersFrom text first (place + 1) count := by
  rw [delimitersFrom, List.range'_succ, List.filter_cons_of_pos (by simpa using h)]
  rfl

theorem delimitersFrom_skip (h : ¬IsDelimiter text first place) (count : ℕ) :
    delimitersFrom text first place (count + 1) =
      delimitersFrom text first (place + 1) count := by
  rw [delimitersFrom, List.range'_succ, List.filter_cons_of_neg (by simpa using h)]
  rfl

theorem spansBetween_cons_cons (i j : ℕ) (places : List ℕ) :
    spansBetween text (i :: j :: places) =
      if OpensArgument text i ∧ ClosesArgument text j then
        ⟨i + 1, j⟩ :: spansBetween text (j :: places)
      else spansBetween text (j :: places) := by
  simp only [spansBetween, List.tail_cons, List.zip_cons_cons, List.filter_cons]
  split_ifs <;> simp_all

/-- No argument begins behind a closing parenthesis. -/
theorem spansBetween_closed {i : ℕ} (h : ¬OpensArgument text i) (places : List ℕ) :
    spansBetween text (i :: places) = spansBetween text places := by
  cases places with
  | nil => rfl
  | cons j places => rw [spansBetween_cons_cons, if_neg fun hboth => h hboth.1]

end Places

/-! ## The scanner -/

/-- Where the scanner stands at a place: the level, the beginning of the piece, what was passed
since then, and the delimiter that opened the argument. Outside of argument lists the piece is out
of use. Inside of one the piece began directly behind the last delimiter. -/
inductive Scanning (text : List Char) (place : ℕ) : ℤ → ℕ → List Char → List ℕ → Prop
  | outside {level start passed} (hlevel : level ≤ 0) (hplace : start + passed.length = place) :
      Scanning text place level start passed []
  | inside {level i} (hlevel : 1 ≤ level) (hi : i < place) (hopens : OpensArgument text i) :
      Scanning text place level (i + 1) (text.extract (i + 1) place).reverse [i]

namespace Scanning

variable {text passed : List Char} {place start : ℕ} {level : ℤ} {opened : List ℕ} {c : Char}

theorem reach (h : Scanning text place level start passed opened) (hplace : place ≤ text.length) :
    start + passed.length = place := by
  cases h with
  | outside hlevel hreach => exact hreach
  | inside hlevel hi hopens =>
    rw [List.length_reverse, List.extract_eq_take_drop, List.length_take, List.length_drop]
    omega

/-- Behind an opening parenthesis or a comma an argument begins. -/
theorem fresh (h : OpensArgument text place) :
    Scanning text (place + 1) 1 (place + 1) [] [place] := by
  simpa using @inside text (place + 1) 1 place le_rfl (by omega) h

/-- Behind the delimiter that ends an argument: a comma opens the next one, a closing parenthesis
leaves the list. -/
theorem completed (hd : c = ',' ∨ c = ')') (hc : text[place]? = some c) :
    ∃ opened, Scanning text (place + 1) (levelAfter 1 c) (place + 1) [] opened ∧
      ∀ places, spansBetween text (place :: places) = spansBetween text (opened ++ places) := by
  rcases hd with rfl | rfl
  · exact ⟨[place], fresh (.inr hc), fun _ => rfl⟩
  · have hclosed : ¬OpensArgument text place := by simp [OpensArgument, hc]
    exact ⟨[], outside (by simp [levelAfter]) rfl, spansBetween_closed hclosed⟩

/-- A character that is no delimiter leaves the opened argument as it is. -/
theorem passing (h : Scanning text place level start passed opened) (hc : text[place]? = some c)
    (hopen : ¬(c = '(' ∧ level = 0)) (hend : ¬((c = ',' ∨ c = ')') ∧ level = 1)) :
    Scanning text (place + 1) (levelAfter level c) start (c :: passed) opened := by
  have hlevel' := one_le_levelAfter_iff hopen hend
  cases h with
  | outside hlevel hreach =>
    refine .outside (by omega) ?_
    rw [List.length_cons]
    omega
  | @inside i hlevel hi hopens =>
    have hpassed : c :: (text.extract (i + 1) place).reverse =
        (text.extract (i + 1) (place + 1)).reverse := by
      rw [extract_succ (by omega) hc, List.reverse_append, List.reverse_singleton,
        List.singleton_append]
    rw [hpassed]
    exact .inside (by omega) (by omega) hopens

end Scanning

/-- The pieces that the scanner cuts are the arguments between the delimiters. -/
theorem cutPieces_eq_spans {text passed : List Char} {first place count start : ℕ}
    {opened : List ℕ} (hfirst : first ≤ place) (hcount : place + count ≤ text.length)
    (h : Scanning text place (levelAt text first place) start passed opened) :
    cutPieces (levelAt text first place) start passed (text.extract place (place + count)) =
      (spansBetween text (opened ++ delimitersFrom text first place count)).map fun span =>
        ⟨span.start, span.text text⟩ := by
  induction count generalizing place start passed opened with
  | zero =>
    have hnone : spansBetween text (opened ++ delimitersFrom text first place 0) = [] := by
      cases h with
      | outside hlevel hreach => rfl
      | inside hlevel hi hopens => rfl
    rw [hnone]
    simp [cutPieces]
  | succ count ih =>
    obtain ⟨c, hc⟩ : ∃ c, text[place]? = some c := ⟨_, List.getElem?_eq_getElem (by omega)⟩
    have hnext := levelAt_succ hfirst hc
    rw [extract_cons hc, cutPieces, h.reach (by omega), ← hnext]
    by_cases hopen : c = '(' ∧ levelAt text first place = 0
    · -- The scanner stands outside of all lists, and an argument begins.
      have hdelimiter := (isDelimiter_iff hc).mpr (.inl hopen)
      obtain ⟨rfl, hzero⟩ := hopen
      have hfresh : Scanning text (place + 1) (levelAt text first (place + 1)) (place + 1) []
          [place] := by
        rw [hnext, hzero]
        exact .fresh (.inl hc)
      rw [if_pos ⟨rfl, hzero⟩, delimitersFrom_cons hdelimiter, ih (by omega) (by omega) hfresh]
      cases h with
      | outside hlevel hreach => rfl
      | inside hlevel hi hopens => omega
    rw [if_neg hopen]
    by_cases hend : (c = ',' ∨ c = ')') ∧ levelAt text first place = 1
    · -- The scanner stands inside of a list, and the opened argument is complete.
      have hdelimiter := (isDelimiter_iff hc).mpr (.inr hend)
      obtain ⟨hd, hone⟩ := hend
      obtain ⟨opened', hcompleted, hspans⟩ := Scanning.completed hd hc
      rw [← hone, ← hnext] at hcompleted
      rw [if_pos ⟨hd, hone⟩, delimitersFrom_cons hdelimiter, ih (by omega) (by omega) hcompleted]
      cases h with
      | outside hlevel hreach => omega
      | inside hlevel hi hopens =>
        have hcloses : ClosesArgument text place := by simpa [ClosesArgument, hc] using hd
        rw [List.singleton_append, spansBetween_cons_cons, if_pos ⟨hopens, hcloses⟩, hspans,
          List.map_cons, List.reverse_reverse]
        rfl
    · have hskip : ¬IsDelimiter text first place := by
        rw [isDelimiter_iff hc]
        tauto
      have hpassing := h.passing hc hopen hend
      rw [← hnext] at hpassing
      rw [if_neg hend, delimitersFrom_skip hskip, ih (by omega) (by omega) hpassing]

/-! ## Where arguments stand -/

section Order

variable {text : List Char} {places : List ℕ}

/-- An argument stands between two of the places. -/
theorem exists_of_mem_spansBetween (h : places.Pairwise (· < ·)) {span : Span}
    (hspan : span ∈ spansBetween text places) :
    ∃ i ∈ places, ∃ j ∈ places, i < j ∧ span = ⟨i + 1, j⟩ := by
  induction places with
  | nil => simp [spansBetween] at hspan
  | cons i places ih =>
    cases places with
    | nil => simp [spansBetween] at hspan
    | cons j places =>
      rw [List.pairwise_cons] at h
      have hlater (hspan : span ∈ spansBetween text (j :: places)) :
          ∃ i' ∈ i :: j :: places, ∃ j' ∈ i :: j :: places, i' < j' ∧ span = ⟨i' + 1, j'⟩ := by
        obtain ⟨i', hi', j', hj', hlt, heq⟩ := ih h.2 hspan
        exact ⟨i', List.mem_cons_of_mem i hi', j', List.mem_cons_of_mem i hj', hlt, heq⟩
      rw [spansBetween_cons_cons] at hspan
      split_ifs at hspan with hboth
      · rcases List.mem_cons.mp hspan with rfl | hspan
        · exact ⟨i, by simp, j, by simp, h.1 j (by simp), rfl⟩
        · exact hlater hspan
      · exact hlater hspan

/-- One argument ends before the next one begins. -/
theorem pairwise_spansBetween (h : places.Pairwise (· < ·)) :
    (spansBetween text places).Pairwise fun s t => s.stop < t.start := by
  induction places with
  | nil => exact .nil
  | cons i places ih =>
    cases places with
    | nil => exact .nil
    | cons j places =>
      rw [List.pairwise_cons] at h
      have hlater := ih h.2
      rw [spansBetween_cons_cons]
      split_ifs with hboth
      · refine List.pairwise_cons.mpr ⟨?_, hlater⟩
        intro span hspan
        obtain ⟨i', hi', j', -, -, rfl⟩ := exists_of_mem_spansBetween h.2 hspan
        rcases List.mem_cons.mp hi' with rfl | hi'
        · exact Nat.lt_succ_self i'
        · exact ((List.pairwise_cons.mp h.2).1 i' hi').trans (Nat.lt_succ_self i')
      · exact hlater

end Order

section Window

variable {text : List Char} {first stop : ℕ}

theorem pairwise_delimitersFrom (text : List Char) (first place count : ℕ) :
    (delimitersFrom text first place count).Pairwise (· < ·) :=
  (List.pairwise_lt_range' 1).filter _

theorem pairwise_argumentSpans (text : List Char) (first stop : ℕ) :
    (argumentSpans text first stop).Pairwise fun s t => s.stop < t.start :=
  pairwise_spansBetween (pairwise_delimitersFrom text first first (stop - first))

theorem bounds_of_mem_argumentSpans {span : Span} (h : span ∈ argumentSpans text first stop) :
    first < span.start ∧ span.start ≤ span.stop ∧ span.stop < stop := by
  obtain ⟨i, hi, j, hj, hlt, rfl⟩ :=
    exists_of_mem_spansBetween (pairwise_delimitersFrom text first first (stop - first)) h
  have hi' := List.mem_range'_1.mp (List.mem_of_mem_filter hi)
  have hj' := List.mem_range'_1.mp (List.mem_of_mem_filter hj)
  dsimp only
  omega

theorem readArguments_window (limit depth offset : ℤ) (hfirst : first ≤ stop)
    (hstop : stop ≤ text.length) :
    readArguments limit depth 0 (offset + first) [] (text.extract first stop) =
      (argumentSpans text first stop).mapM fun span =>
        Expr.read limit (span.text text) (offset + span.start) (depth + 1) := by
  obtain ⟨count, rfl⟩ := Nat.exists_eq_add_of_le hfirst
  have hscanning : Scanning text first (levelAt text first first) first [] [] :=
    .outside (by rw [levelAt_self]) rfl
  have hcut := cutPieces_eq_spans le_rfl hstop hscanning
  rw [levelAt_self] at hcut
  rw [readArguments_eq_mapM, hcut, List.nil_append, argumentSpans, Nat.add_sub_cancel_left,
    List.mapM_map]
  rfl

theorem length_of_mem_argumentSpans {span : Span} (h : span ∈ argumentSpans text first stop) :
    (span.text text).length + 2 ≤ stop - first := by
  have hbounds := bounds_of_mem_argumentSpans h
  have hlength : (span.text text).length ≤ span.stop - span.start := by
    rw [Span.text, List.extract_eq_take_drop]
    exact List.length_take_le _ _
  omega

end Window

/-! ## Reading -/

theorem extract_keyword {text rest : List Char} {form : Form}
    (h : Shape.ofText text = .call form rest) :
    text.extract form.keyword.length text.length = rest := by
  have hkeyword : form.keyword.length = form.keyword.toList.length :=
    form.keyword.length_toList.symm
  rw [List.extract_eq_take_drop, Shape.eq_append_of_call h, hkeyword, List.drop_left,
    List.take_of_length_le (by simp)]

/-- A form is read by reading its arguments and putting it together from them. -/
theorem Expr.read_argumentSpans {limit depth : ℤ} (hd : depth ≤ limit) {text rest : List Char}
    {form : Form} (h : Shape.ofText text = .call form rest) (offset : ℤ) :
    Expr.read limit text offset depth =
      ((argumentSpans text form.keyword.length text.length).mapM fun span =>
        Expr.read limit (span.text text) (offset + span.start) (depth + 1)) >>=
      form.assemble text offset := by
  have hkeyword : form.keyword.length ≤ text.length := by
    rw [Shape.eq_append_of_call h, List.length_append, String.length_toList]
    exact Nat.le_add_right _ _
  rw [Expr.read_call hd h, ← extract_keyword h, readArguments_window _ _ _ hkeyword le_rfl]

theorem readWindow_of_le {text : List Char} {first stop : ℕ} (hstop : stop ≤ text.length)
    {limit offset depth : ℤ} :
    readWindow limit text first stop offset depth =
      (readArguments limit depth 0 (offset + first) [] (text.extract first stop)).mapError
        .rejected := by
  rw [readWindow, List.extract_eq_take_drop]
  cases readArguments limit depth 0 (offset + first) [] ((text.drop first).take (stop - first)) with
  | error r => rfl
  | ok arguments => exact if_neg fun hpast => absurd hpast.2 (not_lt.mpr hstop)

/-- The text of an argument of a form; reading the form calls for reading it. -/
def IsArgumentOf (piece text : List Char) : Prop :=
  ∃ form rest, Shape.ofText text = .call form rest ∧
    ∃ span ∈ argumentSpans text form.keyword.length text.length, piece = span.text text

theorem wellFounded_isArgumentOf : WellFounded IsArgumentOf := by
  refine Subrelation.wf ?_ (measure List.length).wf
  rintro piece text ⟨form, rest, -, span, hspan, rfl⟩
  have hlength := length_of_mem_argumentSpans hspan
  change (span.text text).length < text.length
  omega

/-- Reading a window is reading the arguments between its delimiters from left to right, up to the
first rejection. The arguments are disjoint and in order, and each is at least two characters
shorter than the window. So reading a form, which calls for reading its arguments, ends under
every limit. -/
theorem readWindow_argumentSpans :
    (∀ (limit : ℤ) (text : List Char) (first stop : ℕ) (offset depth : ℤ),
      first ≤ stop → stop ≤ text.length →
      readWindow limit text first stop offset depth =
          ((argumentSpans text first stop).mapM fun span =>
            Expr.read limit (span.text text) (offset + span.start) (depth + 1)).mapError
              .rejected ∧
        (argumentSpans text first stop).Pairwise (fun s t => s.stop < t.start) ∧
        ∀ span ∈ argumentSpans text first stop,
          (first < span.start ∧ span.start ≤ span.stop ∧ span.stop < stop) ∧
            (span.text text).length + 2 ≤ stop - first) ∧
    (∀ (limit : ℤ) (text : List Char) (form : Form) (rest : List Char) (offset depth : ℤ),
      depth ≤ limit → Shape.ofText text = .call form rest →
      Expr.read limit text offset depth =
        ((argumentSpans text form.keyword.length text.length).mapM fun span =>
          Expr.read limit (span.text text) (offset + span.start) (depth + 1)) >>=
        form.assemble text offset) ∧
    WellFounded IsArgumentOf := by
  refine ⟨?_, ?_, wellFounded_isArgumentOf⟩
  · intro limit text first stop offset depth hfirst hstop
    refine ⟨?_, pairwise_argumentSpans text first stop, ?_⟩
    · rw [readWindow_of_le hstop, readArguments_window limit depth offset hfirst hstop]
    · intro span hspan
      exact ⟨bounds_of_mem_argumentSpans hspan, length_of_mem_argumentSpans hspan⟩
  · intro limit text form rest offset depth hd hshape
    exact Expr.read_argumentSpans hd hshape offset

/-- Stray parentheses before the list, a comma deeper inside, and a list that is not closed. The
second argument of the window is rejected; the form is read from its two arguments. -/
theorem readWindow_argumentSpans_stray :
    argumentSpans "f)((a,(b,c))(d".toList 0 14 = [⟨4, 5⟩, ⟨6, 11⟩] ∧
      readWindow 1 "f)((a,(b,c))(d".toList 0 14 10 0 =
        .error (.rejected ⟨.unreadable, "(b,c)", 16⟩) ∧
      Expr.read 1 "add(x,7)".toList 0 0 = .ok (.apply .add (.name "x") (.number 7)) := by
  obtain ⟨hwindow, hform, -⟩ := readWindow_argumentSpans
  have hspans : argumentSpans "f)((a,(b,c))(d".toList 0 14 = [⟨4, 5⟩, ⟨6, 11⟩] := by decide
  refine ⟨hspans, ?_, ?_⟩
  · rw [(hwindow 1 "f)((a,(b,c))(d".toList 0 14 10 0 (by decide) (by decide)).1, hspans]
    cbv
  · rw [hform 1 "add(x,7)".toList (.arithmetic .add) "(x,7)".toList 0 0 (by decide) rfl]
    cbv

end ExactCalc
