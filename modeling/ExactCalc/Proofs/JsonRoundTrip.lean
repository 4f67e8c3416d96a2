import ExactCalc.Json.Reader
import ExactCalc.Json.Writer
import ExactCalc.Proofs.NamedEntries
import ExactCalc.Proofs.NumeralValue

/-!
# What is written is read back

Reading the text of a JSON value gives the value again, as long as no number in it
is rounded and no object has two fields of one name. The reader takes token after
token, so the argument is about the state before and behind the text of a value: a
value that is expected leads to the state in which it is complete, whatever is open
around it. A numeral has no end of its own, which is why something has to be asked
of the text that follows.
-/

namespace ExactCalc.Json

/-! ## Texts -/

theorem hexValue?_hexDigit : ∀ n < 16, Text.hexValue? (hexDigit n) = some n := by decide

theorem charOfCode_toNat (c : Char) : Text.charOfCode c.toNat = c := by
  have hvalid : c.toNat.isValidChar := c.valid
  rw [Text.charOfCode, dif_pos hvalid]
  rfl

theorem hexQuad?_hexDigit {n : ℕ} (h : n < 256) :
    hexQuad? '0' '0' (hexDigit (n / 16)) (hexDigit (n % 16)) = some n := by
  have hzero : Text.hexPair? '0' '0' = some 0 := by decide
  have hpair : Text.hexPair? (hexDigit (n / 16)) (hexDigit (n % 16)) = some n := by
    rw [Text.hexPair?, hexValue?_hexDigit _ (by omega), hexValue?_hexDigit _ (by omega)]
    exact congrArg some (by omega)
  rw [hexQuad?, hzero, hpair]
  exact congrArg some (by omega)

section Texts

variable {opening done rest : List Char} {c : Char}

theorem readCoded_of_lt (h : c.toNat < 0x20) (next : Char) :
    readCoded ('0' :: '0' :: hexDigit (c.toNat / 16) :: hexDigit (c.toNat % 16) :: next :: rest) =
      .ok (c, next :: rest) := by
  have hsurrogate : Text.isHighSurrogate c.toNat = false := by
    simp [Text.isHighSurrogate]
    omega
  have hcode : readCode ('0' :: '0' :: hexDigit (c.toNat / 16) :: hexDigit (c.toNat % 16) ::
      next :: rest) = .ok (c.toNat, next :: rest) := by
    rw [readCode, hexQuad?_hexDigit (by omega)]
  rw [readCoded, hcode]
  simp only [bind, Except.bind]
  split
  · next second hhigh _ =>
    rw [hsurrogate] at hhigh
    cases hhigh
  · rw [charOfCode_toNat]
    rfl

theorem readText_escaped {after : List Char} (h : readEscape opening rest = .ok (c, after)) :
    readText opening done ('\\' :: rest) = readText opening (c :: done) after := by
  rw [readText, if_neg (by decide), if_pos rfl]
  split
  · next fault hfault =>
    rw [h] at hfault
    cases hfault
  · next c' after' hread =>
    rw [h] at hread
    cases hread
    rfl

theorem readText_escape (c : Char) (hrest : rest ≠ []) :
    readText opening done (escape c ++ rest) = readText opening (c :: done) rest := by
  obtain ⟨next, rest, rfl⟩ := List.exists_cons_of_ne_nil hrest
  unfold escape
  split
  case h_8 hquote hslash _ _ _ _ _ =>
    split_ifs with hcontrol
    · exact readText_escaped (readCoded_of_lt hcontrol next)
    · rw [List.singleton_append, readText, if_neg hquote, if_neg hslash, if_neg hcontrol]
  all_goals exact readText_escaped rfl

theorem readText_quoted (chars : List Char) :
    readText opening done (chars.flatMap escape ++ '"' :: rest) =
      .ok (.ofList (done.reverse ++ chars), rest) := by
  induction chars generalizing done with
  | nil =>
    rw [List.flatMap_nil, List.nil_append, readText, if_pos rfl, List.append_nil]
  | cons c chars ih =>
    rw [List.flatMap_cons, List.append_assoc, readText_escape c (by simp), ih]
    simp

end Texts

/-! ## Integers -/

/-- What may follow a value: nothing, or a mark. -/
def Ends (rest : List Char) : Prop := ∀ c ∈ rest.head?, isMark c = true

theorem head?_toDigits_ne_zero {n : ℕ} (h : n ≠ 0) : (Nat.toDigits 10 n).head? ≠ some '0' := by
  induction n using Nat.strong_induction_on with
  | _ n ih =>
    rw [Nat.toDigits_eq_if (by decide)]
    split_ifs with hlt
    · interval_cases n <;> simp_all +decide
    · rw [List.head?_append_of_ne_nil _ Nat.toDigits_ne_nil]
      exact ih (n / 10) (by omega) (by omega)

theorem isMark_iff {c : Char} : isMark c = true ↔
    c = '\x7b' ∨ c = '\x7d' ∨ c = '[' ∨ c = ']' ∨ c = ':' ∨ c = ',' := by
  simp [isMark, or_assoc]

section Integers

variable {rest : List Char}

theorem Ends.takeWhile_isDigit (h : Ends rest) : rest.takeWhile Char.isDigit = [] := by
  cases rest with
  | nil => rfl
  | cons c rest =>
    have hc : c.isDigit = false := by
      rcases isMark_iff.mp (h c rfl) with rfl | rfl | rfl | rfl | rfl | rfl <;> decide
    rw [List.takeWhile_cons_of_neg (by simp [hc])]

theorem Ends.readFraction (h : Ends rest) : readFraction rest = ([], rest) := by
  unfold Json.readFraction
  split
  · exact absurd (h '.' rfl) (by decide)
  · rfl

theorem Ends.readExponent (h : Ends rest) : readExponent rest = (none, rest) := by
  unfold Json.readExponent
  split
  · next c rest =>
    have hc : ¬(c = 'e' ∨ c = 'E') := by
      rcases isMark_iff.mp (h c rfl) with rfl | rfl | rfl | rfl | rfl | rfl <;> decide
    rw [if_neg hc]
  · rfl

theorem readWhole?_toDigits (n : ℕ) (h : Ends rest) :
    readWhole? (Nat.toDigits 10 n ++ rest) = some (Nat.toDigits 10 n, rest) := by
  by_cases hn : n = 0
  · subst hn
    rfl
  · have hdigits : ∀ c ∈ Nat.toDigits 10 n, c.isDigit = true :=
      fun c hc => Numeral.isDigit_of_mem_toDigits hc
    have htake : (Nat.toDigits 10 n ++ rest).takeWhile Char.isDigit = Nat.toDigits 10 n := by
      rw [List.takeWhile_append_of_pos hdigits, h.takeWhile_isDigit, List.append_nil]
    have hdrop : (Nat.toDigits 10 n ++ rest).dropWhile Char.isDigit = rest := by
      have := List.takeWhile_append_dropWhile (p := Char.isDigit) (l := Nat.toDigits 10 n ++ rest)
      rw [htake] at this
      exact List.append_cancel_left this
    unfold readWhole?
    split
    · next heq =>
      have hhead := congrArg List.head? heq
      rw [List.head?_append_of_ne_nil _ Nat.toDigits_ne_nil] at hhead
      exact absurd hhead (head?_toDigits_ne_zero hn)
    · rw [htake, hdrop, if_neg (by simp [Nat.toDigits_ne_nil])]

theorem readNumber?_ofInt (n : ℤ) (h : Ends rest) :
    readNumber? ((Numeral.ofInt n).toList ++ rest) = some (.integer n, rest) := by
  cases n with
  | ofNat m =>
    have hhead : (Nat.toDigits 10 m ++ rest).head? ≠ some '-' := by
      rw [List.head?_append_of_ne_nil _ Nat.toDigits_ne_nil]
      intro hminus
      have hdigit := Numeral.isDigit_of_mem_toDigits (List.mem_of_head? hminus)
      exact absurd hdigit (by decide)
    have hsign : ((Nat.toDigits 10 m ++ rest).head? == some '-') = false := by
      simpa using hhead
    rw [Numeral.ofInt, Nat.toList_repr, readNumber?, hsign]
    simp [readWhole?_toDigits m h, h.readFraction, h.readExponent, Numeral.value_toDigits,
      Numeral.withSign]
  | negSucc m =>
    have htext : (Numeral.ofInt (.negSucc m)).toList ++ rest =
        '-' :: (Nat.toDigits 10 (m + 1) ++ rest) := by
      simp [Numeral.ofInt, Nat.toList_repr]
    rw [htext, readNumber?]
    simp [readWhole?_toDigits (m + 1) h, h.readFraction, h.readExponent, Numeral.value_toDigits,
      Numeral.withSign, Int.negSucc_eq]

end Integers

/-! ## Tokens -/

section Tokens

variable {rest : List Char}

theorem cut_mark {c : Char} (hc : isMark c = true) (bound : ℕ) :
    cut (bound + 1) (c :: rest) = (c :: rest, .mark c) :: cut bound rest := by
  have hlayout : isLayout c = false := by
    rcases isMark_iff.mp hc with rfl | rfl | rfl | rfl | rfl | rfl <;> rfl
  rw [cut, List.dropWhile_cons_of_neg (by simp [hlayout])]
  simp [hc]

theorem cut_quote (s : String) (bound : ℕ) :
    cut (bound + 1) ((quote s).toList ++ rest) =
      ((quote s).toList ++ rest, .string s) :: cut bound rest := by
  have htext : (quote s).toList ++ rest = '"' :: (s.toList.flatMap escape ++ '"' :: rest) := by
    simp [quote]
  rw [htext, cut, List.dropWhile_cons_of_neg (by decide)]
  simp [show isMark '"' = false from rfl, readText_quoted]

theorem cut_plain {c : Char} {tail : List Char} {value : Json} (hlayout : isLayout c = false)
    (hmark : isMark c = false) (hquote : c ≠ '"')
    (h : readPlain? (c :: tail) = some (value, rest)) (bound : ℕ) :
    cut (bound + 1) (c :: tail) = (c :: tail, .plain value) :: cut bound rest := by
  rw [cut, List.dropWhile_cons_of_neg (by simp [hlayout])]
  simp [hmark, hquote, h]

theorem exists_digit_ofInt (n : ℤ) :
    ∃ c tail, c.isDigit = true ∧
      ((Numeral.ofInt n).toList = c :: tail ∨ (Numeral.ofInt n).toList = '-' :: c :: tail) := by
  have hdigits (m : ℕ) : ∃ c tail, c.isDigit = true ∧ Nat.toDigits 10 m = c :: tail := by
    have hne : Nat.toDigits 10 m ≠ [] := Nat.toDigits_ne_nil
    obtain ⟨c, tail, h⟩ := List.exists_cons_of_ne_nil hne
    have hmem : c ∈ Nat.toDigits 10 m := by simp [h]
    exact ⟨c, tail, Numeral.isDigit_of_mem_toDigits hmem, h⟩
  cases n with
  | ofNat m =>
    obtain ⟨c, tail, hc, h⟩ := hdigits m
    exact ⟨c, tail, hc, .inl (by rw [Numeral.ofInt, Nat.toList_repr, h])⟩
  | negSucc m =>
    obtain ⟨c, tail, hc, h⟩ := hdigits (m + 1)
    exact ⟨c, tail, hc, .inr (by simp [Numeral.ofInt, Nat.toList_repr, h])⟩

theorem ne_of_isDigit {c d : Char} (hc : c.isDigit = true) (hd : d.isDigit = false) : c ≠ d := by
  rintro rfl
  rw [hc] at hd
  cases hd

theorem cut_ofInt (n : ℤ) (h : Ends rest) (bound : ℕ) :
    cut (bound + 1) ((Numeral.ofInt n).toList ++ rest) =
      ((Numeral.ofInt n).toList ++ rest, .plain (.integer n)) :: cut bound rest := by
  have hnumber := readNumber?_ofInt n h
  obtain ⟨c, tail, hc, htext⟩ := exists_digit_ofInt n
  have hne (d : Char) (hd : d.isDigit = false) : ¬d = c := (ne_of_isDigit hc hd).symm
  rcases htext with htext | htext
  · rw [htext, List.cons_append] at hnumber ⊢
    refine cut_plain ?_ ?_ (ne_of_isDigit hc rfl) ?_ bound
    · simp [isLayout, ne_of_isDigit hc]
    · simp [isMark, ne_of_isDigit hc]
    · simp [readPlain?, words, afterWord?, List.isPrefixOf?, hne, hnumber]
  · rw [htext, List.cons_append, List.cons_append] at hnumber ⊢
    refine cut_plain rfl rfl (by decide) ?_ bound
    simp [readPlain?, words, afterWord?, List.isPrefixOf?, hne, hnumber]

end Tokens

/-! ## Reading -/

namespace Reading

/-- Takes tokens one after another. -/
def advance (reading : Reading) (tokens : List (List Char × Token)) : Except Fault Reading :=
  tokens.foldlM (fun reading (here, token) => reading.take here token) reading

/-- Reading the text leads from one state to the other, whatever follows that fits. A bound on the
tokens that is large enough before is large enough behind. -/
def Leads (fits : List Char → Prop) (text : List Char) (before after : Reading) : Prop :=
  ∀ rest bound, fits rest → (text ++ rest).length ≤ bound → ∃ bound', rest.length ≤ bound' ∧
    before.advance (cut bound (text ++ rest)) = after.advance (cut bound' rest)

variable {fits fits' : List Char → Prop} {text text' : List Char} {a b c : Reading}

theorem Leads.trans (h : Leads fits text a b) (h' : Leads fits' text' b c)
    (hfits : ∀ rest, fits' rest → fits (text' ++ rest)) : Leads fits' (text ++ text') a c := by
  intro rest bound hrest hbound
  rw [List.append_assoc] at hbound ⊢
  obtain ⟨bound', hbound', hab⟩ := h (text' ++ rest) bound (hfits rest hrest) hbound
  obtain ⟨bound'', hbound'', hbc⟩ := h' rest bound' hrest hbound'
  exact ⟨bound'', hbound'', hab.trans hbc⟩

theorem Leads.of_token {token : Token} (hne : text ≠ [])
    (hcut : ∀ rest bound, fits rest →
      cut (bound + 1) (text ++ rest) = (text ++ rest, token) :: cut bound rest)
    (htake : ∀ here, a.take here token = .ok b) : Leads fits text a b := by
  intro rest bound hrest hbound
  have hpos : 0 < text.length := List.length_pos_iff.mpr hne
  rw [List.length_append] at hbound
  obtain ⟨bound, rfl⟩ := Nat.exists_eq_succ_of_ne_zero (show bound ≠ 0 by omega)
  refine ⟨bound, by omega, ?_⟩
  rw [hcut rest bound hrest, advance, List.foldlM_cons]
  dsimp only
  rw [htake]
  rfl

theorem Leads.mark {c : Char} (hc : isMark c = true) (h : a.afterMark? c = some b) :
    Leads (fun _ => True) [c] a b :=
  .of_token (by simp) (fun _ bound _ => cut_mark hc bound) fun here => by simp [take, h]

theorem Leads.quote {s : String} (h : ∀ here, a.take here (.string s) = .ok b) :
    Leads (fun _ => True) (Json.quote s).toList a b :=
  .of_token (by simp [Json.quote]) (fun _ bound _ => cut_quote s bound) h

end Reading

/-! ## Values -/

/-- No number in the value is rounded, and no object has two fields of one name. -/
inductive Exact : Json → Prop
  | null : Exact .null
  | bool (b : Bool) : Exact (.bool b)
  | integer (n : ℤ) : Exact (.integer n)
  | string (s : String) : Exact (.string s)
  | array {items : List Json} (h : ∀ value ∈ items, Exact value) : Exact (.array items)
  | object {fields : List (String × Json)} (hnames : (fields.map Prod.fst).Nodup)
      (h : ∀ field ∈ fields, Exact field.2) : Exact (.object fields)

/-- The text of a field. -/
def fieldText (field : String × Json) : List Char :=
  (quote field.1).toList ++ [':'] ++ field.2.write.toList

theorem toList_write_array (items : List Json) :
    (array items).write.toList =
      ['['] ++ [','].intercalate (items.map fun value => value.write.toList) ++ [']'] := by
  have hitems : writeItems items = items.map write := by
    induction items with
    | nil => rfl
    | cons value rest ih => rw [writeItems, ih, List.map_cons]
  simp [write, hitems, String.toList_intercalate, Function.comp_def]

theorem toList_write_object (fields : List (String × Json)) :
    (object fields).write.toList =
      ['\x7b'] ++ [','].intercalate (fields.map fieldText) ++ ['\x7d'] := by
  have hfields : (writeFields fields).map String.toList = fields.map fieldText := by
    induction fields with
    | nil => rfl
    | cons field rest ih =>
      obtain ⟨name, value⟩ := field
      rw [writeFields, List.map_cons, ih, List.map_cons]
      simp [fieldText]
  simp [write, hfields, String.toList_intercalate]

theorem ends_cons {c : Char} (hc : isMark c = true) (rest : List Char) : Ends (c :: rest) := by
  rintro d ⟨⟩
  exact hc

/-- Where a value is expected, its text leads to the state behind that value. -/
def ReadsBack (value : Json) : Prop :=
  ∀ stack mayClose, Reading.Leads Ends value.write.toList ⟨stack, .value mayClose⟩
    (Reading.complete value stack)

namespace ReadsBack

open Reading

theorem of_words {value : Json} {c : Char} {tail : List Char}
    (htext : value.write.toList = c :: tail) (hlayout : isLayout c = false)
    (hmark : isMark c = false) (hquote : c ≠ '"')
    (h : ∀ rest, readPlain? (c :: (tail ++ rest)) = some (value, rest)) : ReadsBack value := by
  intro stack mayClose
  rw [htext]
  exact .of_token (by simp) (fun rest bound _ => cut_plain hlayout hmark hquote (h rest) bound)
    fun here => rfl

theorem integer (n : ℤ) : ReadsBack (.integer n) := by
  intro stack mayClose
  obtain ⟨c, tail, -, h⟩ := exists_digit_ofInt n
  refine .of_token ?_ (fun rest bound hrest => cut_ofInt n hrest bound) fun here => rfl
  rw [write]
  rcases h with h | h <;> simp [h]

theorem string (s : String) : ReadsBack (.string s) := by
  intro stack mayClose rest bound _
  exact Leads.quote (fun here => rfl) rest bound trivial

/-- The items of a list, with commas between them. -/
theorem items {items : List Json} (hne : items ≠ []) (h : ∀ value ∈ items, ReadsBack value)
    (done : List Json) (stack : List Open) (mayClose : Bool) :
    Leads Ends ([','].intercalate (items.map fun value => value.write.toList))
      ⟨.items done :: stack, .value mayClose⟩
      ⟨.items (items.reverse ++ done) :: stack, .separator⟩ := by
  induction items generalizing done mayClose with
  | nil => exact absurd rfl hne
  | cons value items ih =>
    have hvalue := h value (by simp) (.items done :: stack) mayClose
    cases items with
    | nil => simpa [complete] using hvalue
    | cons next items =>
      have hrest := ih (by simp) (fun v hv => h v (by simp [hv])) (value :: done) false
      have hdone : (value :: next :: items).reverse ++ done =
          (next :: items).reverse ++ value :: done := by simp
      rw [List.map_cons, List.map_cons, List.intercalate_cons_cons, hdone]
      refine (hvalue.trans (Leads.mark (c := ',') rfl rfl) ?_).trans hrest fun _ _ => trivial
      exact fun rest _ => ends_cons rfl rest

theorem array {items : List Json} (h : ∀ value ∈ items, ReadsBack value) :
    ReadsBack (.array items) := by
  intro stack mayClose
  have hopen : Leads (fun _ => True) ['['] ⟨stack, .value mayClose⟩
      ⟨.items [] :: stack, .value true⟩ := Leads.mark rfl rfl
  rw [toList_write_array]
  cases items with
  | nil =>
    intro rest bound _
    exact hopen.trans (Leads.mark (c := ']') rfl rfl) (fun _ _ => trivial) rest bound trivial
  | cons value items =>
    have hitems := ReadsBack.items (by simp) h [] stack true
    have hclose : Leads (fun _ => True) [']']
        ⟨.items ((value :: items).reverse ++ []) :: stack, .separator⟩
        (complete (.array (value :: items)) stack) := Leads.mark rfl (by simp [afterMark?])
    intro rest bound _
    exact ((hopen.trans hitems fun _ _ => trivial).trans hclose
      fun rest _ => ends_cons rfl rest) rest bound trivial

/-- A name, a colon and a value. -/
theorem field {value : Json} (h : ReadsBack value) (name last : String) (done : Entries Json)
    (stack : List Open) (mayClose : Bool) :
    Leads Ends (fieldText (name, value)) ⟨.fields done last :: stack, .name mayClose⟩
      ⟨.fields (done.put name value) name :: stack, .separator⟩ := by
  have hname : Leads (fun _ => True) (quote name).toList
      ⟨.fields done last :: stack, .name mayClose⟩ ⟨.fields done name :: stack, .colon⟩ :=
    Leads.quote fun here => rfl
  have hcolon : Leads (fun _ => True) [':'] ⟨.fields done name :: stack, .colon⟩
      ⟨.fields done name :: stack, .value false⟩ := Leads.mark rfl rfl
  exact (hname.trans hcolon fun _ _ => trivial).trans (h (.fields done name :: stack) false)
    fun _ _ => trivial

/-- The fields of an object, with commas between them. -/
theorem fields {fields : List (String × Json)} (hne : fields ≠ [])
    (h : ∀ field ∈ fields, ReadsBack field.2) (done : Entries Json)
    (hnames : ((done ++ fields).map Prod.fst).Nodup) (last : String) (stack : List Open)
    (mayClose : Bool) :
    ∃ last', Leads Ends ([','].intercalate (fields.map fieldText))
      ⟨.fields done last :: stack, .name mayClose⟩
      ⟨.fields (done ++ fields) last' :: stack, .separator⟩ := by
  induction fields generalizing done last mayClose with
  | nil => exact absurd rfl hne
  | cons first fields ih =>
    obtain ⟨name, value⟩ := first
    have hfresh : name ∉ done.map Prod.fst := by
      rw [List.map_append, List.nodup_append] at hnames
      exact fun hmem => hnames.2.2 name hmem name (by simp) rfl
    have hfirst := (h (name, value) (by simp)).field name last done stack mayClose
    rw [Entries.put_of_not_mem hfresh] at hfirst
    cases fields with
    | nil => exact ⟨name, by simpa using hfirst⟩
    | cons next fields =>
      obtain ⟨last', hrest⟩ := ih (by simp) (fun f hf => h f (by simp [hf]))
        (done ++ [(name, value)]) (by simpa using hnames) name false
      refine ⟨last', ?_⟩
      rw [List.map_cons, List.map_cons, List.intercalate_cons_cons]
      rw [List.append_assoc, List.singleton_append] at hrest
      refine (hfirst.trans (Leads.mark (c := ',') rfl rfl) ?_).trans hrest fun _ _ => trivial
      exact fun rest _ => ends_cons rfl rest

theorem object {fields : List (String × Json)} (hnames : (fields.map Prod.fst).Nodup)
    (h : ∀ field ∈ fields, ReadsBack field.2) : ReadsBack (.object fields) := by
  intro stack mayClose
  have hopen : Leads (fun _ => True) ['\x7b'] ⟨stack, .value mayClose⟩
      ⟨.fields [] "" :: stack, .name true⟩ := Leads.mark rfl rfl
  rw [toList_write_object]
  cases fields with
  | nil =>
    intro rest bound _
    exact hopen.trans (Leads.mark (c := '\x7d') rfl rfl) (fun _ _ => trivial) rest bound trivial
  | cons first fields =>
    obtain ⟨last, hfields⟩ := ReadsBack.fields (by simp) h [] (by simpa using hnames) "" stack true
    have hclose : Leads (fun _ => True) ['\x7d']
        ⟨.fields ([] ++ first :: fields) last :: stack, .separator⟩
        (complete (.object (first :: fields)) stack) := Leads.mark rfl rfl
    intro rest bound _
    exact ((hopen.trans hfields fun _ _ => trivial).trans hclose
      fun rest _ => ends_cons rfl rest) rest bound trivial

end ReadsBack

theorem Exact.readsBack {value : Json} (h : Exact value) : ReadsBack value := by
  induction h with
  | null => exact .of_words rfl rfl rfl (by decide) fun rest => rfl
  | bool b =>
    cases b with
    | false => exact .of_words rfl rfl rfl (by decide) fun rest => rfl
    | true => exact .of_words rfl rfl rfl (by decide) fun rest => rfl
  | integer n => exact .integer n
  | string s => exact .string s
  | array h ih => exact .array ih
  | object hnames h ih => exact .object hnames ih

/-- A value that was written is read back. -/
theorem read_write {value : Json} (h : Exact value) : read value.write = .ok value := by
  obtain ⟨bound, -, hsteps⟩ := h.readsBack [] false [] value.write.toList.length
    (by rintro c ⟨⟩) (by simp)
  have hnil : cut bound [] = [] := by
    cases bound with
    | zero => rfl
    | succ bound => rfl
  rw [List.append_nil, hnil] at hsteps
  have hrun : Reading.run (tokens value.write.toList) = .ok value := by
    change (Reading.advance ⟨[], .value false⟩ _ >>= Reading.finish) = _
    rw [tokens, hsteps]
    rfl
  rw [read, hrun]
  rfl

end ExactCalc.Json
