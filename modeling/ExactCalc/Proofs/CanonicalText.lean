import ExactCalc.Expr.Printer
import ExactCalc.Proofs.EnclosingLets
import ExactCalc.Proofs.Pieces
import ExactCalc.Proofs.Soundness

/-!
# Canonical texts

Many texts are read as the same expression, among them texts with blanks, surplus
arguments and stray characters. All that can be read, from whatever text, are the
well-formed expressions whose height the limit admits: their numbers have
thirty-two bits and their names consist of letters. The canonical text of such an
expression is read as the expression itself, under the same limit, so every text
that can be read has a canonical one in its place.
-/

namespace ExactCalc

/-! ## What a text is read as -/

theorem exists_of_mem_mapM_eq_ok {ε α β : Type} {f : α → Except ε β} {items : List α}
    {results : List β} (h : items.mapM f = .ok results) {b : β} (hb : b ∈ results) :
    ∃ a ∈ items, f a = .ok b := by
  induction items generalizing results with
  | nil =>
    cases h
    cases hb
  | cons a items ih =>
    rw [List.mapM_cons] at h
    obtain ⟨b', hfirst, h⟩ := exists_of_bind_eq_ok h
    obtain ⟨bs, hrest, h⟩ := exists_of_bind_eq_ok h
    cases h
    rcases List.mem_cons.mp hb with rfl | hb
    · exact ⟨a, by simp, hfirst⟩
    · obtain ⟨a', hmem, ha'⟩ := ih hrest hb
      exact ⟨a', by simp [hmem], ha'⟩

/-- What the pieces behind a keyword are read as, in order. -/
def Form.readPieces (form : Form) (limit : ℤ) (rest : List Char) (offset depth : ℤ) :
    Except Rejection (List Expr) :=
  (form.pieces rest).mapM fun piece =>
    Expr.read limit piece.text (offset + piece.place) (depth + 1)

/-- Every reading: a literal, a name, an operation on its first two arguments, a `let` of its first
three, of which the first is a name. -/
inductive ReadAs (limit : ℤ) (text : List Char) (offset depth : ℤ) : Expr → Prop
  | literal (l : Literal) (h : l.text = text) : ReadAs limit text offset depth (.number l.value)
  | name (w : Word) (h : w.letters = text) :
      ReadAs limit text offset depth (.name (.ofList w.letters))
  | apply {op rest left right surplus} (hshape : Shape.ofText text = .call (.arithmetic op) rest)
      (h : Form.readPieces (.arithmetic op) limit rest offset depth =
        .ok (left :: right :: surplus)) :
      ReadAs limit text offset depth (.apply op left right)
  | letIn {x rest value body surplus} (hshape : Shape.ofText text = .call .binding rest)
      (h : Form.readPieces .binding limit rest offset depth =
        .ok (.name x :: value :: body :: surplus)) :
      ReadAs limit text offset depth (.letIn x value body)

namespace Expr

theorem readAs_of_read {limit offset depth : ℤ} {text : List Char} {e : Expr}
    (h : read limit text offset depth = .ok e) :
    depth ≤ limit ∧ ReadAs limit text offset depth e := by
  by_cases hlimit : limit < depth
  · rw [read_of_lt hlimit] at h
    cases h
  have hd : depth ≤ limit := not_lt.mp hlimit
  refine ⟨hd, ?_⟩
  cases hshape : Shape.ofText text with
  | literal negative digits =>
    rw [read_literal hd hshape] at h
    cases hword : Numeral.word32? negative digits with
    | none =>
      rw [hword] at h
      cases h
    | some n =>
      rw [hword] at h
      cases h
      obtain ⟨l, htext, rfl⟩ := Numeral.exists_literal (Shape.split?_of_literal hshape) hword
      exact .literal l htext
  | name =>
    rw [read_name hd hshape] at h
    cases h
    obtain ⟨w, rfl⟩ := Shape.exists_word hshape
    exact .name w rfl
  | unreadable =>
    rw [read_unreadable hd hshape] at h
    cases h
  | call form rest =>
    rw [read_pieces hd hshape] at h
    obtain ⟨arguments, hargs, h⟩ := exists_of_bind_eq_ok h
    rcases Form.assemble_eq_ok h with
      ⟨op, left, right, surplus, rfl, rfl, rfl⟩ | ⟨x, value, body, surplus, rfl, rfl, rfl⟩
    · exact .apply hshape hargs
    · exact .letIn hshape hargs

/-- The name consists of one letter or more. -/
def IsWord (x : String) : Prop := x.toList ≠ [] ∧ ∀ c ∈ x.toList, c.isAlpha = true

theorem isWord_iff {x : String} : IsWord x ↔ ∃ w : Word, .ofList w.letters = x := by
  constructor
  · rintro ⟨hne, halpha⟩
    exact ⟨⟨x.toList, hne, halpha⟩, String.ofList_toList⟩
  · rintro ⟨w, rfl⟩
    unfold IsWord
    rw [String.toList_ofList]
    exact ⟨w.nonempty, w.alphabetic⟩

/-- The numbers of the expression have thirty-two bits, and its names are words, declared ones
included. -/
def WellFormed : Expr → Prop
  | number n => -2 ^ 31 ≤ n ∧ n ≤ 2 ^ 31 - 1
  | name x => IsWord x
  | apply _ left right => left.WellFormed ∧ right.WellFormed
  | letIn x value body => IsWord x ∧ value.WellFormed ∧ body.WellFormed

/-- Whatever the text, what is read from it is well-formed and fits under the limit. -/
theorem wellFormed_of_read {limit offset depth : ℤ} {text : List Char} {e : Expr}
    (h : read limit text offset depth = .ok e) : e.WellFormed ∧ depth + e.height ≤ limit := by
  induction text using piece_induction generalizing offset depth e with
  | step text ih =>
    -- An argument was read from a piece one level further down.
    have hargument {form : Form} {rest : List Char} {arguments : List Expr}
        (hshape : Shape.ofText text = .call form rest)
        (hread : form.readPieces limit rest offset depth = .ok arguments) {a : Expr}
        (ha : a ∈ arguments) : a.WellFormed ∧ depth + 1 + a.height ≤ limit := by
      obtain ⟨piece, hpiece, hpieceRead⟩ := exists_of_mem_mapM_eq_ok hread ha
      exact ih form rest hshape piece hpiece hpieceRead
    obtain ⟨hd, hreading⟩ := readAs_of_read h
    cases hreading with
    | literal l htext => exact ⟨l.inRange, by simpa [height] using hd⟩
    | name w htext => exact ⟨isWord_iff.mpr ⟨w, rfl⟩, by simpa [height] using hd⟩
    | @apply op rest left right surplus hshape hread =>
      obtain ⟨hleft, hleftHeight⟩ := hargument hshape hread (a := left) (by simp)
      obtain ⟨hright, hrightHeight⟩ := hargument hshape hread (a := right) (by simp)
      refine ⟨⟨hleft, hright⟩, ?_⟩
      rw [height]
      omega
    | @letIn x rest value body surplus hshape hread =>
      obtain ⟨hname, -⟩ := hargument hshape hread (a := .name x) (by simp)
      obtain ⟨hvalue, hvalueHeight⟩ := hargument hshape hread (a := value) (by simp)
      obtain ⟨hbody, hbodyHeight⟩ := hargument hshape hread (a := body) (by simp)
      refine ⟨⟨hname, hvalue, hbody⟩, ?_⟩
      rw [height]
      omega

/-! ## Reading what is printed -/

/-- The canonical text of a well-formed expression is in the grammar. -/
theorem WellFormed.exists_phrase {e : Expr} (h : e.WellFormed) :
    ∃ p : Phrase, p.expr = e ∧ p.text = e.print := by
  induction e with
  | number n =>
    exact ⟨.literal (.ofInt n h), congrArg number (Literal.value_ofInt h), Literal.text_ofInt h⟩
  | name x =>
    obtain ⟨w, rfl⟩ := isWord_iff.mp h
    exact ⟨.name w, rfl, String.toList_ofList.symm⟩
  | apply op left right ihl ihr =>
    obtain ⟨l, rfl, hl⟩ := ihl h.1
    obtain ⟨r, rfl, hr⟩ := ihr h.2
    refine ⟨.apply op l r, rfl, ?_⟩
    rw [Phrase.text, print, hl, hr]
    simp
  | letIn x value body ihv ihb =>
    obtain ⟨hname, hvalue, hbody⟩ := h
    obtain ⟨w, rfl⟩ := isWord_iff.mp hname
    obtain ⟨v, rfl, hv⟩ := ihv hvalue
    obtain ⟨b, rfl, hb⟩ := ihb hbody
    refine ⟨.letIn w v b, rfl, ?_⟩
    rw [Phrase.text, print, hv, hb, String.toList_ofList]
    simp

theorem ofText_text {e : Expr} (h : e.WellFormed) {limit : ℤ} (hheight : e.height ≤ limit) :
    ofText limit e.text = .ok e := by
  obtain ⟨n, rfl⟩ : ∃ n : ℕ, limit = n := ⟨limit.toNat, by omega⟩
  obtain ⟨p, rfl, htext⟩ := h.exists_phrase
  refine Phrase.ofText_of_height_le ?_ (by exact_mod_cast hheight)
  rw [htext, text, String.toList_ofList]
  exact .refl _

/-- The expressions that can be read under a limit are the well-formed ones of no greater height.
The canonical text of each of them is read as that expression, so putting canonical texts in the
place of texts a second time changes nothing. -/
theorem ofText_canonical (limit : ℤ) :
    (∀ text e, ofText limit text = .ok e →
      e.WellFormed ∧ e.height ≤ limit ∧ ofText limit e.text = .ok e) ∧
    (∀ e, (∃ text, ofText limit text = .ok e) ↔ e.WellFormed ∧ e.height ≤ limit) ∧
    ∀ text canonical, (ofText limit text).map Expr.text = .ok canonical →
      (ofText limit canonical).map Expr.text = .ok canonical := by
  have hread (text : String) (e : Expr) (h : ofText limit text = .ok e) :
      e.WellFormed ∧ e.height ≤ limit := by
    obtain ⟨hform, hheight⟩ := wellFormed_of_read h
    exact ⟨hform, by omega⟩
  have hprinted (text : String) (e : Expr) (h : ofText limit text = .ok e) :
      ofText limit e.text = .ok e := by
    obtain ⟨hform, hheight⟩ := hread text e h
    exact ofText_text hform hheight
  refine ⟨?_, ?_, ?_⟩
  · intro text e h
    obtain ⟨hform, hheight⟩ := hread text e h
    exact ⟨hform, hheight, hprinted text e h⟩
  · intro e
    constructor
    · rintro ⟨text, h⟩
      exact hread text e h
    · rintro ⟨hform, hheight⟩
      exact ⟨e.text, ofText_text hform hheight⟩
  · intro text canonical h
    cases he : ofText limit text with
    | error r =>
      rw [he] at h
      cases h
    | ok e =>
      rw [he] at h
      cases h
      rw [hprinted text e he]
      rfl

/-- A name that begins with a keyword, zeros in front, two lists, a surplus argument and stray
characters behind. -/
theorem ofText_canonical_stray :
    let e := apply .add (.number (-7)) (letIn "add" (.number 5) (.name "add"))
    ofText 2 "adder (-007)( let(add, 5, add), 9) )zz" = .ok e ∧
      e.text = "add(-7,let(add,5,add))" ∧ e.WellFormed ∧
      ofText 2 "add(-7,let(add,5,add))" = .ok e := by
  intro e
  have hread : ofText 2 "adder (-007)( let(add, 5, add), 9) )zz" = .ok e := by cbv
  have htext : e.text = "add(-7,let(add,5,add))" := by cbv
  obtain ⟨hform, -, hprinted⟩ := (ofText_canonical 2).1 _ e hread
  rw [htext] at hprinted
  exact ⟨hread, htext, hform, hprinted⟩

end Expr

end ExactCalc
