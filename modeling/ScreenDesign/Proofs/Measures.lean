import ScreenDesign.Preview.Paint
import ScreenDesign.Proofs.Json.Roundtrip
import ScreenDesign.Proofs.Number.Text
import ScreenDesign.Proofs.SettledBag

/-!
# Lengths in texts

A style names its lengths in texts such as `0 2px 4px rgba(0, 0, 0, 0.1)`.  The words of a text
are what stands between blanks, brackets and commas (`words`), and a word that ends with `px` is a
length.  A text is *measured* if each length in it is the text of a finite number with `px`.

Everything about words follows from one equation: a gap splits a text into the words on its left
and the words on its right (`words_append_gap`).  So a text is measured exactly if its parts between
gaps are (`measured_append_gap`), and a single length exactly if its number is finite
(`measured_px_iff`): the names of the data that are no finite numbers are the texts of none.
-/

namespace ScreenDesign

/-! ## Words -/

/-- Whether a character stands between the words of a declaration. -/
def isGap (c : Char) : Bool := " (),".toList.contains c

/-- The words of a text.  Between two gaps in a row there is an empty one. -/
def words (cs : List Char) : List (List Char) := cs.splitOnP isGap

/-- The unit of lengths. -/
def pixels : List Char := ['p', 'x']

/-- A finite number with the unit. -/
def FiniteLength (word : List Char) : Prop :=
  ∃ n : Number, n.isFinite = true ∧ word = n.text.toList ++ pixels

/-- The lengths of a text are finite numbers with the unit. -/
def Measured (cs : List Char) : Prop := ∀ word ∈ words cs, pixels <:+ word → FiniteLength word

/-- A gap belongs to no word. -/
theorem words_append_gap {c : Char} (hc : isGap c = true) (cs ds : List Char) :
    words (cs ++ c :: ds) = words cs ++ words ds :=
  List.splitOnP_append_cons cs ds hc

theorem words_of_noGap {cs : List Char} (h : ∀ c ∈ cs, isGap c = false) : words cs = [cs] :=
  List.splitOnP_eq_singleton h

theorem measured_append_gap {c : Char} (hc : isGap c = true) {cs ds : List Char} :
    Measured (cs ++ c :: ds) ↔ Measured cs ∧ Measured ds := by
  rw [Measured, words_append_gap hc, List.forall_mem_append]
  rfl

theorem measured_of_noGap {cs : List Char} (h : ∀ c ∈ cs, isGap c = false) :
    Measured cs ↔ (pixels <:+ cs → FiniteLength cs) := by
  rw [Measured, words_of_noGap h, List.forall_mem_singleton]

/-- A word that ends otherwise is no length. -/
theorem measured_of_notMem {cs : List Char} (h : ∀ c ∈ cs, isGap c = false) (hx : 'x' ∉ cs) :
    Measured cs := by
  rw [measured_of_noGap h]
  rintro ⟨front, rfl⟩
  exact absurd (List.mem_append_right front (by decide)) hx

/-! ## Numbers -/

theorem noGap_of_isNumeric {c : Char} (h : isNumeric c = true) : isGap c = false := by
  rw [isGap, List.contains_eq_mem, decide_eq_false_iff_not]
  intro hc
  have hgaps : " (),".toList.any isNumeric = true := List.any_eq_true.mpr ⟨c, hc, h⟩
  cases hgaps

/-- No finite number has the text of one that is not finite. -/
theorem Number.text_ne_text {n m : Number} (hn : n.isFinite = false) (hm : m.isFinite = true) :
    m.text ≠ n.text := by
  -- the letter is in the names of all data that are no finite numbers
  have hletter : 'n' ∈ n.text.toList ∧ ∀ k, Json.parse n.text ≠ .ok (.number k) := by
    cases n with
    | int i => cases hn
    | float x =>
        cases x with
        | finite negative rank => cases hn
        | infinite negative => cases negative <;> exact ⟨by decide, nofun⟩
        | nan => exact ⟨by decide, nofun⟩
  intro h
  cases m with
  | int i =>
      rw [← h] at hletter
      rcases isDigit_of_mem_decimalText hletter.1 with hminus | hdigit
      · cases hminus
      · exact absurd hdigit (by decide)
  | float x =>
      refine hletter.2 (.float x) ?_
      rw [← h]
      exact Number.parse_text hm rfl

/-- A single length is measured exactly if its number is finite. -/
theorem measured_px_iff (n : Number) : Measured n.px.toList ↔ n.isFinite = true := by
  have hchars : n.px.toList = n.settle.text.toList ++ pixels := String.toList_append
  have hunit : ∀ c ∈ pixels, isGap c = false :=
    List.forall_mem_cons.mpr ⟨rfl, List.forall_mem_singleton.mpr rfl⟩
  have hgap : ∀ c ∈ n.px.toList, isGap c = false := by
    rw [hchars, List.forall_mem_append]
    exact ⟨fun c hc => noGap_of_isNumeric (Number.isNumeric_of_mem_text hc), hunit⟩
  rw [measured_of_noGap hgap, hchars]
  constructor
  · intro h
    obtain ⟨m, hm, htext⟩ := h (List.suffix_append _ _)
    by_contra hn
    have hsettle : n.settle = n := by
      cases n with
      | int i => rfl
      | float x => cases x <;> first | rfl | exact absurd rfl hn
    rw [hsettle] at htext
    exact Number.text_ne_text (Bool.eq_false_of_not_eq_true hn) hm
      (String.toList_inj.mp (List.append_cancel_right htext)).symm
  · exact fun h _ => ⟨n.settle, Number.isFinite_settle h, rfl⟩

end ScreenDesign
