/-!
# Characters and runs of text

The classes of characters that the readers of this library speak about, and the
ways they cut a text.  Every function works on the list of characters of a text.

* `isWhite` is the white space of the Unicode standard.  `isBlank` is larger by
  the four information separators.
* `trimBy` takes a class off both ends.  `trim` is the trimming of blanks.
* `runs` gives the maximal runs of a class.  `words` are the runs without blanks.
* `lower` and `upper` change the ASCII letters.
-/

namespace ScreenDesign.Text

/-! ## Classes -/

/-- White space in the sense of the Unicode property of that name. -/
def isWhite (c : Char) : Bool :=
  let n := c.toNat
  (9 ≤ n && n ≤ 13) || n == 0x20 || n == 0x85 || n == 0xA0 || n == 0x1680 ||
    (0x2000 ≤ n && n ≤ 0x200A) || n == 0x2028 || n == 0x2029 || n == 0x202F ||
    n == 0x205F || n == 0x3000

/-- White space or one of the information separators `U+001C` to `U+001F`. -/
def isBlank (c : Char) : Bool :=
  isWhite c || (0x1C ≤ c.toNat && c.toNat ≤ 0x1F)

/-- An ASCII letter or digit. -/
def isAlphanumeric (c : Char) : Bool :=
  c.isAlpha || c.isDigit

/-- White space is blank. -/
theorem isBlank_of_isWhite {c : Char} (h : isWhite c = true) : isBlank c = true := by
  simp [isBlank, h]

/-! ## Trimming -/

/-- The characters between the first and the last one outside a class. -/
def trimBy (p : Char → Bool) (cs : List Char) : List Char :=
  ((cs.dropWhile p).reverse.dropWhile p).reverse

/-- A text without the blanks at its ends. -/
def trim (s : String) : String :=
  String.ofList (trimBy isBlank s.toList)

/-! ## Runs -/

/-- The run that is still open at the left end of a text, and the closed runs
after it. -/
def openRuns (p : Char → Bool) : List Char → List Char × List (List Char)
  | [] => ([], [])
  | c :: cs =>
      match openRuns p cs with
      | (run, closed) =>
          if p c then (c :: run, closed)
          else ([], if run.isEmpty then closed else run :: closed)
termination_by structural cs => cs

/-- The maximal runs of a class, from left to right. -/
def runs (p : Char → Bool) (cs : List Char) : List (List Char) :=
  match openRuns p cs with
  | (run, closed) => if run.isEmpty then closed else run :: closed

/-- The words of a text: its maximal runs without blanks. -/
def words (s : String) : List String :=
  (runs (fun c => !isBlank c) s.toList).map String.ofList

/-! ## Letter case -/

/-- A text with its ASCII letters in lower case. -/
def lower (s : String) : String :=
  String.ofList (s.toList.map Char.toLower)

/-- The ASCII capital of a letter.  The dotless `ı` and the long `ſ` have `I`
and `S` as their capitals too. -/
def capital (c : Char) : Char :=
  if c.toNat = 0x131 then 'I' else if c.toNat = 0x17F then 'S' else c.toUpper

/-- A text with the letters that have an ASCII capital in upper case. -/
def upper (s : String) : String :=
  String.ofList (s.toList.map capital)

end ScreenDesign.Text
