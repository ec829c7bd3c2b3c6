import ScreenDesign.Json.Basic
import ScreenDesign.Text.Hex

/-!
# Reading JSON

A text is read as one value with space around it.  The grammar is that of JSON
with the three words `NaN`, `Infinity` and `-Infinity` besides.  A number with a
point or an exponent is a binary64 number, any other one is a whole number.  Of
members with the same name the last value counts, at the place of the first one.

The reader works on the list of characters that are left.  A syntax error carries
the characters from the place of the error on, and only `parse` turns them into a
line, a column and an offset.  A whole number with too many digits is an error of
its own and has no place.

Values nest, so the reader takes fuel.  Each call below a value uses one unit, and
there are at most two calls for a character, so `parse` never runs out.
-/

namespace ScreenDesign.Json

/-! ## Errors -/

/-- What is wrong at a place of a text. -/
inductive Flaw where
  /-- The text starts with a byte order mark. -/
  | byteOrderMark
  /-- There is no value where one must stand. -/
  | value
  /-- There is no name where one must stand. -/
  | name
  /-- There is no colon after a name. -/
  | colon
  /-- There is no comma between two values. -/
  | comma
  /-- Something follows the value. -/
  | extra
  /-- A control character stands in a text. -/
  | control
  /-- A backslash escapes a character that has no escape. -/
  | escape
  /-- A numbered escape has not four hexadecimal digits. -/
  | codeUnit
  /-- A text has no end. -/
  | unterminated
  deriving DecidableEq

def Flaw.wording : Flaw → String
  | .byteOrderMark => "Unexpected UTF-8 BOM (decode using utf-8-sig)"
  | .value => "Expecting value"
  | .name => "Expecting property name enclosed in double quotes"
  | .colon => "Expecting ':' delimiter"
  | .comma => "Expecting ',' delimiter"
  | .extra => "Extra data"
  | .control => "Invalid control character at"
  | .escape => "Invalid \\escape"
  | .codeUnit => "Invalid \\uXXXX escape"
  | .unterminated => "Unterminated string starting at"

/-- Why reading stopped. -/
inductive Stop where
  /-- A flaw, with the characters from its place on. -/
  | flaw (found : Flaw) (rest : List Char)
  /-- A whole number with too many digits. -/
  | digits (count : Nat)
  deriving DecidableEq

/-- Why a text is no value. -/
inductive ReadError where
  /-- A flaw with its place: line and column from one, offset from zero. -/
  | malformed (found : Flaw) (line column offset : Nat)
  /-- A whole number with too many digits. -/
  | tooManyDigits (count : Nat)
  deriving DecidableEq

/-! ## Texts -/

/-- The number that four hexadecimal digits write. -/
def codeUnit? (a b c d : Char) : Option Nat :=
  match Text.hexValue? a, Text.hexValue? b, Text.hexValue? c, Text.hexValue? d with
  | some a, some b, some c, some d => some (((a.val * 16 + b.val) * 16 + c.val) * 16 + d.val)
  | _, _, _, _ => none

/-- The character that a letter after a backslash stands for. -/
def unescape? (c : Char) : Option Char :=
  if c = '\x22' ∨ c = '\\' ∨ c = '/' then some c
  else if c = 'b' then some '\x08'
  else if c = 'f' then some '\x0c'
  else if c = 'n' then some '\n'
  else if c = 'r' then some '\r'
  else if c = 't' then some '\t'
  else none

/-- The character of a code unit.  Half of a pair alone becomes the replacement
character. -/
def ofCodeUnit (n : Nat) : Char :=
  if 0xD800 ≤ n ∧ n ≤ 0xDFFF then '\ufffd' else Char.ofNat n

/-- The character of a pair of code units. -/
def ofPair (high low : Nat) : Char :=
  Char.ofNat (0x10000 + (high - 0xD800) * 0x400 + (low - 0xDC00))

/-- The second half of a pair: four digits after `\u`, with at least one more
character behind them.  The answer is the code unit and the rest, nothing if no
such escape follows, or the place of a bad digit. -/
def lowHalf : List Char → Except Stop (Option (Nat × List Char))
  | '\\' :: 'u' :: a :: b :: c :: d :: e :: rest =>
      match codeUnit? a b c d with
      | some low =>
          if 0xDC00 ≤ low ∧ low ≤ 0xDFFF then .ok (some (low, e :: rest)) else .ok none
      | none => .error (.flaw .codeUnit ('u' :: a :: b :: c :: d :: e :: rest))
  | _ => .ok none

/-- A text up to its closing quote, and what follows the quote.  `start` is the
opening quote with everything after it. -/
def textBody (start : List Char) : Nat → List Char → Except Stop (List Char × List Char)
  | 0, _ => .error (.flaw .unterminated start)
  | _ + 1, [] => .error (.flaw .unterminated start)
  | fuel + 1, c :: cs =>
      let continueWith (x : Char) (rest : List Char) : Except Stop (List Char × List Char) :=
        (textBody start fuel rest).map fun (xs, after) => (x :: xs, after)
      if c = '\x22' then .ok ([], cs)
      else if c = '\\' then
        match cs with
        | [] => .error (.flaw .unterminated start)
        | 'u' :: a :: b :: d :: e :: f :: rest =>
            match codeUnit? a b d e with
            | none => .error (.flaw .codeUnit cs)
            | some unit =>
                if 0xD800 ≤ unit ∧ unit ≤ 0xDBFF then
                  match lowHalf (f :: rest) with
                  | .error stop => .error stop
                  | .ok (some (low, after)) => continueWith (ofPair unit low) after
                  | .ok none => continueWith (ofCodeUnit unit) (f :: rest)
                else continueWith (ofCodeUnit unit) (f :: rest)
        | 'u' :: _ => .error (.flaw .codeUnit cs)
        | x :: rest =>
            match unescape? x with
            | some y => continueWith y rest
            | none => .error (.flaw .escape (c :: cs))
      else if c.toNat < 0x20 then .error (.flaw .control (c :: cs))
      else continueWith c cs
termination_by structural fuel _ => fuel

/-- The text after an opening quote, and what follows its closing quote. -/
def readText (start cs : List Char) : Except Stop (String × List Char) :=
  (textBody start (cs.length + 1) cs).map fun (xs, after) => (String.ofList xs, after)

/-! ## Numbers and words -/

/-- The digits before the point.  A zero stands alone. -/
def wholeDigits : List Char → List Char × List Char
  | '0' :: cs => (['0'], cs)
  | cs => Numeral.digits cs

/-- A point with at least one digit behind it: the digits and the rest. -/
def fractionDigits (cs : List Char) : List Char × List Char :=
  let (ds, rest) := Numeral.fraction cs
  if ds.isEmpty then ([], cs) else (ds, rest)

/-- An exponent with at least one digit, and the rest. -/
def exponentPart : List Char → Option Int × List Char
  | c :: cs =>
      if c = 'e' ∨ c = 'E' then
        let (negative, unsigned) := Numeral.sign cs
        let (ds, rest) := Numeral.digits unsigned
        if ds.isEmpty then (none, c :: cs)
        else (some (Binary64.signed negative (Numeral.ofDigits ds)), rest)
      else (none, c :: cs)
  | [] => (none, [])

/-- A number and what follows it. -/
def readNumber (cs : List Char) : Except Stop (Number × List Char) :=
  let (negative, unsigned) :=
    match cs with
    | '-' :: rest => (true, rest)
    | _ => (false, cs)
  let (whole, afterWhole) := wholeDigits unsigned
  let (part, afterPart) := fractionDigits afterWhole
  let (e, rest) := exponentPart afterPart
  if whole.isEmpty then .error (.flaw .value cs)
  else if part.isEmpty && e.isNone then
    if Numeral.maxDigits < whole.length then .error (.digits whole.length)
    else .ok (.int (Binary64.signed negative (Numeral.ofDigits whole)), afterWhole)
  else
    .ok (.float (Binary64.ofDecimal negative (Numeral.ofDigits (whole ++ part))
      (e.getD 0 - part.length)), rest)

/-- What follows a word, if the text starts with it. -/
def afterWord? : List Char → List Char → Option (List Char)
  | [], cs => some cs
  | w :: ws, c :: cs => if w = c then afterWord? ws cs else none
  | _ :: _, [] => none
termination_by structural ws => ws

def valueWords : List (String × Json) :=
  [("null", .null), ("true", .bool true), ("false", .bool false), ("NaN", .float .nan),
    ("Infinity", .float (.infinite false)), ("-Infinity", .float (.infinite true))]

/-- The value of the word that a text starts with, and the rest. -/
def readWord? (cs : List Char) : Option (Json × List Char) :=
  valueWords.findSome? fun (word, j) => (afterWord? word.toList cs).map fun rest => (j, rest)

/-! ## Values -/

/-- Whether a character is space between values. -/
def isSpace (c : Char) : Bool := c = ' ' || c = '\t' || c = '\n' || c = '\r'

/-- A text without the space at its front. -/
def skipSpace (cs : List Char) : List Char := cs.dropWhile isSpace

mutual

/-- A value and what follows it. -/
def readValue : Nat → List Char → Except Stop (Json × List Char)
  | 0, cs => .error (.flaw .value cs)
  | fuel + 1, cs =>
      match cs with
      | '\x22' :: rest => (readText cs rest).map fun (s, after) => (.text s, after)
      | '\x7b' :: rest =>
          match skipSpace rest with
          | '\x7d' :: after => .ok (.object [], after)
          | inside =>
              (readMembers fuel inside).map fun (ms, after) => (.object (Entries.ofPairs ms), after)
      | '[' :: rest =>
          match skipSpace rest with
          | ']' :: after => .ok (.list [], after)
          | inside => (readItems fuel inside).map fun (js, after) => (.list js, after)
      | _ =>
          match readWord? cs with
          | some found => .ok found
          | none => (readNumber cs).map fun (n, after) => (.number n, after)
termination_by structural fuel => fuel

/-- The items of a list that is not empty, and what follows its bracket. -/
def readItems : Nat → List Char → Except Stop (List Json × List Char)
  | 0, cs => .error (.flaw .value cs)
  | fuel + 1, cs =>
      match readValue fuel cs with
      | .error stop => .error stop
      | .ok (j, rest) =>
          match skipSpace rest with
          | ']' :: after => .ok ([j], after)
          | ',' :: more =>
              (readItems fuel (skipSpace more)).map fun (js, after) => (j :: js, after)
          | other => .error (.flaw .comma other)
termination_by structural fuel => fuel

/-- The members of an object that is not empty, and what follows its brace. -/
def readMembers : Nat → List Char → Except Stop (List (String × Json) × List Char)
  | 0, cs => .error (.flaw .name cs)
  | fuel + 1, cs =>
      match cs with
      | '\x22' :: inside =>
          match readText cs inside with
          | .error stop => .error stop
          | .ok (k, rest) =>
              match skipSpace rest with
              | ':' :: more =>
                  match readValue fuel (skipSpace more) with
                  | .error stop => .error stop
                  | .ok (j, rest) =>
                      match skipSpace rest with
                      | '\x7d' :: after => .ok ([(k, j)], after)
                      | ',' :: more =>
                          (readMembers fuel (skipSpace more)).map fun (ms, after) =>
                            ((k, j) :: ms, after)
                      | other => .error (.flaw .comma other)
              | other => .error (.flaw .colon other)
      | _ => .error (.flaw .name cs)
termination_by structural fuel => fuel

end

/-- The value that a whole text writes. -/
def readAll (cs : List Char) : Except Stop Json :=
  match cs with
  | '\ufeff' :: _ => .error (.flaw .byteOrderMark cs)
  | _ =>
      match readValue (2 * (cs.length + 1)) (skipSpace cs) with
      | .error stop => .error stop
      | .ok (j, rest) =>
          match skipSpace rest with
          | [] => .ok j
          | other => .error (.flaw .extra other)

/-- The place of an error in the text it was found in. -/
def Stop.locate (cs : List Char) : Stop → ReadError
  | .flaw found rest =>
      let before := cs.take (cs.length - rest.length)
      let line := before.count '\n' + 1
      let column := (before.reverse.takeWhile (· ≠ '\n')).length + 1
      .malformed found line column before.length
  | .digits count => .tooManyDigits count

/-- The value that a text writes. -/
def parse (s : String) : Except ReadError Json :=
  match readAll s.toList with
  | .ok j => .ok j
  | .error stop => .error (stop.locate s.toList)

def ReadError.message : ReadError → String
  | .malformed found line column offset =>
      found.wording ++ ": line " ++ line.repr ++ " column " ++ column.repr ++
        " (char " ++ offset.repr ++ ")"
  | .tooManyDigits count =>
      "Exceeds the limit (" ++ Numeral.maxDigits.repr ++
        " digits) for integer string conversion: value has " ++ count.repr ++
        " digits; use sys.set_int_max_str_digits() to increase the limit"

end ScreenDesign.Json
