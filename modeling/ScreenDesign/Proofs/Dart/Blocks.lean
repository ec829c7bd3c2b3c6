import ScreenDesign.Proofs.Dart.Nesting
import ScreenDesign.Proofs.Dart.Routes
import ScreenDesign.Proofs.Number.Whole

/-!
# The blocks of a screen

The widgets of a screen are read off the trees of its program, by the code in front of their
brackets (`children?`): in the class of its state, in the method that builds it, in the scaffold,
in the stack, the list of children.  A child is a block: a remark that starts with a type, and a
`Positioned` with four numbers for its place and size (`blockOf?`).

Each of these looks at one level of the trees only, at its *parts*, which end at commas, at
semicolons and behind braces.  So nothing inside of a child counts, and neither does a literal or
a remark, whatever is written in it.
-/

namespace ScreenDesign

/-- What is written about the place of an element: its type, and texts for its place and its
size. -/
structure Spot where
  kind : String
  left : String
  top : String
  width : String
  height : String
  deriving DecidableEq

namespace Dart

open Layout

/-! ## Parts -/

namespace Tree

/-- The code of a tree, without what is in brackets. -/
def code : Tree → List Char
  | .leaf (.code c) => [c]
  | .leaf _ => []
  | .group o _ => o :: (closing? o).toList

/-- A comma or a semicolon. -/
def isMark : Tree → Bool
  | .leaf (.code c) => c = ',' || c = ';'
  | _ => false

/-- A block in braces. -/
def isBraces : Tree → Bool
  | .group o _ => o = '\x7b'
  | _ => false

def isRemark : Tree → Bool
  | .leaf (.comment _) => true
  | _ => false

/-- Whether a part goes on behind a tree. -/
def isInner (t : Tree) : Bool := !t.isMark && !t.isBraces

end Tree

/-- The parts of trees.  `part` is what was read of the first one.  Remarks at the end are no
part. -/
def parts (part : List Tree) : List Tree → List (List Tree)
  | [] => if part.all Tree.isRemark then [] else [part]
  | t :: ts =>
      if t.isMark then part :: parts [] ts
      else if t.isBraces then (part ++ [t]) :: parts [] ts
      else parts (part ++ [t]) ts

/-! ## Reading -/

/-- What is in the brackets at the end of a part, if some code is all that stands in front. -/
def bodyOf? (front : List Char) (part : List Tree) : Option (List Tree) :=
  match part.getLast? with
  | some (.group _ body) => if part.dropLast.flatMap Tree.code = front then some body else none
  | _ => none

/-- What is in the brackets behind some code. -/
def inside? (front : List Char) (ts : List Tree) : Option (List Tree) :=
  (parts [] ts).findSome? (bodyOf? front)

/-- The code of a part behind a key. -/
def valueOf? (key : List Char) (part : List Tree) : Option String :=
  let code := part.flatMap Tree.code
  if key.isPrefixOf code then some (String.ofList (code.drop key.length)) else none

/-- The code of the argument with a key. -/
def value? (key : List Char) (ts : List Tree) : Option String :=
  (parts [] ts).findSome? (valueOf? key)

/-- What stands in front of the class of the state of a screen. -/
def stateHeader (name : String) : List Char :=
  ("class_" ++ name ++ "StateextendsState<" ++ name ++ ">").toList

/-- The children in the stack of a screen, in the class of its state. -/
def stackChildren? (state : List Tree) : Option (List Tree) := do
  let build ← inside? "@overrideWidgetbuild()".toList state
  let scaffold ← inside? "returnScaffold".toList build
  let stack ← inside? "body:Stack".toList scaffold
  inside? "children:".toList stack

/-- The children in the stack of the screen with a class. -/
def children? (name : String) (ts : List Tree) : Option (List Tree) :=
  (inside? (stateHeader name) ts).bind stackChildren?

/-- The first word of a remark. -/
def firstWord (s : String) : String :=
  String.ofList ((s.toList.dropWhile (· = ' ')).takeWhile (· ≠ ' '))

/-- The place that a block gives, with the type in the remark above it. -/
def blockOf? : List Tree → Option Spot
  | .leaf (.comment s) :: part => do
      let arguments ← bodyOf? "Positioned".toList part
      let left ← value? "left:".toList arguments
      let top ← value? "top:".toList arguments
      let width ← value? "width:".toList arguments
      let height ← value? "height:".toList arguments
      pure ⟨firstWord s, left, top, width, height⟩
  | _ => none

/-- The blocks among children.  Each child must be one. -/
def blocks? (children : List Tree) : Option (List Spot) := (parts [] children).mapM blockOf?

/-! ## Parts side by side -/

/-- Code without brackets as trees. -/
def leaves (cs : List Char) : List Tree := cs.map fun c => .leaf (.code c)

/-- A character of code that ends no part. -/
def isInnerChar (c : Char) : Bool := !isBracket c && c ≠ ',' && c ≠ ';'

/-- A character of a kind that brackets, commas and semicolons are not of. -/
theorem isInnerChar_of {p : Char → Bool}
    (h : ['(', ')', '[', ']', '\x7b', '\x7d', ',', ';'].all (!p ·) = true) {c : Char}
    (hc : p c = true) : isInnerChar c = true := by
  have hmem : c ∉ ['(', ')', '[', ']', '\x7b', '\x7d', ',', ';'] := by
    intro hmem
    have hnot := List.all_eq_true.mp h c hmem
    rw [hc] at hnot
    cases hnot
  simp only [List.mem_cons, List.not_mem_nil, or_false, not_or] at hmem
  simp [isInnerChar, isBracket, hmem]

theorem flatMap_code_leaves (cs : List Char) : (leaves cs).flatMap Tree.code = cs := by
  rw [leaves, List.flatMap_map]
  exact List.flatMap_singleton' cs

theorem all_isInner_leaves {cs : List Char} (h : cs.all isInnerChar = true) :
    (leaves cs).all Tree.isInner = true := by
  rw [leaves, List.all_map]
  refine List.all_eq_true.mpr fun c hc => ?_
  have hinner := List.all_eq_true.mp h c hc
  simp only [isInnerChar, Bool.and_eq_true, decide_eq_true_eq] at hinner
  simp [Tree.isInner, Tree.isMark, Tree.isBraces, hinner]

section

variable {front rest : List Tree} (h : front.all Tree.isInner = true)

include h

theorem parts_inner (part : List Tree) :
    parts part (front ++ rest) = parts (part ++ front) rest := by
  induction front generalizing part with
  | nil => rw [List.nil_append, List.append_nil]
  | cons t ts ih =>
      rw [List.all_cons, Bool.and_eq_true, Tree.isInner, Bool.and_eq_true, Bool.not_eq_true',
        Bool.not_eq_true'] at h
      obtain ⟨⟨hmark, hbraces⟩, hts⟩ := h
      rw [List.cons_append, parts, if_neg (by simp [hmark]), if_neg (by simp [hbraces]), ih hts,
        List.append_assoc]
      rfl

/-- A part up to a comma or a semicolon. -/
theorem parts_mark {t : Tree} (ht : t.isMark = true) :
    parts [] (front ++ t :: rest) = front :: parts [] rest := by
  rw [parts_inner h, parts, if_pos ht, List.nil_append]

/-- A part with braces at its end. -/
theorem parts_braces (body : List Tree) :
    parts [] (front ++ .group '\x7b' body :: rest) =
      (front ++ [.group '\x7b' body]) :: parts [] rest := by
  have hbraces : (Tree.group '\x7b' body).isBraces = true := rfl
  rw [parts_inner h, parts, if_neg (by simp [Tree.isMark]), if_pos hbraces, List.nil_append]

end

/-! ## Finding -/

theorem bodyOf?_group (key : List Char) (front : List Tree) (o : Char) (body : List Tree) :
    bodyOf? key (front ++ [.group o body]) =
      if front.flatMap Tree.code = key then some body else none := by
  simp [bodyOf?]

section

variable {key cs : List Char} {front rest body : List Tree}

/-- Braces behind the code that is looked for. -/
theorem inside?_braces_self (h : cs.all isInnerChar = true) :
    inside? cs (leaves cs ++ .group '\x7b' body :: rest) = some body := by
  rw [inside?, parts_braces (all_isInner_leaves h), List.findSome?_cons, bodyOf?_group,
    flatMap_code_leaves, if_pos rfl]

/-- Braces behind other code. -/
theorem inside?_braces_other (h : front.all Tree.isInner = true)
    (hne : front.flatMap Tree.code ≠ key) :
    inside? key (front ++ .group '\x7b' body :: rest) = inside? key rest := by
  rw [inside?, parts_braces h, List.findSome?_cons, bodyOf?_group, if_neg hne, inside?]

/-- Nothing is found in a text without brackets up to a semicolon. -/
theorem inside?_leaves (ls : List Lexeme) (rest : List Tree) :
    inside? key (ls.map .leaf ++ .leaf (.code ';') :: rest) = inside? key rest := by
  have hpart (part : List Lexeme) :
      (parts (part.map .leaf) (ls.map .leaf ++ .leaf (.code ';') :: rest)).findSome?
        (bodyOf? key) = inside? key rest := by
    have hnone (part : List Lexeme) : bodyOf? key (part.map .leaf) = none := by
      rw [bodyOf?, List.getLast?_map]
      cases part.getLast? <;> rfl
    induction ls generalizing part with
    | nil =>
        have hmark : (Tree.leaf (.code ';')).isMark = true := rfl
        rw [List.map_nil, List.nil_append, parts, if_pos hmark, List.findSome?_cons, hnone, inside?]
    | cons l ls ih =>
        rw [List.map_cons, List.cons_append, parts]
        split
        case isTrue =>
          rw [List.findSome?_cons, hnone]
          exact ih []
        case isFalse =>
          rw [if_neg (by simp [Tree.isBraces])]
          have := ih (part ++ [l])
          rwa [List.map_append] at this
  exact hpart []

/-- The value of an argument is found there or behind it. -/
theorem value?_argument (h : cs.all isInnerChar = true) (rest : List Tree) :
    value? key (leaves cs ++ .leaf (.code ',') :: rest) =
      (if key.isPrefixOf cs then some (String.ofList (cs.drop key.length)) else none).or
        (value? key rest) := by
  rw [value?, parts_mark (all_isInner_leaves h) rfl, List.findSome?_cons, valueOf?,
    flatMap_code_leaves, ← value?]
  split <;> rename_i heq <;> rw [heq] <;> rfl

end

end Dart

end ScreenDesign
