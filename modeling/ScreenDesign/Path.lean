import ScreenDesign.Failure

/-!
# Paths

A path is a root and a list of parts.  Reading a path drops empty parts and single
dots and keeps double dots.  Three or more slashes in front count as one, while
exactly two are kept apart.

A path whose first part is a tilde starts at the home directory.
-/

namespace ScreenDesign

structure Path where
  /-- The number of slashes in front: none, one or two. -/
  slashes : Nat
  /-- The parts between slashes. -/
  parts : List String
  deriving DecidableEq

namespace Path

/-- The path that a text writes. -/
def ofText (s : String) : Path :=
  let front := (s.toList.takeWhile (· = '/')).length
  ⟨if front ≤ 2 then front else 1,
    ((Text.runs (· ≠ '/') s.toList).map String.ofList).filter (· ≠ ".")⟩

/-- A path as text.  The path without root and parts is a dot. -/
def text (p : Path) : String :=
  let s := String.ofList (List.replicate p.slashes '/') ++ "/".intercalate p.parts
  if s.isEmpty then "." else s

/-- Whether a path starts at a root. -/
def isAbsolute (p : Path) : Bool := p.slashes ≠ 0

/-- A path continued by another one.  An absolute path stands alone. -/
def join (base p : Path) : Path :=
  if p.isAbsolute then p else ⟨base.slashes, base.parts ++ p.parts⟩

/-- A path without its last part. -/
def parent (p : Path) : Path := ⟨p.slashes, p.parts.dropLast⟩

/-- A home directory without slashes at its end. -/
def homeText (home : String) : String :=
  let cs := (home.toList.reverse.dropWhile (· = '/')).reverse
  if cs.isEmpty then "/" else String.ofList cs

/-- Whether a text starts with a tilde. -/
def startsAtTilde (s : String) : Bool := s.toList.head? = some '~'

/-- A path with a tilde at its start replaced by the home directory.  The homes of
others are not known. -/
def expandHome (home : Option String) (p : Path) : Except Failure Path :=
  match p.slashes, p.parts with
  | 0, first :: rest =>
      if startsAtTilde first then
        match (if first = "~" then home.map homeText else none) with
        | some h =>
            if startsAtTilde h then .error .noHome else .ok (join (ofText h) ⟨0, rest⟩)
        | none => .error .noHome
      else .ok p
  | _, _ => .ok p

example : (ofText "a//./b/../c/").text = "a/b/../c" := by decide +kernel

example : [(ofText "").text, (ofText "//a").text, (ofText "///a").text] = [".", "//a", "/a"] := by
  decide +kernel

end Path

end ScreenDesign
