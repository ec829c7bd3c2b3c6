/-!
# Notices

Work on a design leaves notices: something was replaced, dropped or could not be
resolved.  A notice has a source, a level and a message.  Nothing is written
anywhere at this point.  A computation that leaves notices is its value together
with the list of them, in order.

`Noted` is that pair as a monad.  `value_bind` and `notices_bind` say how both
halves of a composed computation come from its parts.
-/

namespace ScreenDesign

/-- How much a notice matters. -/
inductive Level where
  | debug
  | info
  | warning
  | error
  deriving DecidableEq

namespace Level

/-- The name of a level. -/
def name : Level → String
  | .debug => "DEBUG"
  | .info => "INFO"
  | .warning => "WARNING"
  | .error => "ERROR"

/-- The rank of a level: a higher one matters more. -/
def rank : Level → Int
  | .debug => 10
  | .info => 20
  | .warning => 30
  | .error => 40

end Level

/-- The part of the program that a notice comes from. -/
inductive Source where
  | elements
  | structured
  | sanitizer
  | generator
  | settings
  | commands
  deriving DecidableEq

/-- The name that a source is shown with. -/
def Source.name : Source → String
  | .elements => "screenforge.ir.lib"
  | .structured => "screenforge.interpret.lib"
  | .sanitizer => "screenforge.sanitize.lib"
  | .generator => "screenforge.codegen.lib"
  | .settings => "screenforge.config.lib"
  | .commands => "cli"

/-- The name that notices without a source are shown with. -/
def Source.standardName : String := "screenforge"

structure Notice where
  /-- Where it comes from. -/
  source : Source
  /-- How much it matters. -/
  level : Level
  /-- What it says. -/
  message : String
  deriving DecidableEq

/-- A value with the notices that were left on the way to it. -/
structure Noted (α : Type) where
  /-- The value. -/
  value : α
  /-- The notices, oldest first. -/
  notices : List Notice

namespace Noted

variable {α β : Type}

instance : Monad Noted where
  pure a := ⟨a, []⟩
  bind x f := ⟨(f x.value).value, x.notices ++ (f x.value).notices⟩

/-- A computation that only leaves a notice. -/
def note (source : Source) (level : Level) (message : String) : Noted Unit :=
  ⟨(), [⟨source, level, message⟩]⟩

@[simp] theorem value_pure (a : α) : (pure a : Noted α).value = a := rfl

@[simp] theorem notices_pure (a : α) : (pure a : Noted α).notices = [] := rfl

@[simp] theorem value_bind (x : Noted α) (f : α → Noted β) :
    (x >>= f).value = (f x.value).value := rfl

@[simp] theorem notices_bind (x : Noted α) (f : α → Noted β) :
    (x >>= f).notices = x.notices ++ (f x.value).notices := rfl

end Noted

end ScreenDesign
