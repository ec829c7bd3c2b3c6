import ScreenDesign.Proofs.Dart.Generation
import ScreenDesign.Proofs.FieldReading
import ScreenDesign.Proofs.Findings
import ScreenDesign.Proofs.Number.Text

/-!
# Findings and warnings on broken links

A check of a design and its program both report the buttons that lead to no screen.  The
check looks at the member under the key of the target, and only at texts.  The program goes
by the record, which reads more.  So there are targets that only the program sees
(`Element.hiddenTarget?`).

* A number under the key is no text, so the bag is coerced, and the target is the text of the
  number.
* Without that key, a text under the second name is the target, if the whole bag reads.

The target of an element in a program is the one that the check sees, or else the hidden one
(`result_target?`).  The warnings of a design are then one `filterMap` over its elements, and so
are its findings on links, so the comparison is one of two functions on elements
(`filterMap_eq_filterMap_iff`): a finding is always a warning, with the same message, and the two
lists are equal exactly if each hidden target is a screen.
-/

namespace ScreenDesign

/-! ## Targets -/

/-- The field of a button with its target. -/
def Field.navigateTo : Field := .text "navigateTo" "navigate_to" ""

theorem Field.navigateTo_mem : navigateTo ∈ ComponentType.button.fields := by decide

theorem nonEmpty?_of_ne {s : String} (h : s ≠ "") : nonEmpty? s = some s := by
  rw [nonEmpty?, if_neg (by simpa using h)]

namespace Element

/-- The target of a button that only its record has. -/
def hiddenTarget? (e : Element) : Option String :=
  if e.type = .button then
    match Entries.get? e.properties "navigateTo" with
    | some (.number n) => (Json.number n).toText?
    | some _ => none
    | none =>
        match Entries.get? e.properties "navigate_to" with
        | some (.text s) => if e.type.reads e.properties then nonEmpty? s else none
        | _ => none
  else none

/-- The target of a button: the one that a check sees, or else the hidden one. -/
def target? (e : Element) : Option String := (Finding.rawTarget? e).or e.hiddenTarget?

/-- A button has at most one of the two targets. -/
theorem hiddenTarget?_of_rawTarget? {e : Element} {s : String}
    (h : Finding.rawTarget? e = some s) : e.hiddenTarget? = none := by
  rw [Finding.rawTarget?] at h
  split at h
  case isTrue hbutton =>
      rw [hiddenTarget?, if_pos hbutton]
      split at h
      case h_1 s' hget => rw [hget]
      case h_2 => cases h
  case isFalse => cases h

end Element

namespace Field

variable {bag : Bag}

/-- A text under the key is the target. -/
theorem typedIn_navigateTo_of_text {s : String}
    (hget : Entries.get? bag "navigateTo" = some (.text s)) :
    navigateTo.typedIn .button bag = .text s :=
  typedIn_of_steady (f := navigateTo) hget rfl rfl

/-- Any other member under the key is coerced. -/
theorem typedIn_navigateTo_of_error {j : Json} {faults : List Mismatch}
    (hget : Entries.get? bag "navigateTo" = some j)
    (hread : FieldValue.readText j = .error faults) :
    navigateTo.typedIn .button bag = .text (j.toText?.getD "") := by
  have herror : navigateTo.read bag = Checked.below (.member "navigateTo") (.error faults) := by
    rw [read_of_get? (f := navigateTo) hget]
    exact congrArg (Checked.below (.member "navigateTo")) hread
  have hcoerced : navigateTo.coercedIn bag = ((j.toText?).map .text).getD (.text "") := by
    rw [coercedIn]
    simp only [navigateTo, Field.text, hget, Option.bind_some, FieldKind.take?]
  rw [typedIn_of_error navigateTo_mem herror, hcoerced]
  cases j.toText? <;> rfl

/-- Without the key, the member under the second name is read in its place. -/
theorem read_navigateTo_of_none (hget : Entries.get? bag "navigateTo" = none) :
    navigateTo.read bag = ((Entries.get? bag "navigate_to").map fun j =>
      (FieldValue.readText j).below (.member "navigate_to")).getD (.ok (.text "")) := by
  rw [read, given?]
  simp only [navigateTo, Field.text, hget]
  cases Entries.get? bag "navigate_to" <;> rfl

theorem coercedIn_navigateTo_of_none (hget : Entries.get? bag "navigateTo" = none) :
    navigateTo.coercedIn bag = .text "" := by
  rw [coercedIn]
  simp only [navigateTo, Field.text, hget, Option.bind_none, Option.getD_none]

/-- Then a text is the target if the whole bag reads. -/
theorem typedIn_navigateTo_of_name {s : String} (hget : Entries.get? bag "navigateTo" = none)
    (hname : Entries.get? bag "navigate_to" = some (.text s)) :
    navigateTo.typedIn .button bag =
      .text (if ComponentType.button.reads bag then s else "") := by
  rw [typedIn, coercedIn_navigateTo_of_none hget, valueIn, read_navigateTo_of_none hget, hname]
  cases ComponentType.button.reads bag <;> rfl

/-- There is no target if it is anything else. -/
theorem typedIn_navigateTo_of_other (hget : Entries.get? bag "navigateTo" = none)
    (hname : ∀ s, Entries.get? bag "navigate_to" ≠ some (.text s)) :
    navigateTo.typedIn .button bag = .text "" := by
  rw [typedIn, coercedIn_navigateTo_of_none hget, valueIn, read_navigateTo_of_none hget]
  cases hj : Entries.get? bag "navigate_to" with
  | none => exact ite_self _
  | some j =>
      cases j with
      | text s => exact absurd hj (hname s)
      | _ => exact ite_self _

end Field

namespace Dart

variable {e : Element}

/-- The text that a record has under a key. -/
theorem text_navigateTo (hbutton : e.type = .button) (distinct : (Entries.keys e.properties).Nodup)
    {r : Record} (hr : e.record.result = .ok r) {s : String}
    (h : Field.navigateTo.typedIn .button e.properties = .text s) : r.text "navigateTo" = s := by
  have hvalue := Element.value?_of_record (f := Field.navigateTo)
    (hbutton ▸ Field.navigateTo_mem) distinct hr
  rw [hbutton, h] at hvalue
  rw [Record.text, show r.value? "navigateTo" = some (.text s) from hvalue]

theorem nonEmpty?_getD_text (n : Number) :
    nonEmpty? ((Json.number n).toText?.getD "") = (Json.number n).toText? := by
  rw [Json.toText?]
  cases (Json.number n).toNumber? with
  | none => rfl
  | some m => exact nonEmpty?_of_ne m.text_ne_empty

/-- The target that the record of a button has. -/
theorem nonEmpty?_text (hbutton : e.type = .button) (distinct : (Entries.keys e.properties).Nodup)
    {r : Record} (hr : e.record.result = .ok r) :
    nonEmpty? (r.text "navigateTo") = e.target? := by
  have htext {s : String} := text_navigateTo (s := s) hbutton distinct hr
  rw [Element.target?, Finding.rawTarget?, Element.hiddenTarget?, if_pos hbutton, if_pos hbutton]
  cases hget : Entries.get? e.properties "navigateTo" with
  | some j =>
      cases j with
      | text s =>
          rw [htext (Field.typedIn_navigateTo_of_text hget), nonEmpty?]
          exact (Option.or_none).symm
      | number n =>
          rw [htext (Field.typedIn_navigateTo_of_error hget rfl)]
          exact nonEmpty?_getD_text n
      | _ =>
          rw [htext (Field.typedIn_navigateTo_of_error hget rfl)]
          rfl
  | none =>
      cases hname : Entries.get? e.properties "navigate_to" with
      | none =>
          have hother (s : String) : Entries.get? e.properties "navigate_to" ≠ some (.text s) := by
            simp [hname]
          rw [htext (Field.typedIn_navigateTo_of_other hget hother)]
          rfl
      | some j =>
          cases j with
          | text s =>
              rw [htext (Field.typedIn_navigateTo_of_name hget hname), hbutton]
              cases ComponentType.button.reads e.properties <;> rfl
          | _ =>
              have hother (s : String) :
                  Entries.get? e.properties "navigate_to" ≠ some (.text s) := by
                simp [hname]
              rw [htext (Field.typedIn_navigateTo_of_other hget hother)]
              rfl

/-- The target of an element in a program. -/
theorem result_target? (distinct : (Entries.keys e.properties).Nodup) :
    (target? e).result = .ok e.target? := by
  by_cases hbutton : e.type = .button
  · obtain ⟨r, hr, -⟩ := e.exists_record
    rw [target?, if_pos hbutton, Logged.result_bind_of_ok hr, nonEmpty?_text hbutton distinct hr]
    rfl
  · rw [target?, Element.target?, Finding.rawTarget?, Element.hiddenTarget?, if_neg hbutton,
      if_neg hbutton, if_neg hbutton]
    rfl

/-! ## Warnings -/

/-- The target of an element that is none of the screens. -/
def brokenTarget? (screenIds : List String) (e : Element) : Option String :=
  e.target?.filter (· ∉ screenIds)

/-- The warning about an element of a screen with such a target. -/
def brokenWarning? (screenIds : List String) (s : Screen) (e : Element) : Option Warning :=
  (brokenTarget? screenIds e).map fun target => ⟨s.id, e.id, target⟩

/-- A warning for each element with such a target, in order. -/
def brokenWarnings (screens : List Screen) : List Warning :=
  screens.flatMap fun s => s.elements.filterMap (brokenWarning? (screens.map Screen.id) s)

/-- Every design has its warnings, and they are these. -/
theorem result_warnings {screens : List Screen}
    (distinct : ∀ s ∈ screens, ∀ e ∈ s.elements, (Entries.keys e.properties).Nodup) :
    (warnings screens).result = .ok (brokenWarnings screens) :=
  result_warnings_of fun s hs e he => result_target? (distinct s hs e he)

/-- What a check of the design would say in place of a warning. -/
def Warning.finding (w : Warning) : Finding := ⟨w.element, .brokenLink w.target⟩

end Dart

namespace Finding

/-! ## Findings -/

/-- The findings on buttons that lead to no screen. -/
def onLinks (findings : List Finding) : List Finding :=
  findings.filter fun f => f.problem.kind = "unresolved_navigation"

/-- The findings of a design on links, element by element. -/
theorem onLinks_ofDesign (screens : List Screen) :
    onLinks (ofDesign screens) =
      (screens.flatMap Screen.elements).filterMap (brokenLink? (screens.map Screen.id)) := by
  have hkind : onLinks (ofDesign screens) = ofKind "unresolved_navigation" (ofDesign screens) := rfl
  rw [hkind, ofDesign, ofKind_append, ofKind_of_kind kind_of_mem_repeats, if_neg (by decide),
    List.nil_append, ofKind_flatMap, List.filterMap_flatMap]
  exact congrArg (List.flatMap · screens) (funext fun s => ofKind_ofScreen_of_links s _)

end Finding

/-! ## The comparison -/

section

variable {α β : Type} {f g : α → Option β} {as : List α}

/-- A list keeps more with a function that has more results. -/
theorem filterMap_sublist_filterMap (h : ∀ a ∈ as, ∀ b, f a = some b → g a = some b) :
    (as.filterMap f).Sublist (as.filterMap g) := by
  induction as with
  | nil => exact List.Sublist.refl _
  | cons a as ih =>
      rw [List.forall_mem_cons] at h
      rw [List.filterMap_cons, List.filterMap_cons]
      cases hf : f a with
      | none =>
          cases g a with
          | none => exact ih h.2
          | some b => exact (ih h.2).cons b
      | some b =>
          rw [h.1 b hf]
          exact (ih h.2).cons_cons b

/-- It keeps the same exactly if the two functions agree on its members. -/
theorem filterMap_eq_filterMap_iff (h : ∀ a ∈ as, ∀ b, f a = some b → g a = some b) :
    as.filterMap f = as.filterMap g ↔ ∀ a ∈ as, f a = g a := by
  refine ⟨fun hsame => ?_, List.filterMap_congr⟩
  induction as with
  | nil => exact fun _ => nofun
  | cons a as ih =>
      rw [List.forall_mem_cons] at h ⊢
      rw [List.filterMap_cons, List.filterMap_cons] at hsame
      cases hf : f a with
      | none =>
          cases hg : g a with
          | none =>
              rw [hf, hg] at hsame
              exact ⟨rfl, ih h.2 hsame⟩
          | some b =>
              -- The longer list would be a part of the shorter one.
              rw [hf, hg] at hsame
              have hlength := (filterMap_sublist_filterMap h.2).length_le
              rw [show as.filterMap f = b :: as.filterMap g from hsame] at hlength
              exact absurd hlength (Nat.not_succ_le_self _)
      | some b =>
          have hg := h.1 b hf
          rw [hf, hg] at hsame
          exact ⟨hg.symm, ih h.2 (List.cons.inj hsame).2⟩

end

namespace Dart

/-- What a check would say about an element in place of its warning. -/
def brokenFinding? (screenIds : List String) (e : Element) : Option Finding :=
  (brokenTarget? screenIds e).map fun target => ⟨e.id, .brokenLink target⟩

/-- A finding on a link is also a warning, and each warning is a finding exactly if the hidden
target of the element, if it has one, is a screen. -/
theorem brokenLink?_eq_iff (screenIds : List String) (e : Element) :
    (∀ f, Finding.brokenLink? screenIds e = some f → brokenFinding? screenIds e = some f) ∧
      (Finding.brokenLink? screenIds e = brokenFinding? screenIds e ↔
        ∀ target, e.hiddenTarget? = some target → target ∈ screenIds) := by
  rw [Finding.brokenLink?, brokenFinding?, brokenTarget?, Element.target?]
  cases hraw : Finding.rawTarget? e with
  | some s =>
      rw [Element.hiddenTarget?_of_rawTarget? hraw]
      by_cases hmem : s ∈ screenIds <;> simp [Option.filter, hmem]
  | none =>
      cases e.hiddenTarget? with
      | none => simp
      | some s => by_cases hmem : s ∈ screenIds <;> simp [Option.filter, hmem]

/-- What a check finds on links and what a program warns of.  Every design has its warnings,
one for each button with a target that is no screen, in order, and each says what the finding
would say.  The findings are among them, in the same order.  The two lists are equal exactly if
each target that only the record of a button has is a screen, and then a valid design has no
warning. -/
theorem findings_and_warnings {screens : List Screen}
    (distinct : ∀ s ∈ screens, ∀ e ∈ s.elements, (Entries.keys e.properties).Nodup) :
    ∃ found, (warnings screens).result = .ok found ∧
      (∀ dark title p, (program dark title screens).result = .ok p → p.warnings = found) ∧
      (found = screens.flatMap fun s => s.elements.filterMap fun e =>
        (((Finding.rawTarget? e).or e.hiddenTarget?).filter (· ∉ screens.map Screen.id)).map
          fun target => ⟨s.id, e.id, target⟩) ∧
      (∀ w ∈ found, w.message = w.finding.problem.message) ∧
      (Finding.onLinks (Finding.ofDesign screens)).Sublist (found.map Warning.finding) ∧
      (Finding.onLinks (Finding.ofDesign screens) = found.map Warning.finding ↔
        ∀ s ∈ screens, ∀ e ∈ s.elements, ∀ target, e.hiddenTarget? = some target →
          target ∈ screens.map Screen.id) ∧
      (Finding.isValid screens = true →
        (found = [] ↔ ∀ s ∈ screens, ∀ e ∈ s.elements, ∀ target,
          e.hiddenTarget? = some target → target ∈ screens.map Screen.id)) := by
  have hfound := result_warnings distinct
  have hfindings : (brokenWarnings screens).map Warning.finding =
      (screens.flatMap Screen.elements).filterMap (brokenFinding? (screens.map Screen.id)) := by
    rw [brokenWarnings, List.map_flatMap, List.filterMap_flatMap]
    refine congrArg (List.flatMap · screens) (funext fun s => ?_)
    rw [List.map_filterMap]
    refine congrArg (List.filterMap · s.elements) (funext fun e => ?_)
    rw [brokenFinding?, brokenWarning?, Option.map_map]
    rfl
  have hmore : ∀ e ∈ screens.flatMap Screen.elements, ∀ f,
      Finding.brokenLink? (screens.map Screen.id) e = some f →
        brokenFinding? (screens.map Screen.id) e = some f :=
    fun e _ => (brokenLink?_eq_iff _ e).1
  have hsame : Finding.onLinks (Finding.ofDesign screens) =
      (screens.flatMap Screen.elements).filterMap (brokenFinding? (screens.map Screen.id)) ↔
        ∀ s ∈ screens, ∀ e ∈ s.elements, ∀ target, e.hiddenTarget? = some target →
          target ∈ screens.map Screen.id := by
    rw [Finding.onLinks_ofDesign, filterMap_eq_filterMap_iff hmore, List.forall_mem_flatMap]
    simp only [(brokenLink?_eq_iff _ _).2]
  refine ⟨_, hfound, fun dark title p hp => ?_, rfl, fun _ _ => rfl, ?_, ?_, fun hvalid => ?_⟩
  · exact Except.ok.inj ((warnings_of_program hp).symm.trans hfound)
  · rw [hfindings, Finding.onLinks_ofDesign]
    exact filterMap_sublist_filterMap hmore
  · rw [hfindings]
    exact hsame
  · have hnone : Finding.onLinks (Finding.ofDesign screens) = [] := by
      rw [List.isEmpty_iff.mp hvalid]
      rfl
    rw [← hsame, hnone, ← hfindings, @eq_comm _ [], List.map_eq_nil_iff]

/-- A design of one screen, with a button for each bag. -/
def linkDesign (bags : List Bag) : List Screen :=
  [⟨"home", "Home", bags.map fun bag => ⟨"go", .button, 20, 20, 120, 40, bag⟩⟩]

/-- The bag of a button with a target. -/
def linkBag (target : Json) : Bag := ComponentType.button.defaults.insert "navigateTo" target

/-- Two buttons lead to no screen, and the check misses the one with a number. -/
theorem findings_and_warnings_of_two_links :
    ∃ found,
      (warnings (linkDesign [linkBag (.int 42), linkBag (.text "away")])).result = .ok found ∧
      found = [⟨"home", "go", "42"⟩, ⟨"home", "go", "away"⟩] ∧
      Finding.onLinks (Finding.ofDesign (linkDesign [linkBag (.int 42), linkBag (.text "away")])) =
        [⟨"go", .brokenLink "away"⟩] := by
  obtain ⟨found, hfound, -, hall, -⟩ := @findings_and_warnings
    (linkDesign [linkBag (.int 42), linkBag (.text "away")]) (by decide)
  exact ⟨found, hfound, hall.trans (by decide +kernel), by decide +kernel⟩

/-- A valid design whose program warns of a link. -/
theorem valid_with_warning :
    Finding.isValid (linkDesign [linkBag (.int 42)]) = true ∧
      (warnings (linkDesign [linkBag (.int 42)])).result = .ok [⟨"home", "go", "42"⟩] := by
  refine ⟨by decide +kernel, ?_⟩
  have hfound := @result_warnings (linkDesign [linkBag (.int 42)]) (by decide)
  have hone : brokenWarnings (linkDesign [linkBag (.int 42)]) = [⟨"home", "go", "42"⟩] := by
    decide
  exact hfound.trans (congrArg Except.ok hone)

end Dart

end ScreenDesign
