import ScreenDesign.Outline
import ScreenDesign.Proofs.CommandLine.Sanitized
import ScreenDesign.Proofs.SameContent

/-!
# Arrows of outlines

The outline of a screen shows an arrow behind a button that leads somewhere.  It goes by the
member under the key of the target as it stands, while the preview and the program go by the
record (`Element.target?`).

*Members.*  A text is shown as the target that it is.  A number is shown with its own text, and it
is the target with the text of its whole number: `16.0` leads to `16`, and zero, which does not
count as given, leads to `0`.  A number that is not finite, a truth value, a list and an object are
no targets at all (`Json.shown?_eq_target?_iff`).

*Buttons.*  So the outline shows where a button leads exactly if its member is shown as the target
that it is, or if it has neither a member nor a target under the second name
(`Element.shownTarget?_eq_target?_iff`).  A button that was sanitized or placed has a text there,
so its arrow is right (`Element.showsTarget_of_stable`).  The rest is one arrow for the shown
target (`Outline.getLast?_details_iff`) and one route for the target of the record
(`Dart.routes_of_widget`).
-/

namespace ScreenDesign

namespace Json

/-! ## Members -/

/-- The text that an outline shows for a member, if the member counts as given. -/
def shown? (j : Json) : Option String := if j.isTruthy then some j.shown else none

/-- The target that a member gives in a record. -/
def target? : Json → Option String
  | .text s => nonEmpty? s
  | .number n => (Json.number n).toText?
  | _ => none

/-- Whether a member is shown as the target that it gives. -/
def showsTarget : Json → Bool
  | .null => true
  | .bool b => !b
  | .number (.int n) => n != 0
  | .number (.float x) => x.isFinite && x.whole?.isNone
  | .text _ => true
  | .list items => items.isEmpty
  | .object members => members.isEmpty

theorem shown_number (n : Number) : (Json.number n).shown = n.text := String.ofList_toList

/-- A number gives the text of its whole number, if it is finite. -/
theorem target?_number (n : Number) :
    (Json.number n).target? = if n.isFinite then some n.settle.text else none := by
  rw [target?, toText?, toNumber?, finiteNumber?]
  split <;> rfl

theorem shown?_number (n : Number) :
    (Json.number n).shown? = if n.isZero then none else some n.text := by
  rw [shown?, shown_number, isTruthy]
  cases n.isZero <;> rfl

/-- A binary64 number that is whole is never shown as its target, because its point is shown. -/
theorem shown?_ne_target?_of_whole? {x : Binary64} {k : Int} (h : x.whole? = some k) :
    (Json.number (.float x)).shown? ≠ (Json.number (.float x)).target? := by
  have hfinite : (Number.float x).isFinite = true := Binary64.isFinite_of_whole? h
  have hsettle : (Number.float x).settle = .int k := by rw [Number.settle, h]
  rw [target?_number, if_pos hfinite, hsettle, shown?_number]
  split
  · exact (Option.some_ne_none _).symm
  · intro hsame
    have hbrief : (Number.int k).isBrief = true := hsettle ▸ Number.isBrief_settle rfl
    cases Number.text_inj hfinite rfl rfl hbrief (Option.some.inj hsame)

/-- The two are the same exactly for members that are shown as their targets. -/
theorem shown?_eq_target?_iff (j : Json) : j.shown? = j.target? ↔ j.showsTarget = true := by
  cases j with
  | null => exact ⟨fun _ => rfl, fun _ => rfl⟩
  | bool b => cases b <;> decide
  | text s =>
      refine ⟨fun _ => rfl, fun _ => ?_⟩
      rw [shown?, target?, nonEmpty?, isTruthy, shown]
      cases s.isEmpty <;> rfl
  | list items => cases items <;> simp [shown?, target?, showsTarget, isTruthy]
  | object members => cases members <;> simp [shown?, target?, showsTarget, isTruthy]
  | number n =>
      cases n with
      | int n =>
          have htarget : (Json.number (.int n)).target? = some (Number.text (.int n)) :=
            target?_number _
          rw [htarget, shown?_number, Number.isZero, showsTarget]
          by_cases hzero : n = 0 <;> simp [hzero]
      | float x =>
          rw [showsTarget, Bool.and_eq_true, Option.isNone_iff_eq_none]
          cases hwhole : x.whole? with
          | some k =>
              refine iff_of_false (shown?_ne_target?_of_whole? hwhole) fun h => ?_
              cases h.2
          | none =>
              have hzero : (Number.float x).isZero = false := by rw [Number.isZero, hwhole]; rfl
              have hsettle : (Number.float x).settle = .float x := by rw [Number.settle, hwhole]
              rw [shown?_number, hzero, if_neg Bool.false_ne_true, target?_number, hsettle,
                Number.isFinite]
              cases x.isFinite <;> simp

end Json

/-! ## Buttons -/

namespace Element

variable {e : Element}

/-- The target that the outline shows for a button. -/
def shownTarget? (e : Element) : Option String :=
  (Entries.get? e.properties "navigateTo").bind Json.shown?

/-- Whether the outline shows where a button leads. -/
def showsTarget (e : Element) : Bool :=
  match Entries.get? e.properties "navigateTo" with
  | some j => j.showsTarget
  | none => e.hiddenTarget?.isNone

/-- A member under the key gives the target. -/
theorem target?_of_get? (hbutton : e.type = .button) {j : Json}
    (hget : Entries.get? e.properties "navigateTo" = some j) : e.target? = j.target? := by
  rw [target?, Finding.rawTarget?, hiddenTarget?, if_pos hbutton, if_pos hbutton, hget]
  cases j with
  | text s =>
      rw [Json.target?, nonEmpty?]
      exact Option.or_none
  | _ => rfl

/-- Without one, the target is hidden. -/
theorem target?_of_get?_none (hbutton : e.type = .button)
    (hget : Entries.get? e.properties "navigateTo" = none) : e.target? = e.hiddenTarget? := by
  rw [target?, Finding.rawTarget?, if_pos hbutton, hget]
  rfl

/-- The outline shows where a button leads exactly if the member, or the lack of it, says so. -/
theorem shownTarget?_eq_target?_iff (hbutton : e.type = .button) :
    e.shownTarget? = e.target? ↔ e.showsTarget = true := by
  rw [shownTarget?, showsTarget]
  cases hget : Entries.get? e.properties "navigateTo" with
  | some j =>
      rw [target?_of_get? hbutton hget, Option.bind_some]
      exact Json.shown?_eq_target?_iff j
  | none =>
      rw [target?_of_get?_none hbutton hget, Option.bind_none, Option.isNone_iff_eq_none]
      exact eq_comm

/-- The target of a button that was sanitized or placed is a text. -/
theorem showsTarget_of_stable (h : e.Stable) (hbutton : e.type = .button) :
    e.showsTarget = true := by
  obtain ⟨s, hget⟩ := Finding.exists_navigateTo h hbutton
  rw [showsTarget, hget]
  rfl

end Element

/-! ## Outlines -/

namespace Outline

/-- The line of an element hangs on its connector. -/
theorem getElem?_elementLines (es : List Element) (i : Nat) :
    (elementLines es)[i]? = es[i]?.map fun e =>
      (if i + 1 = es.length then "└── " else "├── ") ++ elementLine e := by
  induction es generalizing i with
  | nil => rfl
  | cons e es ih =>
      rw [elementLines]
      cases i with
      | zero =>
          rw [List.getElem?_cons_zero, List.getElem?_cons_zero, Option.map_some]
          cases es <;> simp
      | succ i =>
          rw [List.getElem?_cons_succ, List.getElem?_cons_succ, ih, List.length_cons]
          simp

/-- The arrow of a button is that of the shown target. -/
theorem arrow_eq {e : Element} (hbutton : e.type = .button) :
    arrow e = (e.shownTarget?.map ("-> " ++ ·)).toList := by
  rw [arrow, Element.shownTarget?]
  cases Entries.get? e.properties "navigateTo" with
  | none => simp [Json.isTruthy]
  | some j =>
      rw [Option.bind_some, Json.shown?, Option.getD_some]
      cases j.isTruthy <;> simp [hbutton]

/-- The place of an element is no arrow, as it begins with a number. -/
theorem place_ne_arrow (n : Int) (rest t : String) :
    decimalText n ++ ("x" ++ rest) ≠ "-> " ++ t := by
  intro h
  have hchars := congrArg (fun s => s.toList.dropWhile isNumeric) h
  simp only [String.toList_append] at hchars
  rw [List.dropWhile_append_of_pos (List.all_eq_true.mp (all_isNumeric_decimalText n))] at hchars
  cases hchars

/-- The details of a button end with an arrow exactly if it has a shown target. -/
theorem getLast?_details_iff {e : Element} (hbutton : e.type = .button) (t : String) :
    (details e).getLast? = some ("-> " ++ t) ↔ e.shownTarget? = some t := by
  rw [details, arrow_eq hbutton]
  cases e.shownTarget? with
  | none =>
      refine iff_of_false (fun h => ?_) nofun
      have hplace := Option.some.inj h
      simp only [String.append_assoc] at hplace
      exact place_ne_arrow e.width _ t hplace
  | some u =>
      rw [Option.map_some, Option.toList_some, List.getLast?_concat, Option.some_inj,
        Option.some_inj, String.append_right_inj]

end Outline

/-! ## Routes -/

/-- A button shows the target of its record. -/
theorem Element.content_of_button {e : Element} (hbutton : e.type = .button)
    (distinct : (Entries.keys e.properties).Nodup) {c : Content} (hc : e.content.result = .ok c) :
    ∃ b : Content.Button, c = .button b ∧ b.target = e.target? := by
  rw [Element.content, Logged.result_bind, bind_eq_ok] at hc
  obtain ⟨r, hr, hc⟩ := hc
  rw [hbutton] at hc
  cases hc
  exact ⟨_, rfl, Dart.nonEmpty?_text hbutton distinct hr⟩

/-- The preview of a button carries this target. -/
theorem Element.target_of_preview {e : Element} (hbutton : e.type = .button)
    (distinct : (Entries.keys e.properties).Nodup) {theme : Theme} {n : Node}
    (hn : (e.preview theme).result = .ok n) :
    n.tag = "button" ∧ ∀ t, n.attrs.get? "navigateTo" = some (.text t) ↔ e.target? = some t := by
  rw [Element.preview, Logged.result_bind, bind_eq_ok] at hn
  obtain ⟨c, hc, hn⟩ := hn
  obtain ⟨b, rfl, htarget⟩ := content_of_button hbutton distinct hc
  cases hn
  rw [← htarget]
  refine ⟨rfl, fun t => ?_⟩
  have hattrs : (Paint.button b).attrs =
      (b.target.map fun target => ("navigateTo", Json.text target)).toList := by
    rw [Paint.button]
    cases b.target <;> rfl
  rw [hattrs]
  cases b.target with
  | none =>
      refine iff_of_false (fun h => ?_) (fun h => ?_)
      · cases h
      · cases h
  | some target =>
      rw [Option.some_inj]
      exact Option.some_inj.trans ⟨Json.text.inj, congrArg Json.text⟩

/-- The widget of a button has one route for this target. -/
theorem Dart.routes_of_widget {e : Element} (hbutton : e.type = .button)
    (distinct : (Entries.keys e.properties).Nodup) {index : Int} {l : Layout}
    (hl : (elementWidget index e).result = .ok l) :
    ∃ xs, scan (sourceText [l]) = some xs ∧
      Sight.routes (sights xs) = (e.target?.map ("/" ++ ·)).toList := by
  obtain ⟨c, hc, hwidget⟩ := exists_content hl
  have hread := sights_lexemes (iconName_of_mem_iconNames hc) hwidget
  obtain ⟨b, rfl, htarget⟩ := Element.content_of_button hbutton distinct hc
  refine ⟨lexemes [l], scan_elementWidget hl, ?_⟩
  rw [hread, Sight.routes, Sight.filterMap_unbroken _ fun _ => rfl, Content.sights, htarget]
  cases e.target? <;> rfl

/-! ## Arrows and routes -/

namespace Outline

open Dart (elementWidget scan sights sourceText)

/-- What the outline of a screen shows for a button, and where it leads.  Its line has its details
in brackets, and they end with an arrow exactly if the member under the key of the target counts as
given.  Whenever there is a widget, it has the one route of the target of the record, or none, and
whenever there is a preview, it carries the same target.  The arrow is right exactly if the member
is shown as its target, or if it has neither a member nor a target under the second name. -/
theorem arrow_and_target {s : Screen} {i : Nat} {e : Element} (he : s.elements[i]? = some e)
    (hbutton : e.type = .button) (distinct : (Entries.keys e.properties).Nodup) :
    (elementLines s.elements)[i]? =
        some ((if i + 1 = s.elements.length then "└── " else "├── ") ++
          (e.id ++ " [" ++ ", ".intercalate (details e) ++ "]")) ∧
      (∀ t, (details e).getLast? = some ("-> " ++ t) ↔ e.shownTarget? = some t) ∧
      (∀ index l, (elementWidget index e).result = .ok l → ∃ xs, scan (sourceText [l]) = some xs ∧
        Sight.routes (sights xs) = (e.target?.map ("/" ++ ·)).toList) ∧
      (∀ dark n, (e.preview (Theme.of dark)).result = .ok n → n.tag = "button" ∧
        ∀ t, n.attrs.get? "navigateTo" = some (.text t) ↔ e.target? = some t) ∧
      ((∀ t, (details e).getLast? = some ("-> " ++ t) ↔ e.target? = some t) ↔
        e.showsTarget = true) := by
  refine ⟨?_, getLast?_details_iff hbutton, fun index l => Dart.routes_of_widget hbutton distinct,
    fun dark n => Element.target_of_preview hbutton distinct, ?_⟩
  · rw [getElem?_elementLines, he]
    rfl
  · simp only [getLast?_details_iff hbutton]
    rw [← Element.shownTarget?_eq_target?_iff hbutton]
    exact ⟨Option.ext, fun h t => by rw [h]⟩

/-- A button whose bag has one member. -/
def arrowButton (target : Json) : Element :=
  ⟨"go", .button, 120, 420, 120, 40, [("navigateTo", target)]⟩

theorem arrow_and_target_home :
    ofScreen ⟨"s", "S", [arrowButton (.text "home")]⟩ =
        "S [s, 1 element]\n└── go [button, 120x40 @ (120, 420), -> home]" ∧
      (∃ l xs, (elementWidget 0 (arrowButton (.text "home"))).result = .ok l ∧
        scan (sourceText [l]) = some xs ∧ Sight.routes (sights xs) = ["/home"]) ∧
      ∀ t, (details (arrowButton (.text "home"))).getLast? = some ("-> " ++ t) ↔
        (arrowButton (.text "home")).target? = some t := by
  obtain ⟨-, -, hroutes, -, harrow⟩ :=
    @arrow_and_target ⟨"s", "S", [arrowButton (.text "home")]⟩ 0 _ rfl rfl (by decide)
  obtain ⟨l, hl⟩ : ∃ l, (elementWidget 0 (arrowButton (.text "home"))).result = .ok l := ⟨_, rfl⟩
  obtain ⟨xs, hscan, hxs⟩ := hroutes 0 l hl
  exact ⟨by decide +kernel, ⟨l, xs, hl, hscan, hxs⟩, harrow.mpr (by decide)⟩

/-- A button with a zero has no arrow and leads to a route, and one with a truth value has an
arrow and leads nowhere. -/
theorem arrow_of_other_target :
    ofScreen ⟨"s", "S", [arrowButton (.int 0)]⟩ =
        "S [s, 1 element]\n└── go [button, 120x40 @ (120, 420)]" ∧
      (∃ l xs, (elementWidget 0 (arrowButton (.int 0))).result = .ok l ∧
        scan (sourceText [l]) = some xs ∧ Sight.routes (sights xs) = ["/0"]) ∧
      ofScreen ⟨"s", "S", [arrowButton (.bool true)]⟩ =
        "S [s, 1 element]\n└── go [button, 120x40 @ (120, 420), -> True]" ∧
      ∃ l xs, (elementWidget 0 (arrowButton (.bool true))).result = .ok l ∧
        scan (sourceText [l]) = some xs ∧ Sight.routes (sights xs) = [] := by
  have hroutes {target : Json}
      (hwidget : ∃ l, (elementWidget 0 (arrowButton target)).result = .ok l) :
      ∃ l xs, (elementWidget 0 (arrowButton target)).result = .ok l ∧
        scan (sourceText [l]) = some xs ∧
        Sight.routes (sights xs) = (target.target?.map ("/" ++ ·)).toList := by
    obtain ⟨l, hl⟩ := hwidget
    have distinct : (Entries.keys (arrowButton target).properties).Nodup :=
      List.nodup_singleton "navigateTo"
    obtain ⟨xs, hscan, hxs⟩ := Dart.routes_of_widget rfl distinct hl
    rw [Element.target?_of_get? (j := target) rfl rfl] at hxs
    exact ⟨l, xs, hl, hscan, hxs⟩
  exact ⟨by decide +kernel, hroutes ⟨_, rfl⟩, by decide +kernel, hroutes ⟨_, rfl⟩⟩

end Outline

end ScreenDesign
