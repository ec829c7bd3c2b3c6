import ScreenDesign.Preview.Canvas
import ScreenDesign.Proofs.Dart.Declarations
import ScreenDesign.Proofs.Dart.SightsWidget
import ScreenDesign.Proofs.Preview.Starts

/-!
# State variables

A screen declares a state variable for each interactive switch, check box and dropdown.  Which
variables there are is read off the declarations, and which ones a widget works with off its
snippet; both readers only know source text (`declaredIn`, `mentions`).

* The snippet of an element shows or sets exactly the variable that is declared for the element,
  and has no other name with an underscore in front (`OwnState`).
* What a control, a group of radio buttons or a dropdown starts with is what the preview shows
  (`SameStart`).
* The variables of a screen have different names, and each of them is used (`state_of_screen`).

Declarations and snippets are made in different places.  They agree because both are those of one
content, under the same index (`fieldOf_eq`).
-/

namespace ScreenDesign.Dart

open Layout

/-! ## Reading -/

/-- The word that is first given for the key `value`. -/
def firstValue? (ms : List Mention) : Option Word :=
  ms.findSome? fun | .value w => some w | _ => none

/-- The word that is first given for the key `groupValue`. -/
def firstGroup? (ms : List Mention) : Option Word :=
  ms.findSome? fun | .group w => some w | _ => none

/-- What a widget starts with: what its variable does, or else the first value in its snippet. -/
def start? (declared : Option Declaration) (ws : List Word) : Option Word :=
  match declared with
  | some d => some d.initial
  | none => firstValue? (mentions ws)

/-! ## Agreement -/

/-- The state variable of an element and the words of its widget. -/
structure OwnState (declared : Option Declaration) (ws : List Word) : Prop where
  /-- The widget shows or sets a variable just if the variable is declared for its element. -/
  used (v : String) (h : isPrivate v.toList = true) :
    (.value (.name v.toList) ∈ mentions ws ∨ .sets v ∈ mentions ws) ↔
      declared.map Declaration.name = some v
  /-- No other variable is named in the widget at all. -/
  known (cs : List Char) (h : isPrivate cs = true) (hcs : .name cs ∈ ws) :
    declared.map Declaration.name = some (String.ofList cs)

/-- The types of switches and check boxes. -/
def switches : List ComponentType := [.toggle, .checkbox, .toggleWithLabel, .checkboxWithLabel]

/-- The types of radio buttons. -/
def radios : List ComponentType := [.radio, .radioWithLabel]

/-- The program starts with what a preview of the element shows. -/
structure SameStart (e : Element) (declared : Option Declaration) (ws : List Word) (n : Node) :
    Prop where
  /-- A switch or check box starts on just if it is shown so. -/
  checked (h : e.type ∈ switches) :
    ∃ on, n.checks = [.bool on] ∧ start? declared ws = some (truthWord on)
  /-- A radio button starts as the one of its group just if it is shown so. -/
  chosen (h : e.type ∈ radios) :
    ∃ on value group, n.checks = [.bool on] ∧ firstValue? (mentions ws) = some value ∧
      firstGroup? (mentions ws) = some group ∧ (group = value ↔ on = true)
  /-- A dropdown starts with the choice that is shown, or with nothing. -/
  selected (h : e.type = .dropdown) :
    ∃ v, n.selections = [.text v] ∧ (v = "" ∨ .text v ∈ n.offers) ∧
      start? declared ws = some (if v.isEmpty then nullWord else .literal v)
  /-- The preview tells whether there is a state variable. -/
  interactive (h : e.type.canHaveState = true) :
    n.attrs.get? "interactive" = some (.bool declared.isSome)

/-! ## Snippets -/

/-- A private name among words is mentioned. -/
theorem mem_mentions_of_private {cs : List Char} (h : isPrivate cs = true) {ws : List Word}
    (hws : .name cs ∈ ws) :
    .names (String.ofList cs) ∈ mentions ws ∨ .sets (String.ofList cs) ∈ mentions ws := by
  have hafter (before : List Word) : .names (String.ofList cs) ∈ mentionsAfter before ws ∨
      .sets (String.ofList cs) ∈ mentionsAfter before ws := by
    induction ws generalizing before with
    | nil => cases hws
    | cons w ws ih =>
        rcases List.mem_cons.mp hws with rfl | hws
        · have hmention := Mentions.mentionOf?_private h before ws
          rw [mentionsAfter, hmention]
          split
          · exact .inr (List.mem_append_left _ List.mem_cons_self)
          · exact .inl (List.mem_append_left _ List.mem_cons_self)
        · have hlater := ih hws (w :: before)
          cases w with
          | name ds =>
              exact hlater.imp (List.mem_append_right _) (List.mem_append_right _)
          | sign d => exact hlater
          | literal s => exact hlater
  exact hafter []

/-- The snippet of an element has the mentions of its content. -/
theorem mentions_snippet {i : Nat} {e : Element} {l : Layout}
    (h : (elementWidget i e).result = .ok l) {c : Content} (hc : e.content.result = .ok c) :
    mentions (snippet l) = contentMentions i c := by
  obtain ⟨d, hd, hl⟩ := exists_content h
  cases hc.symm.trans hd
  have hwidget := mentions_widget (iconName_of_mem_iconNames hc) fun v => @stateName_of_index i c v
  rw [hl] at hwidget
  rw [snippet_eq (sound_elementWidget h)]
  exact hwidget.eq

section

variable {state : Option String} {v : String}

theorem ne_name_of_private {w : Word} (hw : w.isOrdinary = true) (hv : isPrivate v.toList = true) :
    w ≠ .name v.toList := by
  rintro rfl
  simp [Word.isOrdinary, hv] at hw

/-- A variable is shown if it takes the place of a value. -/
theorem value_mem_shownMentions {w : Word} (hw : w.isOrdinary = true)
    (hv : isPrivate v.toList = true) :
    .value (.name v.toList) ∈ shownMentions state w ↔ state = some v := by
  cases state with
  | none => simp [shownMentions, (ne_name_of_private hw hv).symm]
  | some u => simp [shownMentions, String.toList_inj, eq_comm]

theorem sets_notMem_shownMentions (w : Word) : .sets v ∉ shownMentions state w := by
  cases state <;> simp [shownMentions]

theorem names_mem_shownMentions {w : Word} :
    .names v ∈ shownMentions state w ↔ state = some v := by
  cases state <;> simp [shownMentions, eq_comm]

theorem sets_mem_map : .sets v ∈ state.toList.map Mention.sets ↔ state = some v := by
  cases state <;> simp [eq_comm]

theorem names_notMem_map : .names v ∉ state.toList.map Mention.sets := by
  cases state <;> simp

/-- A value that may be set shows its variable, and nothing else does. -/
theorem used_iff {w : Word} (hw : w.isOrdinary = true) (hv : isPrivate v.toList = true)
    {ms : List Mention} (hvalue : .value (.name v.toList) ∉ ms)
    (hsets : .sets v ∈ ms → state = some v) :
    (.value (.name v.toList) ∈ shownMentions state w ++ ms ∨ .sets v ∈ shownMentions state w ++ ms)
      ↔ state = some v := by
  simp only [List.mem_append, value_mem_shownMentions hw hv, hvalue, or_false,
    sets_notMem_shownMentions, false_or]
  exact ⟨fun h => h.elim id hsets, .inl⟩

end

/-- A content shows or sets exactly its variable. -/
theorem used_contentMentions {index : Int} {c : Content} {v : String}
    (hv : isPrivate v.toList = true) :
    (.value (.name v.toList) ∈ contentMentions index c ∨ .sets v ∈ contentMentions index c) ↔
      stateName? index c = some v := by
  have hvalue {state : Option String} :
      .value (.name v.toList) ∉ state.toList.map Mention.sets := by
    cases state <;> simp
  have hcontrol (state : Option String) (k : Control) (hk : stateStem? k = none → state = none) :
      (.value (.name v.toList) ∈ controlMentions state k ∨ .sets v ∈ controlMentions state k) ↔
        state = some v := by
    cases k with
    | toggle on _ _ _ => exact used_iff (isOrdinary_truthWord on) hv hvalue sets_mem_map.mp
    | checkbox on _ _ => exact used_iff (isOrdinary_truthWord on) hv hvalue sets_mem_map.mp
    | radio on _ _ _ =>
        rw [hk rfl]
        cases on <;> simp [controlMentions]
  cases c with
  | choosable c =>
      refine hcontrol _ c.control fun hstem => ?_
      rw [stateOf?, hstem]
      exact ite_self _
  | control k => exact hcontrol none k fun _ => rfl
  | labeled l => exact hcontrol none l.control fun _ => rfl
  | dropdown d =>
      refine used_iff (isOrdinary_selectionWord d) hv ?_ fun h => ?_
      · simp only [List.mem_append, List.mem_flatMap, List.mem_singleton, not_or, not_exists]
        refine ⟨by simp, ?_⟩
        split
        · exact List.not_mem_nil
        · exact hvalue
      · simp only [List.mem_append, List.mem_flatMap, List.mem_singleton, reduceCtorEq, and_false,
          exists_false, false_or] at h
        split at h
        · cases h
        · exact sets_mem_map.mp h
  | _ => simp [contentMentions, stateName?]

/-- It names no other variable. -/
theorem names_contentMentions {index : Int} {c : Content} {v : String}
    (h : .names v ∈ contentMentions index c) : stateName? index c = some v := by
  have hcontrol (state : Option String) (k : Control) (h : .names v ∈ controlMentions state k) :
      state = some v := by
    cases k with
    | toggle on _ _ _ =>
        simpa [controlMentions, names_mem_shownMentions, names_notMem_map] using h
    | checkbox on _ _ =>
        simpa [controlMentions, names_mem_shownMentions, names_notMem_map] using h
    | radio on _ _ _ => cases on <;> simp [controlMentions] at h
  cases c with
  | choosable c => exact hcontrol _ _ h
  | control k => exact hcontrol none k h
  | labeled l => exact hcontrol none l.control h
  | dropdown d =>
      rcases List.mem_append.mp h with h | h
      · exact names_mem_shownMentions.mp h
      · rcases List.mem_append.mp h with h | h
        · simp at h
        · split at h
          · cases h
          · exact absurd h names_notMem_map
  | _ => cases h

/-! ## The variable of an element -/

/-- Without the state of its type there is no variable. -/
theorem stateField?_eq_none {t : ComponentType} {r : Record} {c : Content}
    (h : (Content.ofRecord t r).result = .ok c)
    (hno : t.canHaveState = true → r.flag "interactive" = false) (index : Int) :
    stateField? index c = none := by
  cases t with
  | toggle =>
      cases h
      simp [stateField?, stateOf?, Content.choosableOf, hno rfl]
  | checkbox =>
      cases h
      simp [stateField?, stateOf?, Content.choosableOf, hno rfl]
  | dropdown =>
      rw [Content.ofRecord, Logged.result_bind, bind_eq_ok] at h
      obtain ⟨choices, -, h⟩ := h
      cases h
      simp [stateField?, dropdownState?, Content.dropdownOf, hno rfl]
  | list =>
      rw [Content.ofRecord, Logged.result_bind, bind_eq_ok] at h
      obtain ⟨items, -, h⟩ := h
      cases h
      rfl
  | dynamicTable =>
      rw [Content.ofRecord, Logged.result_bind, bind_eq_ok] at h
      obtain ⟨table, -, h⟩ := h
      cases h
      rfl
  | _ => cases h; rfl

/-- The field of an element is that of its content, although only the flag of its record decides
whether the content is looked at. -/
theorem fieldOf_eq {index : Int} {e : Element} {field : Option Layout}
    (h : (fieldOf index e).result = .ok field) {c : Content} (hc : e.content.result = .ok c) :
    field = stateField? index c := by
  rw [Element.content, Logged.result_bind, bind_eq_ok] at hc
  obtain ⟨r, hr, hc⟩ := hc
  rw [fieldOf] at h
  split at h
  · rw [Logged.result_bind_of_ok hr] at h
    split at h
    · rw [Logged.result_bind_of_ok hc] at h
      cases h
      rfl
    · rename_i hflag
      cases h
      exact (stateField?_eq_none hc (fun _ => by simpa using hflag) index).symm
  · rename_i htype
    cases h
    exact (stateField?_eq_none hc (fun h => absurd h htype) index).symm

/-- An element with a field has a widget. -/
theorem exists_elementWidget {index : Int} {e : Element} {l : Layout}
    (h : (fieldOf index e).result = .ok (some l)) :
    ∃ inside, (elementWidget index e).result = .ok inside := by
  rw [fieldOf] at h
  split at h
  · rw [Logged.result_bind, bind_eq_ok] at h
    obtain ⟨r, hr, h⟩ := h
    split at h
    · rw [Logged.result_bind, bind_eq_ok] at h
      obtain ⟨c, hc, h⟩ := h
      rw [Logged.result_pure, Except.ok.injEq] at h
      rw [elementWidget, Logged.result_bind_of_ok hr, Logged.result_bind_of_ok hc]
      cases c with
      | choosable d => exact ⟨_, rfl⟩
      | dropdown d =>
          rw [stateField?, dropdownState?] at h
          split at h
          · rename_i hinteractive
            have hlooks : ¬ looksUpSelection (.dropdown d) = true := by
              simp [looksUpSelection, hinteractive]
            rw [if_neg hlooks]
            exact ⟨_, rfl⟩
          · cases h
      | _ => cases h
    · cases h
  · cases h

/-- The variable declared for an element is the one of its widget. -/
theorem ownState {i : Nat} {e : Element} {field : Option Layout} {inside : Layout}
    (hfield : (fieldOf i e).result = .ok field)
    (hinside : (elementWidget i e).result = .ok inside) :
    OwnState (declaredIn field) (snippet inside) := by
  obtain ⟨c, hc, -⟩ := exists_content hinside
  have hmentions := mentions_snippet hinside hc
  have hname : (declaredIn field).map Declaration.name = stateName? i c := by
    rw [fieldOf_eq hfield hc, declaredIn_stateField?, name_declarationOf]
  constructor
  · intro v hv
    rw [hmentions, hname]
    exact used_contentMentions hv
  · intro cs hcs hmem
    have hmention := mem_mentions_of_private hcs hmem
    rw [hmentions] at hmention
    rw [hname]
    rcases hmention with hnames | hsets
    · exact names_contentMentions hnames
    · exact (used_contentMentions (by rwa [String.toList_ofList])).mp (.inr hsets)

/-- A field declares a variable, which its widget uses. -/
theorem exists_use {i : Nat} {e : Element} {l : Layout}
    (h : (fieldOf i e).result = .ok (some l)) :
    ∃ d inside, declaredIn (some l) = some d ∧ (elementWidget i e).result = .ok inside ∧
      (.value (.name d.name.toList) ∈ mentions (snippet inside) ∨
        .sets d.name ∈ mentions (snippet inside)) := by
  obtain ⟨inside, hinside⟩ := exists_elementWidget h
  obtain ⟨c, hc, -⟩ := exists_content hinside
  have hfield := fieldOf_eq h hc
  obtain ⟨d, hd⟩ : ∃ d, declarationOf i c = some d := by
    cases c with
    | choosable c =>
        obtain ⟨v, hv, -⟩ := Option.map_eq_some_iff.mp hfield.symm
        exact ⟨_, Option.map_eq_some_iff.mpr ⟨v, hv, rfl⟩⟩
    | dropdown d =>
        obtain ⟨v, hv, -⟩ := Option.map_eq_some_iff.mp hfield.symm
        exact ⟨_, Option.map_eq_some_iff.mpr ⟨v, hv, rfl⟩⟩
    | _ => cases hfield
  have hname : stateName? i c = some d.name := by
    rw [← name_declarationOf, hd]
    rfl
  refine ⟨d, inside, ?_, hinside, ?_⟩
  · rw [hfield, declaredIn_stateField?, hd]
  · rw [mentions_snippet hinside hc]
    exact (used_contentMentions (stateName_of_index hname).hidden).mpr hname

/-! ## What widgets start with -/

section

variable {t : ComponentType} {r : Record} {c : Content}

theorem control?_of_switches (h : (Content.ofRecord t r).result = .ok c) (ht : t ∈ switches) :
    ∃ k, c.control? = some k ∧ stateStem? k ≠ none := by
  simp only [switches, List.mem_cons, List.not_mem_nil, or_false] at ht
  rcases ht with rfl | rfl | rfl | rfl <;> cases h <;> exact ⟨_, rfl, nofun⟩

theorem control?_of_radios (h : (Content.ofRecord t r).result = .ok c) (ht : t ∈ radios) :
    ∃ k, c.control? = some k ∧ stateStem? k = none := by
  simp only [radios, List.mem_cons, List.not_mem_nil, or_false] at ht
  rcases ht with rfl | rfl <;> cases h <;> exact ⟨_, rfl, rfl⟩

theorem mem_switches_of_canHaveState (h : t.canHaveState = true) :
    t ∈ switches ∨ t = .dropdown := by
  cases t <;> first | exact .inr rfl | exact .inl (by decide) | cases h

theorem eq_dropdown (h : (Content.ofRecord .dropdown r).result = .ok c) :
    ∃ d, c = .dropdown d := by
  rw [Content.ofRecord, Logged.result_bind, bind_eq_ok] at h
  obtain ⟨choices, -, h⟩ := h
  cases h
  exact ⟨_, rfl⟩

theorem interactive?_of_canHaveState (h : (Content.ofRecord t r).result = .ok c)
    (ht : t.canHaveState = true) : ∃ b, c.interactive? = some b := by
  cases t with
  | toggle => cases h; exact ⟨_, rfl⟩
  | checkbox => cases h; exact ⟨_, rfl⟩
  | dropdown =>
      obtain ⟨d, rfl⟩ := eq_dropdown h
      exact ⟨_, rfl⟩
  | _ => cases ht

end

section

variable {i : Nat} {c : Content} {ws : List Word} (h : mentions ws = contentMentions i c)

include h

theorem start?_control {k : Control} (hk : c.control? = some k) (hstem : stateStem? k ≠ none) :
    start? (declarationOf i c) ws = some (truthWord k.isOn) := by
  have hfirst : declarationOf i c = none →
      firstValue? (contentMentions i c) = some (truthWord k.isOn) := by
    intro hnone
    cases c with
    | choosable d =>
        cases hk
        have hstate : stateOf? d i = none := Option.map_eq_none_iff.mp hnone
        rw [contentMentions, hstate]
        cases hcontrol : d.control with
        | toggle => rfl
        | checkbox => rfl
        | radio => exact absurd (by rw [hcontrol]; rfl) hstem
    | control k => cases hk; cases k <;> first | rfl | exact absurd rfl hstem
    | labeled l =>
        cases hk
        rw [contentMentions]
        cases hcontrol : l.control with
        | toggle => rfl
        | checkbox => rfl
        | radio => exact absurd (by rw [hcontrol]; rfl) hstem
    | _ => cases hk
  cases hdeclared : declarationOf i c with
  | none => rw [start?, h, hfirst hdeclared]
  | some d =>
      cases c with
      | choosable =>
          cases hk
          obtain ⟨v, -, rfl⟩ := Option.map_eq_some_iff.mp hdeclared
          rfl
      | dropdown => cases hk
      | _ => cases hdeclared

theorem radio_values {k : Control} (hk : c.control? = some k) (hstem : stateStem? k = none) :
    ∃ value group, firstValue? (mentions ws) = some value ∧
      firstGroup? (mentions ws) = some group ∧ (group = value ↔ k.isOn = true) := by
  have hcontrol : contentMentions i c = controlMentions none k := by
    cases c with
    | choosable d =>
        cases hk
        rw [contentMentions, stateOf?, hstem]
        exact congrArg (controlMentions · _) (ite_self _)
    | control k => cases hk; rfl
    | labeled l => cases hk; rfl
    | _ => cases hk
  rw [h, hcontrol]
  cases k with
  | radio on disabled active group =>
      refine ⟨_, _, rfl, rfl, ?_⟩
      cases on <;> simp [nullWord, Control.isOn]
  | _ => cases hstem

end

theorem start?_dropdown {i : Nat} {d : Content.Dropdown} {ws : List Word}
    (h : mentions ws = contentMentions i (.dropdown d)) :
    start? (declarationOf i (.dropdown d)) ws = some (selectionWord d) := by
  rw [declarationOf]
  cases hstate : dropdownState? d i with
  | none => rw [Option.map_none, start?, h, contentMentions, hstate]; rfl
  | some v => rfl

/-- The selected value is one of the choices, and it is the empty value if nothing is selected. -/
theorem selectionWord_eq (d : Content.Dropdown) :
    selectionWord d =
      if (d.selected?.getD "").isEmpty then nullWord else .literal (d.selected?.getD "") := by
  rw [selectionWord]
  cases d.selected? with
  | none => rfl
  | some v =>
      rw [Option.bind_some, nonEmpty?, Option.getD_some]
      cases v.isEmpty <;> rfl

theorem selected?_getD (d : Content.Dropdown) :
    d.selected?.getD "" = "" ∨ d.selected?.getD "" ∈ d.choices.map Choice.value := by
  rw [Content.Dropdown.selected?]
  split
  · rename_i hmem
    exact .inr hmem
  · exact .inl rfl

/-- The field of a content that can have one is there just if its state is kept. -/
theorem isSome_declarationOf {index : Int} {c : Content} {b : Bool} (h : c.interactive? = some b)
    (hstem : ∀ k, c.control? = some k → stateStem? k ≠ none) :
    (declarationOf index c).isSome = b := by
  cases c with
  | choosable d =>
      cases h
      obtain ⟨stem, hstem⟩ := Option.ne_none_iff_exists'.mp (hstem d.control rfl)
      rw [declarationOf, stateOf?, hstem]
      cases d.interactive <;> rfl
  | dropdown d =>
      cases h
      rw [declarationOf, dropdownState?]
      cases d.interactive <;> rfl
  | _ => cases h

/-- The program and a preview of a control or a dropdown start in the same way. -/
theorem exists_sameStart {i : Nat} {e : Element} {field : Option Layout} {inside : Layout}
    (hfield : (fieldOf i e).result = .ok field) (hinside : (elementWidget i e).result = .ok inside)
    (htype : e.type ∈ .dropdown :: (switches ++ radios)) (t : Theme) :
    ∃ n, (e.preview t).result = .ok n ∧ SameStart e (declaredIn field) (snippet inside) n := by
  obtain ⟨c, hc, -⟩ := exists_content hinside
  have hmentions := mentions_snippet hinside hc
  have hpreview {n : Node} (hn : Paint.content t c = .ok n) : (e.preview t).result = .ok n := by
    rw [Element.preview, Logged.result_bind_of_ok hc, hn]
    rfl
  rw [fieldOf_eq hfield hc, declaredIn_stateField?]
  rw [Element.content, Logged.result_bind, bind_eq_ok] at hc
  obtain ⟨r, -, hread⟩ := hc
  have hswitch (h : e.type ∈ switches) := control?_of_switches hread h
  have hradio (h : e.type ∈ radios) := control?_of_radios hread h
  have hdropdown (h : e.type = .dropdown) : ∃ d, c = .dropdown d := eq_dropdown (h ▸ hread)
  obtain ⟨n, hn⟩ : ∃ n, Paint.content t c = .ok n := by
    simp only [List.mem_cons, List.mem_append] at htype
    rcases htype with h | h | h
    · obtain ⟨d, rfl⟩ := hdropdown h
      exact ⟨_, rfl⟩
    · obtain ⟨k, hk, -⟩ := hswitch h
      exact (Paint.checks_content t hk).imp fun _ => And.left
    · obtain ⟨k, hk, -⟩ := hradio h
      exact (Paint.checks_content t hk).imp fun _ => And.left
  refine ⟨n, hpreview hn, ?_, ?_, ?_, ?_⟩
  · intro h
    obtain ⟨k, hk, hstem⟩ := hswitch h
    obtain ⟨m, hm, hchecks⟩ := Paint.checks_content t hk
    cases hn.symm.trans hm
    exact ⟨k.isOn, hchecks, start?_control hmentions hk hstem⟩
  · intro h
    obtain ⟨k, hk, hstem⟩ := hradio h
    obtain ⟨m, hm, hchecks⟩ := Paint.checks_content t hk
    cases hn.symm.trans hm
    obtain ⟨value, group, hvalue, hgroup, hsame⟩ := radio_values hmentions hk hstem
    exact ⟨k.isOn, value, group, hchecks, hvalue, hgroup, hsame⟩
  · intro h
    obtain ⟨d, rfl⟩ := hdropdown h
    cases hn
    refine ⟨_, Paint.selections_dropdown t d, ?_, ?_⟩
    · exact (selected?_getD d).imp_right (Paint.mem_offers_dropdown t d)
    · rw [start?_dropdown hmentions, selectionWord_eq]
  · intro h
    obtain ⟨b, hb⟩ := interactive?_of_canHaveState hread h
    obtain ⟨m, hm, hattr⟩ := Paint.interactive_content t hb
    cases hn.symm.trans hm
    rw [hattr, isSome_declarationOf hb]
    intro k hk
    rcases mem_switches_of_canHaveState h with htype | htype
    · obtain ⟨k', hk', hstem⟩ := hswitch htype
      cases hk.symm.trans hk'
      exact hstem
    · obtain ⟨d, rfl⟩ := hdropdown htype
      cases hk

/-! ## Screens -/

section

variable {s : Screen} {fields : List (Option Layout)}
  (h : ((s.elements.mapIdx fun i e => fieldOf i e).mapM id).result = .ok fields)

include h

theorem fields_length : fields.length = s.elements.length := by
  rw [Logged.result_mapM, mapM_eq_ok] at h
  rw [← h.length_eq, List.length_mapIdx]

/-- Every element has its place in the fields. -/
theorem result_fieldOf {i : Nat} {e : Element} {field : Option Layout}
    (he : s.elements[i]? = some e) (hfield : fields[i]? = some field) :
    (fieldOf i e).result = .ok field := by
  obtain ⟨hi, rfl⟩ := List.getElem?_eq_some_iff.mp he
  obtain ⟨hi', rfl⟩ := List.getElem?_eq_some_iff.mp hfield
  rw [Logged.result_mapM, mapM_eq_ok] at h
  have hget := h.get (by rwa [List.length_mapIdx]) hi'
  rwa [List.get_eq_getElem, List.getElem_mapIdx, List.get_eq_getElem] at hget

/-- A declared variable is the one of the content of its element. -/
theorem stateName?_of_declaredIn {i : Nat} {field : Option Layout} {d : Declaration}
    (hfield : fields[i]? = some field) (hd : declaredIn field = some d) :
    ∃ e c, s.elements[i]? = some e ∧ e.content.result = .ok c ∧ stateName? i c = some d.name := by
  obtain ⟨hi, -⟩ := List.getElem?_eq_some_iff.mp hfield
  rw [fields_length h] at hi
  have he := List.getElem?_eq_getElem hi
  have hresult := result_fieldOf h he hfield
  cases field with
  | none => cases hd
  | some l =>
      obtain ⟨inside, hinside⟩ := exists_elementWidget hresult
      obtain ⟨c, hc, -⟩ := exists_content hinside
      refine ⟨_, c, he, hc, ?_⟩
      rw [← name_declarationOf, ← declaredIn_stateField?, ← fieldOf_eq hresult hc, hd]
      rfl

/-- Declared variables have different names, because the index of its element stands at the end of
each one. -/
theorem nodup_declared : ((fields.filterMap declaredIn).map Declaration.name).Nodup := by
  rw [List.Nodup, List.pairwise_map, List.pairwise_filterMap, List.pairwise_iff_getElem]
  intro i j hi hj hij d hd d' hd' hsame
  obtain ⟨_, c, -, -, hc⟩ := stateName?_of_declaredIn h (List.getElem?_eq_getElem hi) hd
  obtain ⟨_, c', -, -, hc'⟩ := stateName?_of_declaredIn h (List.getElem?_eq_getElem hj) hd'
  rw [← hsame] at hc'
  have := index_eq_of_stateName? hc hc'
  omega

end

/-- The state variables of a screen have different names.  Each one is used by the widget of an
element, a widget uses no variable but the one declared for its element, and the program starts
with what a preview shows. -/
theorem state_of_screen {s : Screen} {fields : List (Option Layout)}
    (h : ((s.elements.mapIdx fun i e => fieldOf i e).mapM id).result = .ok fields) :
    ((fields.filterMap declaredIn).map Declaration.name).Nodup ∧
      ∀ (i : Nat) (e : Element) (field : Option Layout),
        s.elements[i]? = some e → fields[i]? = some field →
        (field.isSome = true →
          ∃ d inside, declaredIn field = some d ∧ (elementWidget i e).result = .ok inside ∧
            (.value (.name d.name.toList) ∈ mentions (snippet inside) ∨
              .sets d.name ∈ mentions (snippet inside))) ∧
        ∀ inside, (elementWidget i e).result = .ok inside →
          OwnState (declaredIn field) (snippet inside) ∧
          (e.type ∈ .dropdown :: (switches ++ radios) → ∀ t, ∃ n, (e.preview t).result = .ok n ∧
            SameStart e (declaredIn field) (snippet inside) n) := by
  refine ⟨nodup_declared h, fun i e field he hfield => ⟨fun hsome => ?_, fun inside hinside => ?_⟩⟩
  · obtain ⟨l, rfl⟩ := Option.isSome_iff_exists.mp hsome
    exact exists_use (result_fieldOf h he hfield)
  · have hresult := result_fieldOf h he hfield
    exact ⟨ownState hresult hinside, fun htype => exists_sameStart hresult hinside htype⟩

/-- A screen with a radio button and a switch that is on, of which only the switch has state. -/
def stateScreen : Screen :=
  ⟨"home", "Home",
    [⟨"color", .radio, 0, 0, 50, 50, [("value", .bool true)]⟩,
     ⟨"light", .toggle, 0, 50, 50, 50, [("value", .bool true), ("interactive", .bool true)]⟩]⟩

/-- The variable of the switch has its index, is used by its widget, and starts as it is shown. -/
theorem state_of_stateScreen :
    ∃ fields field e inside n,
      ((stateScreen.elements.mapIdx fun i e => fieldOf i e).mapM id).result = .ok fields ∧
        fields[1]? = some field ∧ stateScreen.elements[1]? = some e ∧
        (elementWidget 1 e).result = .ok inside ∧ (e.preview Theme.dark).result = .ok n ∧
        declaredIn field = some ⟨"_switch1", truthWord true⟩ ∧ n.checks = [.bool true] ∧
        (.value (.name "_switch1".toList) ∈ mentions (snippet inside) ∨
          .sets "_switch1" ∈ mentions (snippet inside)) := by
  obtain ⟨fields, h⟩ : ∃ fields,
      ((stateScreen.elements.mapIdx fun i e => fieldOf i e).mapM id).result = .ok fields := ⟨_, rfl⟩
  obtain ⟨e, he⟩ : ∃ e, stateScreen.elements[1]? = some e := ⟨_, rfl⟩
  obtain ⟨field, hfield⟩ : ∃ field, fields[1]? = some field := by
    rw [List.getElem?_eq_getElem (by rw [fields_length h]; decide)]
    exact ⟨_, rfl⟩
  obtain ⟨inside, hinside⟩ : ∃ inside, (elementWidget 1 e).result = .ok inside := by
    cases he
    exact ⟨_, rfl⟩
  have htype : e.type = .toggle := by
    cases he
    rfl
  have hdeclared : declaredIn field = some ⟨"_switch1", truthWord true⟩ := by
    obtain ⟨c, hc, -⟩ := exists_content hinside
    rw [fieldOf_eq (result_fieldOf h he hfield) hc, declaredIn_stateField?]
    cases he
    cases hc
    decide
  obtain ⟨-, hall⟩ := state_of_screen h
  obtain ⟨-, hwidget⟩ := hall 1 e field he hfield
  obtain ⟨hown, hstart⟩ := hwidget inside hinside
  obtain ⟨n, hn, hsame⟩ := hstart (by rw [htype]; decide) Theme.dark
  obtain ⟨on, hchecks, hword⟩ := hsame.checked (by rw [htype]; decide)
  have hon : on = true := by
    rw [hdeclared, start?, Option.some.injEq] at hword
    cases on with
    | true => rfl
    | false => cases hword
  refine ⟨fields, field, e, inside, n, h, hfield, he, hinside, hn, hdeclared, hon ▸ hchecks, ?_⟩
  exact (hown.used "_switch1" rfl).mpr (by rw [hdeclared]; rfl)

end ScreenDesign.Dart
