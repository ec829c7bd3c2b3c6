import ScreenDesign.Proofs.Dart.ClassNames
import ScreenDesign.Proofs.Dart.ScreenBlocks

/-!
# The classes in a program

A program is a list of blocks in braces: one for the app, one for the drawer, and two for every
screen.  What stands in front of them is different for all of them, since class names are
different and start with a capital letter.  So the class of the state of a screen is found, whatever
the other classes hold (`exists_programTrees`).
-/

namespace ScreenDesign.Dart

open Layout

/-! ## In front of a class -/

/-- What stands in front of the class of a screen. -/
def widgetHeader (name : String) : List Char := ("class" ++ name ++ "extendsStatefulWidget").toList

theorem widgetHeader_eq (name : String) :
    widgetHeader name = "class".toList ++ (name.toList ++ "extendsStatefulWidget".toList) := by
  simp only [widgetHeader, String.toList_append, List.append_assoc]

theorem stateHeader_eq (name : String) :
    stateHeader name = "class_".toList ++
      (name.toList ++ ("StateextendsState<".toList ++ (name.toList ++ ['>']))) := by
  have hend : ">".toList = ['>'] := rfl
  simp only [stateHeader, String.toList_append, List.append_assoc, hend]

section

variable {name : String} (h : WordName name)

include h

theorem all_isInner_wordName : name.toList.all isInnerChar = true :=
  List.all_eq_true.mpr fun c hc => isInnerChar_of rfl (h c hc)

theorem all_isInner_widgetHeader : (widgetHeader name).all isInnerChar = true := by
  rw [widgetHeader_eq, List.all_append, List.all_append, all_isInner_wordName h]
  rfl

theorem all_isInner_stateHeader : (stateHeader name).all isInnerChar = true := by
  rw [stateHeader_eq, List.all_append, List.all_append, List.all_append, List.all_append,
    all_isInner_wordName h]
  rfl

theorem lexemes_widgetOpening :
    rowLexemes (widgetOpening name) = (widgetHeader name ++ ['\x7b']).map .code := by
  have hclass : (Token.code "class ").lexemes = "class".toList.map .code := by decide
  have hextends : (Token.code " extends StatefulWidget \x7b").lexemes =
      ("extendsStatefulWidget".toList ++ ['\x7b']).map .code := by decide
  rw [widgetOpening, rowLexemes, List.flatMap_cons, List.flatMap_cons, List.flatMap_singleton,
    hclass, hextends, lexemes_declared, visible_wordName h, widgetHeader_eq]
  simp only [List.map_append, List.append_assoc]

theorem lexemes_stateOpening :
    rowLexemes (stateOpening name) = (stateHeader name ++ ['\x7b']).map .code := by
  have hclass : (Token.code "class ").lexemes = "class".toList.map .code := by decide
  have hstate : visible ("_" ++ name ++ "State").toList =
      "_".toList ++ name.toList ++ "State".toList := by
    have hname : name.toList.filter (!isSpace ·) = name.toList := visible_wordName h
    rw [visible, String.toList_append, String.toList_append, List.filter_append, List.filter_append,
      hname]
    rfl
  have hextends : (Token.code " extends State<").lexemes = "extendsState<".toList.map .code := by
    decide
  have hend : (Token.code "> \x7b").lexemes = ['>', '\x7b'].map .code := by decide
  have hheader : stateHeader name ++ ['\x7b'] = "class".toList ++
      ("_".toList ++ name.toList ++ "State".toList ++ ("extendsState<".toList ++
        (name.toList ++ ['>', '\x7b']))) := by
    simp [stateHeader_eq]
  rw [stateOpening, rowLexemes, List.flatMap_cons, List.flatMap_cons, List.flatMap_cons,
    List.flatMap_cons, List.flatMap_singleton, hclass, hextends, hend, lexemes_declared,
    lexemes_declared, hstate, visible_wordName h, hheader]
  simp only [List.map_append]

end

/-- The sixth character in front of the class of a state is not the start of a class name. -/
theorem ne_stateHeader {cs : List Char} (h : cs[5]? ≠ some '_') (name : String) :
    cs ≠ stateHeader name := by
  rintro rfl
  rw [stateHeader_eq] at h
  exact h rfl

theorem widgetHeader_ne {name : String} (h : IsClassName name) (other : String) :
    widgetHeader name ≠ stateHeader other := by
  obtain ⟨c, cs, hname, hc, -⟩ := h
  refine ne_stateHeader ?_ other
  rw [widgetHeader_eq, hname]
  intro hsixth
  cases hsixth
  cases hc

theorem stateHeader_inj {a b : String} (h : stateHeader a = stateHeader b) : a = b := by
  rw [stateHeader_eq, stateHeader_eq] at h
  have hlength : a.toList.length = b.toList.length := by
    have hall := congrArg List.length h
    simp only [List.length_append] at hall
    omega
  exact String.toList_inj.mp (List.append_inj_left (List.append_cancel_left h) hlength)

/-! ## The classes of a screen -/

/-- The class of a state shows the elements of a screen. -/
def ShowsElements (s : Screen) (state : List Tree) : Prop :=
  ∃ children, stackChildren? state = some children ∧
    blocks? children = some (s.elements.map (Element.spot ".0")) ∧
    (s.elements = [] ↔ children = [.leaf (.comment " No elements added yet")])

theorem forall₂_of_mapIdx {α β : Type} {R : α → β → Prop} {f : Nat → Element → α}
    {es : List Element} {bs : List β} (h : List.Forall₂ R (es.mapIdx f) bs) :
    List.Forall₂ (fun e b => ∃ i, R (f i e) b) es bs := by
  induction es generalizing f bs with
  | nil =>
      cases h
      exact .nil
  | cons e es ih =>
      rw [List.mapIdx_cons] at h
      cases h with
      | cons hb hbs =>
          exact .cons ⟨0, hb⟩ ((ih hbs).imp fun _ _ ⟨i, hi⟩ => ⟨i + 1, hi⟩)

/-- The children of the stack of a screen are the blocks of its elements. -/
theorem exists_children {s : Screen} {widgets : List (List Layout)}
    (h : (s.elements.mapIdx fun i e => positioned i e).mapM (fun x => (id x).result) = .ok widgets)
    (small : ∀ e ∈ s.elements, e.Small) :
    ∃ ts, trees? (rowLexemes
        ((if s.elements.isEmpty then [emptyBody] else widgets.flatten).flatMap tokens)) =
          some ts ∧
      blocks? ts = some (s.elements.map (Element.spot ".0")) ∧
      (s.elements = [] ↔ ts = [.leaf (.comment " No elements added yet")]) := by
  by_cases hempty : s.elements = []
  · rw [hempty]
    exact ⟨_, rfl, rfl, fun _ => rfl, fun _ => rfl⟩
  · have hpositioned := (forall₂_of_mapIdx (mapM_eq_ok.mp h)).imp
      fun e ls ⟨i, hi⟩ => (⟨i, hi⟩ : ∃ index : Int, (positioned index e).result = Except.ok ls)
    obtain ⟨ts, hts, hblocks⟩ := exists_blocks hpositioned small
    refine ⟨ts, ?_, hblocks, fun h => absurd h hempty, ?_⟩
    · rwa [if_neg (by simpa using hempty)]
    · intro hmarker
      rw [hmarker] at hblocks
      have hnone : blocks? [.leaf (.comment " No elements added yet")] = some [] := rfl
      rw [hnone, Option.some.injEq] at hblocks
      exact List.map_eq_nil_iff.mp hblocks.symm

/-- The class of a state with the state of a screen shows its elements. -/
theorem exists_stateTrees {s : Screen} {fields : List (Option Layout)}
    {widgets : List (List Layout)}
    (hfields : (s.elements.mapIdx fun i e => fieldOf i e).mapM (fun x => (id x).result) =
      .ok fields)
    (hwidgets : (s.elements.mapIdx fun i e => positioned i e).mapM (fun x => (id x).result) =
      .ok widgets)
    (small : ∀ e ∈ s.elements, e.Small) :
    ∃ state, trees? (rowLexemes
        ((stateBody s (fields.filterMap id) widgets.flatten).flatMap tokens)) = some state ∧
      ShowsElements s state := by
  obtain ⟨children, hchildren, hshows⟩ := exists_children hwidgets small
  obtain ⟨before, hbefore, hskip⟩ := exists_fieldTrees fun l hl =>
    have ⟨_, _, hfield⟩ := exists_fieldOf hfields hl
    exists_lexemes_field hfield
  have hdeclared :
      (if (fields.filterMap id).isEmpty then [] else fields.filterMap id ++ [blank]).flatMap tokens =
        (fields.filterMap id).flatMap tokens := by
    split
    case isTrue hnone =>
      rw [List.isEmpty_iff.mp hnone]
    case isFalse =>
      rw [List.flatMap_append]
      exact List.append_nil _
  refine ⟨before ++ buildTrees s.name children, ?_, children, ?_, hshows⟩
  · rw [stateBody, List.flatMap_append, hdeclared, rowLexemes_append]
    exact trees?_append hbefore (trees?_build hchildren s.name)
  · rw [stackChildren?, hskip]
    exact stackChildren?_build s.name children

/-- The classes of a screen as trees. -/
def classTrees (name : String) (widget state : List Tree) : List Tree :=
  leaves (widgetHeader name) ++ .group '\x7b' widget ::
    (leaves (stateHeader name) ++ [.group '\x7b' state])

theorem exists_classTrees {s : Screen} {name : String} {ls : List Layout}
    (h : (screen s name).result = .ok ls) (hname : WordName name) :
    ∃ widget state, trees? (rowLexemes (ls.flatMap tokens)) = some (classTrees name widget state) ∧
      ((∀ e ∈ s.elements, e.Small) → ShowsElements s state) := by
  obtain ⟨fields, widgets, hfields, hwidgets, rfl⟩ := screen_eq_ok h
  obtain ⟨body, hclasses, hbody⟩ :=
    exists_widgetBody s (fields.filterMap id) widgets.flatten hname.plain
  obtain ⟨widget, hwidget⟩ := exists_trees_of_each hbody
  obtain ⟨state, hstate⟩ :=
    exists_trees_of_each (each_stateBody s (each_fields hfields) (each_widgets hwidgets))
  have hfirst :=
    trees?_braces (lexemes_widgetOpening hname) (all_isInner_widgetHeader hname) hwidget
  have hsecond :=
    trees?_braces (lexemes_stateOpening hname) (all_isInner_stateHeader hname) hstate
  refine ⟨widget, state, ?_, fun small => ?_⟩
  · have hboth := trees?_append hfirst hsecond
    rw [← rowLexemes_append] at hboth
    rw [hclasses, classTrees]
    simpa [blank] using hboth
  · obtain ⟨shown, hshown, hshows⟩ := exists_stateTrees hfields hwidgets small
    rw [hstate, Option.some.injEq] at hshown
    rwa [hshown]

section

variable {name : String} (h : WordName name) (widget state rest : List Tree)

include h

theorem inside?_classTrees_self (hname : IsClassName name) :
    inside? (stateHeader name) (classTrees name widget state ++ rest) = some state := by
  rw [classTrees, List.append_assoc, List.cons_append, List.append_assoc, List.singleton_append,
    inside?_braces_other (all_isInner_leaves (all_isInner_widgetHeader h))]
  · exact inside?_braces_self (all_isInner_stateHeader h)
  · rw [flatMap_code_leaves]
    exact widgetHeader_ne hname name

theorem inside?_classTrees_other (hname : IsClassName name) {other : String}
    (hne : name ≠ other) :
    inside? (stateHeader other) (classTrees name widget state ++ rest) =
      inside? (stateHeader other) rest := by
  rw [classTrees, List.append_assoc, List.cons_append, List.append_assoc, List.singleton_append,
    inside?_braces_other (all_isInner_leaves (all_isInner_widgetHeader h)),
    inside?_braces_other (all_isInner_leaves (all_isInner_stateHeader h))]
  · rw [flatMap_code_leaves]
    exact fun heq => hne (stateHeader_inj heq)
  · rw [flatMap_code_leaves]
    exact widgetHeader_ne hname other

end

/-! ## Programs -/

/-- Every class of a state is found among the classes of the screens. -/
theorem exists_screensTrees {screens : List Screen} {names : List String}
    {classes : List (List Layout)}
    (h : List.Forall₂ (fun x ls => x.result = .ok ls) (List.zipWith screen screens names) classes)
    (hwords : ∀ n ∈ names, WordName n ∧ IsClassName n) (hnodup : names.Nodup) :
    ∃ ts, trees? (rowLexemes ((classes.flatMap (blank :: ·)).flatMap tokens)) = some ts ∧
      ∀ s n, (s, n) ∈ screens.zip names → (∀ e ∈ s.elements, e.Small) →
        ∃ state, inside? (stateHeader n) ts = some state ∧ ShowsElements s state := by
  induction screens generalizing names classes with
  | nil =>
      cases h
      exact ⟨[], rfl, fun s n hmem => nomatch hmem⟩
  | cons s screens ih =>
      cases names with
      | nil =>
          cases h
          exact ⟨[], rfl, fun s n hmem => nomatch hmem⟩
      | cons n names =>
          rw [List.zipWith_cons_cons] at h
          rw [List.forall_mem_cons] at hwords
          obtain ⟨⟨hword, hname⟩, hwords⟩ := hwords
          rw [List.nodup_cons] at hnodup
          cases h with
          | @cons _ ls _ classes hls hclasses =>
              obtain ⟨widget, state, hfirst, hshows⟩ := exists_classTrees hls hword
              obtain ⟨ts, hts, hfind⟩ := ih hclasses hwords hnodup.2
              refine ⟨classTrees n widget state ++ ts, ?_, fun s' n' hmem small => ?_⟩
              · have hall := trees?_append hfirst hts
                rw [← rowLexemes_append] at hall
                rw [List.flatMap_cons, List.flatMap_append]
                exact hall
              · rw [List.zip_cons_cons, List.mem_cons, Prod.mk.injEq] at hmem
                obtain ⟨rfl, rfl⟩ | hmem := hmem
                · exact ⟨state, inside?_classTrees_self hword widget state ts hname, hshows small⟩
                · have hne : n ≠ n' := by
                    rintro rfl
                    exact hnodup.1 (List.of_mem_zip hmem).2
                  rw [inside?_classTrees_other hword widget state ts hname hne]
                  exact hfind s' n' hmem small

/-- A class whose name starts with a letter. -/
theorem exists_otherClass {head : String} {header : List Char} {body : List Layout}
    (hopening : rowLexemes [.code (head ++ "\x7b")] = (header ++ ['\x7b']).map .code)
    (hheader : header.all isInnerChar = true) (hsixth : header[5]? ≠ some '_')
    (hbody : Each true body) :
    ∃ ts, trees? (rowLexemes (braces head body "").tokens) = some ts ∧
      ∀ n rest, inside? (stateHeader n) (ts ++ rest) = inside? (stateHeader n) rest := by
  obtain ⟨ts, hts⟩ := exists_trees_of_each hbody
  refine ⟨_, trees?_braces hopening hheader hts, fun n rest => ?_⟩
  rw [List.append_assoc, List.singleton_append, inside?_braces_other (all_isInner_leaves hheader)]
  rw [flatMap_code_leaves]
  exact ne_stateHeader hsixth n

/-- The import and the main function as trees. -/
def preambleTrees : List Tree :=
  ("import".toList.map Lexeme.code ++ [Lexeme.literal "package:flutter/material.dart"]).map .leaf ++
    .leaf (.code ';') :: ((leaves "voidmain".toList ++ [.group '(' []]) ++
      .group '\x7b' (leaves "runApp".toList ++
        [.group '(' (leaves "constMyApp".toList ++ [.group '(' []]), .leaf (.code ';')]) :: [])

theorem inside?_preambleTrees (name : String) (rest : List Tree) :
    inside? (stateHeader name) (preambleTrees ++ rest) = inside? (stateHeader name) rest := by
  have hmain : (leaves "voidmain".toList ++ [Tree.group '(' []]).all Tree.isInner = true := rfl
  have hsixth : ((leaves "voidmain".toList ++ [Tree.group '(' []]).flatMap Tree.code)[5]? ≠
      some '_' := by
    decide
  unfold preambleTrees
  rw [List.append_assoc, List.cons_append, inside?_leaves, List.append_assoc, List.cons_append,
    inside?_braces_other hmain (ne_stateHeader hsixth name)]
  rfl

/-- Nothing is found in front of the classes of the screens. -/
theorem exists_openingTrees (dark : Bool) (title : String) (screens : List Screen)
    {names : List String} (h : ∀ n ∈ names, PlainName n) :
    ∃ ts, trees? (rowLexemes ((preamble ++
        [blank, app dark title screens names, blank, drawer screens]).flatMap tokens)) = some ts ∧
      ∀ n rest, inside? (stateHeader n) (ts ++ rest) = inside? (stateHeader n) rest := by
  obtain ⟨appBody, happ, happBody⟩ := exists_appBody dark title screens h
  obtain ⟨drawerBody, hdrawer, hdrawerBody⟩ := exists_drawerBody screens
  obtain ⟨first, hfirst, hskipFirst⟩ : ∃ ts, trees? (rowLexemes (app dark title screens
      names).tokens) = some ts ∧
        ∀ n rest, inside? (stateHeader n) (ts ++ rest) = inside? (stateHeader n) rest := by
    rw [happ]
    exact @exists_otherClass _ "classMyAppextendsStatelessWidget".toList _ rfl rfl (by decide)
      happBody
  obtain ⟨second, hsecond, hskipSecond⟩ : ∃ ts, trees? (rowLexemes (drawer screens).tokens) =
      some ts ∧
        ∀ n rest, inside? (stateHeader n) (ts ++ rest) = inside? (stateHeader n) rest := by
    rw [hdrawer]
    exact @exists_otherClass _ "classAppSidebarextendsStatelessWidget".toList _ rfl rfl (by decide)
      hdrawerBody
  have hpreamble : trees? (rowLexemes (preamble.flatMap tokens)) = some preambleTrees := rfl
  have hall := trees?_append hpreamble (trees?_append hfirst hsecond)
  refine ⟨preambleTrees ++ (first ++ second), ?_, fun n rest => ?_⟩
  · rw [← rowLexemes_append, ← rowLexemes_append] at hall
    rw [List.flatMap_append]
    simpa [blank] using hall
  · rw [List.append_assoc, List.append_assoc, inside?_preambleTrees, hskipFirst, hskipSecond]

/-- Every class of a state in a program is found by its name, and shows the elements of its
screen. -/
theorem exists_programTrees {dark : Bool} {title : String} {screens : List Screen} {p : Program}
    (h : (program dark title screens).result = .ok p) :
    ∃ ts, (scan p.code).bind trees? = some ts ∧
      ∀ s n, (s, n) ∈ screens.zip (assign (screens.map Screen.name)) →
        (∀ e ∈ s.elements, e.Small) →
          ∃ state, inside? (stateHeader n) ts = some state ∧ ShowsElements s state := by
  obtain ⟨ls, hls, -, hscan, -⟩ := program_wellFormed h
  obtain ⟨classes, hclasses, rfl⟩ := designLayout_eq_ok hls
  obtain ⟨before, hbefore, hskip⟩ := exists_openingTrees dark title screens fun n hn =>
    (wordName_of_mem_assign hn).plain
  obtain ⟨ts, hts, hfind⟩ := exists_screensTrees (mapM_eq_ok.mp hclasses)
    (fun n hn => ⟨wordName_of_mem_assign hn, isClassName_of_mem_assign hn⟩) (nodup_assign _)
  refine ⟨before ++ ts, ?_, fun s n hmem small => ?_⟩
  · rw [hscan, Option.bind_some, lexemes_eq, programLayout, List.flatMap_append, rowLexemes_append]
    exact trees?_append hbefore hts
  · rw [hskip]
    exact hfind s n hmem small

end ScreenDesign.Dart
