import ScreenDesign.Proofs.Dart.ClassNames
import ScreenDesign.Proofs.Dart.MentionsWidget
import ScreenDesign.Proofs.Dart.State

/-!
# Mentions of classes

The source text of a screen declares two classes, the widget and its state, and refers to both.
Widgets and fields mention only state variables, so what is left of the mentions of a screen when
those are dropped is fixed by the name of its class (`classMentions_screen`).  The app and the
drawer declare a class each and mention nothing else.

The name of a class stands for itself wherever it is written (`ClassWord`): it is one word, and it
is none of the words that mention something.
-/

namespace ScreenDesign.Dart

open Layout

/-! ## Reading -/

/-- The class that a mention declares. -/
def Mention.declared? : Mention → Option String
  | .declares n => some n
  | _ => none

/-- The class whose state a mention speaks of. -/
def Mention.stated? : Mention → Option String
  | .stateOf n => some n
  | _ => none

/-- The class that a mention creates as a state. -/
def Mention.created? : Mention → Option String
  | .creates n => some n
  | _ => none

/-- Whether a mention is one of a class. -/
def Mention.isClass : Mention → Bool
  | .declares _ => true
  | .stateOf _ => true
  | .creates _ => true
  | _ => false

/-- The class of the state of a screen. -/
def stateClass (name : String) : String := "_" ++ name ++ "State"

/-- How the classes of a screen are mentioned. -/
def screenMentions (name : String) : List Mention :=
  [.declares name, .stateOf name, .creates (stateClass name), .declares (stateClass name),
   .stateOf name]

/-! ## Mentions of classes -/

namespace Mentions

variable {out out' : List Mention} {ws : List Word} {cs : List Char}

/-- The mention of a name in front of other words. -/
theorem step {m : Mention} (hm : ∀ before rest, mentionOf? before cs (ws ++ rest) = some m)
    (h : Mentions out ws) : Mentions (m :: out) (.name cs :: ws) := by
  intro before rest
  have hread : mentionsAfter before (.name cs :: (ws ++ rest)) =
      (mentionOf? before cs (ws ++ rest)).toList ++
        mentionsAfter (.name cs :: before) (ws ++ rest) := rfl
  rw [List.cons_append, hread, hm, h]
  simp

variable {n : String}

theorem declaring (h : Mentions out (.name n.toList :: ws)) :
    Mentions (.declares n :: out) (.name classKey :: .name n.toList :: ws) :=
  step (fun _ _ => congrArg (fun s => some (Mention.declares s)) String.ofList_toList) h

theorem stating (h : Mentions out (.sign '<' :: .name n.toList :: ws)) :
    Mentions (.stateOf n :: out) (.name stateKey :: .sign '<' :: .name n.toList :: ws) :=
  step (fun _ _ => congrArg (fun s => some (Mention.stateOf s)) String.ofList_toList) h

theorem creating
    (h : Mentions out (.sign '(' :: .sign ')' :: .sign '=' :: .sign '>' :: .name n.toList :: ws)) :
    Mentions (.creates n :: out)
      (.name createKey :: .sign '(' :: .sign ')' :: .sign '=' :: .sign '>' :: .name n.toList ::
        ws) :=
  step (fun _ _ => congrArg (fun s => some (Mention.creates s)) String.ofList_toList) h

/-- A private name in front of anything but an equals sign is only named. -/
theorem naming (hn : isPrivate n.toList = true) {w : Word} (hw : w ≠ .sign '=')
    (h : Mentions out (w :: ws)) : Mentions (.names n :: out) (.name n.toList :: w :: ws) := by
  refine step (fun before rest => ?_) h
  have hset : dropSigns? ['='] (w :: ws ++ rest) = none := by
    cases w with
    | sign d => exact if_neg fun hd : '=' = d => hw (hd ▸ rfl)
    | name cs => rfl
    | literal s => rfl
  rw [mentionOf?_private hn, hset, String.ofList_toList]
  exact if_neg fun h => by cases h.2

/-- So is one behind anything but an opening brace. -/
theorem fielding (hn : isPrivate n.toList = true) {w : Word} (hordinary : w.isOrdinary = true)
    (hw : w ≠ .sign '\x7b') (h : Mentions out ws) :
    Mentions (.names n :: out) (w :: .name n.toList :: ws) := by
  intro before rest
  have hset : (w :: before).take 5 ≠ setKey := by
    rw [List.take_succ_cons]
    exact fun hkey => hw (List.cons.inj hkey).1
  have hmention : mentionOf? (w :: before) n.toList (ws ++ rest) = some (.names n) := by
    rw [mentionOf?_private hn, String.ofList_toList]
    exact if_neg fun h => hset h.1
  have hread : mentionsAfter (w :: before) (.name n.toList :: (ws ++ rest)) =
      (mentionOf? (w :: before) n.toList (ws ++ rest)).toList ++
        mentionsAfter (.name n.toList :: w :: before) (ws ++ rest) := rfl
  rw [List.cons_append, List.cons_append, mentionsAfter_ordinary hordinary, hread, hmention, h]
  simp

/-- There are mentions in the opening line, too. -/
theorem opened {opening closing : List Token} {body : List Layout}
    (hopening : Mentions out (rowWords opening))
    (hbody : Mentions out' (body.flatMap Layout.words)) (hclosing : OrdinaryRow closing) :
    Mentions (out ++ out') (Layout.block opening body closing).words := by
  rw [words_block]
  exact hopening.append (hbody.right hclosing)

end Mentions

/-- Words with these mentions of classes, among others of state. -/
def ClassMentions (out : List Mention) (ws : List Word) : Prop :=
  ∃ ms, Mentions ms ws ∧ ms.filter Mention.isClass = out

namespace ClassMentions

variable {out out' : List Mention} {ws vs : List Word} {ls : List Layout}

theorem of_mentions {ms : List Mention} (h : Mentions ms ws)
    (hms : ms.filter Mention.isClass = out) : ClassMentions out ws := ⟨ms, h, hms⟩

theorem append (hws : ClassMentions out ws) (hvs : ClassMentions out' vs) :
    ClassMentions (out ++ out') (ws ++ vs) := by
  obtain ⟨ms, hms, rfl⟩ := hws
  obtain ⟨ms', hms', rfl⟩ := hvs
  exact ⟨ms ++ ms', hms.append hms', List.filter_append ms ms'⟩

theorem ordinary (h : ∀ w ∈ ws, w.isOrdinary = true) : ClassMentions [] ws :=
  of_mentions (.ordinary h) rfl

theorem left (hws : ∀ w ∈ ws, w.isOrdinary = true) (hvs : ClassMentions out vs) :
    ClassMentions out (ws ++ vs) := (ordinary hws).append hvs

theorem right (hws : ClassMentions out ws) (hvs : ∀ w ∈ vs, w.isOrdinary = true) :
    ClassMentions out (ws ++ vs) := by
  have := hws.append (ordinary hvs)
  rwa [List.append_nil] at this

/-- Parts that mention no class. -/
theorem all {α : Type} {f : α → List Word} {as : List α} (h : ∀ a ∈ as, ClassMentions [] (f a)) :
    ClassMentions [] (as.flatMap f) := by
  induction as with
  | nil => exact ordinary nofun
  | cons a as ih =>
      obtain ⟨ha, has⟩ := List.forall_mem_cons.mp h
      exact ha.append (ih has)

/-- Layouts that are made one by one have their mentions one by one. -/
theorem flatten {α : Type} {as : List α} {f : α → List Mention} {xs : List (Logged (List Layout))}
    (h : List.Forall₂ (fun a x => ∀ ls, x.result = .ok ls →
      ClassMentions (f a) (ls.flatMap Layout.words)) as xs)
    {lss : List (List Layout)} (hlss : xs.mapM (fun x => (id x).result) = .ok lss) :
    ClassMentions (as.flatMap f) (lss.flatten.flatMap Layout.words) := by
  rw [mapM_eq_ok] at hlss
  induction h generalizing lss with
  | nil => cases hlss; exact ordinary nofun
  | cons hx _ ih =>
      cases hlss with
      | cons hls hlss =>
          rw [List.flatMap_cons, List.flatten_cons, List.flatMap_append]
          exact (hx _ hls).append (ih hlss)

end ClassMentions

/-! ## Names -/

/-- The name of a screen's class as a word. -/
structure ClassWord (n : String) : Prop where
  /-- It is one name. -/
  one : n.toList.all isNamePart = true
  /-- It has characters. -/
  filled : n.toList ≠ []
  /-- It mentions nothing. -/
  plain : (Word.name n.toList).isOrdinary = true

/-- A class name ends in the last letter of `Screen` or in a digit. -/
theorem last_className (name : String) (k : Nat) :
    ∀ c ∈ (numbered (className name) k).toList.getLast?, c = 'n' ∨ c.isDigit = true := by
  intro c hc
  rw [numbered] at hc
  split at hc
  · rw [className, String.toList_ofList, List.getLast?_append_of_ne_nil _ (by decide)] at hc
    cases hc
    exact .inl rfl
  · rw [String.toList_append] at hc
    have hdigits : (k + 1).repr.toList ≠ [] := by
      rw [Nat.toList_repr]
      exact Nat.toDigits_ne_nil
    rw [List.getLast?_append_of_ne_nil _ hdigits] at hc
    exact .inr (isDigit_of_mem_repr (List.mem_of_getLast? hc))

theorem last_of_mem_assign {names : List String} {n : String} (h : n ∈ assign names) :
    ∀ c ∈ n.toList.getLast?, c = 'n' ∨ c.isDigit = true := by
  obtain ⟨i, hi⟩ := List.mem_iff_getElem?.mp h
  rw [getElem?_assign] at hi
  obtain ⟨name, -, rfl⟩ := Option.map_eq_some_iff.mp hi
  exact last_className name _

theorem classWord_of_mem_assign {names : List String} {n : String} (h : n ∈ assign names) :
    ClassWord n := by
  obtain ⟨c, cs, hn, hupper, -⟩ := isClassName_of_mem_assign h
  constructor
  · refine List.all_eq_true.mpr fun c hc => ?_
    simp [isNamePart, wordName_of_mem_assign h c hc]
  · rw [hn]
    exact List.cons_ne_nil c cs
  · have hlast := last_of_mem_assign h
    rw [hn] at hlast ⊢
    simp only [Word.isOrdinary, reserved, Bool.and_eq_true, Bool.not_eq_true',
      List.contains_eq_mem, decide_eq_false_iff_not, List.mem_cons, List.not_mem_nil, or_false]
    constructor
    · rintro (hkey | hkey | hkey | hkey | hkey)
      · cases hkey; cases hupper
      · cases hkey
        rcases hlast 'e' rfl with hlast | hlast <;> cases hlast
      · cases hkey; cases hupper
      · cases hkey; cases hupper
      · cases hkey; cases hupper
    · rw [isPrivate, decide_eq_false_iff_not]
      rintro hunderscore
      cases hunderscore
      cases hupper

namespace ClassWord

variable {n : String} (h : ClassWord n)

include h

theorem rowWords : rowWords [.declared n] = [.name n.toList] := by
  rw [← textWords_name h.one h.filled, Dart.rowWords, List.flatMap_singleton]
  rfl

theorem ordinaryRow : OrdinaryRow [.declared n] := by
  rw [OrdinaryRow, h.rowWords]
  exact List.forall_mem_singleton.mpr h.plain

end ClassWord

/-- The class of a state is named like a state variable. -/
theorem stateName_stateClass {n : String} (h : ClassWord n) : StateName (stateClass n) := by
  constructor
  · rw [stateClass, String.toList_append, String.toList_append, List.all_append, List.all_append,
      h.one]
    rfl
  · rw [stateClass, String.toList_append, String.toList_append]
    rfl

/-! ## The app and the drawer -/

theorem ordinary_blank : Ordinary blank := nofun

theorem Mentions.buildMethod {out : List Mention} {body : List Layout}
    (h : Mentions out (body.flatMap Layout.words)) :
    Mentions out ((Dart.buildMethod body).flatMap Layout.words) :=
  .later (.row rfl) (.only (.braces rfl h rfl))

theorem Mentions.result {out : List Mention} {cs : List Char}
    (h : isUsual (['r', 'e', 't', 'u', 'r', 'n', ' '] ++ cs ++ ['(']) = true) {body : List Layout}
    (hbody : Mentions out (body.flatMap Layout.words)) :
    Mentions out (Dart.result (String.ofList cs) body).words :=
  .block (.three h) hbody (@OrdinaryRow.code [')', ';'] rfl)

theorem ordinary_themeData (dark : Bool) : Ordinary (themeData dark) := by
  cases dark with
  | true =>
      refine .call rfl ⟨.row rfl, .row rfl, .row rfl, .argument rfl ?_⟩
      exact ⟨.row rfl, .row rfl⟩
  | false =>
      refine .call rfl ⟨.row rfl, .row rfl, .row rfl, .argument rfl ?_⟩
      exact ⟨.row rfl, .row rfl, .row rfl⟩

theorem ordinary_routeEntry (s : Screen) {n : String} (h : ClassWord n) :
    Ordinary (routeEntry s n) := by
  have hclass : OrdinaryRow [.code ": (context) => const ", .declared n, .code "(),"] :=
    .around rfl h.ordinaryRow
  exact .line (.front (.literal _) rfl hclass)

theorem ordinary_routes (screens : List Screen) {names : List String}
    (h : ∀ n ∈ names, ClassWord n) : (routes screens names).Forall Ordinary := by
  cases screens with
  | nil => exact .row rfl
  | cons first rest =>
      refine ⟨.line (.around rfl (.literal _)), .braces rfl ?_ rfl⟩
      rw [← List.map_uncurry_zip_eq_zipWith]
      refine List.forall_iff_forall_mem.mpr (List.forall_mem_map.mpr fun sn hsn => ?_)
      exact ordinary_routeEntry sn.1 (h sn.2 (List.of_mem_zip hsn).2)

/-- The opening line of a class with a fixed name. -/
theorem mentions_classRow {cs ds name : List Char} {ws : List Word}
    (h : textWords (cs ++ ds) = .name classKey :: .name name :: ws)
    (hws : (Word.name name :: ws).all Word.isOrdinary = true) :
    Mentions [.declares (String.ofList name)]
      (rowWords [.code (String.ofList cs ++ String.ofList ds)]) := by
  rw [← String.ofList_append, rowWords_code, h]
  exact .step (fun _ _ => rfl) (.ordinary (List.all_eq_true.mp hws))

theorem mentions_app (dark : Bool) (title : String) (screens : List Screen) {names : List String}
    (h : ∀ n ∈ names, ClassWord n) :
    Mentions [.declares "MyApp"] (app dark title screens names).words := by
  have hopening : Mentions [.declares "MyApp"]
      (rowWords [.code ("class MyApp extends StatelessWidget " ++ "\x7b")]) :=
    mentions_classRow rfl rfl
  refine hopening.opened (.later (.row rfl) (.later ordinary_blank (.buildMethod ?_)))
    (.opening rfl)
  refine .only (.result rfl (.all (List.forall_append.mpr ⟨⟨.textRow rfl, .row rfl, ?_⟩, ?_⟩)))
  · exact .attach rfl (ordinary_themeData dark)
  · exact ordinary_routes screens h

theorem ordinary_drawerHeader : Ordinary drawerHeader := by
  have hheading : Ordinary (.line [.literal "Screens", .code ","]) := .line (.comma (.literal _))
  exact .argument rfl (.argument rfl ⟨hheading, .row rfl, .row rfl⟩)

theorem ordinary_drawerEntry (s : Screen) : Ordinary (drawerEntry s) := by
  refine .argument rfl ⟨.textRow rfl, .braces rfl ⟨.row rfl, .block ?_ ?_ (.code rfl)⟩ rfl⟩
  · exact .around rfl (.literal _)
  · exact .line (.around rfl (.literal _))

theorem mentions_drawer (screens : List Screen) :
    Mentions [.declares "AppSidebar"] (drawer screens).words := by
  have hopening : Mentions [.declares "AppSidebar"]
      (rowWords [.code ("class AppSidebar extends StatelessWidget " ++ "\x7b")]) :=
    mentions_classRow rfl rfl
  have hentries : (drawerHeader :: screens.map drawerEntry).Forall Ordinary := by
    refine List.forall_iff_forall_mem.mpr (List.forall_mem_cons.mpr ⟨ordinary_drawerHeader, ?_⟩)
    exact List.forall_mem_map.mpr fun s _ => ordinary_drawerEntry s
  refine hopening.opened (.later (.row rfl) (.later ordinary_blank (.buildMethod ?_)))
    (.opening rfl)
  exact .only (.result rfl (.only (.argument rfl (.only (.brackets rfl (.all hentries))))))

/-! ## Screens -/

/-- What an element is and does mentions no class. -/
theorem isClass_contentMentions (index : Int) (c : Content) :
    (contentMentions index c).filter Mention.isClass = [] := by
  have hshown (state : Option String) (w : Word) :
      (shownMentions state w).filter Mention.isClass = [] := by
    cases state <;> rfl
  have hsets (state : Option String) :
      (state.toList.map Mention.sets).filter Mention.isClass = [] := by
    cases state <;> rfl
  have hcontrol (state : Option String) (k : Control) :
      (controlMentions state k).filter Mention.isClass = [] := by
    cases k with
    | toggle => rw [controlMentions, List.filter_append, hshown, hsets]; rfl
    | checkbox => rw [controlMentions, List.filter_append, hshown, hsets]; rfl
    | radio => rfl
  cases c with
  | choosable c => exact hcontrol _ _
  | control k => exact hcontrol none k
  | labeled l => exact hcontrol none l.control
  | dropdown d =>
      rw [contentMentions, dropdownMentions, List.filter_append, hshown, List.filter_append,
        List.filter_flatMap]
      have hitems : (d.choices.flatMap fun c =>
          [Mention.value (.literal c.value)].filter Mention.isClass) = [] :=
        List.flatMap_eq_nil_iff.mpr fun c _ => rfl
      rw [hitems]
      split
      · rfl
      · rw [hsets]; rfl
  | _ => rfl

theorem classMentions_field {i : Nat} {c : Content} {l : Layout} (h : stateField? i c = some l) :
    ClassMentions [] l.words := by
  have hdeclared {cs : List Char} {begin : List Word} {x : Word}
      (hcs : cs.getLast?.all (!isNamePart ·) = true) (hwords : textWords cs = begin ++ [x])
      (hbegin : begin.all Word.isOrdinary = true) (hx : x.isOrdinary = true)
      (hbrace : x ≠ .sign '\x7b') {v : String} (hv : StateName v) {t : Token} {w : Word}
      (ht : rowWords [t] = [w]) (hw : w.isOrdinary = true) :
      ClassMentions []
        (Layout.line [.code (String.ofList cs), .declared v, .code " = ", t, .code ";"]).words := by
    have hend : ∀ u ∈ [w, .sign ';'], u.isOrdinary = true :=
      List.forall_mem_cons.mpr ⟨hw, List.forall_mem_singleton.mpr rfl⟩
    have hvalue : ∀ u ∈ [.sign '=', w, .sign ';'], u.isOrdinary = true :=
      List.forall_mem_cons.mpr ⟨rfl, hend⟩
    rw [words_line, rowWords_field hcs hv ht, hwords, List.append_assoc, List.singleton_append]
    have hname := Mentions.fielding hv.hidden hx hbrace (.ordinary hvalue)
    exact .of_mentions (.left (List.all_eq_true.mp hbegin) hname) rfl
  have hname (v : String) (hv : stateName? i c = some v) := stateName_of_index hv
  cases c with
  | choosable d =>
      obtain ⟨v, hv, rfl⟩ := Option.map_eq_some_iff.mp h
      exact @hdeclared _ [] (.name _) rfl rfl rfl rfl nofun v (hname v hv) _ _ (rowWords_truth _)
        (isOrdinary_truthWord _)
  | dropdown d =>
      obtain ⟨v, hv, rfl⟩ := Option.map_eq_some_iff.mp h
      exact @hdeclared _ [.name _] (.sign '?') rfl rfl rfl rfl nofun v (hname v hv) _ _
        (rowWords_selection d) (isOrdinary_selectionWord d)
  | _ => cases h

theorem ordinary_placeRows {e : Element} {ls : List Layout} (h : placeRows e = .ok ls) :
    ls.Forall Ordinary := by
  have hplace : Ensures (List.Forall Ordinary) (placeRows e) := by
    have hrow {cs : List Char} (n : Int) (h : (isUsual (cs ++ [':', ' ']) && isUsual [','] &&
        cuts (cs ++ [':', ' ']) [',']) = true) :
        Ensures Ordinary (placeRow (String.ofList cs) n) := by
      have := @ordinary_numberRow (cs ++ [':', ' ']) [','] (.int n) h
      rwa [String.ofList_append] at this
    refine (hrow e.x rfl).bind fun left hleft => ?_
    refine (hrow e.y rfl).bind fun top htop => ?_
    refine (hrow e.width rfl).bind fun width hwidth => ?_
    refine (hrow e.height rfl).bind fun height hheight => ?_
    exact ⟨hleft, htop, hwidth, hheight⟩
  rwa [h] at hplace

theorem classMentions_positioned {i : Nat} {e : Element} {ls : List Layout}
    (h : (positioned i e).result = .ok ls) : ClassMentions [] (ls.flatMap Layout.words) := by
  obtain ⟨place, inside, hplace, hinside, rfl⟩ := positioned_eq_ok h
  obtain ⟨c, hc, hl⟩ := exists_content hinside
  have hwidget := mentions_widget (iconName_of_mem_iconNames hc) fun v => @stateName_of_index i c v
  rw [hl] at hwidget
  have hchild : Mentions (contentMentions i c) (attach "child" inside).words := .attach rfl hwidget
  have hbody : Mentions (contentMentions i c)
      ((place ++ [attach "child" inside]).flatMap Layout.words) := by
    rw [List.flatMap_append]
    exact .left (ordinary_all (ordinary_placeRows hplace)) (.only hchild)
  have hremark : Ordinary (elementRemark e) := .line (.remark _)
  exact .of_mentions (.later hremark (.only (.argument rfl hbody))) (isClass_contentMentions i c)

/-- A row with two tokens between code. -/
theorem rowWords_pair {as bs cs : List Char} {b : Char} (t u : Token)
    (has : as.getLast?.all (!isNamePart ·) = true) (hb : isNamePart b = false)
    (hbs : cuts (b :: bs) cs = true) :
    rowWords [.code (String.ofList as), t, .code (String.ofList (b :: bs)), u,
        .code (String.ofList cs)] =
      textWords as ++
        (rowWords [t] ++ (textWords (b :: bs) ++ (rowWords [u] ++ textWords cs))) := by
  have htail := @rowWords_behind [t] b bs hb [u, .code (String.ofList cs)]
  rw [List.singleton_append, rowWords_around hbs] at htail
  rw [rowWords_ahead has, htail]

/-- The widget of a screen declares its class and creates its state. -/
theorem mentions_widgetClass {n : String} (h : ClassWord n) :
    Mentions [.declares n, .stateOf n, .creates (stateClass n), .names (stateClass n)]
      (Layout.block [.code "class ", .declared n, .code " extends StatefulWidget \x7b"]
        [.line [.code "const ", .declared n, .code "(\x7bsuper.key\x7d);"], blank, row "@override",
          .line [.code "State<", .declared n, .code "> createState() => ",
            .declared (stateClass n), .code "();"]]
        [.code "\x7d"]).words := by
  have hstate := stateName_stateClass h
  have hopening : Mentions [.declares n]
      (rowWords [.code "class ", .declared n, .code " extends StatefulWidget \x7b"]) := by
    rw [rowWords_around rfl, h.rowWords]
    refine .declaring (.ordinary ?_)
    exact List.forall_mem_cons.mpr ⟨h.plain, List.all_eq_true.mp rfl⟩
  have hcreate : Mentions [.stateOf n, .creates (stateClass n), .names (stateClass n)]
      (Layout.line [.code "State<", .declared n, .code "> createState() => ",
            .declared (stateClass n), .code "();"]).words := by
    have hcall : Mentions [.names (stateClass n)]
        (.name (stateClass n).toList :: .sign '(' :: [.sign ')', .sign ';']) :=
      .naming hstate.hidden nofun (.ordinary (List.all_eq_true.mp rfl))
    have hmade := Mentions.creating
      (.left (List.all_eq_true.mp rfl : ∀ w ∈ [Word.sign '(', .sign ')', .sign '=', .sign '>'], _)
        hcall)
    have hrest : ∀ w ∈ [Word.sign '<', .name n.toList, .sign '>'], w.isOrdinary = true :=
      List.forall_mem_cons.mpr ⟨rfl, List.forall_mem_cons.mpr ⟨h.plain, List.all_eq_true.mp rfl⟩⟩
    rw [words_line, rowWords_pair _ _ rfl rfl rfl, h.rowWords, rowWords_declared hstate]
    exact .stating (.left hrest hmade)
  have hconst : Ordinary (.line [.code "const ", .declared n, .code "(\x7bsuper.key\x7d);"]) :=
    .line (.around rfl h.ordinaryRow)
  exact hopening.opened (.later hconst (.later ordinary_blank (.later (.row rfl) (.only hcreate))))
    (.code rfl)

/-- The opening line of the state of a screen. -/
theorem mentions_stateRow {n : String} (h : ClassWord n) :
    Mentions [.declares (stateClass n), .names (stateClass n), .stateOf n]
      (rowWords [.code "class ", .declared (stateClass n), .code " extends State<", .declared n,
        .code "> \x7b"]) := by
  have hstate := stateName_stateClass h
  have hrest : ∀ w ∈ [Word.sign '<', .name n.toList, .sign '>', .sign '\x7b'],
      w.isOrdinary = true :=
    List.forall_mem_cons.mpr ⟨rfl, List.forall_mem_cons.mpr ⟨h.plain, List.all_eq_true.mp rfl⟩⟩
  rw [rowWords_pair _ _ rfl rfl rfl, rowWords_declared hstate, h.rowWords]
  refine .declaring (.naming hstate.hidden nofun ?_)
  exact .left (List.forall_mem_singleton.mpr rfl) (.stating (.ordinary hrest))

/-- The state of a screen declares its class, and mentions no other one in its body. -/
theorem mentions_stateClass (s : Screen) {n : String} (h : ClassWord n)
    {fields widgets : List Layout} {fs ws : List Mention}
    (hfields : Mentions fs (fields.flatMap Layout.words))
    (hwidgets : Mentions ws (widgets.flatMap Layout.words)) :
    Mentions ([.declares (stateClass n), .names (stateClass n), .stateOf n] ++
        (fs ++ if s.elements.isEmpty then [] else ws))
      (Layout.block
        [.code "class ", .declared (stateClass n), .code " extends State<", .declared n,
          .code "> \x7b"]
        ((if fields.isEmpty then [] else fields ++ [blank]) ++
          buildMethod
            [result "Scaffold"
              [argument "appBar: AppBar" [textRow "title: Text(" s.name "),"],
               row "drawer: const AppSidebar(),",
               argument "body: Stack"
                [brackets "children" (if s.elements.isEmpty then [emptyBody] else widgets)]]])
        [.code "\x7d"]).words := by
  have hshown : Mentions (if s.elements.isEmpty then [] else ws)
      ((if s.elements.isEmpty then [emptyBody] else widgets).flatMap Layout.words) := by
    split
    · exact .only (.of_ordinary (.line (.remark _)))
    · exact hwidgets
  have hdeclared : Mentions fs
      ((if fields.isEmpty then [] else fields ++ [blank]).flatMap Layout.words) := by
    split
    · rename_i hempty
      rwa [List.isEmpty_iff.mp hempty] at hfields
    · rw [List.flatMap_append]
      exact hfields.right (ordinary_all ordinary_blank)
  have htitle : Ordinary (argument "appBar: AppBar" [textRow "title: Text(" s.name "),"]) :=
    .argument rfl (.textRow rfl)
  refine (mentions_stateRow h).opened ?_ (.code rfl)
  rw [List.flatMap_append]
  refine hdeclared.append (.buildMethod (.only (.result rfl (.later htitle ?_))))
  exact .later (.row rfl) (.only (.argument rfl (.only (.brackets rfl hshown))))

/-- The classes of a screen. -/
theorem classMentions_screenClasses (s : Screen) {n : String} (h : ClassWord n)
    {fields widgets : List Layout} (hfields : ClassMentions [] (fields.flatMap Layout.words))
    (hwidgets : ClassMentions [] (widgets.flatMap Layout.words)) :
    ClassMentions (screenMentions n) ((screenClasses s n fields widgets).flatMap Layout.words) := by
  obtain ⟨fs, hfields, hfs⟩ := hfields
  obtain ⟨ws, hwidgets, hws⟩ := hwidgets
  have hclasses := Mentions.cons (mentions_widgetClass h)
    (.later ordinary_blank (.only (mentions_stateClass s h hfields hwidgets)))
  refine .of_mentions hclasses ?_
  rw [List.filter_append, List.filter_append, List.filter_append, hfs]
  split
  · rfl
  · rw [hws]
    rfl

theorem classMentions_screen {s : Screen} {n : String} (hn : ClassWord n) {ls : List Layout}
    (h : (screen s n).result = .ok ls) :
    ClassMentions (screenMentions n) (ls.flatMap Layout.words) := by
  obtain ⟨fields, widgets, hfields, hwidgets, rfl⟩ := screen_eq_ok h
  refine classMentions_screenClasses s hn (.all fun l hl => ?_) ?_
  · obtain ⟨i, e, hfield⟩ := exists_fieldOf hfields hl
    obtain ⟨c, hc⟩ := exists_stateField? hfield
    exact classMentions_field hc
  · rw [List.flatten_eq_flatMap, List.flatMap_assoc]
    refine .all fun ls hls => ?_
    obtain ⟨x, hx, hwidget⟩ := exists_of_mem_mapM hwidgets hls
    obtain ⟨i, hi, rfl⟩ := List.mem_mapIdx.mp hx
    exact classMentions_positioned hwidget

end ScreenDesign.Dart
