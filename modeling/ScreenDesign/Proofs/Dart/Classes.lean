import ScreenDesign.Proofs.Dart.ClassMentions
import ScreenDesign.Proofs.Dart.Routes

/-!
# The classes of a program

A program declares the app, the drawer, and two classes for each screen: the widget and its state.
The declarations are read off the source text, and so are the places that refer to a class: behind
`State`, behind `createState`, and in the table of routes (`class_names`).

A program is put together from the app, the drawer and one screen after the other, and so are its
mentions of classes (`classes_of_program`).
-/

namespace ScreenDesign.Dart

open Layout

/-! ## Mentions in a program -/

theorem classMentions_classes {screens : List Screen} {names : List String}
    {classes : List (List Layout)} (hnames : ∀ n ∈ names, ClassWord n)
    (hlength : names.length = screens.length)
    (h : (List.zipWith screen screens names).mapM (fun x => (id x).result) = .ok classes) :
    ClassMentions (names.flatMap screenMentions)
      ((classes.flatMap (blank :: ·)).flatMap Layout.words) := by
  have hscreens : List.Forall₂ (fun n x => ∀ ls, x.result = .ok ls →
      ClassMentions (screenMentions n) (ls.flatMap Layout.words)) names
        (List.zipWith screen screens names) := by
    rw [List.forall₂_iff_get]
    refine ⟨?_, fun i hi hi' ls hls => ?_⟩
    · rw [List.length_zipWith, hlength, Nat.min_self]
    · rw [List.get_eq_getElem, List.getElem_zipWith] at hls
      exact classMentions_screen (hnames _ (List.getElem_mem hi)) hls
  have hspaced : (classes.flatMap (blank :: ·)).flatMap Layout.words =
      classes.flatten.flatMap Layout.words := by
    rw [List.flatten_eq_flatMap, List.flatMap_assoc, List.flatMap_assoc]
    rfl
  rw [hspaced]
  exact .flatten hscreens h

theorem ordinary_preamble : preamble.Forall Ordinary := by
  refine ⟨.line (.around rfl (.literal _)), ordinary_blank, .braces rfl (.row rfl) rfl⟩

/-- The classes in a program: the app, the drawer, and those of each screen. -/
theorem classes_of_program {dark : Bool} {title : String} {screens : List Screen} {p : Program}
    (h : (program dark title screens).result = .ok p) :
    (mentions (words p.code)).filter Mention.isClass =
      .declares "MyApp" :: .declares "AppSidebar" ::
        (assign (screens.map Screen.name)).flatMap screenMentions := by
  obtain ⟨ls, hls, hcode⟩ := exists_designLayout h
  have hwords := words_sourceText (each_designLayout hls).rows.fits
  obtain ⟨classes, hclasses, rfl⟩ := designLayout_eq_ok hls
  have hnames : ∀ n ∈ assign (screens.map Screen.name), ClassWord n :=
    fun n hn => classWord_of_mem_assign hn
  have hlength : (assign (screens.map Screen.name)).length = screens.length := by
    rw [length_assign, List.length_map]
  obtain ⟨ms, hms, hfilter⟩ := classMentions_classes hnames hlength hclasses
  have happ := mentions_app dark title screens hnames
  have hfront : Mentions [.declares "MyApp", .declares "AppSidebar"]
      ((preamble ++ [blank, app dark title screens (assign (screens.map Screen.name)), blank,
        drawer screens]).flatMap Layout.words) := by
    rw [List.flatMap_append]
    refine .left (ordinary_all ordinary_preamble) (.later ordinary_blank (.cons happ ?_))
    exact .later ordinary_blank (.only (mentions_drawer screens))
  have hall := hfront.append hms
  rw [← List.flatMap_append, ← programLayout, ← hwords, ← hcode] at hall
  rw [hall.eq, List.filter_append, hfilter]
  rfl

/-- The classes that a program with these class names declares. -/
def programClasses (names : List String) : List String :=
  "MyApp" :: "AppSidebar" :: names.flatMap fun n => [n, stateClass n]

/-- What is read off the mentions of classes, is read off those of each screen. -/
theorem filterMap_mentions {dark : Bool} {title : String} {screens : List Screen} {p : Program}
    (h : (program dark title screens).result = .ok p) {f : Mention → Option String}
    (hf : ∀ m, m.isClass = false → f m = none) :
    (mentions (words p.code)).filterMap f =
      [.declares "MyApp", .declares "AppSidebar"].filterMap f ++
        (assign (screens.map Screen.name)).flatMap fun n => (screenMentions n).filterMap f := by
  have hclasses (ms : List Mention) : ms.filterMap f = (ms.filter Mention.isClass).filterMap f := by
    rw [List.filterMap_filter]
    refine List.filterMap_congr fun m _ => ?_
    cases hm : m.isClass with
    | true => rfl
    | false => exact hf m hm
  rw [hclasses, classes_of_program h, ← List.filterMap_flatMap, ← List.filterMap_append]
  rfl

/-- No two declarations have the same name. -/
theorem nodup_programClasses (names : List String) : (programClasses (assign names)).Nodup := by
  have hpublic {n : String} (hn : n ∈ assign names) : isPrivate n.toList = false := by
    have hplain := (classWord_of_mem_assign hn).plain
    rw [Word.isOrdinary, Bool.and_eq_true, Bool.not_eq_true', Bool.not_eq_true'] at hplain
    exact hplain.2
  have hprivate {n : String} (hn : n ∈ assign names) : isPrivate (stateClass n).toList = true :=
    (stateName_stateClass (classWord_of_mem_assign hn)).hidden
  have hfixed {c : Char} {s : String} (hlast : s.toList.getLast? = some c)
      (hc : (c = 'n' ∨ c.isDigit = true) → False) (hs : isPrivate s.toList = false) :
      s ∉ (assign names).flatMap fun n => [n, stateClass n] := by
    intro hmem
    obtain ⟨n, hn, hmem⟩ := List.mem_flatMap.mp hmem
    simp only [List.mem_cons, List.not_mem_nil, or_false] at hmem
    rcases hmem with rfl | rfl
    · exact hc (last_of_mem_assign hn c hlast)
    · rw [hprivate hn] at hs
      cases hs
  have hstates {m n : String} (hsame : stateClass m = stateClass n) : m = n := by
    rw [stateClass, stateClass, String.append_left_inj, String.append_right_inj] at hsame
    exact hsame
  have hnames : ((assign names).flatMap fun n => [n, stateClass n]).Nodup := by
    rw [List.nodup_flatMap]
    constructor
    · intro n hn
      rw [List.nodup_cons, List.mem_singleton]
      refine ⟨fun hsame => ?_, List.nodup_singleton _⟩
      have := hpublic hn
      rw [hsame, hprivate hn] at this
      cases this
    · refine (nodup_assign names).imp_of_mem fun {m n} hm hn hne s hs hs' => ?_
      simp only [List.mem_cons, List.not_mem_nil, or_false] at hs hs'
      rcases hs with rfl | rfl <;> rcases hs' with hs' | hs'
      · exact hne hs'
      · have := hpublic hm
        rw [hs', hprivate hn] at this
        cases this
      · have := hpublic hn
        rw [← hs', hprivate hm] at this
        cases this
      · exact hne (hstates hs')
  refine List.nodup_cons.mpr ⟨?_, List.nodup_cons.mpr ⟨?_, hnames⟩⟩
  · rw [List.mem_cons, not_or]
    exact ⟨by decide, hfixed rfl (by decide) rfl⟩
  · exact hfixed rfl (by decide) rfl

section

variable {dark : Bool} {title : String} {screens : List Screen} {p : Program}
  (h : (program dark title screens).result = .ok p)

include h

theorem declared_program :
    (mentions (words p.code)).filterMap Mention.declared? =
      programClasses (assign (screens.map Screen.name)) :=
  filterMap_mentions h fun m hm => by cases m <;> first | rfl | cases hm

theorem stated_program :
    (mentions (words p.code)).filterMap Mention.stated? =
      (assign (screens.map Screen.name)).flatMap fun n => [n, n] :=
  filterMap_mentions h fun m hm => by cases m <;> first | rfl | cases hm

theorem created_program :
    (mentions (words p.code)).filterMap Mention.created? =
      (assign (screens.map Screen.name)).map stateClass :=
  (filterMap_mentions h fun m hm => by cases m <;> first | rfl | cases hm).trans
    List.map_eq_flatMap.symm

/-- The table of routes leads to the classes of the screens, one after the other. -/
theorem exists_routeTable :
    ∃ ls table, scan p.code = some ls ∧ routeTable? ls = some table ∧
      table.map Prod.snd = assign (screens.map Screen.name) := by
  obtain ⟨ls, hls, hcode⟩ := exists_designLayout h
  refine ⟨lexemes ls, _, ?_, routeTable?_program hls, ?_⟩
  · rw [hcode]
    exact scan_sourceText (each_designLayout hls).rows.fits
  · refine List.map_snd_zip (Nat.le_of_eq ?_)
    rw [length_assign, List.length_map, List.length_map]

/-- Behind `State` and `createState` there are only declared classes. -/
theorem declared_of_mention {n : String}
    (hn : .stateOf n ∈ mentions (words p.code) ∨ .creates n ∈ mentions (words p.code)) :
    n ∈ programClasses (assign (screens.map Screen.name)) := by
  have hclass {m : String} (hm : m ∈ assign (screens.map Screen.name)) :
      m ∈ programClasses (assign (screens.map Screen.name)) ∧
        stateClass m ∈ programClasses (assign (screens.map Screen.name)) := by
    simp only [programClasses, List.mem_cons, List.mem_flatMap]
    exact ⟨.inr (.inr ⟨m, hm, .inl rfl⟩), .inr (.inr ⟨m, hm, .inr (.inl rfl)⟩)⟩
  rcases hn with hn | hn
  · have hstated : n ∈ (mentions (words p.code)).filterMap Mention.stated? :=
      List.mem_filterMap.mpr ⟨_, hn, rfl⟩
    rw [stated_program h] at hstated
    obtain ⟨m, hm, hmem⟩ := List.mem_flatMap.mp hstated
    obtain rfl : n = m := by simpa using hmem
    exact (hclass hm).1
  · have hcreated : n ∈ (mentions (words p.code)).filterMap Mention.created? :=
      List.mem_filterMap.mpr ⟨_, hn, rfl⟩
    rw [created_program h] at hcreated
    obtain ⟨m, hm, rfl⟩ := List.mem_map.mp hcreated
    exact (hclass hm).2

end

/-- The names of the classes of a design are identifiers without repetition, the first one with a
base as it is and the `k`-th one with the number `k`, and the search for a number passes the names
that are taken and stops.  A program declares each of its classes once, and every class behind
`State`, behind `createState` and in the routes is declared. -/
theorem class_names (screens : List Screen) :
    let names := assign (screens.map Screen.name)
    names.length = screens.length ∧ (∀ n ∈ names, IsClassName n) ∧ names.Nodup ∧
      (∀ (i : Nat) (s : Screen), screens[i]? = some s →
        let base := className s.name
        let k := earlier (screens.map Screen.name) i base
        names[i]? = some (numbered base k) ∧ numbered base k ∉ names.take i ∧
          ∀ j < k, numbered base j ∈ names.take i) ∧
      (∀ s t k, 0 < k → numbered (className s) k ≠ className t) ∧
      ∀ dark title p, (program dark title screens).result = .ok p →
        let declared := (mentions (words p.code)).filterMap Mention.declared?
        declared = programClasses names ∧ declared.Nodup ∧
          (mentions (words p.code)).filterMap Mention.stated? = (names.flatMap fun n => [n, n]) ∧
          (mentions (words p.code)).filterMap Mention.created? = names.map stateClass ∧
          (∀ n, .stateOf n ∈ mentions (words p.code) ∨ .creates n ∈ mentions (words p.code) →
            n ∈ declared) ∧
          ∃ ls table, scan p.code = some ls ∧ routeTable? ls = some table ∧
            table.map Prod.snd = names ∧ ∀ r ∈ table, r.2 ∈ declared := by
  intro names
  refine ⟨?_, fun n => isClassName_of_mem_assign, nodup_assign _, ?_, ?_, ?_⟩
  · rw [length_assign, List.length_map]
  · intro i s hs base k
    have hi := (List.getElem?_eq_some_iff.mp hs).1
    have hname : names[i]? = some (numbered base k) := by
      rw [getElem?_assign, List.getElem?_map, hs]
      rfl
    refine ⟨hname, notMem_take_assign hname, fun j hj => ?_⟩
    rw [mem_take_assign (by rw [List.length_map]; omega) (stem_className _)]
    exact hj
  · intro s t k hk hsame
    rw [numbered, if_neg (Nat.ne_of_gt hk)] at hsame
    exact (stem_className t).ne_append_repr (stem_className s) _ hsame.symm
  · intro dark title p h declared
    have hdeclared : declared = programClasses names := declared_program h
    obtain ⟨ls, table, hscan, htable, hclasses⟩ := exists_routeTable h
    refine ⟨hdeclared, hdeclared ▸ nodup_programClasses _, stated_program h, created_program h,
      fun n hn => ?_, ls, table, hscan, htable, hclasses, fun r hr => ?_⟩
    · rw [hdeclared]
      exact declared_of_mention h hn
    · have hr : r.2 ∈ table.map Prod.snd := List.mem_map_of_mem hr
      rw [hclasses] at hr
      rw [hdeclared, programClasses]
      refine List.mem_cons_of_mem _ (List.mem_cons_of_mem _ (List.mem_flatMap.mpr ⟨r.2, hr, ?_⟩))
      exact List.mem_cons_self

/-- A design with two empty screens of the same name. -/
def homeDesign : List Screen := [⟨"home", "Home", []⟩, ⟨"home2", "Home", []⟩]

/-- The second screen gets a number, and both have their classes in the program. -/
theorem class_names_of_homeDesign :
    ∃ p, (program false "App" homeDesign).result = .ok p ∧
      homeDesign[1]? = some ⟨"home2", "Home", []⟩ ∧
      (assign (homeDesign.map Screen.name))[1]? = some "HomeScreen2" ∧
      0 < 1 ∧ numbered (className "Home") 1 ≠ className "Home2" ∧
      (mentions (words p.code)).filterMap Mention.declared? =
        ["MyApp", "AppSidebar", "HomeScreen", "_HomeScreenState", "HomeScreen2",
          "_HomeScreen2State"] ∧
      .stateOf "HomeScreen2" ∈ mentions (words p.code) ∧
      "HomeScreen2" ∈ (mentions (words p.code)).filterMap Mention.declared? := by
  obtain ⟨p, hp⟩ : ∃ p, (program false "App" homeDesign).result = .ok p := ⟨_, rfl⟩
  obtain ⟨-, -, -, hnumber, hapart, hprogram⟩ := class_names homeDesign
  obtain ⟨hname, -⟩ := hnumber 1 ⟨"home2", "Home", []⟩ rfl
  obtain ⟨hdeclared, -, hstated, -, hclosed, -⟩ := hprogram false "App" p hp
  have hsecond : numbered (className "Home")
      (earlier (homeDesign.map Screen.name) 1 (className "Home")) = "HomeScreen2" := by
    decide +kernel
  have hnames : programClasses (assign (homeDesign.map Screen.name)) =
      ["MyApp", "AppSidebar", "HomeScreen", "_HomeScreenState", "HomeScreen2",
        "_HomeScreen2State"] := by decide +kernel
  have hstate : .stateOf "HomeScreen2" ∈ mentions (words p.code) := by
    have hmem : "HomeScreen2" ∈ (mentions (words p.code)).filterMap Mention.stated? := by
      rw [hstated]
      decide +kernel
    obtain ⟨m, hm, hread⟩ := List.mem_filterMap.mp hmem
    cases m <;> cases hread
    exact hm
  refine ⟨p, hp, rfl, hname.trans (congrArg some hsecond), Nat.one_pos,
    hapart "Home" "Home2" 1 Nat.one_pos, hdeclared.trans hnames, hstate, ?_⟩
  exact hclosed "HomeScreen2" (.inl hstate)

end ScreenDesign.Dart
