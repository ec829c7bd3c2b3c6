import Mathlib.Data.Finset.Card
import ScreenDesign.Proofs.Canonical

/-!
# Findings by kind

A check of a design finds nothing exactly if the design is in order (`ofDesign_eq_nil_iff`): the
ids of screens differ, and so do those of the elements on one screen, every element lies on the
canvas, is large enough and has its keys, and every button leads to a screen or nowhere.

Each part of the check has findings of its own kind, so the findings of a kind are those of the
part (`ofKind_ofDesign`).

* An element has at most one finding on its place, on its size and on its keys (`Reports`).
* Each id that repeats on a screen has one finding, which says how often (`OncePerId`).
* Each screen that has the id of an earlier one has a finding.  Together with the distinct ids
  these are as many as the screens (`length_repeats`).
-/

namespace ScreenDesign

namespace Finding

/-! ## Kinds -/

/-- The findings of a kind. -/
def ofKind (kind : String) (findings : List Finding) : List Finding :=
  findings.filter fun f => f.problem.kind = kind

/-- The kinds of findings on a single element. -/
def elementKinds : List String := ["out_of_bounds", "below_min_size", "missing_properties"]

theorem ofKind_append (kind : String) (as bs : List Finding) :
    ofKind kind (as ++ bs) = ofKind kind as ++ ofKind kind bs :=
  List.filter_append as bs

theorem ofKind_flatMap {α : Type} (kind : String) (f : α → List Finding) (as : List α) :
    ofKind kind (as.flatMap f) = as.flatMap fun a => ofKind kind (f a) :=
  List.filter_flatMap

theorem ofKind_eq_self {kind : String} {findings : List Finding}
    (h : ∀ f ∈ findings, f.problem.kind = kind) : ofKind kind findings = findings :=
  List.filter_eq_self.mpr fun f hf => decide_eq_true (h f hf)

theorem ofKind_eq_nil {kind : String} {findings : List Finding}
    (h : ∀ f ∈ findings, f.problem.kind ≠ kind) : ofKind kind findings = [] :=
  List.filter_eq_nil_iff.mpr fun f hf hkind => h f hf (of_decide_eq_true hkind)

/-- Findings of one kind are all of them or none of them of a kind. -/
theorem ofKind_of_kind {kind : String} {findings : List Finding}
    (h : ∀ f ∈ findings, f.problem.kind = kind) (other : String) :
    ofKind other findings = if kind = other then findings else [] := by
  split
  case isTrue hkind => exact ofKind_eq_self fun f hf => (h f hf).trans hkind
  case isFalse hkind => exact ofKind_eq_nil fun f hf hother => hkind ((h f hf).symm.trans hother)

/-! ## Elements -/

/-- Problems of an element as findings. -/
def about (e : Element) (problems : List Problem) : List Finding := problems.map (Finding.mk e.id)

theorem ofElement_eq (e : Element) :
    ofElement e = about e (bounds e) ++ about e (size e) ++ about e (keys e) := by
  rw [about, about, about, ← List.map_append, ← List.map_append]
  rfl

section

variable (e : Element)

theorem kind_of_mem_bounds : ∀ f ∈ about e (bounds e), f.problem.kind = "out_of_bounds" := by
  rw [about, bounds]
  split
  · exact List.forall_mem_singleton.mpr rfl
  · split
    · exact List.forall_mem_singleton.mpr rfl
    · exact List.forall_mem_nil _

theorem kind_of_mem_size : ∀ f ∈ about e (size e), f.problem.kind = "below_min_size" := by
  rw [about, size]
  split
  · exact List.forall_mem_singleton.mpr rfl
  · exact List.forall_mem_nil _

theorem kind_of_mem_keys : ∀ f ∈ about e (keys e), f.problem.kind = "missing_properties" := by
  rw [about, keys]
  split
  · exact List.forall_mem_nil _
  · exact List.forall_mem_singleton.mpr rfl

theorem ofKind_ofElement (kind : String) :
    ofKind kind (ofElement e) =
      (if "out_of_bounds" = kind then about e (bounds e) else []) ++
        (if "below_min_size" = kind then about e (size e) else []) ++
        (if "missing_properties" = kind then about e (keys e) else []) := by
  rw [ofElement_eq, ofKind_append, ofKind_append, ofKind_of_kind (kind_of_mem_bounds e),
    ofKind_of_kind (kind_of_mem_size e), ofKind_of_kind (kind_of_mem_keys e)]

theorem kind_of_mem_ofElement : ∀ f ∈ ofElement e, f.problem.kind ∈ elementKinds := by
  rw [ofElement_eq, List.forall_mem_append, List.forall_mem_append]
  refine ⟨⟨fun f hf => ?_, fun f hf => ?_⟩, fun f hf => ?_⟩
  · rw [kind_of_mem_bounds e f hf]
    decide
  · rw [kind_of_mem_size e f hf]
    decide
  · rw [kind_of_mem_keys e f hf]
    decide

end

/-- An element lies on the canvas. -/
def OnCanvas (e : Element) : Prop :=
  (0 ≤ e.x ∧ e.x ≤ 360 ∧ e.x + e.width ≤ 360) ∧ 0 ≤ e.y ∧ e.y ≤ 640 ∧ e.y + e.height ≤ 640

/-- An element has the least size of its type. -/
def Large (e : Element) : Prop :=
  (e.type.floor.width : Int) ≤ e.width ∧ (e.type.floor.height : Int) ≤ e.height

/-- An element has the keys of its type. -/
def Keyed (e : Element) : Prop := ∀ key ∈ e.type.keys, key ∈ Entries.keys e.properties

theorem bounds_eq_nil_iff (e : Element) : bounds e = [] ↔ OnCanvas e := by
  have hright : e.right = e.x + e.width := rfl
  have hbottom : e.bottom = e.y + e.height := rfl
  have hcanvas : (canvas.width : Int) = 360 ∧ (canvas.height : Int) = 640 := ⟨rfl, rfl⟩
  rw [bounds, OnCanvas]
  split
  case isTrue => exact iff_of_false (List.cons_ne_nil _ _) (by omega)
  case isFalse =>
      split
      case isTrue => exact iff_of_false (List.cons_ne_nil _ _) (by omega)
      case isFalse => exact iff_of_true rfl (by omega)

theorem size_eq_nil_iff (e : Element) : size e = [] ↔ Large e := by
  rw [size, Large]
  split
  case isTrue => exact iff_of_false (List.cons_ne_nil _ _) (by omega)
  case isFalse => exact iff_of_true rfl (by omega)

theorem keys_eq_nil_iff_keyed (e : Element) : keys e = [] ↔ Keyed e := by
  simp only [keys_eq_nil_iff, Entries.has_iff_mem_keys, Keyed]

theorem mem_missing_iff {e : Element} {key : String} :
    key ∈ missing e ↔ key ∈ e.type.keys ∧ key ∉ Entries.keys e.properties := by
  rw [missing, List.mem_mergeSort, List.mem_filter, Bool.not_eq_true', ← Bool.not_eq_true,
    Entries.has_iff_mem_keys]

/-- The missing keys stand in order, and none of them twice. -/
theorem pairwise_missing (e : Element) : (missing e).Pairwise (· < ·) := by
  have hsorted : (missing e).Pairwise fun a b => decide (a ≤ b) = true :=
    List.pairwise_mergeSort (fun _ _ _ => by simpa using String.le_trans)
      (fun a b => by simpa using String.le_total a b) _
  have hdistinct : (missing e).Nodup :=
    (List.mergeSort_perm _ _).nodup_iff.mpr (e.type.keys_nodup.filter _)
  refine (hsorted.and hdistinct).imp fun ⟨hle, hne⟩ => String.not_le.mp fun hge => ?_
  exact hne (String.le_antisymm (of_decide_eq_true hle) hge)

/-- A check has one finding if something does not hold, and else none. -/
structure AtMostOne (found : List Finding) (holds : Prop) : Prop where
  length_le : found.length ≤ 1
  eq_nil_iff : found = [] ↔ holds

/-- What a check finds on an element. -/
structure Reports (e : Element) : Prop where
  place : AtMostOne (ofKind "out_of_bounds" (ofElement e)) (OnCanvas e)
  size : AtMostOne (ofKind "below_min_size" (ofElement e)) (Large e)
  keys : AtMostOne (ofKind "missing_properties" (ofElement e)) (Keyed e)
  /-- A finding on keys names those of the type that the bag lacks, in alphabetical order. -/
  names : ∀ f ∈ ofKind "missing_properties" (ofElement e), ∃ missing : List String,
    f.problem.message = "Missing properties: " ++ ", ".intercalate missing ∧
      missing.Pairwise (· < ·) ∧
      ∀ key, key ∈ missing ↔ key ∈ e.type.keys ∧ key ∉ Entries.keys e.properties

theorem AtMostOne.about {e : Element} {problems : List Problem} {holds : Prop}
    (hlength : problems.length ≤ 1) (hnil : problems = [] ↔ holds) :
    AtMostOne (about e problems) holds :=
  ⟨(List.length_map _).trans_le hlength, List.map_eq_nil_iff.trans hnil⟩

theorem reports (e : Element) : Reports e := by
  have hbounds : (bounds e).length ≤ 1 := by
    rw [bounds]
    split
    · exact Nat.le_refl 1
    · split
      · exact Nat.le_refl 1
      · exact Nat.zero_le 1
  have hsize : (size e).length ≤ 1 := by
    rw [size]
    split
    · exact Nat.le_refl 1
    · exact Nat.zero_le 1
  have hkeys : (Finding.keys e).length ≤ 1 := by
    rw [Finding.keys]
    split
    · exact Nat.zero_le 1
    · exact Nat.le_refl 1
  constructor
  case place =>
    rw [ofKind_ofElement]
    simpa using AtMostOne.about hbounds (bounds_eq_nil_iff e)
  case size =>
    rw [ofKind_ofElement]
    simpa using AtMostOne.about hsize (size_eq_nil_iff e)
  case keys =>
    rw [ofKind_ofElement]
    simpa using AtMostOne.about hkeys (keys_eq_nil_iff_keyed e)
  case names =>
    intro f hf
    have hmem : f ∈ about e (Finding.keys e) := by simpa [ofKind_ofElement] using hf
    refine ⟨missing e, ?_, pairwise_missing e, fun key => mem_missing_iff⟩
    rw [about, Finding.keys] at hmem
    split at hmem
    case isTrue => cases hmem
    case isFalse =>
        cases List.mem_singleton.mp hmem
        rfl

/-! ## Screens -/

theorem nodup_distinct (as : List String) : (distinct as).Nodup := by
  induction as with
  | nil => exact List.nodup_nil
  | cons a as ih =>
      refine List.nodup_cons.mpr ⟨fun hmem => ?_, ih.filter _⟩
      simpa using (List.mem_filter.mp hmem).2

/-- One finding for each id that repeats on a screen. -/
structure OncePerId (s : Screen) (found : List Finding) : Prop where
  /-- No id has two findings. -/
  nodup : (found.map Finding.subject).Nodup
  /-- The ids that repeat have a finding, which says how often they stand on the screen. -/
  mem_iff : ∀ f, f ∈ found ↔ 2 ≤ (s.elements.map Element.id).count f.subject ∧
    f.problem = .repeatedId f.subject ((s.elements.map Element.id).count f.subject) s.id
  message : ∀ f ∈ found, f.problem.message = "Duplicate ID '" ++ f.subject ++ "' appears " ++
    ((s.elements.map Element.id).count f.subject).repr ++ " times on screen '" ++ s.id ++ "'"

theorem mem_repeatedIds_iff {s : Screen} {f : Finding} :
    f ∈ repeatedIds s ↔ 2 ≤ (s.elements.map Element.id).count f.subject ∧
      f.problem = .repeatedId f.subject ((s.elements.map Element.id).count f.subject) s.id := by
  simp only [repeatedIds, List.mem_map, List.mem_filter, mem_distinct, decide_eq_true_eq]
  constructor
  · rintro ⟨id, ⟨-, hcount⟩, rfl⟩
    exact ⟨hcount, rfl⟩
  · rintro ⟨hcount, hproblem⟩
    have hmem : f.subject ∈ s.elements.map Element.id := List.count_pos_iff.mp (by omega)
    refine ⟨f.subject, ⟨List.mem_map.mp hmem, hcount⟩, ?_⟩
    rw [← hproblem]

theorem oncePerId_repeatedIds (s : Screen) : OncePerId s (repeatedIds s) where
  nodup := by
    rw [repeatedIds, List.map_map]
    exact (List.map_id _).symm ▸ (nodup_distinct _).filter _
  mem_iff _ := mem_repeatedIds_iff
  message f hf := by rw [(mem_repeatedIds_iff.mp hf).2]; rfl

theorem kind_of_mem_repeatedIds {s : Screen} :
    ∀ f ∈ repeatedIds s, f.problem.kind = "duplicate_id" := by
  intro f hf
  rw [(mem_repeatedIds_iff.mp hf).2]
  rfl

theorem kind_of_mem_links {ids : List String} {s : Screen} :
    ∀ f ∈ s.elements.filterMap (brokenLink? ids), f.problem.kind = "unresolved_navigation" := by
  intro f hf
  obtain ⟨e, -, he⟩ := List.mem_filterMap.mp hf
  rw [brokenLink?] at he
  split at he
  case h_1 =>
      split at he
      case isTrue => cases he
      case isFalse =>
          cases he
          rfl
  case h_2 => cases he

/-- No other findings come from single elements. -/
theorem ofKind_elements_eq_nil {kind : String} (h : kind ∉ elementKinds) {es : List Element} :
    ofKind kind (es.flatMap ofElement) = [] := by
  refine ofKind_eq_nil fun f hf hkind => h ?_
  obtain ⟨e, -, hf⟩ := List.mem_flatMap.mp hf
  exact hkind ▸ kind_of_mem_ofElement e f hf

theorem ofScreen_some (s : Screen) (ids : List String) :
    ofScreen s (some ids) = ofScreen s none ++ s.elements.filterMap (brokenLink? ids) := by
  simp only [ofScreen, List.append_nil]

section

variable (s : Screen)

theorem ofKind_ofScreen_of_element {kind : String} (h : kind ∈ elementKinds) :
    ofKind kind (ofScreen s none) = s.elements.flatMap fun e => ofKind kind (ofElement e) := by
  have hids : kind ≠ "duplicate_id" := by
    rintro rfl
    exact absurd h (by decide)
  rw [ofScreen, List.append_nil, ofKind_append, ofKind_flatMap,
    ofKind_of_kind kind_of_mem_repeatedIds, if_neg hids.symm, List.append_nil]

theorem ofKind_ofScreen_of_ids :
    ofKind "duplicate_id" (ofScreen s none) = repeatedIds s := by
  rw [ofScreen, List.append_nil, ofKind_append, ofKind_elements_eq_nil (by decide),
    List.nil_append, ofKind_eq_self kind_of_mem_repeatedIds]

theorem ofKind_ofScreen_of_links (ids : List String) :
    ofKind "unresolved_navigation" (ofScreen s (some ids)) =
      s.elements.filterMap (brokenLink? ids) := by
  rw [ofScreen_some, ofScreen, List.append_nil, ofKind_append, ofKind_append,
    ofKind_elements_eq_nil (by decide), ofKind_of_kind kind_of_mem_repeatedIds,
    if_neg (by decide), ofKind_eq_self kind_of_mem_links]
  rfl

/-- The findings on a screen that are not about links do not need the other screens. -/
theorem ofKind_ofScreen_some {kind : String} (h : kind ≠ "unresolved_navigation")
    (ids : List String) : ofKind kind (ofScreen s (some ids)) = ofKind kind (ofScreen s none) := by
  rw [ofScreen_some, ofKind_append, ofKind_of_kind kind_of_mem_links, if_neg h.symm,
    List.append_nil]

end

/-! ## Designs -/

theorem kind_of_mem_repeats {ids : List String} :
    ∀ f ∈ ids.map fun id => Finding.mk id (.repeatedScreen id),
      f.problem.kind = "duplicate_screen_id" :=
  List.forall_mem_map.mpr fun _ _ => rfl

theorem ofKind_ofDesign {kind : String} (h : kind ≠ "duplicate_screen_id")
    (hlinks : kind ≠ "unresolved_navigation") (screens : List Screen) :
    ofKind kind (ofDesign screens) = screens.flatMap fun s => ofKind kind (ofScreen s none) := by
  rw [ofDesign, ofKind_append, ofKind_of_kind kind_of_mem_repeats, if_neg h.symm,
    List.nil_append, ofKind_flatMap]
  exact congrArg (List.flatMap · screens) (funext fun s => ofKind_ofScreen_some s hlinks _)

theorem ofKind_ofDesign_of_screens (screens : List Screen) :
    ofKind "duplicate_screen_id" (ofDesign screens) =
      (repeats [] (screens.map Screen.id)).map fun id => ⟨id, .repeatedScreen id⟩ := by
  have hscreen (s : Screen) :
      ofKind "duplicate_screen_id" (ofScreen s (some (screens.map Screen.id))) = [] := by
    rw [ofScreen_some, ofScreen, List.append_nil, ofKind_append, ofKind_append,
      ofKind_elements_eq_nil (by decide), ofKind_of_kind kind_of_mem_repeatedIds,
      if_neg (by decide), ofKind_of_kind kind_of_mem_links, if_neg (by decide)]
    rfl
  rw [ofDesign, ofKind_append, ofKind_flatMap, List.flatMap_eq_nil_iff.mpr fun s _ => hscreen s,
    List.append_nil, ofKind_eq_self kind_of_mem_repeats]

/-- Repeated members and distinct members of a list are as many as its members, if those that
were seen before the list are counted on both sides. -/
theorem length_repeats (seen as : List String) :
    (repeats seen as).length + (seen ++ as).toFinset.card = as.length + seen.toFinset.card := by
  induction as generalizing seen with
  | nil => simp [repeats]
  | cons a as ih =>
      rw [repeats]
      split
      case isTrue hseen =>
          have hsame : (seen ++ a :: as).toFinset = (seen ++ as).toFinset := by
            ext b
            by_cases hb : b = a <;> simp [hb, hseen]
          have := ih seen
          rw [hsame, List.length_cons, List.length_cons]
          omega
      case isFalse hnew =>
          have hsame : (seen ++ a :: as).toFinset = (a :: seen ++ as).toFinset := by
            ext b
            simp
          have hcard : (a :: seen).toFinset.card = seen.toFinset.card + 1 := by
            rw [List.toFinset_cons, Finset.card_insert_of_notMem (by simpa using hnew)]
          have := ih (a :: seen)
          rw [hsame, List.length_cons]
          omega

theorem repeats_eq_nil_iff (as : List String) : repeats [] as = [] ↔ as.Nodup := by
  have hcount := length_repeats [] as
  rw [List.nil_append, List.toFinset_nil, Finset.card_empty, Nat.add_zero] at hcount
  rw [← List.length_eq_zero_iff, ← Multiset.coe_nodup, ← Multiset.toFinset_card_eq_card_iff_nodup,
    Multiset.coe_card, ← List.toFinset]
  omega

/-- A design in which everything is in order. -/
structure InOrder (screens : List Screen) : Prop where
  screenIds : (screens.map Screen.id).Nodup
  elementIds : ∀ s ∈ screens, (s.elements.map Element.id).Nodup
  onCanvas : ∀ s ∈ screens, ∀ e ∈ s.elements, OnCanvas e
  large : ∀ s ∈ screens, ∀ e ∈ s.elements, Large e
  keyed : ∀ s ∈ screens, ∀ e ∈ s.elements, Keyed e
  /-- A button whose target is a text that is not empty leads to a screen. -/
  linked : ∀ s ∈ screens, ∀ e ∈ s.elements, e.type = .button → ∀ target,
    Entries.get? e.properties "navigateTo" = some (.text target) → target ≠ "" →
      ∃ t ∈ screens, t.id = target

theorem ofElement_eq_nil_iff_parts (e : Element) :
    ofElement e = [] ↔ OnCanvas e ∧ Large e ∧ Keyed e := by
  rw [ofElement_eq, List.append_eq_nil_iff, List.append_eq_nil_iff, about, about, about,
    List.map_eq_nil_iff, List.map_eq_nil_iff, List.map_eq_nil_iff, bounds_eq_nil_iff,
    size_eq_nil_iff, keys_eq_nil_iff_keyed, and_assoc]

theorem brokenLink?_eq_none_iff_linked {ids : List String} {e : Element} :
    brokenLink? ids e = none ↔ (e.type = .button → ∀ target,
      Entries.get? e.properties "navigateTo" = some (.text target) → target ≠ "" →
        target ∈ ids) := by
  rw [brokenLink?, rawTarget?]
  by_cases hbutton : e.type = .button
  · rw [if_pos hbutton]
    cases hget : Entries.get? e.properties "navigateTo" with
    | none => simp
    | some j =>
        cases j with
        | text s => by_cases hempty : s = "" <;> simp [hempty, hbutton]
        | _ => simp
  · simp [hbutton]

theorem ofDesign_eq_nil_iff (screens : List Screen) : ofDesign screens = [] ↔ InOrder screens := by
  have hscreen (s : Screen) : ofScreen s (some (screens.map Screen.id)) = [] ↔
      (∀ e ∈ s.elements, OnCanvas e ∧ Large e ∧ Keyed e) ∧
        (s.elements.map Element.id).Nodup ∧
        ∀ e ∈ s.elements, brokenLink? (screens.map Screen.id) e = none := by
    simp only [ofScreen, List.append_eq_nil_iff, List.flatMap_eq_nil_iff,
      List.filterMap_eq_nil_iff, ofElement_eq_nil_iff_parts, repeatedIds_eq_nil_iff, and_assoc]
  rw [ofDesign, List.append_eq_nil_iff, List.map_eq_nil_iff, repeats_eq_nil_iff,
    List.flatMap_eq_nil_iff]
  simp only [hscreen, brokenLink?_eq_none_iff_linked, List.mem_map]
  constructor
  · rintro ⟨hids, hall⟩
    exact ⟨hids, fun s hs => (hall s hs).2.1, fun s hs e he => ((hall s hs).1 e he).1,
      fun s hs e he => ((hall s hs).1 e he).2.1, fun s hs e he => ((hall s hs).1 e he).2.2,
      fun s hs => (hall s hs).2.2⟩
  · rintro ⟨hids, hdistinct, hplaced, hlarge, hkeyed, hlinked⟩
    exact ⟨hids, fun s hs => ⟨fun e he => ⟨hplaced s hs e he, hlarge s hs e he, hkeyed s hs e he⟩,
      hdistinct s hs, hlinked s hs⟩⟩

end Finding

end ScreenDesign
