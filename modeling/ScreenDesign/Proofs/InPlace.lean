import ScreenDesign.Preview.Canvas
import ScreenDesign.Proofs.Canonical
import ScreenDesign.Proofs.Dart.ScreenClasses
import ScreenDesign.Proofs.Preview.Sights

/-!
# Screens in place

The canvas of a screen has one child for each element, and the class of the screen one block for
each, both in stacking order (`screen_in_place`).  Each of them is at the place of its element:
the preview in whole pixels, and the program in numbers with a zero behind the point.

The canvas is a node, so its children are read directly.  The blocks are read off the trees of the
source text.  An element of a valid screen lies on the canvas (`Element.Canonical`), so its numbers
are small enough to be written to the last digit (`Element.Canonical.small`).
-/

namespace ScreenDesign

/-! ## Places in a preview -/

namespace Node

/-- A text in the style of a node. -/
def textStyle? (n : Node) (key : String) : Option String :=
  match n.style.get? key with
  | some (.text s) => some s
  | _ => none

/-- The place that a box gives, with its type. -/
def spot? (n : Node) : Option Spot := do
  let kind ← n.textAttr? "type"
  let left ← n.textStyle? "left"
  let top ← n.textStyle? "top"
  let width ← n.textStyle? "width"
  let height ← n.textStyle? "height"
  pure ⟨kind, left, top, width, height⟩

end Node

namespace Preview

theorem spot?_inBox (e : Element) (inside : Node) :
    (inBox e inside).spot? = some (e.spot "px") := rfl

/-- The children of a canvas are the boxes of the elements, in order. -/
theorem spots_of_screen {theme : Theme} {s : Screen} {canvas : Node}
    (h : (screen theme s).result = .ok canvas) :
    canvas.children.mapM Node.spot? = some (s.elements.map (Element.spot "px")) := by
  rw [screen, Logged.result_bind, Logged.result_mapM, bind_eq_ok] at h
  obtain ⟨boxes, hboxes, h⟩ := h
  cases h
  rw [mapM_eq_ok] at hboxes
  show boxes.mapM Node.spot? = some (s.elements.map (Element.spot "px"))
  generalize s.elements = es at hboxes ⊢
  induction hboxes with
  | nil => rfl
  | @cons e box es boxes hbox _ ih =>
      rw [positioned, Logged.result_bind, bind_eq_ok] at hbox
      obtain ⟨inside, -, hbox⟩ := hbox
      cases hbox
      rw [List.mapM_cons, spot?_inBox, ih]
      rfl

end Preview

/-! ## Both side by side -/

theorem Finding.small_of_ofScreen {s : Screen} {ids : Option (List String)}
    (h : ofScreen s ids = []) : ∀ e ∈ s.elements, e.Small := by
  intro e he
  unfold ofScreen at h
  rw [List.append_eq_nil_iff, List.append_eq_nil_iff, List.flatMap_eq_nil_iff] at h
  exact ((ofElement_eq_nil_iff e).mp (h.1.1 e he)).small

section

open Dart

/-- The canvas and the class of a valid screen show its elements in place and in order, whatever
texts the design holds, and the class of an empty screen has the remark that says so. -/
theorem screen_in_place {dark : Bool} {title : String} {screens : List Screen} {p : Program}
    {s : Screen} {name : String} {ids : Option (List String)} {theme : Theme} {canvas : Node}
    (hprogram : (program dark title screens).result = .ok p)
    (hscreen : (s, name) ∈ screens.zip (assign (screens.map Screen.name)))
    (hvalid : Finding.ofScreen s ids = [])
    (hcanvas : (Preview.screen theme s).result = .ok canvas) :
    canvas.children.mapM Node.spot? = some (s.elements.map (Element.spot "px")) ∧
      ∃ ts children, (scan p.code).bind trees? = some ts ∧
        children? name ts = some children ∧
        blocks? children = some (s.elements.map (Element.spot ".0")) ∧
        (s.elements = [] ↔ children = [.leaf (.comment " No elements added yet")]) := by
  obtain ⟨ts, hts, hfind⟩ := exists_programTrees hprogram
  obtain ⟨state, hstate, children, hchildren, hblocks, hempty⟩ :=
    hfind s name hscreen (Finding.small_of_ofScreen hvalid)
  refine ⟨Preview.spots_of_screen hcanvas, ts, children, hts, ?_, hblocks, hempty⟩
  rw [children?, hstate]
  exact hchildren

/-- A screen whose texts look like blocks and classes. -/
def imitating : Screen :=
  ⟨"home", "Home", [⟨"box'),\nPositioned(left: 1.0,", .button, 12, 592, 120, 48,
    Entries.insert ComponentType.button.defaults "text"
      (.text "')), \x7d class _HomeScreenState extends State<HomeScreen> \x7b // Positioned(")⟩]⟩

/-- A screen without elements and with the same name. -/
def bare : Screen := ⟨"bare", "Home", []⟩

theorem screen_in_place_imitating :
    ∃ p canvas blank ts children, (program false "Demo" [imitating, bare]).result = .ok p ∧
      (Preview.screen Theme.light imitating).result = .ok canvas ∧
      (Preview.screen Theme.light bare).result = .ok blank ∧
      canvas.children.mapM Node.spot? = some [⟨"button", "12px", "592px", "120px", "48px"⟩] ∧
      blank.children.mapM Node.spot? = some [] ∧
      (scan p.code).bind trees? = some ts ∧
      children? "HomeScreen" ts = some children ∧
      blocks? children = some [⟨"button", "12.0", "592.0", "120.0", "48.0"⟩] ∧
      children? "HomeScreen2" ts = some [.leaf (.comment " No elements added yet")] := by
  obtain ⟨p, hp⟩ : ∃ p, (program false "Demo" [imitating, bare]).result = .ok p := ⟨_, rfl⟩
  obtain ⟨canvas, hcanvas⟩ : ∃ n, (Preview.screen Theme.light imitating).result = .ok n := ⟨_, rfl⟩
  obtain ⟨blank, hblank⟩ : ∃ n, (Preview.screen Theme.light bare).result = .ok n := ⟨_, rfl⟩
  have hnames : assign ([imitating, bare].map Screen.name) = ["HomeScreen", "HomeScreen2"] := by
    decide +kernel
  have hfirst : (imitating, "HomeScreen") ∈
      [imitating, bare].zip (assign ([imitating, bare].map Screen.name)) := by
    rw [hnames]
    exact List.mem_cons_self
  have hsecond : (bare, "HomeScreen2") ∈
      [imitating, bare].zip (assign ([imitating, bare].map Screen.name)) := by
    rw [hnames]
    exact List.mem_cons_of_mem _ List.mem_cons_self
  have hvalid : Finding.ofScreen imitating none = [] := by decide +kernel
  obtain ⟨hspots, ts, children, hts, hchildren, hblocks, -⟩ :=
    screen_in_place hp hfirst hvalid hcanvas
  obtain ⟨hnone, ts', marker, hts', hmarker, -, hempty⟩ :=
    @screen_in_place _ _ _ _ _ _ none _ _ hp hsecond rfl hblank
  rw [hts, Option.some.injEq] at hts'
  subst hts'
  rw [hempty.mp rfl] at hmarker
  exact ⟨p, canvas, blank, ts, children, hp, hcanvas, hblank, hspots, hnone, hts, hchildren,
    hblocks, hmarker⟩

end

end ScreenDesign
