import ScreenDesign.Proofs.Dart.Numbers
import ScreenDesign.Proofs.Dart.Sights
import ScreenDesign.Proofs.FieldReading
import ScreenDesign.Proofs.InPlace
import ScreenDesign.Proofs.Spelling

/-!
# Alignment in previews and programs

The preview of a row, a column or a stack places its children with the words of style sheets, and
the program with constants.  Each of these words is given its meaning here (`MainAxis.ofStyle?`,
`MainAxis.ofConstant?` and the like), and both sides are read.

*Previews.*  A row or column has two keywords in its style.  A stack has an attribute, and its
layers are held at an edge or shifted to the middle on either axis (`Node.anchor?`).

*Programs.*  The constants are read off the lines of a widget: a line that begins with the head of
an argument has a constant behind it (`Dart.constants`).  A line that differs from the head early
enough has none, whatever number stands in it (`Dart.constant?_of_isApart`).

The two sides mean the same member, which is the one that the typed record names
(`alignment_spelled_and_shown`), and a member is named by every spelling of its keyword
(`knowsSpellings`).
-/

namespace ScreenDesign

/-! ## Meanings -/

namespace MainAxis

/-- What a keyword of a style sheet means along the main axis. -/
def ofStyle? : String → Option MainAxis
  | "flex-start" => some .atStart
  | "center" => some .centered
  | "flex-end" => some .atEnd
  | "space-between" => some .spaceBetween
  | "space-around" => some .spaceAround
  | "space-evenly" => some .spaceEvenly
  | _ => none

/-- What a constant of a program means along the main axis. -/
def ofConstant? : String → Option MainAxis
  | "start" => some .atStart
  | "center" => some .centered
  | "end" => some .atEnd
  | "spaceBetween" => some .spaceBetween
  | "spaceAround" => some .spaceAround
  | "spaceEvenly" => some .spaceEvenly
  | _ => none

theorem ofStyle?_justify (a : MainAxis) : ofStyle? (Paint.justify a) = some a := by
  cases a <;> rfl

theorem ofConstant?_name (a : MainAxis) : ofConstant? a.name = some a := by
  cases a <;> rfl

theorem comma_notMem_name (a : MainAxis) : ',' ∉ a.name.toList := by
  cases a <;> decide

end MainAxis

namespace CrossAxis

/-- What a keyword of a style sheet means across the main axis. -/
def ofStyle? : String → Option CrossAxis
  | "flex-start" => some .atStart
  | "center" => some .centered
  | "flex-end" => some .atEnd
  | "stretch" => some .stretched
  | _ => none

/-- What a constant of a program means across the main axis. -/
def ofConstant? : String → Option CrossAxis
  | "start" => some .atStart
  | "center" => some .centered
  | "end" => some .atEnd
  | "stretch" => some .stretched
  | _ => none

theorem ofStyle?_alignItems (a : CrossAxis) : ofStyle? (Paint.alignItems a) = some a := by
  cases a <;> rfl

theorem ofConstant?_name (a : CrossAxis) : ofConstant? a.name = some a := by
  cases a <;> rfl

theorem comma_notMem_name (a : CrossAxis) : ',' ∉ a.name.toList := by
  cases a <;> decide

end CrossAxis

namespace Anchor

/-- What the word for a corner, an edge or the center means. -/
def ofWord? : String → Option Anchor
  | "topLeft" => some .topLeft
  | "topCenter" => some .topCenter
  | "topRight" => some .topRight
  | "centerLeft" => some .centerLeft
  | "center" => some .center
  | "centerRight" => some .centerRight
  | "bottomLeft" => some .bottomLeft
  | "bottomCenter" => some .bottomCenter
  | "bottomRight" => some .bottomRight
  | _ => none

theorem ofWord?_name (a : Anchor) : ofWord? a.name = some a := by
  cases a <;> rfl

theorem comma_notMem_name (a : Anchor) : ',' ∉ a.name.toList := by
  cases a <;> decide

/-- The anchor at a place on each axis, from top to bottom and from left to right. -/
def ofEdges : Paint.Edge → Paint.Edge → Anchor
  | .near, .near => .topLeft
  | .near, .middle => .topCenter
  | .near, .far => .topRight
  | .middle, .near => .centerLeft
  | .middle, .middle => .center
  | .middle, .far => .centerRight
  | .far, .near => .bottomLeft
  | .far, .middle => .bottomCenter
  | .far, .far => .bottomRight

end Anchor

/-! ## Layers -/

namespace Node

/-- Whether a length is counted from the middle of an axis. -/
def fromMiddle (length : String) : Bool :=
  length = "50%" || "calc(50% + ".toList.isPrefixOf length.toList

/-- Whether a node is shifted. -/
def isShifted (n : Node) (shift : String) : Bool :=
  match n.textStyle? "transform" with
  | some s => shift ∈ Text.words s
  | none => false

/-- Where a node is held on an axis.  It is held at one edge only.  In the middle it is held by its
near edge and shifted back by half of its size, and nowhere else it is shifted. -/
def edge? (n : Node) (near far shift : String) : Option Paint.Edge :=
  match n.textStyle? near, n.textStyle? far, n.isShifted shift with
  | some length, none, true => if fromMiddle length then some .middle else none
  | some length, none, false => if fromMiddle length then none else some .near
  | none, some length, false => if fromMiddle length then none else some .far
  | _, _, _ => none

/-- The anchor that a layer is held at. -/
def anchor? (n : Node) : Option Anchor := do
  let vertical ← n.edge? "top" "bottom" "translateY(-50%)"
  let horizontal ← n.edge? "left" "right" "translateX(-50%)"
  pure (Anchor.ofEdges vertical horizontal)

end Node

namespace Paint

/-- The size and the color of a layer do not place it. -/
theorem textStyle?_layer (anchor : Anchor) (inset : Nat) (side : String) (color : Color)
    {key : String} (h : key ∉ ["width", "height", "backgroundColor"]) :
    (layer anchor inset side color).textStyle? key =
      (box "layer" (style (layerStyle anchor inset)) [] []).textStyle? key := by
  simp only [List.mem_cons, List.not_mem_nil, or_false, not_or] at h
  have hrest : Entries.get? (style
      [("width", side), ("height", side), ("backgroundColor", color.hex)]) key = none := by
    simp [style, Entries.get?, Ne.symm h.1, Ne.symm h.2.1, Ne.symm h.2.2]
  have hget : (layer anchor inset side color).style.get? key =
      (box "layer" (style (layerStyle anchor inset)) [] []).style.get? key := by
    rw [layer, style, List.map_append]
    show Entries.get? (style (layerStyle anchor inset) ++ style _) key = _
    rw [Entries.get?_append, hrest, Option.or_none]
    rfl
  rw [Node.textStyle?, Node.textStyle?, hget]

theorem anchor?_layer (anchor : Anchor) (inset : Nat) (side : String) (color : Color) :
    (layer anchor inset side color).anchor? =
      (box "layer" (style (layerStyle anchor inset)) [] []).anchor? := by
  simp only [Node.anchor?, Node.edge?, Node.isShifted, textStyle?_layer anchor inset side color
    (by decide : "top" ∉ _), textStyle?_layer anchor inset side color (by decide : "bottom" ∉ _),
    textStyle?_layer anchor inset side color (by decide : "left" ∉ _),
    textStyle?_layer anchor inset side color (by decide : "right" ∉ _),
    textStyle?_layer anchor inset side color (by decide : "transform" ∉ _)]

/-- Both layers of a stack are held at its anchor, the second one a little further in. -/
theorem anchor?_layers (theme : Theme) (s : Content.Stack) :
    (stack theme s).children.map Node.anchor? = [some s.anchor, some s.anchor] := by
  have hplain (inset : Nat) (hinset : inset ∈ [0, 10]) :
      (box "layer" (style (layerStyle s.anchor inset)) [] []).anchor? = some s.anchor := by
    revert inset
    cases s.anchor <;> decide +kernel
  show [(layer s.anchor 0 "64px" theme.placeholder).anchor?,
    (layer s.anchor 10 "48px" theme.border).anchor?] = _
  rw [anchor?_layer, anchor?_layer, hplain 0 (by decide), hplain 10 (by decide)]

end Paint

/-! ## Constants in lines -/

namespace Dart

open Layout

/-- The constant behind the head of an argument, up to the comma. -/
def constant? (head line : String) : Option String :=
  let cs := line.toList.dropWhile (· = ' ')
  if head.toList.isPrefixOf cs then
    some (String.ofList ((cs.drop head.toList.length).takeWhile (· ≠ ',')))
  else none

/-- The constants behind the head of an argument, line by line. -/
def constants (head : String) (lines : List String) : List String :=
  lines.filterMap (constant? head)

theorem constants_cons (head line : String) (lines : List String) :
    constants head (line :: lines) = (constant? head line).toList ++ constants head lines := by
  rw [constants, List.filterMap_cons]
  cases constant? head line with
  | none => rfl
  | some name => rfl

theorem constants_append (head : String) (lines more : List String) :
    constants head (lines ++ more) = constants head lines ++ constants head more :=
  List.filterMap_append

/-- A line begins with its first token, behind spaces. -/
theorem exists_toList_lineText (depth : Nat) (s : String) (ts : List Token) :
    ∃ rest, (lineText depth (.code s :: ts)).toList =
      List.replicate (2 * depth) ' ' ++ (s.toList ++ rest) := by
  refine ⟨(String.join (ts.map Token.text)).toList, ?_⟩
  rw [lineText, List.isEmpty_cons, if_neg Bool.false_ne_true, List.map_cons, Token.text,
    String.toList_append, indent, String.toList_ofList]
  simp

/-- Only the spaces in front of a line are dropped. -/
theorem dropWhile_line {cs : List Char} (n : Nat) (h : cs.head? ≠ some ' ') :
    (List.replicate n ' ' ++ cs).dropWhile (fun c => decide (c = ' ')) = cs := by
  have hspaces : ∀ c ∈ List.replicate n ' ', decide (c = ' ') = true := by
    intro c hc
    exact decide_eq_true (List.eq_of_mem_replicate hc)
  rw [List.dropWhile_append_of_pos hspaces]
  cases cs with
  | nil => rfl
  | cons c cs =>
      have hc : ¬decide (c = ' ') = true := by
        intro hspace
        exact h (congrArg some (of_decide_eq_true hspace))
      exact List.dropWhile_cons_of_neg hc

theorem isPrefixOf_of_differ {key cs : List Char} (h : differ key cs = true) :
    key.isPrefixOf cs = false := by
  induction key generalizing cs with
  | nil => cases h
  | cons k key ih =>
      cases cs with
      | nil => cases h
      | cons c cs =>
          rw [differ, Bool.or_eq_true, decide_eq_true_eq] at h
          rcases h with hne | hrest
          · simp [List.isPrefixOf, hne]
          · simp [List.isPrefixOf, ih hrest]

/-- Whether a text differs from a head where both have a character, and begins with no space. -/
def isApart (head s : String) : Bool := s.toList.head? ≠ some ' ' && differ head.toList s.toList

/-- A line that is apart from the head has no constant, whatever stands behind. -/
theorem constant?_of_isApart {head s : String} (h : isApart head s = true) (t : String)
    (depth : Nat) (ts : List Token) :
    constant? head (lineText depth (.code (s ++ t) :: ts)) = none := by
  rw [isApart, Bool.and_eq_true, decide_eq_true_eq] at h
  obtain ⟨hspace, hdiffer⟩ := h
  obtain ⟨rest, hline⟩ := exists_toList_lineText depth (s ++ t) ts
  rw [String.toList_append, List.append_assoc] at hline
  have hstart : (s.toList ++ (t.toList ++ rest)).head? ≠ some ' ' := by
    cases hs : s.toList with
    | nil =>
        rw [hs] at hdiffer
        cases hhead : head.toList <;> rw [hhead] at hdiffer <;> cases hdiffer
    | cons c cs =>
        rw [hs] at hspace
        exact hspace
  rw [constant?, hline, dropWhile_line _ hstart]
  exact if_neg (Bool.eq_false_iff.mp (isPrefixOf_of_differ (differ_append hdiffer _)))

/-- A line with the head of an argument and a name has this name. -/
theorem constant?_row {head name : String} (hhead : head ≠ "")
    (hspace : head.toList.head? ≠ some ' ') (hname : ',' ∉ name.toList) (depth : Nat) :
    constant? head (lineText depth [.code (head ++ name ++ ",")]) = some name := by
  have hline : (lineText depth [.code (head ++ name ++ ",")]).toList =
      List.replicate (2 * depth) ' ' ++ (head.toList ++ (name.toList ++ [','])) := by
    simp [lineText, indent, Token.text]
  have hstart : (head.toList ++ (name.toList ++ [','])).head? ≠ some ' ' := by
    cases hchars : head.toList with
    | nil => exact absurd (String.toList_eq_nil_iff.mp hchars) hhead
    | cons c cs =>
        rw [hchars] at hspace
        exact hspace
  have hprefix : head.toList.isPrefixOf (head.toList ++ (name.toList ++ [','])) = true := by
    rw [List.isPrefixOf_iff_prefix]
    exact List.prefix_append _ _
  have hkept : ∀ c ∈ name.toList, decide (c ≠ ',') = true := by
    intro c hc
    exact decide_eq_true (ne_of_mem_of_not_mem hc hname)
  have hnone : ([','] : List Char).takeWhile (fun c => decide (c ≠ ',')) = [] := by decide
  rw [constant?, hline, dropWhile_line _ hstart, if_pos hprefix, List.drop_left,
    List.takeWhile_append_of_pos hkept, hnone, List.append_nil, String.ofList_toList]

/-! ## Rows, columns and stacks -/

/-- A widget with a padding around its only child has the constants of the child's arguments. -/
theorem constants_padded {head name : String}
    (h : ["Padding(", "padding: EdgeInsets.all(", ")", "),", name ++ "("].all (isApart head) = true)
    (x : Binary64) (body : List Layout) :
    constants head (lines 0 (call "Padding"
        [.line [.code "padding: EdgeInsets.all(", .number x, .code "),"], argument name body])) =
      constants head (linesAll 2 body) := by
  have hnone {s : String} (hs : isApart head s = true) (depth : Nat) (ts : List Token) :
      constant? head (lineText depth (.code s :: ts)) = none := by
    have hline := constant?_of_isApart hs "" depth ts
    rwa [String.append_empty] at hline
  simp only [List.all_cons, List.all_nil, Bool.and_eq_true] at h
  obtain ⟨hopening, hpadding, hclosing, hend, hchild, -⟩ := h
  show constants head (lineText 0 [.code "Padding("] ::
    lineText 1 [.code "padding: EdgeInsets.all(", .number x, .code "),"] ::
    lineText 1 [.code (name ++ "(")] :: (linesAll 2 body ++ [lineText 1 [.code "),"]] ++
      [] ++ [lineText 0 [.code ")"]])) = _
  simp only [constants_cons, constants_append, hnone hopening, hnone hpadding, hnone hclosing,
    hnone hend, hnone hchild, Option.toList_none, List.nil_append, List.append_nil]
  show constants head (linesAll 2 body) ++ [] ++ [] = _
  rw [List.append_nil, List.append_nil]

/-- Two rows have their constants if nothing behind them has one. -/
theorem constants_rows {head first second : String} {a b : Option String} {rest : List Layout}
    (hfirst : constant? head (lineText 2 [.code first]) = a)
    (hsecond : constant? head (lineText 2 [.code second]) = b)
    (hrest : constants head (linesAll 2 rest) = []) :
    constants head (linesAll 2 (row first :: row second :: rest)) = a.toList ++ b.toList := by
  show constants head (lineText 2 [.code first] :: lineText 2 [.code second] :: linesAll 2 rest) = _
  rw [constants_cons, constants_cons, hfirst, hsecond, hrest, List.append_nil]

theorem mainAxis_row (a : MainAxis) :
    "mainAxisAlignment: " ++ mainAxis a = "mainAxisAlignment: MainAxisAlignment." ++ a.name := by
  cases a <;> decide +kernel

theorem crossAxis_row (a : CrossAxis) :
    "crossAxisAlignment: " ++ crossAxis a =
      "crossAxisAlignment: CrossAxisAlignment." ++ a.name := by
  cases a <;> decide +kernel

section

variable {l : Layout}

/-- A row or column has the constants of its two keywords, and no others. -/
theorem constants_flex {f : Content.Flex} (h : flex f = .ok l) :
    constants "mainAxisAlignment: MainAxisAlignment." (lines 0 l) = [f.main.name] ∧
      constants "crossAxisAlignment: CrossAxisAlignment." (lines 0 l) = [f.cross.name] := by
  obtain ⟨padding, hpadding, hl⟩ := map_eq_ok.mp h
  obtain ⟨x, -, rfl⟩ := map_eq_ok.mp hpadding
  rw [mainAxis_row, crossAxis_row] at hl
  subst hl
  -- under each head the line of the other keyword is apart, whatever member it names
  constructor
  · have hrow := @constant?_row "mainAxisAlignment: MainAxisAlignment." f.main.name (by decide)
      (by decide) f.main.comma_notMem_name 2
    have hother := constant?_of_isApart (by decide : isApart "mainAxisAlignment: MainAxisAlignment."
      "crossAxisAlignment: CrossAxisAlignment." = true) (f.cross.name ++ ",") 2 []
    rw [← String.append_assoc] at hother
    cases f.direction
    all_goals
      rw [constants_padded (by decide +kernel)]
      exact constants_rows hrow hother (by decide +kernel)
  · have hrow := @constant?_row "crossAxisAlignment: CrossAxisAlignment." f.cross.name (by decide)
      (by decide) f.cross.comma_notMem_name 2
    have hother := constant?_of_isApart
      (by decide : isApart "crossAxisAlignment: CrossAxisAlignment."
        "mainAxisAlignment: MainAxisAlignment." = true) (f.main.name ++ ",") 2 []
    rw [← String.append_assoc] at hother
    cases f.direction
    all_goals
      rw [constants_padded (by decide +kernel)]
      exact constants_rows hother hrow (by decide +kernel)

/-- A stack has the constant of its anchor, and no other. -/
theorem constants_stack {s : Content.Stack} (h : stack s = .ok l) :
    constants "alignment: Alignment." (lines 0 l) = [s.anchor.name] := by
  obtain ⟨padding, hpadding, rfl⟩ := map_eq_ok.mp h
  obtain ⟨x, -, rfl⟩ := map_eq_ok.mp hpadding
  have hrow := @constant?_row "alignment: Alignment." s.anchor.name (by decide) (by decide)
    s.anchor.comma_notMem_name 2
  rw [constants_padded (by decide +kernel)]
  show constants _ (lineText 2 [.code _] :: _) = _
  rw [constants_cons, hrow]
  exact congrArg (s.anchor.name :: ·) (by decide +kernel)

end

end Dart

/-! ## Both sides -/

/-- The style of a row or column and the constants of its widget mean the same two members. -/
structure FlexShows (main : MainAxis) (cross : CrossAxis) (n : Node) (widget : List String) :
    Prop where
  justified : (n.textStyle? "justifyContent").bind MainAxis.ofStyle? = some main
  aligned : (n.textStyle? "alignItems").bind CrossAxis.ofStyle? = some cross
  mainConstant : (Dart.constants "mainAxisAlignment: MainAxisAlignment." widget).map
    MainAxis.ofConstant? = [some main]
  crossConstant : (Dart.constants "crossAxisAlignment: CrossAxisAlignment." widget).map
    CrossAxis.ofConstant? = [some cross]

/-- The attribute of a stack, the places of its layers and the constant of its widget mean the same
anchor. -/
structure StackShows (anchor : Anchor) (n : Node) (widget : List String) : Prop where
  named : (n.textAttr? "alignment").bind Anchor.ofWord? = some anchor
  placed : n.children.map Node.anchor? = [some anchor, some anchor]
  constant : (Dart.constants "alignment: Alignment." widget).map Anchor.ofWord? = [some anchor]

theorem flexShows (theme : Theme) {f : Content.Flex} {l : Dart.Layout} (h : Dart.flex f = .ok l) :
    FlexShows f.main f.cross (Paint.flex theme f) (l.lines 0) := by
  obtain ⟨hmain, hcross⟩ := Dart.constants_flex h
  constructor
  case justified => exact f.main.ofStyle?_justify
  case aligned => exact f.cross.ofStyle?_alignItems
  case mainConstant =>
    rw [hmain, List.map_singleton, f.main.ofConstant?_name]
  case crossConstant =>
    rw [hcross, List.map_singleton, f.cross.ofConstant?_name]

theorem stackShows (theme : Theme) {s : Content.Stack} {l : Dart.Layout}
    (h : Dart.stack s = .ok l) : StackShows s.anchor (Paint.stack theme s) (l.lines 0) := by
  constructor
  case named => exact s.anchor.ofWord?_name
  case placed => exact Paint.anchor?_layers theme s
  case constant => rw [Dart.constants_stack h, List.map_singleton, s.anchor.ofWord?_name]

namespace Element

variable {e : Element} {r : Record}

/-- A text that is given to a text field is the text of the record. -/
theorem text_of_record (distinct : (Entries.keys e.properties).Nodup)
    (hr : e.record.result = .ok r) {f : Field} (hf : f ∈ e.type.fields) (hkind : f.kind = .text)
    {s : String} (hget : e.properties.get? f.key = some (.text s)) : r.text f.key = s := by
  have hvalue := value?_of_record hf distinct hr
  rw [Field.typedIn_of_steady hget (by rw [hkind]; rfl)
    (by rw [hkind]; rfl : FieldValue.read f.kind (.text s) = .ok (.text s))] at hvalue
  rw [Record.text, hvalue]

/-- An element has a preview.  Its widget has a number that is too large, or else the two show
something together. -/
def Shows (e : Element) (theme : Theme) (index : Int) (shown : Node → List String → Prop) : Prop :=
  ∃ n, (e.preview theme).result = .ok n ∧
    ((Dart.elementWidget index e).result = .error .tooLarge ∨
      ∃ l, (Dart.elementWidget index e).result = .ok l ∧ shown n (l.lines 0))

theorem shows_of_content {c : Content} (hc : e.content.result = .ok c) {theme : Theme} {n : Node}
    (hn : Paint.content theme c = .ok n) {index : Int} {shown : Node → List String → Prop}
    (h : ∀ l, Dart.widget index c = .ok l → shown n (l.lines 0)) : e.Shows theme index shown := by
  refine ⟨n, (result_preview hc theme).trans hn, ?_⟩
  rw [result_elementWidget hc]
  cases hwidget : Dart.widget index c with
  | ok l => exact .inr ⟨l, rfl, h l hwidget⟩
  | error f => exact .inl (congrArg _ (Dart.widget_eq_error hwidget))

theorem shows_flex {direction : Direction}
    (hc : e.content.result = .ok (.flex (Content.flexOf direction r))) (theme : Theme)
    (index : Int) :
    e.Shows theme index (FlexShows (MainAxis.ofJson (.text (r.text "mainAxisAlignment")))
      (CrossAxis.ofJson (.text (r.text "crossAxisAlignment")))) :=
  shows_of_content hc rfl fun _ hl => flexShows theme hl

/-- A member is named by every spelling of its keyword, and by nothing else but what is no keyword
at all.  The preview and the widget of a row or column place the children in the way that the two
texts of its record name, and those of a stack in the way that its one text names.  A text that the
bag gives is the text of the record. -/
theorem alignment_spelled_and_shown (e : Element) (theme : Theme) (index : Int) :
    (KnowsSpellings MainAxis.name .atStart MainAxis.ofJson ∧
      KnowsSpellings CrossAxis.name .atStart CrossAxis.ofJson ∧
      KnowsSpellings Anchor.name .topLeft Anchor.ofJson) ∧
    ∃ r, e.record.result = .ok r ∧
      ((Entries.keys e.properties).Nodup → ∀ f ∈ e.type.fields, f.kind = .text → ∀ s,
        e.properties.get? f.key = some (.text s) → r.text f.key = s) ∧
      (e.type = .row ∨ e.type = .column →
        e.Shows theme index (FlexShows (MainAxis.ofJson (.text (r.text "mainAxisAlignment")))
          (CrossAxis.ofJson (.text (r.text "crossAxisAlignment"))))) ∧
      (e.type = .stack →
        e.Shows theme index (StackShows (Anchor.ofJson (.text (r.text "alignment"))))) := by
  refine ⟨⟨MainAxis.knowsSpellings, CrossAxis.knowsSpellings, Anchor.knowsSpellings⟩, ?_⟩
  obtain ⟨r, hr, -⟩ := e.exists_record
  have hcontent := result_content hr
  refine ⟨r, hr, ?_, ?_, ?_⟩
  · intro distinct f hf hkind s hget
    exact text_of_record distinct hr hf hkind hget
  · rintro (htype | htype)
    all_goals
      rw [htype] at hcontent
      exact shows_flex hcontent theme index
  · intro htype
    rw [htype] at hcontent
    exact shows_of_content hcontent rfl fun _ hl => stackShows theme hl

/-- A row with odd spellings of its keywords. -/
def spelledRow : Element :=
  ⟨"a", .row, 0, 0, 100, 50,
    [("mainAxisAlignment", .text " Space_-BETWEEN "), ("crossAxisAlignment", .text "STRE-TCH")]⟩

theorem spelledRow_shown :
    ∃ n l, (spelledRow.preview (Theme.of false)).result = .ok n ∧
      (Dart.elementWidget 0 spelledRow).result = .ok l ∧
      FlexShows .spaceBetween .stretched n (l.lines 0) := by
  obtain ⟨⟨hmain, hcross, -⟩, r, -, htexts, hflex, -⟩ :=
    alignment_spelled_and_shown spelledRow (Theme.of false) 0
  have hmainText : r.text "mainAxisAlignment" = " Space_-BETWEEN " :=
    htexts (by decide) (.text "mainAxisAlignment" "main_axis_alignment" "start") (by decide) rfl _
      rfl
  have hcrossText : r.text "crossAxisAlignment" = "STRE-TCH" :=
    htexts (by decide) (.text "crossAxisAlignment" "cross_axis_alignment" "center") (by decide) rfl
      _ rfl
  have hbetween : Spells MainAxis.spaceBetween.name " Space_-BETWEEN " :=
    (foldKeyword_eq_iff (by decide)).mp (by decide)
  have hstretched : Spells CrossAxis.stretched.name "STRE-TCH" :=
    (foldKeyword_eq_iff (by decide)).mp (by decide)
  obtain ⟨n, hn, hlarge | ⟨l, hl, hshown⟩⟩ := hflex (.inl rfl)
  · have hwidget : (Dart.elementWidget 0 spelledRow).result.isOk = true := by decide +kernel
    rw [hlarge] at hwidget
    cases hwidget
  · rw [hmainText, hcrossText, hmain.spelled _ _ hbetween, hcross.spelled _ _ hstretched] at hshown
    exact ⟨n, l, hn, hl, hshown⟩

end Element

end ScreenDesign
