import ScreenDesign.Preview.Canvas
import ScreenDesign.Proofs.Preview.Sights

/-!
# The shapes of previews

The shape of a preview is what is left of it without the colors in its styles: its tags, texts
and attributes, the keys of its styles, and of their values all but the colors.  A color is erased
wherever it stands in a value (`eraseColors`), also behind a width or a kind of line.

A color at the end of a text does not matter for what is left (`eraseColors_append_hex`).  So two
themes give previews of one shape (`shape_content`, `shape_preview`).
-/

namespace ScreenDesign

/-! ## Texts without colors -/

/-- Whether a text begins with the six digits of a color. -/
def beginsWithDigits (cs : List Char) : Bool :=
  6 ≤ cs.length && (cs.take 6).all fun c => (Text.hexValue? c).isSome

/-- A text without the colors in it, where some characters at its start are left out as well. -/
def eraseAfter : Nat → List Char → List Char
  | _, [] => []
  | n + 1, _ :: cs => eraseAfter n cs
  | 0, c :: cs => if c = '#' && beginsWithDigits cs then eraseAfter 6 cs else c :: eraseAfter 0 cs

/-- A text without every `#` that has six digits behind it, and without these digits. -/
def eraseColors (s : String) : String := String.ofList (eraseAfter 0 s.toList)

example : eraseColors "1px solid #D1D5DB" = "1px solid " := by decide

theorem eraseAfter_append (n : Nat) {cs : List Char} (h : n ≤ cs.length) (ds : List Char) :
    eraseAfter n (cs ++ ds) = eraseAfter 0 (cs.drop n ++ ds) := by
  induction n generalizing cs with
  | zero => rfl
  | succ n ih =>
      cases cs with
      | nil => cases h
      | cons c cs => exact ih (Nat.le_of_succ_le_succ h)

/-- Digits end in front of the next `#`. -/
theorem beginsWithDigits_append (cs ds : List Char) :
    beginsWithDigits (cs ++ '#' :: ds) = beginsWithDigits cs := by
  rcases Nat.lt_or_ge cs.length 6 with h | h
  · have hmark : '#' ∈ (cs ++ '#' :: ds).take 6 := by
      rw [List.take_append, List.take_of_length_le (Nat.le_of_lt h), List.mem_append]
      obtain ⟨n, hn⟩ := Nat.exists_eq_add_of_lt h
      have hrest : 6 - cs.length = n + 1 := by omega
      rw [hrest, List.take_succ_cons]
      exact .inr List.mem_cons_self
    have hleft : ((cs ++ '#' :: ds).take 6).all (fun c => (Text.hexValue? c).isSome) = false :=
      List.all_eq_false.mpr ⟨'#', hmark, by decide⟩
    have hright : decide (6 ≤ cs.length) = false := decide_eq_false (Nat.not_le.mpr h)
    rw [beginsWithDigits, beginsWithDigits, hleft, hright, Bool.and_false, Bool.false_and]
  · have hlonger : 6 ≤ (cs ++ '#' :: ds).length := by
      rw [List.length_append]
      omega
    rw [beginsWithDigits, beginsWithDigits, List.take_append_of_le_length h, decide_eq_true h,
      decide_eq_true hlonger]

theorem eraseAfter_hex (c : Color) : eraseAfter 0 ('#' :: c.digits) = [] := by
  have hlength : c.digits.length = 6 := rfl
  have hdigits : beginsWithDigits c.digits = true := by
    simp [beginsWithDigits, Color.digits, Color.channelDigits, Text.hexValue?_hexDigit]
  have hdrop : eraseAfter 6 (c.digits ++ []) = eraseAfter 0 (c.digits.drop 6 ++ []) :=
    eraseAfter_append 6 (Nat.le_of_eq hlength.symm) []
  rw [List.append_nil, List.append_nil, List.drop_of_length_le (Nat.le_of_eq hlength)] at hdrop
  rw [eraseAfter, hdigits]
  exact hdrop

/-- By induction on the length, since a color in front is left out as a whole. -/
theorem eraseAfter_append_hex (cs : List Char) (c : Color) :
    eraseAfter 0 (cs ++ '#' :: c.digits) = eraseAfter 0 cs := by
  induction hlength : cs.length using Nat.strongRecOn generalizing cs with
  | ind n ih =>
      cases cs with
      | nil => exact eraseAfter_hex c
      | cons d cs =>
          subst hlength
          rw [List.cons_append, eraseAfter, eraseAfter, beginsWithDigits_append]
          split
          · rename_i hcolor
            have hlong : 6 ≤ cs.length := by
              simp only [beginsWithDigits, Bool.and_eq_true, decide_eq_true_eq] at hcolor
              exact hcolor.2.1
            have hrest := eraseAfter_append 6 hlong []
            rw [List.append_nil, List.append_nil] at hrest
            rw [eraseAfter_append 6 hlong, hrest]
            refine ih _ ?_ (cs.drop 6) rfl
            rw [List.length_drop, List.length_cons]
            omega
          · rw [ih cs.length (Nat.lt_succ_self _) cs rfl]

/-- A color at the end of a text is erased, and nothing else is for it. -/
@[simp] theorem eraseColors_append_hex (s : String) (c : Color) :
    eraseColors (s ++ c.hex) = eraseColors s := by
  rw [eraseColors, String.toList_append, Color.hex, String.toList_ofList, eraseAfter_append_hex]
  rfl

@[simp] theorem eraseColors_hex (c : Color) : eraseColors c.hex = "" := by
  have := eraseColors_append_hex "" c
  rwa [String.empty_append] at this

/-! ## Shapes -/

/-- A value of a style without the colors in it. -/
def eraseValue : Json → Json
  | .text s => .text (eraseColors s)
  | j => j

/-- A style without the colors in its values. -/
def eraseStyle (style : Bag) : Bag := style.map fun (key, j) => (key, eraseValue j)

namespace Node

mutual

/-- A node and all below it without the colors in their styles. -/
def shape : Node → Node
  | .mk tag style text attrs children => .mk tag (eraseStyle style) text attrs (shapeAll children)
termination_by structural n => n

/-- Nodes and all below them without the colors in their styles. -/
def shapeAll : List Node → List Node
  | [] => []
  | n :: ns => shape n :: shapeAll ns
termination_by structural ns => ns

end

theorem shapeAll_eq (ns : List Node) : shapeAll ns = ns.map shape := by
  induction ns with
  | nil => rfl
  | cons n ns ih => rw [shapeAll, ih, List.map_cons]

@[simp] theorem shape_mk (tag : String) (style : Bag) (text : Option String) (attrs : Bag)
    (children : List Node) :
    (mk tag style text attrs children).shape =
      .mk tag (eraseStyle style) text attrs (children.map shape) := by
  rw [shape, shapeAll_eq]

end Node

namespace Paint

open Node

section

variable (declarations : List (String × String)) (bag rest : Bag)

@[simp] theorem eraseStyle_style :
    eraseStyle (style declarations) =
      style (declarations.map fun (key, s) => (key, eraseColors s)) := by
  rw [eraseStyle, style, style, List.map_map, List.map_map]
  rfl

@[simp] theorem eraseStyle_append : eraseStyle (bag ++ rest) = eraseStyle bag ++ eraseStyle rest :=
  List.map_append

@[simp] theorem shape_box (tag : String) (attrs : Bag) (children : List Node) :
    (box tag bag attrs children).shape = box tag (eraseStyle bag) attrs (children.map shape) :=
  shape_mk ..

@[simp] theorem shape_text (s : String) :
    (text s declarations).shape =
      text s (declarations.map fun (key, s) => (key, eraseColors s)) := by
  rw [text, text, shape_mk, eraseStyle_style]
  rfl

@[simp] theorem shape_icon (name : String) :
    (icon name declarations).shape =
      icon name (declarations.map fun (key, s) => (key, eraseColors s)) := by
  rw [icon, icon, shape_mk, eraseStyle_style]
  rfl

@[simp] theorem eraseColors_solid (width : String) (c : Color) :
    eraseColors (solid width c) = eraseColors (width ++ " solid ") :=
  eraseColors_append_hex _ c

@[simp] theorem eraseColors_dashed (c : Color) :
    eraseColors (dashed c) = eraseColors "1px dashed " :=
  eraseColors_append_hex _ c

end

/-! ## Two themes -/

variable (t u : Theme)

theorem shape_label (s : String) (c d : Color) (required : Bool) :
    (label t s c required).shape = (label u s d required).shape := by
  cases required <;> simp [label, requiredMark]

theorem shape_plainLabel (s : String) (required : Bool) :
    (plainLabel t s required).map shape = (plainLabel u s required).map shape := by
  rw [plainLabel, plainLabel]
  split
  · rfl
  · rw [List.map_singleton, List.map_singleton, shape_label t u]

theorem shape_textField (f : Content.TextField) :
    (textField t f).shape = (textField u f).shape := by
  cases hicon : f.icon <;> cases hcomplaint : f.complaint <;>
    simp [textField, textFieldBox, hicon, hcomplaint, shape_plainLabel t u]

theorem shape_control (c : Control) : (control t c).shape = (control u c).shape := by
  cases c with
  | toggle on disabled active inactive => simp [control, thumb]
  | checkbox on disabled active => cases on <;> simp [control, checkmark]
  | radio on disabled active group => cases on <;> simp [control, dot]

theorem shape_centered (c : Control) (label : String) (attrs : Bag) :
    (centered t c label attrs).shape = (centered u c label attrs).shape := by
  simp [centered, shape_control t u, shape_plainLabel t u]

theorem shape_labeled (l : Content.Labeled) : (labeled t l).shape = (labeled u l).shape := by
  have hlabel := shape_label t u l.label l.labelColor l.labelColor false
  cases hfirst : l.labelFirst <;> simp [labeled, hfirst, shape_control t u, hlabel]

theorem shape_dropdown (d : Content.Dropdown) : (dropdown t d).shape = (dropdown u d).shape := by
  simp [dropdown, shape_plainLabel t u]

theorem shape_input (i : Content.Input) : (input t i).shape = (input u i).shape := by
  simp [input, shape_label t u i.label i.labelColor i.labelColor]

theorem shape_composer (c : Content.Composer) : (composer t c).shape = (composer u c).shape := by
  simp [composer]

theorem shape_message (m : Content.Message) : (message t m).shape = (message u m).shape := by
  have hbubble : (bubble t m).shape = (bubble u m).shape := by
    cases htime : m.timestamp <;> simp [bubble, caption, htime]
  cases havatar : m.avatar <;> cases hown : m.isOwn <;> simp [message, havatar, hown, hbubble]

theorem shape_cardWith (c : Content.Card) (shadow : String) :
    (cardWith t c shadow).shape = (cardWith u c shadow).shape := by
  cases himage : c.imageHeight <;> cases hsubtitle : c.subtitle.isEmpty <;>
    simp [cardWith, image, himage, hsubtitle]

theorem shape_listing (l : Content.Listing) : (listing t l).shape = (listing u l).shape := by
  have htile : shape ∘ tile t l = shape ∘ tile u l := by
    funext i
    cases hhorizontal : l.horizontal <;> simp [tile, caption, hhorizontal]
  simp [listing, htile]

theorem shape_container (c : Content.Container) :
    (container t c).shape = (container u c).shape := by
  simp [container]

theorem shape_flex (f : Content.Flex) : (flex t f).shape = (flex u f).shape := by
  simp [flex, block]

theorem shape_stack (s : Content.Stack) : (stack t s).shape = (stack u s).shape := by
  simp [stack, layer]

theorem shape_grid (g : Content.Grid) : (grid t g).shape = (grid u g).shape := by
  have hhead : shape ∘ headCell t g = shape ∘ headCell u g := by
    funext c
    simp [headCell]
  have hcell : ∀ row, shape ∘ bodyCell t g row = shape ∘ bodyCell u g row := by
    intro row
    funext c
    simp [bodyCell]
  have hbody : (g.table.rows.mapIdx (bodyRow t g)).map shape =
      (g.table.rows.mapIdx (bodyRow u g)).map shape := by
    refine List.ext_getElem (by simp) fun i _ _ => ?_
    simp [bodyRow, hcell]
  have hrows : (tableRows t g).map shape = (tableRows u g).map shape := by
    cases hheader : g.showHeader <;> simp [tableRows, hheader, hhead, hbody]
  cases htitle : g.title.isEmpty <;> simp [grid, htitle, hrows]

/-- The pictures of a content in two themes have one shape, and one fails exactly as the other
does. -/
theorem shape_content (c : Content) : (content t c).map shape = (content u c).map shape := by
  cases c with
  | button b => rfl
  | textField f => exact congrArg Except.ok (shape_textField t u f)
  | card c =>
      rw [content, content, card, card]
      cases shadow c.elevation with
      | error f => rfl
      | ok shadow => exact congrArg Except.ok (shape_cardWith t u c shadow)
  | list l => exact congrArg Except.ok (shape_listing t u l)
  | icon g => rfl
  | container c => exact congrArg Except.ok (shape_container t u c)
  | flex f => exact congrArg Except.ok (shape_flex t u f)
  | stack s => exact congrArg Except.ok (shape_stack t u s)
  | choosable c => exact congrArg Except.ok (shape_centered t u c.control c.label _)
  | control c => exact congrArg Except.ok (shape_centered t u c "" [])
  | labeled l => exact congrArg Except.ok (shape_labeled t u l)
  | composer c => exact congrArg Except.ok (shape_composer t u c)
  | message m => exact congrArg Except.ok (shape_message t u m)
  | dropdown d => exact congrArg Except.ok (shape_dropdown t u d)
  | input i => exact congrArg Except.ok (shape_input t u i)
  | grid g => exact congrArg Except.ok (shape_grid t u g)

end Paint

/-- The same holds for the previews of an element, with the notices that they leave. -/
theorem Element.shape_preview (t u : Theme) (e : Element) :
    Node.shape <$> e.preview t = Node.shape <$> e.preview u := by
  have hmap : ∀ x : Except Failure Node,
      Node.shape <$> Logged.ofExcept x = Logged.ofExcept (x.map Node.shape) := by
    intro x
    cases x with
    | error f => rfl
    | ok n => rfl
  simp only [Element.preview, map_bind, hmap, Paint.shape_content t u]

end ScreenDesign
