import ScreenDesign.Preview.Paint
import ScreenDesign.Proofs.Results
import ScreenDesign.Proofs.Sights

/-!
# Reading a preview

`Node.sights` reads what a preview shows off its nodes, in the order of `walk`, and
`Node.captions` reads the texts beside.  The mark of what must be filled in is no
caption of its own but belongs to its label.

The picture of a content shows what the content has to show (`sights_of_content`,
`captions_of_content`).
-/

namespace ScreenDesign

namespace Node

/-! ## Sights -/

/-- A text among the attributes of a node. -/
def textAttr? (n : Node) (key : String) : Option String :=
  match n.attrs.get? key with
  | some (.text s) => some s
  | _ => none

/-- What a node itself shows. -/
def sight? (n : Node) : Option Sight :=
  if n.tag = "icon" then (n.textAttr? "name").map .icon
  else if n.tag = "button" then (n.textAttr? "navigateTo").map fun id => .route ("/" ++ id)
  else if n.tag = "option" then (n.textAttr? "value").bind fun value => n.text.map (.item value)
  else if n.tag = "th" then n.text.map .heading
  else if n.tag = "tr" then some .row
  else if n.tag = "td" then n.text.map .cell
  else none

/-- What a preview shows, from top to bottom. -/
def sights (n : Node) : List Sight := n.walk.filterMap sight?

theorem walkAll_eq (ns : List Node) : walkAll ns = ns.flatMap walk := by
  induction ns with
  | nil => rfl
  | cons n ns ih => rw [walkAll, ih, List.flatMap_cons]

theorem sights_mk (tag : String) (style : Bag) (text : Option String) (attrs : Bag)
    (children : List Node) :
    (mk tag style text attrs children).sights =
      (sight? (.mk tag style text attrs children)).toList ++ children.flatMap sights := by
  have hbelow : (children.flatMap walk).filterMap sight? = children.flatMap sights :=
    List.filterMap_flatMap
  rw [sights, walk, walkAll_eq, List.filterMap_cons, hbelow]
  cases sight? (.mk tag style text attrs children) with
  | none => rfl
  | some s => rfl

/-! ## Captions -/

/-- The mark of what must be filled in. -/
def isMark (n : Node) : Bool := n.text = some "*"

/-- The text of a node as a caption: of a label with its mark, and of any other text
that is no mark right below a label. -/
def caption? (inLabel : Bool) (n : Node) : Option String :=
  if n.tag = "label" then
    n.text.map fun s => if n.children.any isMark then s ++ " *" else s
  else if n.tag = "text" ∧ !(inLabel && n.isMark) then n.text
  else none

mutual

/-- The captions of a node and all below it.  The flag says whether the node stands
right below a label. -/
def captionsBelow (inLabel : Bool) : Node → List String
  | .mk tag style text attrs children =>
      (caption? inLabel (.mk tag style text attrs children)).toList ++
        captionsAll (tag = "label") children
termination_by structural n => n

def captionsAll (inLabel : Bool) : List Node → List String
  | [] => []
  | n :: ns => captionsBelow inLabel n ++ captionsAll inLabel ns
termination_by structural ns => ns

end

/-- The captions of a preview. -/
def captions (n : Node) : List String := captionsBelow false n

theorem captionsAll_eq (inLabel : Bool) (ns : List Node) :
    captionsAll inLabel ns = ns.flatMap (captionsBelow inLabel) := by
  induction ns with
  | nil => rfl
  | cons n ns ih => rw [captionsAll, ih, List.flatMap_cons]

end Node

/-- Items that show the same at every position. -/
theorem flatMap_mapIdx {α β γ : Type} {f : Nat → α → β} {g : β → List γ} {h : α → List γ}
    (hfg : ∀ i a, g (f i a) = h a) (as : List α) : (as.mapIdx f).flatMap g = as.flatMap h := by
  induction as generalizing f with
  | nil => rfl
  | cons a as ih =>
      rw [List.mapIdx_cons, List.flatMap_cons, List.flatMap_cons, hfg, ih fun i a => hfg (i + 1) a]

namespace Paint

open Node

variable (theme : Theme)

/-! ## Nodes -/

section

variable (tag : String) (style attrs : Bag) (children : List Node) (inLabel : Bool)

@[simp] theorem tag_box : (box tag style attrs children).tag = tag := rfl

@[simp] theorem attrs_box : (box tag style attrs children).attrs = attrs := rfl

@[simp] theorem text_box : (box tag style attrs children).text = none := rfl

@[simp] theorem sights_box :
    (box tag style attrs children).sights =
      (box tag style attrs children).sight?.toList ++ children.flatMap sights := sights_mk ..

@[simp] theorem captionsBelow_box :
    captionsBelow inLabel (box tag style attrs children) =
      children.flatMap (captionsBelow (tag = "label")) := by
  rw [box, captionsBelow, captionsAll_eq]
  simp [caption?, Node.tag, Node.text]

end

section

variable (s : String) (declarations : List (String × String)) (inLabel : Bool)

@[simp] theorem sights_text : (text s declarations).sights = [] := sights_mk ..

@[simp] theorem captionsBelow_text : captionsBelow false (text s declarations) = [s] := rfl

@[simp] theorem sights_icon : (icon s declarations).sights = [.icon s] := sights_mk ..

@[simp] theorem captionsBelow_icon : captionsBelow inLabel (icon s declarations) = [] := rfl

variable (color : Color) (required : Bool)

@[simp] theorem sights_label : (label theme s color required).sights = [] := by
  cases required <;> exact sights_mk ..

@[simp] theorem captionsBelow_label :
    captionsBelow inLabel (label theme s color required) = [Dart.marked s required] := by
  cases required <;> rfl

@[simp] theorem sights_plainLabel : (plainLabel theme s required).flatMap sights = [] := by
  rw [plainLabel]
  split
  · rfl
  · simp

@[simp] theorem captionsBelow_plainLabel :
    (plainLabel theme s required).flatMap (captionsBelow inLabel) =
      Content.captionOf s required := by
  rw [plainLabel, Content.captionOf]
  split
  · rfl
  · simp

end

/-! ## Controls -/

@[simp] theorem sights_control (c : Control) : (control theme c).sights = [] := by
  cases c with
  | toggle on disabled active inactive => rfl
  | checkbox on disabled active => cases on <;> rfl
  | radio on disabled active group => cases on <;> rfl

@[simp] theorem captionsBelow_control (inLabel : Bool) (c : Control) :
    captionsBelow inLabel (control theme c) = [] := by
  cases c with
  | toggle on disabled active inactive => rfl
  | checkbox on disabled active => cases on <;> rfl
  | radio on disabled active group => cases on <;> rfl

theorem sights_button (b : Content.Button) : (button b).sights = Content.sights (.button b) := by
  cases htarget : b.target with
  | none => simp [button, Content.sights, htarget, sight?, textAttr?]
  | some id => simp [button, Content.sights, htarget, sight?, textAttr?, chevron, Entries.get?]

theorem captions_button (b : Content.Button) :
    (button b).captions = Content.captions (.button b) := by
  cases htarget : b.target with
  | none => simp [captions, button, Content.captions, htarget]
  | some id => simp [captions, button, Content.captions, htarget, chevron]

theorem sights_textField (f : Content.TextField) :
    (textField theme f).sights = Content.sights (.textField f) := by
  cases hicon : f.icon <;> cases hcomplaint : f.complaint <;>
    simp [textField, textFieldBox, Content.sights, hicon, hcomplaint, sight?]

theorem captions_textField (f : Content.TextField) :
    (textField theme f).captions = Content.captions (.textField f) := by
  cases hicon : f.icon <;> cases hcomplaint : f.complaint <;>
    simp [captions, textField, textFieldBox, Content.captions, hicon, hcomplaint]

theorem sights_centered (c : Control) (label : String) (attrs : Bag) :
    (centered theme c label attrs).sights = [] := by
  simp [centered, sight?]

theorem captions_centered (c : Control) (label : String) (attrs : Bag) :
    (centered theme c label attrs).captions = Content.captionOf label false := by
  simp [captions, centered]

theorem sights_labeled (l : Content.Labeled) : (labeled theme l).sights = [] := by
  cases hfirst : l.labelFirst <;> simp [labeled, hfirst, sight?]

theorem captions_labeled (l : Content.Labeled) : (labeled theme l).captions = [l.label] := by
  cases hfirst : l.labelFirst <;> simp [captions, labeled, hfirst, Dart.marked]

/-! ## Inputs and chats -/

@[simp] theorem sights_option (label value : String) :
    (option label value).sights = [.item value label] := sights_mk ..

@[simp] theorem captionsBelow_option (inLabel : Bool) (label value : String) :
    captionsBelow inLabel (option label value) = [] := rfl

theorem sights_dropdown (d : Content.Dropdown) :
    (dropdown theme d).sights = Content.drawn (.dropdown d) := by
  have hchoices : (d.choices.map fun c => option c.label c.value).flatMap sights =
      Content.sights (.dropdown d) := by
    simp [Content.sights, List.flatMap_map, ← List.map_eq_flatMap]
  cases hempty : d.placeholder.isEmpty <;>
    simp [dropdown, options, Content.drawn, Content.placeholderSights, hempty, hchoices, sight?]

theorem captions_dropdown (d : Content.Dropdown) :
    (dropdown theme d).captions = Content.captions (.dropdown d) := by
  have hoptions : ∀ inLabel, (options d).flatMap (captionsBelow inLabel) = [] := by
    intro inLabel
    cases hempty : d.placeholder.isEmpty <;> simp [options, hempty]
  simp [captions, dropdown, Content.captions, hoptions]

theorem sights_input (i : Content.Input) : (input theme i).sights = [] := by
  simp [input, sight?]

theorem captions_input (i : Content.Input) :
    (input theme i).captions = Content.captions (.input i) := by
  simp [captions, input, Content.captions]

@[simp] theorem sights_bubble (m : Content.Message) : (bubble theme m).sights = [] := by
  cases htimestamp : m.timestamp <;> simp [bubble, htimestamp, sight?]

@[simp] theorem captionsBelow_bubble (inLabel : Bool) (m : Content.Message) :
    captionsBelow inLabel (bubble theme m) = Content.captions (.message m) := by
  cases htimestamp : m.timestamp <;> simp [bubble, htimestamp, Content.captions]

theorem sights_message (m : Content.Message) : (message theme m).sights = [] := by
  cases havatar : m.avatar <;> cases hown : m.isOwn <;>
    simp [message, havatar, hown, avatar, sight?]

theorem captions_message (m : Content.Message) :
    (message theme m).captions = Content.captions (.message m) := by
  cases havatar : m.avatar <;> cases hown : m.isOwn <;>
    simp [captions, message, havatar, hown, avatar]

/-! ## Surfaces -/

theorem sights_cardWith (c : Content.Card) (shadow : String) :
    (cardWith theme c shadow).sights = Content.sights (.card c) := by
  cases himage : c.imageHeight <;>
    simp [cardWith, Content.sights, himage, sight?, image]

theorem captions_cardWith (c : Content.Card) (shadow : String) :
    (cardWith theme c shadow).captions = Content.captions (.card c) := by
  cases himage : c.imageHeight <;> cases hempty : c.subtitle.isEmpty <;>
    simp [captions, cardWith, Content.captions, Content.captionOf, Dart.marked, himage, hempty,
      image]

theorem sights_tile (l : Content.Listing) (t : Tile) :
    (tile theme l t).sights =
      .icon t.icon :: if l.horizontal then [] else [.icon "arrow_forward_ios"] := by
  cases hhorizontal : l.horizontal <;> simp [tile, hhorizontal, sight?]

theorem sights_listing (l : Content.Listing) :
    (listing theme l).sights = Content.sights (.list l) := by
  simp [listing, Content.sights, sight?, List.flatMap_map, sights_tile]

theorem captions_listing (l : Content.Listing) :
    (listing theme l).captions = Content.captions (.list l) := by
  cases hhorizontal : l.horizontal <;>
    simp [captions, listing, Content.captions, List.flatMap_map, tile, hhorizontal]

/-! ## Tables -/

theorem sights_bodyRow (g : Content.Grid) (position : Nat) (row : Row) :
    (bodyRow theme g position row).sights =
      .row :: g.table.columns.map fun c => .cell (Content.cellText row c) := by
  have hcell : ∀ c, (bodyCell theme g row c).sights = [.cell (Content.cellText row c)] :=
    fun c => sights_mk ..
  simp [bodyRow, sight?, List.flatMap_map, hcell, ← List.map_eq_flatMap]

theorem captions_bodyRow (g : Content.Grid) (position : Nat) (row : Row) :
    captionsBelow false (bodyRow theme g position row) = [] := by
  have hcell : ∀ inLabel c, captionsBelow inLabel (bodyCell theme g row c) = [] :=
    fun inLabel c => rfl
  simp [bodyRow, hcell]

theorem sights_grid (g : Content.Grid) : (grid theme g).sights = Content.drawn (.grid g) := by
  have hhead : ∀ c, (headCell theme g c).sights = [.heading c.title] := fun c => sights_mk ..
  have hheads : (g.table.columns.map (headCell theme g)).flatMap sights =
      g.table.columns.map fun c => .heading c.title := by
    simp [List.flatMap_map, hhead, ← List.map_eq_flatMap]
  have hbody : (g.table.rows.mapIdx (bodyRow theme g)).flatMap sights = Content.bodySights g :=
    flatMap_mapIdx (sights_bodyRow theme g) _
  cases htitle : g.title.isEmpty <;> cases hheader : g.showHeader <;>
    simp [grid, tableRows, Content.drawn, Content.sights, htitle, hheader, hheads, hbody, sight?]

theorem captions_grid (g : Content.Grid) :
    (grid theme g).captions = Content.captions (.grid g) := by
  have hhead : ∀ inLabel c, captionsBelow inLabel (headCell theme g c) = [] :=
    fun inLabel c => rfl
  have hrows : (tableRows theme g).flatMap (captionsBelow false) = [] := by
    have hbody := flatMap_mapIdx (captions_bodyRow theme g) g.table.rows
    cases hheader : g.showHeader <;> simp [tableRows, hheader, hhead, hbody]
  cases hempty : g.title.isEmpty <;>
    simp [captions, grid, Content.captions, Content.captionOf, Dart.marked, hempty, hrows]

/-! ## Everything -/

variable {theme}

/-- The picture of a content shows the sights of the content. -/
theorem sights_of_content {c : Content} {n : Node} (h : content theme c = .ok n) :
    n.sights = c.drawn := by
  cases c with
  | card c =>
      obtain ⟨shadow, -, rfl⟩ := map_eq_ok.mp h
      exact sights_cardWith theme c shadow
  | button b => cases h; exact sights_button b
  | textField f => cases h; exact sights_textField theme f
  | list l => cases h; exact sights_listing theme l
  | choosable c => cases h; exact sights_centered theme c.control c.label _
  | control c => cases h; exact sights_centered theme c "" []
  | labeled l => cases h; exact sights_labeled theme l
  | message m => cases h; exact sights_message theme m
  | dropdown d => cases h; exact sights_dropdown theme d
  | input i => cases h; exact sights_input theme i
  | grid g => cases h; exact sights_grid theme g
  | icon g => cases h; rfl
  | container c => cases h; rfl
  | flex f => cases h; rfl
  | stack s => cases h; rfl
  | composer c => cases h; rfl

/-- The picture of a content has the captions of the content. -/
theorem captions_of_content {c : Content} {n : Node} (h : content theme c = .ok n) :
    n.captions = c.captions := by
  cases c with
  | card c =>
      obtain ⟨shadow, -, rfl⟩ := map_eq_ok.mp h
      exact captions_cardWith theme c shadow
  | button b => cases h; exact captions_button b
  | textField f => cases h; exact captions_textField theme f
  | list l => cases h; exact captions_listing theme l
  | choosable c => cases h; exact captions_centered theme c.control c.label _
  | control c => cases h; exact captions_centered theme c "" []
  | labeled l => cases h; exact captions_labeled theme l
  | message m => cases h; exact captions_message theme m
  | dropdown d => cases h; exact captions_dropdown theme d
  | input i => cases h; exact captions_input theme i
  | grid g => cases h; exact captions_grid theme g
  | icon g => cases h; rfl
  | container c => cases h; rfl
  | flex f => cases h; rfl
  | stack s => cases h; rfl
  | composer c => cases h; rfl

end Paint

end ScreenDesign
