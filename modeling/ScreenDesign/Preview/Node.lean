import ScreenDesign.Element
import ScreenDesign.Json.Literal

/-!
# Preview nodes

A preview is a tree of nodes.  A node has a tag, a style, perhaps a text, attributes
and children in paint order.

* `toJson` writes a node as a record and leaves out what is empty.  `read` reads
  such a record.
* `walk` lists a node and all below it, from top to bottom.
* `drawing` draws the tree with one line for each node, in the order of `walk`.
-/

namespace ScreenDesign

/-- A node of a preview. -/
inductive Node where
  /-- A node with its tag, style, text, attributes and children. -/
  | mk (tag : String) (style : Bag) (text : Option String) (attrs : Bag) (children : List Node)

namespace Node

/-! ## Parts -/

/-- The kind of node. -/
def tag : Node → String
  | .mk tag _ _ _ _ => tag

/-- The style declarations. -/
def style : Node → Bag
  | .mk _ style _ _ _ => style

/-- The text, if the node has one. -/
def text : Node → Option String
  | .mk _ _ text _ _ => text

/-- The attributes other than the style. -/
def attrs : Node → Bag
  | .mk _ _ _ attrs _ => attrs

/-- The nodes below. -/
def children : Node → List Node
  | .mk _ _ _ _ children => children

/-! ## Records -/

/-- A member, unless it is empty. -/
def memberUnless (isEmpty : Bool) (key : String) (j : Json) : Bag :=
  if isEmpty then [] else [(key, j)]

mutual

/-- A node as a record. -/
def toJson : Node → Json
  | .mk tag style text attrs children =>
      .object (("tag", .text tag) ::
        (memberUnless style.isEmpty "style" (.object style) ++
          (match text with
            | some s => [("text", .text s)]
            | none => []) ++
          memberUnless attrs.isEmpty "attrs" (.object attrs) ++
          memberUnless children.isEmpty "children" (.list (toJsonAll children))))
termination_by structural n => n

/-- Nodes as records. -/
def toJsonAll : List Node → List Json
  | [] => []
  | n :: ns => toJson n :: toJsonAll ns
termination_by structural ns => ns

end

/-- A value read as a text that may be missing. -/
def asOptionalText : Json → Checked (Option String)
  | .null => .ok none
  | .text s => .ok (some s)
  | _ => Checked.refuse .notText

/-- A node from the members of a record, with the children read before. -/
def ofMembers (members : Bag) (children : Checked (List Node)) : Checked Node :=
  (Checked.pair (.member members "tag" Json.asText) <|
    Checked.pair (.memberOr members "style" [] Json.asBag) <|
    Checked.pair (.memberOr members "text" none asOptionalText) <|
    Checked.pair (.memberOr members "attrs" [] Json.asBag) children).map
    fun (tag, style, text, attrs, children) => .mk tag style text attrs children

mutual

/-- The node that a value describes. -/
def read : Json → Checked Node
  | .object members => ofMembers members (readChildren members)
  | _ => Checked.refuse (.notRecord "PreviewNode")
termination_by structural j => j

/-- The children among the members of a record. -/
def readChildren : List (String × Json) → Checked (List Node)
  | [] => .ok []
  | (key, j) :: members =>
      if key = "children" then (readList j).below (.member "children") else readChildren members
termination_by structural members => members

/-- The nodes that a value lists. -/
def readList : Json → Checked (List Node)
  | .list items => readItems 0 items
  | _ => Checked.refuse .notList
termination_by structural j => j

/-- The nodes of the items of a list, which are counted from a position. -/
def readItems (position : Nat) : List Json → Checked (List Node)
  | [] => .ok []
  | j :: js =>
      (Checked.pair ((read j).below (.item position)) (readItems (position + 1) js)).map
        fun (n, ns) => n :: ns
termination_by structural js => js

end

/-! ## Order -/

mutual

/-- The node and all below it, each before what is below it. -/
def walk : Node → List Node
  | .mk tag style text attrs children => .mk tag style text attrs children :: walkAll children
termination_by structural n => n

/-- The nodes of a list and all below them. -/
def walkAll : List Node → List Node
  | [] => []
  | n :: ns => walk n ++ walkAll ns
termination_by structural ns => ns

end

/-! ## Drawing -/

/-- The attributes of a node on one line. -/
def attrsText (attrs : Bag) : String :=
  ", ".intercalate (attrs.map fun (key, j) => key ++ "=" ++ j.shown)

/-- What a node is, on one line. -/
def label (n : Node) : String :=
  n.tag ++
    (match n.text with
      | some s => " \x22" ++ s ++ "\x22"
      | none => "") ++
    (if n.attrs.isEmpty then "" else " \x7b" ++ attrsText n.attrs ++ "\x7d")

/-- Lines hung below a node: the first one behind a connector, the others behind
its continuation. -/
def hang (connector continuation : String) : List String → List String
  | [] => []
  | first :: rest => (connector ++ first) :: rest.map (continuation ++ ·)

mutual

/-- The lines of a tree. -/
def lines : Node → List String
  | .mk tag style text attrs children =>
      label (.mk tag style text attrs children) :: branches children
termination_by structural n => n

/-- The lines of the children of a node, with connectors. -/
def branches : List Node → List String
  | [] => []
  | n :: ns =>
      (if ns.isEmpty then hang "└── " "    " (lines n) else hang "├── " "│   " (lines n)) ++
        branches ns
termination_by structural ns => ns

end

/-- The drawing of a tree. -/
def drawing (n : Node) : String := "\n".intercalate (lines n)

end Node

end ScreenDesign
