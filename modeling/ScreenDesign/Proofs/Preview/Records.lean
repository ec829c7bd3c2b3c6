import Mathlib.Data.List.Forall2
import Mathlib.Data.Option.Basic
import ScreenDesign.Preview.Node
import ScreenDesign.Proofs.Entries

/-!
# The records of previews

A node is written as a record without its empty fields, and it is read back from the record
(`read_toJson`).  So no two nodes are written alike (`record_determines_node`).

*What is left out.*  A style and attributes without entries and an empty list of children have no
member, and neither has a text that is missing (`get?_members`).  An empty text has one.  So each
field can be told from its member or from the lack of it.

*Maps.*  Styles and attributes are maps, and so are records: the order of their members does not
matter to those who compare them.  `Json.Alike` compares values in this way and `Node.Alike` nodes.
Two records are alike exactly if their nodes are (`alike_toJson_iff`), which says that also in this
reading nothing is lost.
-/

namespace ScreenDesign

/-! ## Values as maps -/

/-- Two values are the same but for the order of members.  An object is the map that its keys
read. -/
inductive Json.Alike : Json → Json → Prop where
  | null : Alike .null .null
  | bool (b : Bool) : Alike (.bool b) (.bool b)
  | number (n : Number) : Alike (.number n) (.number n)
  | text (s : String) : Alike (.text s) (.text s)
  | list {as bs : List Json} (items : List.Forall₂ Alike as bs) : Alike (.list as) (.list bs)
  | object {as bs : Bag}
      (members : ∀ key, Option.Rel Alike (Entries.get? as key) (Entries.get? bs key)) :
      Alike (.object as) (.object bs)

namespace Json

theorem alike_text_iff {s t : String} : Alike (.text s) (.text t) ↔ s = t := by
  constructor
  · rintro ⟨⟩
    rfl
  · rintro rfl
    exact .text s

theorem alike_list_iff {as bs : List Json} :
    Alike (.list as) (.list bs) ↔ List.Forall₂ Alike as bs :=
  ⟨fun | .list h => h, .list⟩

theorem alike_object_iff {as bs : Bag} :
    Alike (.object as) (.object bs) ↔
      ∀ key, Option.Rel Alike (Entries.get? as key) (Entries.get? bs key) :=
  ⟨fun | .object h => h, .object⟩

/-- Exactly the objects without members read nothing under any key. -/
theorem get?_eq_none_iff {as : Bag} : (∀ key, Entries.get? as key = none) ↔ as = [] := by
  cases as with
  | nil => exact ⟨fun _ => rfl, fun _ _ => rfl⟩
  | cons a as =>
      refine ⟨fun h => ?_, nofun⟩
      have hfirst : Entries.get? (a :: as) a.1 = some a.2 := if_pos rfl
      rw [h a.1] at hfirst
      cases hfirst

/-- Only an object without members is like an empty one. -/
theorem Alike.isEmpty_eq {as bs : Bag} (h : Alike (.object as) (.object bs)) :
    as.isEmpty = bs.isEmpty := by
  rw [alike_object_iff] at h
  have hnone (key : String) : Entries.get? as key = none ↔ Entries.get? bs key = none := by
    have hkey := h key
    generalize Entries.get? as key = a at *
    generalize Entries.get? bs key = b at *
    cases hkey with
    | some => exact ⟨nofun, nofun⟩
    | none => exact Iff.rfl
  rw [Bool.eq_iff_iff, List.isEmpty_iff, List.isEmpty_iff, ← get?_eq_none_iff,
    ← get?_eq_none_iff]
  exact forall_congr' hnone

end Json

namespace Node

/-- Two nodes are the same but for the order of declarations and attributes. -/
inductive Alike : Node → Node → Prop where
  | mk {tag : String} {style style' attrs attrs' : Bag} {text : Option String}
      {children children' : List Node} (styles : Json.Alike (.object style) (.object style'))
      (attributes : Json.Alike (.object attrs) (.object attrs'))
      (below : List.Forall₂ Alike children children') :
      Alike (.mk tag style text attrs children) (.mk tag style' text attrs' children')

/-! ## Members -/

/-- The members of the record of a node. -/
def members : Node → Bag
  | .mk tag style text attrs children =>
      ("tag", .text tag) ::
        (memberUnless style.isEmpty "style" (.object style) ++
          (match text with
            | some s => [("text", .text s)]
            | none => []) ++
          memberUnless attrs.isEmpty "attrs" (.object attrs) ++
          memberUnless children.isEmpty "children" (.list (toJsonAll children)))

theorem toJson_eq (n : Node) : n.toJson = .object n.members := by
  cases n
  rfl

theorem toJsonAll_eq (ns : List Node) : toJsonAll ns = ns.map toJson := by
  induction ns with
  | nil => rfl
  | cons n ns ih => rw [toJsonAll, ih, List.map_cons]

/-- A value, unless it is empty. -/
def kept (isEmpty : Bool) (j : Json) : Option Json := if isEmpty then none else some j

theorem get?_memberUnless (isEmpty : Bool) (name key : String) (j : Json) :
    Entries.get? (memberUnless isEmpty name j) key =
      if key = name then kept isEmpty j else none := by
  cases isEmpty <;> simp [memberUnless, kept, Entries.get?, eq_comm]

/-- What the keys of a record read: the fields that are not empty, and nothing under any other
key. -/
theorem get?_members (n : Node) (key : String) :
    Entries.get? n.members key =
      if key = "tag" then some (.text n.tag)
      else if key = "style" then kept n.style.isEmpty (.object n.style)
      else if key = "text" then n.text.map .text
      else if key = "attrs" then kept n.attrs.isEmpty (.object n.attrs)
      else if key = "children" then kept n.children.isEmpty (.list (n.children.map toJson))
      else none := by
  obtain ⟨tag, style, text, attrs, children⟩ := n
  simp only [members, Entries.get?_cons, Entries.get?_append, get?_memberUnless]
  cases text <;> grind [Entries.get?, toJsonAll_eq, Node.tag, Node.style,
      Node.text, Node.attrs, Node.children]

/-! ## Reading back -/

/-- A field that is left out when it is empty is read back, since its default is the empty
field. -/
theorem memberOr_of_kept {α : Type} {members : Bag} {key : String} {isEmpty : Bool} {j : Json}
    {a default : α} {read : Json → Checked α}
    (hget : Entries.get? members key = kept isEmpty j) (hread : read j = .ok a)
    (hdefault : isEmpty = true → a = default) :
    Checked.memberOr members key default read = .ok a := by
  rw [Checked.memberOr, hget]
  cases isEmpty with
  | true => exact congrArg Except.ok (hdefault rfl).symm
  | false =>
      show (read j).below (.member key) = .ok a
      rw [hread]
      rfl

/-- A missing text is read back, and so is an empty one. -/
theorem memberOr_text (n : Node) :
    Checked.memberOr n.members "text" none asOptionalText = .ok n.text := by
  have hget : Entries.get? n.members "text" = n.text.map .text := get?_members n "text"
  rw [Checked.memberOr, hget]
  cases n.text <;> rfl

/-- The children of a record are those of the list that it has under their key. -/
theorem readChildren_eq (members : Bag) :
    readChildren members = Checked.memberOr members "children" [] readList := by
  induction members with
  | nil => rfl
  | cons m members ih =>
      obtain ⟨key, j⟩ := m
      rw [readChildren, ih, Checked.memberOr, Checked.memberOr, Entries.get?_cons]
      split <;> rfl

/-- A node is read back if its children are. -/
theorem read_toJson_of_children {n : Node}
    (h : readItems 0 (n.children.map toJson) = .ok n.children) : read n.toJson = .ok n := by
  have htag : Checked.member n.members "tag" Json.asText = .ok n.tag := by
    rw [Checked.member, get?_members, if_pos rfl]
    rfl
  have hstyle : Checked.memberOr n.members "style" [] Json.asBag = .ok n.style :=
    memberOr_of_kept (get?_members n "style") rfl List.isEmpty_iff.mp
  have hattrs : Checked.memberOr n.members "attrs" [] Json.asBag = .ok n.attrs :=
    memberOr_of_kept (get?_members n "attrs") rfl List.isEmpty_iff.mp
  have hchildren : readChildren n.members = .ok n.children := by
    rw [readChildren_eq]
    refine memberOr_of_kept (get?_members n "children") ?_ List.isEmpty_iff.mp
    rw [readList]
    exact h
  rw [toJson_eq, read, ofMembers, htag, hstyle, memberOr_text, hattrs, hchildren]
  cases n
  rfl

mutual

/-- A node is read back from its record. -/
theorem read_toJson : (n : Node) → read n.toJson = .ok n
  | .mk _ _ _ _ children => read_toJson_of_children (readItems_toJson 0 children)

/-- Nodes are read back from the list of their records, at any position. -/
theorem readItems_toJson (position : Nat) :
    (ns : List Node) → readItems position (ns.map toJson) = .ok ns
  | [] => rfl
  | n :: ns => by
      rw [List.map_cons, readItems, read_toJson n, readItems_toJson (position + 1) ns]
      rfl

end

/-! ## Records as maps -/

/-- What is left out on both sides is alike, and what is left out on one side only is not. -/
theorem rel_kept_iff {isEmpty isEmpty' : Bool} {j j' : Json}
    (hsame : Json.Alike j j' → isEmpty = isEmpty')
    (hempty : isEmpty = true → isEmpty' = true → Json.Alike j j') :
    Option.Rel Json.Alike (kept isEmpty j) (kept isEmpty' j') ↔ Json.Alike j j' := by
  cases isEmpty <;> cases isEmpty' <;> simp_all [kept]

theorem rel_kept_object_iff (as bs : Bag) :
    Option.Rel Json.Alike (kept as.isEmpty (.object as)) (kept bs.isEmpty (.object bs)) ↔
      Json.Alike (.object as) (.object bs) := by
  refine rel_kept_iff Json.Alike.isEmpty_eq fun has hbs => ?_
  rw [List.isEmpty_iff.mp has, List.isEmpty_iff.mp hbs]
  exact .object fun _ => .none

theorem rel_kept_list_iff (as bs : List Json) :
    Option.Rel Json.Alike (kept as.isEmpty (.list as)) (kept bs.isEmpty (.list bs)) ↔
      List.Forall₂ Json.Alike as bs := by
  rw [← Json.alike_list_iff]
  refine rel_kept_iff (fun h => ?_) fun has hbs => ?_
  · cases Json.alike_list_iff.mp h <;> rfl
  · rw [List.isEmpty_iff.mp has, List.isEmpty_iff.mp hbs]
    exact .list .nil

theorem rel_text_iff (s t : Option String) :
    Option.Rel Json.Alike (s.map .text) (t.map .text) ↔ s = t := by
  cases s <;> cases t <;> simp [Json.alike_text_iff]

/-- The records of two nodes are alike field by field. -/
theorem alike_toJson_iff_fields (n m : Node) :
    Json.Alike n.toJson m.toJson ↔
      n.tag = m.tag ∧ Json.Alike (.object n.style) (.object m.style) ∧ n.text = m.text ∧
        Json.Alike (.object n.attrs) (.object m.attrs) ∧
        List.Forall₂ Json.Alike (n.children.map toJson) (m.children.map toJson) := by
  have hchildren := rel_kept_list_iff (n.children.map toJson) (m.children.map toJson)
  simp only [List.isEmpty_map] at hchildren
  rw [toJson_eq, toJson_eq, Json.alike_object_iff, ← rel_kept_object_iff, ← rel_kept_object_iff,
    ← rel_text_iff, ← hchildren]
  simp only [get?_members]
  constructor
  · intro h
    exact ⟨Json.alike_text_iff.mp (Option.rel_some_some.mp (h "tag")), h "style", h "text",
      h "attrs", h "children"⟩
  · rintro ⟨htag, hstyle, htext, hattrs, hbelow⟩ key
    split
    · exact .some (Json.alike_text_iff.mpr htag)
    split
    · exact hstyle
    split
    · exact htext
    split
    · exact hattrs
    split
    · exact hbelow
    · exact .none

/-- Nodes are alike field by field. -/
theorem alike_iff_fields (n m : Node) :
    n.Alike m ↔
      n.tag = m.tag ∧ Json.Alike (.object n.style) (.object m.style) ∧ n.text = m.text ∧
        Json.Alike (.object n.attrs) (.object m.attrs) ∧
        List.Forall₂ Alike n.children m.children := by
  constructor
  · rintro ⟨hstyle, hattrs, hbelow⟩
    exact ⟨rfl, hstyle, rfl, hattrs, hbelow⟩
  · obtain ⟨tag, style, text, attrs, children⟩ := n
    obtain ⟨tag', style', text', attrs', children'⟩ := m
    rintro ⟨htag, hstyle, htext, hattrs, hbelow⟩
    cases htag
    cases htext
    exact .mk hstyle hattrs hbelow

mutual

/-- Two records are alike exactly if their nodes are. -/
theorem alike_toJson_iff : (n m : Node) → (Json.Alike n.toJson m.toJson ↔ n.Alike m)
  | .mk _ _ _ _ children, m => by
      have hbelow := forall₂_alike_toJson_iff children m.children
      rw [alike_toJson_iff_fields, alike_iff_fields]
      simp only [Node.children] at hbelow ⊢
      rw [hbelow]

theorem forall₂_alike_toJson_iff :
    (ns ms : List Node) →
      (List.Forall₂ Json.Alike (ns.map toJson) (ms.map toJson) ↔ List.Forall₂ Alike ns ms)
  | [], ms => by cases ms <;> simp
  | n :: ns, ms => by
      cases ms with
      | nil => simp
      | cons m ms =>
          simp [alike_toJson_iff n m, forall₂_alike_toJson_iff ns ms]

end

/-- A node is read back from its record, so two nodes with the same record are the same, and
two nodes whose records differ only in the order of members differ only in the order of
declarations and attributes. -/
theorem record_determines_node (n m : Node) :
    read n.toJson = .ok n ∧ (n.toJson = m.toJson → n = m) ∧
      (Json.Alike n.toJson m.toJson ↔ n.Alike m) := by
  refine ⟨read_toJson n, fun h => ?_, alike_toJson_iff n m⟩
  have hread : (.ok n : Checked Node) = .ok m := by
    rw [← read_toJson n, ← read_toJson m, h]
  exact Except.ok.inj hread

end Node

end ScreenDesign
