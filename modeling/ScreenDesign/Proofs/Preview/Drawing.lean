import Mathlib.Data.List.Forall2
import ScreenDesign.Preview.Node

/-!
# Drawings of previews

The drawing of a preview has one line for each node, and it shows the tree.

*One step.*  Lines hung below a node get four more characters in front, which are no letters
(`forall₂_hang`).  In the list of nodes with their depths everything below a node is one deeper
(`levels`).

*A whole drawing.*  So each line is what its node says, behind four characters for each level
(`forall₂_lines`).  A tag begins with a letter, so the characters in front can be told from the
rest, and a line says how deep its node is (`entry_unique`).  Depths in this order determine the
tree: the nodes below a node are those that follow it up to the next one that is no deeper
(`append_deeper_inj`).  Two drawings are therefore the same exactly if the trees have the same
shape and corresponding nodes say the same (`drawing_faithful`).
-/

namespace ScreenDesign.Node

/-! ## Depths -/

/-- An entry one level further down. -/
def deeper {α : Type} (entry : Nat × α) : Nat × α := (entry.1 + 1, entry.2)

theorem deeper_injective {α : Type} : Function.Injective (@deeper α) := by
  rintro ⟨d, a⟩ ⟨e, b⟩ h
  cases h
  rfl

mutual

/-- The node and all below it with their depths, in the order of `walk`. -/
def levels : Node → List (Nat × Node)
  | .mk tag style text attrs children =>
      (0, .mk tag style text attrs children) :: (levelsAll children).map deeper
termination_by structural n => n

/-- The nodes of a list and all below them with their depths. -/
def levelsAll : List Node → List (Nat × Node)
  | [] => []
  | n :: ns => levels n ++ levelsAll ns
termination_by structural ns => ns

end

theorem levels_eq (n : Node) : n.levels = (0, n) :: (levelsAll n.children).map deeper := by
  cases n
  rfl

theorem lines_eq (n : Node) : n.lines = n.label :: branches n.children := by
  cases n
  rfl

theorem map_snd_deeper {α : Type} (entries : List (Nat × α)) :
    (entries.map deeper).map Prod.snd = entries.map Prod.snd :=
  List.map_map

mutual

/-- Without their depths these are the nodes in the order of `walk`. -/
theorem map_snd_levels : (n : Node) → n.levels.map Prod.snd = n.walk
  | .mk _ _ _ _ children => by
      rw [levels, walk, List.map_cons, map_snd_deeper, map_snd_levelsAll children]

theorem map_snd_levelsAll : (ns : List Node) → (levelsAll ns).map Prod.snd = walkAll ns
  | [] => rfl
  | n :: ns => by
      rw [levelsAll, walkAll, List.map_append, map_snd_levels n, map_snd_levelsAll ns]

end

/-! ## Lines -/

/-- The characters in front of what a node says: four for each level, no letter and no line
break. -/
structure Margin (depth : Nat) (front : List Char) : Prop where
  width : front.length = 4 * depth
  noLetter : ∀ c ∈ front, c.isAlpha = false
  noBreak : '\n' ∉ front

theorem Margin.nil : Margin 0 [] := ⟨rfl, nofun, nofun⟩

theorem Margin.one {s : String} (hwidth : s.toList.length = 4)
    (hletter : s.toList.any Char.isAlpha = false) (hbreak : '\n' ∉ s.toList) : Margin 1 s.toList :=
  ⟨hwidth, fun c hc => (Bool.not_eq_true _).mp (List.any_eq_false.mp hletter c hc), hbreak⟩

theorem Margin.append {d e : Nat} {cs ds : List Char} (hcs : Margin d cs) (hds : Margin e ds) :
    Margin (d + e) (cs ++ ds) where
  width := by rw [List.length_append, hcs.width, hds.width, Nat.mul_add]
  noLetter := List.forall_mem_append.mpr ⟨hcs.noLetter, hds.noLetter⟩
  noBreak := List.not_mem_append hcs.noBreak hds.noBreak

/-- A line with what a node says behind the margin of its depth. -/
def Shows (line : String) (entry : Nat × Node) : Prop :=
  ∃ front, Margin entry.1 front ∧ line.toList = front ++ entry.2.label.toList

theorem Shows.hang {front line : String} {entry : Nat × Node} (hfront : Margin 1 front.toList)
    (h : Shows line entry) : Shows (front ++ line) (deeper entry) := by
  obtain ⟨cs, hcs, hline⟩ := h
  refine ⟨front.toList ++ cs, ?_, ?_⟩
  · rw [deeper, Nat.add_comm]
    exact hfront.append hcs
  · rw [String.toList_append, hline, List.append_assoc]
    rfl

/-- Hung lines show the same nodes one level further down. -/
theorem forall₂_hang {connector continuation : String} (hfirst : Margin 1 connector.toList)
    (hrest : Margin 1 continuation.toList) {lines : List String} {entries : List (Nat × Node)}
    (h : List.Forall₂ Shows lines entries) :
    List.Forall₂ Shows (hang connector continuation lines) (entries.map deeper) := by
  cases h with
  | nil => exact .nil
  | cons hline hlines =>
      refine .cons (hline.hang hfirst) ?_
      rw [List.forall₂_map_left_iff, List.forall₂_map_right_iff]
      exact hlines.imp fun _ _ h => h.hang hrest

mutual

/-- The lines of a tree show its nodes in order. -/
theorem forall₂_lines : (n : Node) → List.Forall₂ Shows n.lines n.levels
  | .mk tag style text attrs children => by
      rw [lines, levels]
      exact .cons ⟨[], .nil, rfl⟩ (forall₂_branches children)

/-- The lines of children show all that is below a node, one level further down. -/
theorem forall₂_branches :
    (ns : List Node) → List.Forall₂ Shows (branches ns) ((levelsAll ns).map deeper)
  | [] => .nil
  | n :: ns => by
      rw [branches, levelsAll, List.map_append]
      refine List.rel_append ?_ (forall₂_branches ns)
      split
      · exact forall₂_hang (.one rfl rfl (by decide)) (.one rfl rfl (by decide)) (forall₂_lines n)
      · exact forall₂_hang (.one rfl rfl (by decide)) (.one rfl rfl (by decide)) (forall₂_lines n)

end

/-! ## Nodes that are drawn on one line -/

/-- A node whose tag begins with a letter, without a line break in what it says. -/
def OneLine (n : Node) : Prop :=
  n.tag.toList.head?.any Char.isAlpha = true ∧ '\n' ∉ n.tag.toList ∧
    (∀ s ∈ n.text, '\n' ∉ s.toList) ∧ '\n' ∉ (attrsText n.attrs).toList

instance : DecidablePred OneLine := fun _ => inferInstanceAs (Decidable (_ ∧ _))

/-- A tree of such nodes. -/
def Plain (n : Node) : Prop := ∀ m ∈ n.walk, m.OneLine

instance : DecidablePred Plain := fun _ => inferInstanceAs (Decidable (∀ m ∈ _, OneLine m))

theorem OneLine.break_notMem {n : Node} (h : n.OneLine) : '\n' ∉ n.label.toList := by
  obtain ⟨-, htag, htext, hattrs⟩ := h
  rw [label]
  split <;> split <;> simp_all

/-- What such a node says begins with a letter. -/
theorem OneLine.exists_letter {n : Node} (h : n.OneLine) :
    ∃ c cs, n.label.toList = c :: cs ∧ c.isAlpha = true := by
  obtain ⟨c, hc, hletter⟩ := (Option.any_eq_true _ _).mp h.1
  obtain ⟨cs, hcs⟩ := List.head?_eq_some_iff.mp hc
  rw [label, String.toList_append, String.toList_append, hcs]
  exact ⟨c, _, rfl, hletter⟩

/-! ## Reading a line -/

/-- A list is split in one way only where a property that holds on the left fails for the first
time. -/
theorem append_inj_of_boundary {α : Type} {p : α → Bool} {as bs as' bs' : List α}
    (has : ∀ a ∈ as, p a = true) (hbs : ∀ b ∈ bs.head?, p b = false)
    (has' : ∀ a ∈ as', p a = true) (hbs' : ∀ b ∈ bs'.head?, p b = false)
    (h : as ++ bs = as' ++ bs') : as = as' ∧ bs = bs' := by
  have htake {cs ds : List α} (hcs : ∀ c ∈ cs, p c = true) (hds : ∀ d ∈ ds.head?, p d = false) :
      (cs ++ ds).takeWhile p = cs := by
    rw [List.takeWhile_append_of_pos hcs]
    cases ds with
    | nil => rw [List.takeWhile_nil, List.append_nil]
    | cons d ds => rw [List.takeWhile_cons, hds d rfl, if_neg Bool.false_ne_true, List.append_nil]
  have hfront : as = as' := by rw [← htake has hbs, h, htake has' hbs']
  subst hfront
  exact ⟨rfl, List.append_cancel_left h⟩

/-- What a line tells about its node: the depth and what the node says. -/
def entry (p : Nat × Node) : Nat × String := (p.1, p.2.label)

/-- A line shows one depth and one saying. -/
theorem entry_unique {line : String} {p q : Nat × Node} (hp : p.2.OneLine) (hq : q.2.OneLine)
    (hlinep : Shows line p) (hlineq : Shows line q) : entry p = entry q := by
  obtain ⟨cs, hcs, hline⟩ := hlinep
  obtain ⟨ds, hds, hline'⟩ := hlineq
  have starts {m : Node} (hm : m.OneLine) : ∀ c ∈ m.label.toList.head?, (!c.isAlpha) = false := by
    obtain ⟨c, rest, hlabel, hletter⟩ := hm.exists_letter
    rw [hlabel]
    rintro _ ⟨⟩
    rw [hletter, Bool.not_true]
  have margin {depth : Nat} {front : List Char} (h : Margin depth front) :
      ∀ c ∈ front, (!c.isAlpha) = true := fun c hc => by rw [h.noLetter c hc, Bool.not_false]
  obtain ⟨rfl, hlabel⟩ := append_inj_of_boundary (margin hcs) (starts hp) (margin hds) (starts hq)
    (hline.symm.trans hline')
  have hdepth : 4 * p.1 = 4 * q.1 := by rw [← hcs.width, hds.width]
  exact Prod.ext (Nat.eq_of_mul_eq_mul_left (by decide) hdepth) (String.toList_inj.mp hlabel)

/-- So lines show one list of depths and sayings. -/
theorem map_entry_unique {lines : List String} {ps qs : List (Nat × Node)}
    (hps : ∀ p ∈ ps, p.2.OneLine) (hqs : ∀ q ∈ qs, q.2.OneLine)
    (hp : List.Forall₂ Shows lines ps) (hq : List.Forall₂ Shows lines qs) :
    ps.map entry = qs.map entry := by
  induction hp generalizing qs with
  | nil =>
      cases hq
      rfl
  | cons hline _ ih =>
      cases hq with
      | cons hline' hlines =>
          rw [List.forall_mem_cons] at hps hqs
          rw [List.map_cons, List.map_cons, entry_unique hps.1 hqs.1 hline hline',
            ih hps.2 hqs.2 hlines]

/-! ## Reading the shape -/

/-- Trees of the same shape whose corresponding nodes say the same. -/
inductive Similar : Node → Node → Prop where
  | mk {n m : Node} (label : n.label = m.label)
      (children : List.Forall₂ Similar n.children m.children) : Similar n m

/-- What follows the entries below a node is the next node of its depth, or nothing.  So it is
known where the entries below end. -/
theorem append_deeper_inj {α : Type} {xs ys xs' ys' : List (Nat × α)}
    (hys : ∀ y ∈ ys.head?, y.1 = 0) (hys' : ∀ y ∈ ys'.head?, y.1 = 0)
    (h : xs.map deeper ++ ys = xs'.map deeper ++ ys') : xs = xs' ∧ ys = ys' := by
  have below (zs : List (Nat × α)) : ∀ z ∈ zs.map deeper, (z.1 != 0) = true := by
    rw [List.forall_mem_map]
    exact fun _ _ => rfl
  have next {zs : List (Nat × α)} (hzs : ∀ z ∈ zs.head?, z.1 = 0) :
      ∀ z ∈ zs.head?, (z.1 != 0) = false := fun z hz => bne_eq_false_iff_eq.mpr (hzs z hz)
  obtain ⟨hxs, hys⟩ :=
    append_inj_of_boundary (below xs) (next hys) (below xs') (next hys') h
  exact ⟨List.map_injective_iff.mpr deeper_injective hxs, hys⟩

theorem map_entry_deeper (ps : List (Nat × Node)) :
    (ps.map deeper).map entry = (ps.map entry).map deeper := by
  rw [List.map_map, List.map_map]
  rfl

theorem map_entry_levels (n : Node) :
    n.levels.map entry = (0, n.label) :: ((levelsAll n.children).map entry).map deeper := by
  rw [levels_eq, List.map_cons, map_entry_deeper]
  rfl

theorem map_entry_levelsAll_cons (n : Node) (ns : List Node) :
    (levelsAll (n :: ns)).map entry =
      (0, n.label) ::
        (((levelsAll n.children).map entry).map deeper ++ (levelsAll ns).map entry) := by
  rw [levelsAll, List.map_append, map_entry_levels, List.cons_append]

/-- Side by side, the first node is not below another one. -/
theorem depth_head_levelsAll (ns : List Node) :
    ∀ p ∈ ((levelsAll ns).map entry).head?, p.1 = 0 := by
  cases ns with
  | nil => nofun
  | cons n ns =>
      rw [map_entry_levelsAll_cons]
      rintro _ ⟨⟩
      rfl

/- The children and the nodes that follow are told apart by `append_deeper_inj`.  The recursion
goes into the first list; the second one has a first node exactly if the first one has. -/
mutual

/-- Depths and sayings in order determine the shape. -/
theorem similar_of_levels :
    (n m : Node) → n.levels.map entry = m.levels.map entry → n.Similar m
  | .mk tag style text attrs children, m, h => by
      rw [map_entry_levels, map_entry_levels] at h
      obtain ⟨hroot, hbelow⟩ := List.cons.inj h
      refine .mk (Prod.ext_iff.mp hroot).2 (forall₂_similar_of_levels children m.children ?_)
      exact List.map_injective_iff.mpr deeper_injective hbelow

theorem forall₂_similar_of_levels :
    (ns ms : List Node) → (levelsAll ns).map entry = (levelsAll ms).map entry →
      List.Forall₂ Similar ns ms
  | [], [], _ => .nil
  | [], m :: ms, h => by
      rw [map_entry_levelsAll_cons] at h
      cases h
  | n :: ns, [], h => by
      rw [map_entry_levelsAll_cons] at h
      cases h
  | .mk tag style text attrs children :: ns, m :: ms, h => by
      rw [map_entry_levelsAll_cons, map_entry_levelsAll_cons] at h
      obtain ⟨hroot, hrest⟩ := List.cons.inj h
      obtain ⟨hbelow, hnext⟩ :=
        append_deeper_inj (depth_head_levelsAll ns) (depth_head_levelsAll ms) hrest
      exact .cons
        (.mk (Prod.ext_iff.mp hroot).2 (forall₂_similar_of_levels children m.children hbelow))
        (forall₂_similar_of_levels ns ms hnext)

end

mutual

/-- Similar trees are drawn alike. -/
theorem lines_of_similar : (n m : Node) → n.Similar m → n.lines = m.lines
  | .mk tag style text attrs children, m, .mk hlabel hchildren => by
      rw [lines_eq, lines_eq, hlabel]
      exact congrArg _ (branches_of_similar children m.children hchildren)

theorem branches_of_similar :
    (ns ms : List Node) → List.Forall₂ Similar ns ms → branches ns = branches ms
  | [], _, .nil => rfl
  | n :: ns, m :: ms, .cons hfirst hrest => by
      have hlast : ns.isEmpty = ms.isEmpty := by cases hrest <;> rfl
      rw [branches, branches, hlast, lines_of_similar n m hfirst, branches_of_similar ns ms hrest]

end

/-! ## The drawing -/

theorem Plain.oneLine_of_mem {n : Node} (hn : n.Plain) : ∀ p ∈ n.levels, p.2.OneLine := by
  intro p hp
  refine hn p.2 ?_
  rw [← map_snd_levels]
  exact List.mem_map_of_mem hp

/-- Lines that show nodes without line breaks are not broken. -/
theorem break_notMem_of_shows {lines : List String} {ps : List (Nat × Node)}
    (hps : ∀ p ∈ ps, p.2.OneLine) (h : List.Forall₂ Shows lines ps) :
    ∀ line ∈ lines, '\n' ∉ line.toList := by
  induction h with
  | nil => nofun
  | cons hline _ ih =>
      rw [List.forall_mem_cons] at hps ⊢
      obtain ⟨front, hfront, htext⟩ := hline
      refine ⟨?_, ih hps.2⟩
      rw [htext]
      exact List.not_mem_append hfront.noBreak hps.1.break_notMem

/-- So the lines are read back from the drawing. -/
theorem Plain.lines_drawing {n : Node} (hn : n.Plain) :
    n.drawing.toList.splitOn '\n' = n.lines.map String.toList := by
  have hbreak : ∀ line ∈ n.lines.map String.toList, '\n' ∉ line := by
    rw [List.forall_mem_map]
    exact break_notMem_of_shows hn.oneLine_of_mem (forall₂_lines n)
  have hsome : n.lines.map String.toList ≠ [] := by
    rw [lines_eq]
    exact List.cons_ne_nil _ _
  rw [drawing, String.toList_intercalate]
  exact List.splitOn_intercalate '\n' hbreak hsome

/-- The drawing of a tree whose tags begin with a letter and in which nothing breaks the line has
one line for each node, in order.  Each line ends with what its node says, behind four characters
for each level.  Two such drawings are the same exactly if the trees have the same shape and
corresponding nodes say the same. -/
theorem drawing_faithful {n : Node} (hn : n.Plain) :
    (n.drawing.toList.splitOn '\n').length = n.walk.length ∧
      List.Forall₂ (fun line p => ∃ front : List Char,
          front.length = 4 * p.1 ∧ line = front ++ p.2.label.toList)
        (n.drawing.toList.splitOn '\n') n.levels ∧
      n.levels.map Prod.snd = n.walk ∧
      ∀ m : Node, m.Plain → (n.drawing = m.drawing ↔ n.Similar m) := by
  have hshown : List.Forall₂ (fun line p => ∃ front : List Char,
      front.length = 4 * p.1 ∧ line = front ++ p.2.label.toList)
      (n.drawing.toList.splitOn '\n') n.levels := by
    rw [hn.lines_drawing, List.forall₂_map_left_iff]
    exact (forall₂_lines n).imp fun line p ⟨front, hfront, hline⟩ => ⟨front, hfront.width, hline⟩
  refine ⟨?_, hshown, map_snd_levels n, fun m hm => ⟨fun h => ?_, fun h => ?_⟩⟩
  · rw [hshown.length_eq, ← map_snd_levels, List.length_map]
  · -- the same drawing has the same lines, and they show both lists of nodes
    have hlines : n.lines = m.lines := by
      refine List.map_injective_iff.mpr (fun _ _ => String.toList_inj.mp) ?_
      rw [← hn.lines_drawing, ← hm.lines_drawing, h]
    refine similar_of_levels n m
      (map_entry_unique hn.oneLine_of_mem hm.oneLine_of_mem (forall₂_lines n) ?_)
    rw [hlines]
    exact forall₂_lines m
  · rw [drawing, drawing, lines_of_similar n m h]

/-- The tree that is drawn in the documentation of the drawing. -/
def button : Node :=
  .mk "button" [] none [("navigateTo", .text "home")]
    [.mk "text" [] (some "Login") [] [],
      .mk "indicator" [] none [("name", .text "chevron_right")] []]

theorem drawing_faithful_button :
    button.Plain ∧
      button.drawing =
        "button \x7bnavigateTo=home\x7d\n" ++
          "├── text \x22Login\x22\n└── indicator \x7bname=chevron_right\x7d" ∧
      ∀ m : Node, m.Plain → (button.drawing = m.drawing ↔ button.Similar m) := by
  have hplain : button.Plain := by decide
  exact ⟨hplain, by decide +kernel, (drawing_faithful hplain).2.2.2⟩

end ScreenDesign.Node
