import Mathlib.Algebra.BigOperators.Group.List.Lemmas
import Mathlib.Algebra.Ring.Nat
import ScreenDesign.Preview.Canvas
import ScreenDesign.Proofs.Entries
import ScreenDesign.Proofs.Findings
import ScreenDesign.Proofs.Results

/-!
# Previews under their ids

`Preview.byId` keeps one preview for each id, while the canvas of `Preview.screen` shows every
element.  Both are made of the same boxes (`result_byId`, `result_screen`), so they fail together,
and what the first one lacks is counted on the ids alone.

*Keys.*  Inserting pair after pair leaves each key at its first place (`keys_ofPairs`).

*Values.*  The last pair of a key is the one that is read (`get?_ofPairs_append`).

*Count.*  The ids that repeat are reported with how often they stand on the screen.  Of each of
them all but one are missing (`length_distinct_add`), so none are exactly if nothing is reported.
-/

namespace ScreenDesign

/-! ## Lists of ids -/

namespace Finding

theorem distinct_concat (as : List String) (a : String) :
    distinct (as ++ [a]) = if a ∈ as then distinct as else distinct as ++ [a] := by
  induction as with
  | nil => rfl
  | cons b as ih =>
      rw [List.cons_append, distinct, distinct, ih]
      by_cases hab : a = b
      · subst hab
        by_cases hmem : a ∈ as <;> simp [hmem]
      · by_cases hmem : a ∈ as <;> simp [hmem, hab]

/-- Each member stands where it is first met. -/
theorem pairwise_distinct (as : List String) :
    (distinct as).Pairwise fun a b => as.idxOf a < as.idxOf b := by
  induction as with
  | nil => exact .nil
  | cons c as ih =>
      rw [distinct]
      have hlater {a : String} (ha : a ∈ (distinct as).filter (· ≠ c)) :
          (c :: as).idxOf a = as.idxOf a + 1 := by
        have hne : a ≠ c := by simpa using (List.mem_filter.mp ha).2
        exact List.idxOf_cons_ne as hne.symm
      apply List.Pairwise.cons
      · intro a ha
        rw [List.idxOf_cons_self, hlater ha]
        exact Nat.succ_pos _
      · refine (ih.filter _).imp_of_mem ?_
        intro a b ha hb hlt
        rw [hlater ha, hlater hb]
        exact Nat.succ_lt_succ hlt

/-- Only members that stand in a list more than once add to this sum. -/
theorem sum_filter_pred {f : String → Nat} {as : List String} (h : ∀ a ∈ as, 1 ≤ f a) :
    ((as.filter fun a => 1 < f a).map fun a => f a - 1).sum + as.length = (as.map f).sum := by
  induction as with
  | nil => rfl
  | cons a as ih =>
      have hpos : 1 ≤ f a := h a List.mem_cons_self
      have hrest := ih fun b hb => h b (List.mem_cons_of_mem a hb)
      rw [List.filter_cons, List.map_cons, List.sum_cons, List.length_cons]
      split
      case isTrue => rw [List.map_cons, List.sum_cons]; omega
      case isFalse hone =>
          have : ¬1 < f a := fun hlt => hone (decide_eq_true hlt)
          omega

/-- The places of a list are those of its distinct members, and those that repeat one. -/
theorem length_distinct_add (as : List String) :
    (((distinct as).filter fun a => 1 < as.count a).map fun a => as.count a - 1).sum +
      (distinct as).length = as.length := by
  have hcount : ∀ a ∈ distinct as, 1 ≤ as.count a := by
    intro a ha
    exact List.count_pos_iff.mpr (mem_distinct.mp ha)
  have hperm : (distinct as).Perm as.dedup := by
    rw [List.perm_ext_iff_of_nodup (nodup_distinct as) as.nodup_dedup]
    intro a
    rw [mem_distinct, List.mem_dedup]
  calc (((distinct as).filter fun a => 1 < as.count a).map fun a => as.count a - 1).sum +
        (distinct as).length
      = ((distinct as).map as.count).sum := sum_filter_pred hcount
    _ = (as.dedup.map as.count).sum := (hperm.map _).sum_eq
    _ = as.length := List.sum_map_count_dedup_eq_length as

end Finding

/-! ## Inserting pair after pair -/

namespace Entries

variable {β : Type}

theorem ofPairs_append (pairs more : List (String × β)) :
    ofPairs (pairs ++ more) = insertAll (ofPairs pairs) more :=
  List.foldl_append

theorem keys_ofPairs (pairs : List (String × β)) :
    keys (ofPairs pairs) = Finding.distinct (pairs.map Prod.fst) := by
  induction pairs using List.reverseRecOn with
  | nil => rfl
  | append_singleton pairs p ih =>
      have hlast : ofPairs (pairs ++ [p]) = insert (ofPairs pairs) p.1 p.2 := ofPairs_append _ _
      rw [hlast, keys_insert, ih, List.map_append, List.map_singleton, Finding.distinct_concat]
      simp only [Finding.mem_distinct]

example : ofPairs [("a", 1), ("b", 2), ("a", 3)] = [("a", 3), ("b", 2)] := by decide

theorem get?_insertAll_of_notMem {es : Entries β} {pairs : List (String × β)} {key : String}
    (h : key ∉ pairs.map Prod.fst) : get? (insertAll es pairs) key = get? es key := by
  induction pairs generalizing es with
  | nil => rfl
  | cons p pairs ih =>
      rw [List.map_cons, List.mem_cons, not_or] at h
      calc get? (insertAll es (p :: pairs)) key
          = get? (insertAll (insert es p.1 p.2) pairs) key := rfl
        _ = get? (insert es p.1 p.2) key := ih h.2
        _ = get? es key := get?_insert_of_ne es p.2 (Ne.symm h.1)

/-- A key reads the last of its pairs. -/
theorem get?_ofPairs_append (before : List (String × β)) {key : String} (x : β)
    {after : List (String × β)} (h : key ∉ after.map Prod.fst) :
    get? (ofPairs (before ++ (key, x) :: after)) key = some x := by
  calc get? (ofPairs (before ++ (key, x) :: after)) key
      = get? (insertAll (insert (ofPairs before) key x) after) key := by rw [ofPairs_append]; rfl
    _ = get? (insert (ofPairs before) key x) key := get?_insertAll_of_notMem h
    _ = some x := get?_insert_self _ key x

end Entries

/-! ## Screens -/

/-- What is related to an appended list is appended. -/
theorem exists_of_forall₂_append {α β : Type} {R : α → β → Prop} {as as' : List α} {bs : List β}
    (h : List.Forall₂ R (as ++ as') bs) :
    ∃ front rest, List.Forall₂ R as front ∧ List.Forall₂ R as' rest ∧ bs = front ++ rest := by
  induction as generalizing bs with
  | nil => exact ⟨[], bs, .nil, h, rfl⟩
  | cons a as ih =>
      obtain ⟨b, bs', hab, hrest, rfl⟩ := List.forall₂_cons_left_iff.mp h
      obtain ⟨front, rest, hfront, hafter, rfl⟩ := ih hrest
      exact ⟨b :: front, rest, .cons hab hfront, hafter, rfl⟩

namespace Preview

variable {theme : Theme} {s : Screen}

theorem result_byId : (byId theme s).result =
    (s.elements.mapM fun e => (positioned theme e).result).map fun boxes =>
      Entries.ofPairs ((s.elements.map Element.id).zip boxes) := by
  rw [byId, bind_pure_comp, Logged.result_map, Logged.result_mapM]

theorem result_screen : (screen theme s).result =
    (s.elements.mapM fun e => (positioned theme e).result).map (onCanvas theme s) := by
  rw [screen, bind_pure_comp, Logged.result_map, Logged.result_mapM]

/-- What a finding on a repeated id says about how often it stands on a screen. -/
def Tells (s : Screen) (f : Finding) (count : Nat) : Prop :=
  f.problem.message = "Duplicate ID '" ++ f.subject ++ "' appears " ++ count.repr ++
    " times on screen '" ++ s.id ++ "'"

/-- The previews of a screen under their ids, beside its canvas and the findings on its ids. -/
structure Keeps (theme : Theme) (s : Screen) (findings : List Finding) (shown : Entries Node)
    (canvas : Node) : Prop where
  /-- No id stands there twice. -/
  nodup : shown.keys.Nodup
  /-- The ids are those of the elements. -/
  mem_iff : ∀ id, id ∈ shown.keys ↔ ∃ e ∈ s.elements, e.id = id
  /-- They stand in the order in which they are first met. -/
  ordered : shown.keys.Pairwise fun a b =>
    (s.elements.map Element.id).idxOf a < (s.elements.map Element.id).idxOf b
  /-- An id has the box of the last element with it. -/
  last : ∀ before e after, s.elements = before ++ e :: after → (∀ f ∈ after, f.id ≠ e.id) →
    ∃ box, (positioned theme e).result = .ok box ∧ shown.get? e.id = some box
  /-- All boxes are there exactly if nothing is found. -/
  same_iff : shown.values = canvas.children ↔ findings = []
  /-- Of each id that is found, all boxes but one are missing. -/
  missing : ∃ counts, List.Forall₂ (Tells s) findings counts ∧
    shown.values.length + (counts.map (· - 1)).sum = canvas.children.length

section

variable {boxes : List Node}
  (h : List.Forall₂ (fun e box => (positioned theme e).result = .ok box) s.elements boxes)

include h

theorem keys_zip : ((s.elements.map Element.id).zip boxes).map Prod.fst =
    s.elements.map Element.id := by
  apply List.map_fst_zip
  rw [List.length_map, h.length_eq]

theorem keys_shown : (Entries.ofPairs ((s.elements.map Element.id).zip boxes)).keys =
    Finding.distinct (s.elements.map Element.id) := by
  rw [Entries.keys_ofPairs, keys_zip h]

theorem length_shown :
    (Entries.ofPairs ((s.elements.map Element.id).zip boxes)).values.length +
        ((Finding.repeatedIds s).map fun f =>
          (s.elements.map Element.id).count f.subject - 1).sum = boxes.length := by
  have hkeys := congrArg List.length (keys_shown h)
  have hcount := Finding.length_distinct_add (s.elements.map Element.id)
  rw [Entries.keys, List.length_map] at hkeys
  rw [Entries.values, List.length_map, hkeys, ← h.length_eq, Finding.repeatedIds, List.map_map]
  rw [List.length_map] at hcount
  rw [Nat.add_comm]
  exact hcount

/-- If no id repeats, the boxes stand there as they are on the canvas. -/
theorem values_shown (hdistinct : (s.elements.map Element.id).Nodup) :
    (Entries.ofPairs ((s.elements.map Element.id).zip boxes)).values = boxes := by
  have hkeys : (Entries.keys ([] ++ (s.elements.map Element.id).zip boxes)).Nodup := by
    rw [List.nil_append, Entries.keys, keys_zip h]
    exact hdistinct
  rw [Entries.ofPairs, Entries.insertAll_of_new _ [] hkeys, List.nil_append, Entries.values]
  apply List.map_snd_zip
  rw [List.length_map, h.length_eq]

theorem exists_last {before : List Element} {e : Element} {after : List Element}
    (hsplit : s.elements = before ++ e :: after) (hlast : ∀ f ∈ after, f.id ≠ e.id) :
    ∃ box, (positioned theme e).result = .ok box ∧
      Entries.get? (Entries.ofPairs ((s.elements.map Element.id).zip boxes)) e.id = some box := by
  rw [hsplit] at h ⊢
  obtain ⟨front, rest, hfront, hrest, rfl⟩ := exists_of_forall₂_append h
  obtain ⟨box, boxes', hbox, hafter, rfl⟩ := List.forall₂_cons_left_iff.mp hrest
  refine ⟨box, hbox, ?_⟩
  have hlength : (before.map Element.id).length = front.length := by
    rw [List.length_map, hfront.length_eq]
  rw [List.map_append, List.map_cons, List.zip_append hlength, List.zip_cons_cons]
  apply Entries.get?_ofPairs_append
  intro hmem
  obtain ⟨p, hp, hid⟩ := List.mem_map.mp hmem
  obtain ⟨f, hf, hfid⟩ := List.mem_map.mp (List.of_mem_zip hp).1
  exact hlast f hf (hfid.trans hid)

theorem keeps_shown : Keeps theme s (Finding.repeatedIds s)
    (Entries.ofPairs ((s.elements.map Element.id).zip boxes)) (onCanvas theme s boxes) := by
  have honce := Finding.oncePerId_repeatedIds s
  have hcount := length_shown h
  constructor
  case nodup =>
    rw [keys_shown h]
    exact Finding.nodup_distinct _
  case mem_iff =>
    intro id
    rw [keys_shown h, Finding.mem_distinct, List.mem_map]
  case ordered =>
    rw [keys_shown h]
    exact Finding.pairwise_distinct _
  case last =>
    intro before e after hsplit hlast
    exact exists_last h hsplit hlast
  case same_iff =>
    show _ = boxes ↔ _
    constructor
    · intro hsame
      rw [hsame] at hcount
      rw [← List.length_eq_zero_iff]
      -- each finding tells of a missing box, and there are none
      have hmany : (Finding.repeatedIds s).length ≤ ((Finding.repeatedIds s).map fun f =>
          (s.elements.map Element.id).count f.subject - 1).sum := by
        rw [← List.length_map (fun f : Finding =>
          (s.elements.map Element.id).count f.subject - 1)]
        apply List.length_le_sum_of_one_le
        intro n hn
        obtain ⟨f, hf, rfl⟩ := List.mem_map.mp hn
        have := ((honce.mem_iff f).mp hf).1
        omega
      omega
    · intro hnone
      exact values_shown h ((Finding.repeatedIds_eq_nil_iff s).mp hnone)
  case missing =>
    refine ⟨(Finding.repeatedIds s).map fun f => (s.elements.map Element.id).count f.subject,
      ?_, ?_⟩
    · rw [List.forall₂_map_right_iff, List.forall₂_same]
      intro f hf
      exact honce.message f hf
    · rw [List.map_map]
      exact hcount

end

/-- The previews of a screen under their ids fail with its canvas.  Otherwise they have the ids of
its elements, each once and in the order in which they are first met, with the box of the last
element that has it.  They lack none of the boxes on the canvas exactly if a check of the screen
finds no repeated id, and else one for each time that a repeated id is told of but the first. -/
theorem by_id_and_canvas (theme : Theme) (s : Screen) (ids : Option (List String)) :
    (∃ failure, (byId theme s).result = .error failure ∧
      (screen theme s).result = .error failure) ∨
    ∃ shown canvas, (byId theme s).result = .ok shown ∧ (screen theme s).result = .ok canvas ∧
      Keeps theme s (Finding.ofKind "duplicate_id" (Finding.ofScreen s ids)) shown canvas := by
  have hfindings : Finding.ofKind "duplicate_id" (Finding.ofScreen s ids) =
      Finding.repeatedIds s := by
    cases ids with
    | none => exact Finding.ofKind_ofScreen_of_ids s
    | some ids =>
        rw [Finding.ofKind_ofScreen_some s (by decide) ids]
        exact Finding.ofKind_ofScreen_of_ids s
  rw [result_byId, result_screen, hfindings]
  cases hboxes : s.elements.mapM fun e => (positioned theme e).result with
  | error failure => exact .inl ⟨failure, rfl, rfl⟩
  | ok boxes => exact .inr ⟨_, _, rfl, rfl, keeps_shown (mapM_eq_ok.mp hboxes)⟩

end Preview

end ScreenDesign
