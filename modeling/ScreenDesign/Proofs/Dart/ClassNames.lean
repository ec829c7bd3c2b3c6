import Mathlib.Data.List.Nodup
import Mathlib.Data.List.Perm.Subperm
import ScreenDesign.Proofs.Dart.Names
import ScreenDesign.Proofs.Numbered

/-!
# The class names of screens

Screens are named one after the other.  The first screen with a class name gets it as it is, and
the `k`-th one gets the number `k` behind it (`getElem?_assign`).  So all names are different
(`nodup_assign`).

The reason is that no class name ends in a digit.  A numbered name can be taken apart again
(`numbered_inj`), so the names of one screen never get in the way of those of another one, and what
is taken is known from how many screens had the same class name before (`Taken`).
-/

namespace ScreenDesign.Dart

/-! ## Identifiers -/

/-- A capital letter with letters and digits behind it. -/
def IsClassName (s : String) : Prop :=
  ∃ c cs, s.toList = c :: cs ∧ c.isUpper = true ∧ ∀ d ∈ cs, Text.isAlphanumeric d = true

theorem isUpper_or_isDigit_toUpper {c : Char} (h : Text.isAlphanumeric c = true) :
    c.toUpper.isUpper = true ∨ c.toUpper.isDigit = true := by
  have hascii : ∀ n < 128, Text.isAlphanumeric (Char.ofNat n) = true →
      (Char.ofNat n).toUpper.isUpper = true ∨ (Char.ofNat n).toUpper.isDigit = true := by decide
  rw [← Char.ofNat_toNat c] at h ⊢
  exact hascii _ (lt_of_isAlphanumeric (by rwa [Char.ofNat_toNat] at h)) h

theorem exists_head_joinedWords (name : String) :
    ∃ c cs, joinedWords name = c :: cs ∧ (c.isUpper = true ∨ c.isDigit = true) := by
  rw [joinedWords]
  cases hjoined : (Text.runs Text.isAlphanumeric name.toList).flatMap capitalized with
  | nil => exact ⟨_, _, rfl, .inl rfl⟩
  | cons c cs =>
      refine ⟨c, cs, rfl, ?_⟩
      have hhead : ((Text.runs Text.isAlphanumeric name.toList).flatMap capitalized).head? =
          some c := by rw [hjoined]; rfl
      rw [List.head?_flatMap] at hhead
      obtain ⟨run, hrun, hc⟩ := List.exists_of_findSome?_eq_some hhead
      cases run with
      | nil => cases hc
      | cons d ds =>
          cases hc
          exact isUpper_or_isDigit_toUpper (mem_runs hrun d List.mem_cons_self)

theorem isClassName_className (name : String) : IsClassName (className name) := by
  obtain ⟨c, cs, hjoined, hc⟩ := exists_head_joinedWords name
  have hword := wordName_className name
  rw [WordName, className, String.toList_ofList, hjoined] at hword
  rw [IsClassName, className, String.toList_ofList, hjoined]
  cases hdigit : c.isDigit with
  | true =>
      simp only [List.head?_cons, Option.map_some, Option.getD_some, hdigit, if_true] at hword ⊢
      exact ⟨_, _, rfl, rfl, (List.forall_mem_cons.mp hword).2⟩
  | false =>
      have hupper : c.isUpper = true := hc.resolve_right (by rw [hdigit]; exact Bool.false_ne_true)
      simp only [List.head?_cons, Option.map_some, Option.getD_some, hdigit, Bool.false_eq_true,
        if_false, List.nil_append] at hword ⊢
      exact ⟨_, _, rfl, hupper, (List.forall_mem_cons.mp hword).2⟩

theorem isClassName_numbered {base : String} (h : IsClassName base) (position : Nat) :
    IsClassName (numbered base position) := by
  obtain ⟨c, cs, hbase, hc, hcs⟩ := h
  rw [numbered]
  split
  · exact ⟨c, cs, hbase, hc, hcs⟩
  · refine ⟨c, cs ++ (position + 1).repr.toList, ?_, hc, List.forall_mem_append.mpr ⟨hcs, ?_⟩⟩
    · rw [String.toList_append, hbase, List.cons_append]
    · intro d hd
      rw [Text.isAlphanumeric, isDigit_of_mem_repr hd, Bool.or_true]

/-! ## Numbers behind names -/

/-- No class name ends in a digit. -/
theorem stem_className (name : String) : Stem (className name) := by
  intro c hc
  rw [className, String.toList_ofList, List.getLast?_append_of_ne_nil _ (by decide)] at hc
  cases hc
  rfl

section

variable {a b : String}

/-- A numbered name tells what it was made of. -/
theorem numbered_inj (ha : Stem a) (hb : Stem b) {j k : Nat} (h : numbered a j = numbered b k) :
    a = b ∧ j = k := by
  rw [numbered, numbered] at h
  split at h <;> split at h
  · rename_i hj hk
    exact ⟨h, hj.trans hk.symm⟩
  · exact absurd h (ha.ne_append_repr hb _)
  · exact absurd h.symm (hb.ne_append_repr ha _)
  · obtain ⟨hab, hjk⟩ := ha.append_repr_inj hb h
    exact ⟨hab, Nat.succ.inj hjk⟩

/-- As many names with the first numbers can be taken as there are names. -/
theorem le_length_of_taken (ha : Stem a) {used : List String} {k : Nat}
    (h : ∀ j < k, numbered a j ∈ used) : k ≤ used.length := by
  have hnodup : ((List.range k).map (numbered a)).Nodup :=
    List.nodup_range.map fun _ _ hij => (numbered_inj ha ha hij).2
  have hsub : (List.range k).map (numbered a) ⊆ used := by
    intro n hn
    obtain ⟨j, hj, rfl⟩ := List.mem_map.mp hn
    exact h j (List.mem_range.mp hj)
  have hlength := (List.Nodup.subperm hnodup hsub).length_le
  rwa [List.length_map, List.length_range] at hlength

/-- The first free name is found, however many are taken. -/
theorem freshName_eq (ha : Stem a) {used : List String} {k : Nat} (hfree : numbered a k ∉ used)
    (htaken : ∀ j < k, numbered a j ∈ used) : freshName used a = numbered a k := by
  have hk := le_length_of_taken ha htaken
  have hfind : (List.range (used.length + 1)).find? ((fun n => decide (n ∉ used)) ∘ numbered a) =
      some k := by
    rw [List.find?_range_eq_some]
    refine ⟨by simpa using hfree, List.mem_range.mpr (Nat.lt_succ_of_le hk), fun j hj => ?_⟩
    simpa using htaken j hj
  rw [freshName, List.find?_map, hfind]
  rfl

end

/-! ## All names -/

/-- How many of the first names have a class name. -/
def earlier (names : List String) (i : Nat) (base : String) : Nat :=
  ((names.take i).map className).count base

/-- The names that are taken after some screens: those with the first numbers, as many as there
were screens with the class name. -/
def Taken (used done : List String) : Prop :=
  ∀ base k, Stem base → (numbered base k ∈ used ↔ k < (done.map className).count base)

theorem taken_nil : Taken [] [] := by
  intro base k _
  simp

/-- The next screen takes the next number of its class name. -/
theorem Taken.step {used done : List String} (h : Taken used done) (name : String) :
    Taken (numbered (className name) ((done.map className).count (className name)) :: used)
      (done ++ [name]) := by
  intro base k hbase
  have hsame : numbered base k =
      numbered (className name) ((done.map className).count (className name)) ↔
      className name = base ∧ k = (done.map className).count base := by
    constructor
    · intro heq
      obtain ⟨rfl, hk⟩ := numbered_inj hbase (stem_className name) heq
      exact ⟨rfl, hk⟩
    · rintro ⟨rfl, rfl⟩
      rfl
  rw [List.mem_cons, hsame, h base k hbase, List.map_append, List.count_append, List.map_singleton,
    List.count_singleton]
  by_cases hname : className name = base
  · simp only [hname, true_and, beq_self_eq_true, if_true]
    omega
  · simp [hname]

theorem getElem?_assignAfter {used done : List String} (h : Taken used done) (names : List String)
    (i : Nat) :
    (assignAfter used names)[i]? = names[i]?.map fun name =>
      numbered (className name)
        ((done.map className).count (className name) + earlier names i (className name)) := by
  induction names generalizing used done i with
  | nil => rfl
  | cons name names ih =>
      have hstem := stem_className name
      have hfresh : freshName used (className name) =
          numbered (className name) ((done.map className).count (className name)) :=
        freshName_eq hstem (fun hmem => Nat.lt_irrefl _ ((h _ _ hstem).mp hmem))
          fun j hj => (h _ _ hstem).mpr hj
      rw [assignAfter]
      cases i with
      | zero => exact congrArg some hfresh
      | succ i =>
          simp only [List.getElem?_cons_succ]
          rw [hfresh, ih (h.step name) i]
          simp [earlier, List.count_append, List.count_cons, Nat.add_assoc,
            Nat.add_comm, Nat.add_left_comm]

/-- The screen at a position gets its class name with the number of screens that had the same one
before. -/
theorem getElem?_assign (names : List String) (i : Nat) :
    (assign names)[i]? = names[i]?.map fun name =>
      numbered (className name) (earlier names i (className name)) := by
  rw [assign, getElem?_assignAfter taken_nil]
  simp

/-- The names before a position are those with the first numbers. -/
theorem mem_take_assign {names : List String} {i : Nat} (hi : i ≤ names.length) {base : String}
    (hbase : Stem base) (k : Nat) :
    numbered base k ∈ (assign names).take i ↔ k < earlier names i base := by
  induction i with
  | zero => simp [earlier]
  | succ i ih =>
      obtain ⟨name, hname⟩ : ∃ name, names[i]? = some name :=
        ⟨_, List.getElem?_eq_getElem hi⟩
      have hnew : (assign names)[i]? =
          some (numbered (className name) (earlier names i (className name))) := by
        rw [getElem?_assign, hname]
        rfl
      have hcount : earlier names (i + 1) base =
          earlier names i base + if className name = base then 1 else 0 := by
        rw [earlier, List.take_add_one, hname, Option.toList_some, List.map_append,
          List.count_append, List.map_singleton, List.count_singleton, earlier]
        simp only [beq_iff_eq]
      rw [List.take_add_one, hnew, Option.toList_some, List.mem_append, List.mem_singleton, hcount,
        ih (Nat.le_of_succ_le hi)]
      constructor
      · rintro (hk | hsame)
        · omega
        · obtain ⟨rfl, rfl⟩ := numbered_inj hbase (stem_className name) hsame
          simp
      · intro hk
        by_cases hname : className name = base
        · subst hname
          rw [if_pos rfl] at hk
          rcases Nat.lt_succ_iff_lt_or_eq.mp hk with hk | rfl
          · exact .inl hk
          · exact .inr rfl
        · rw [if_neg hname] at hk
          exact .inl hk

/-- The name at a position was not taken before. -/
theorem notMem_take_assign {names : List String} {i : Nat} {n : String}
    (hn : (assign names)[i]? = some n) : n ∉ (assign names).take i := by
  rw [getElem?_assign] at hn
  obtain ⟨name, hname, rfl⟩ := Option.map_eq_some_iff.mp hn
  obtain ⟨hi, -⟩ := List.getElem?_eq_some_iff.mp hname
  rw [mem_take_assign (Nat.le_of_lt hi) (stem_className name)]
  exact Nat.lt_irrefl _

theorem nodup_assign (names : List String) : (assign names).Nodup := by
  rw [List.Nodup, List.pairwise_iff_getElem]
  intro i j hi hj hij hsame
  refine notMem_take_assign (List.getElem?_eq_getElem hj) ?_
  rw [← hsame]
  exact List.mem_take_iff_getElem.mpr ⟨i, by omega, rfl⟩

theorem isClassName_of_mem_assign {names : List String} {n : String} (h : n ∈ assign names) :
    IsClassName n := by
  obtain ⟨i, hi⟩ := List.mem_iff_getElem?.mp h
  rw [getElem?_assign] at hi
  obtain ⟨name, -, rfl⟩ := Option.map_eq_some_iff.mp hi
  exact isClassName_numbered (isClassName_className name) _

end ScreenDesign.Dart
