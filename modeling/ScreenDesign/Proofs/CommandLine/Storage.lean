import ScreenDesign.CommandLine.Command
import ScreenDesign.Proofs.Results

/-!
# Storages

A storage is the operations on files over some state, together with what can be seen in a state:
what stands at a spot, and the spot that a path leads to.  Its laws are those of a system where
reading, making a directory and opening a file may fail, but where a file that was opened is
written to the end.

Operations that write no file may still make directories (`Storage.Grows`).  This is all that
making a directory with those above it does, whatever fails on the way (`grows_ensureDirectory`,
by induction on their number).  So saving a text either fails and leaves all files as they are, or
the text stands in one file, and the others are as they were (`save_cases`).

`Tree.storage` is the storage of trees.  After a write its path still leads to the same place, as
only directories are passed on the way (`Tree.follow_put`).
-/

namespace ScreenDesign.CommandLine

/-- Operations on files over a state, and what is seen in a state.  A write that fails has not
opened the file.  Else the file has the text, unless it is a device that takes anything. -/
structure Storage (σ κ : Type) where
  /-- The operations. -/
  files : FileSystem (StateM σ)
  /-- What stands at a spot. -/
  seen : σ → κ → Option Place
  /-- The spot that a path leads to. -/
  spot? : σ → Path → Option κ
  seen_read : ∀ p s, seen ((files.read p).run s).2 = seen s
  seen_isDirectory : ∀ p s, seen ((files.isDirectory p).run s).2 = seen s
  seen_makeDirectory : ∀ p s k, seen ((files.makeDirectory p).run s).2 k = seen s k ∨
    seen s k = none ∧ seen ((files.makeDirectory p).run s).2 k = some .directory
  seen_unopened : ∀ p text s fault s',
    (files.write p text).run s = (.error fault, s') → seen s' = seen s
  seen_written : ∀ p text s s', (files.write p text).run s = (.ok (), s') →
    ∃ k, spot? s' p = some k ∧
      (seen s' k = some (.file text) ∨ seen s k = some .sink ∧ seen s' k = some .sink) ∧
      ∀ k', k' ≠ k → seen s' k' = seen s k'

namespace Storage

variable {σ κ α β : Type} (d : Storage σ κ)

/-- A spot is left alone, or there is a directory where nothing was. -/
def Same (s s' : σ) (k : κ) : Prop :=
  d.seen s' k = d.seen s k ∨ d.seen s k = none ∧ d.seen s' k = some .directory

/-- Nothing but directories is made, and all else is left alone. -/
def Grows (s s' : σ) : Prop := ∀ k, d.Same s s' k

variable {d} {s s' s'' : σ}

theorem Same.trans {k : κ} (h : d.Same s s' k) (h' : d.Same s' s'' k) : d.Same s s'' k := by
  rcases h with hsame | ⟨hnone, hmade⟩
  · rw [Same, hsame] at h'
    exact h'
  · rcases h' with hsame | ⟨hnone', -⟩
    · exact .inr ⟨hnone, hsame.trans hmade⟩
    · rw [hmade] at hnone'
      cases hnone'

theorem Grows.of_seen (h : d.seen s' = d.seen s) : d.Grows s s' := fun k => .inl (congrFun h k)

theorem Grows.trans (h : d.Grows s s') (h' : d.Grows s' s'') : d.Grows s s'' :=
  fun k => (h k).trans (h' k)

variable (d)

/-! ## Making directories -/

/-- A computation that makes nothing but directories. -/
def Makes (x : StateM σ α) : Prop := ∀ s, d.Grows s (x.run s).2

variable {d}

theorem Makes.pure (a : α) : d.Makes (pure a) := fun _ => .of_seen rfl

theorem Makes.bind {x : StateM σ α} {f : α → StateM σ β} (hx : d.Makes x)
    (hf : ∀ a, d.Makes (f a)) : d.Makes (x >>= f) :=
  fun s => (hx s).trans (hf (x.run s).1 (x.run s).2)

variable (d)

theorem makes_makeUnlessThere (p : Path) : d.Makes (d.files.makeUnlessThere p) := by
  rw [FileSystem.makeUnlessThere]
  refine Makes.bind (fun s k => d.seen_makeDirectory p s k) ?_
  intro made
  cases made with
  | ok made => exact Makes.pure _
  | error fault =>
      refine Makes.bind (fun s => .of_seen (d.seen_isDirectory p s)) ?_
      intro isThere
      split
      · exact Makes.pure _
      · exact Makes.pure _

/-- Whatever fails on the way, only directories are made.  The induction is on how many may be
made. -/
theorem makes_ensureDirectory (depth : Nat) (p : Path) :
    d.Makes (d.files.ensureDirectory depth p) := by
  induction depth generalizing p with
  | zero =>
      rw [FileSystem.ensureDirectory]
      refine (d.makes_makeUnlessThere p).bind ?_
      intro made
      cases made with
      | ok made => exact Makes.pure _
      | error fault => exact Makes.pure _
  | succ depth ih =>
      rw [FileSystem.ensureDirectory]
      refine (d.makes_makeUnlessThere p).bind ?_
      intro made
      cases made with
      | ok made => exact Makes.pure _
      | error fault =>
          cases fault with
          | absent =>
              show d.Makes (if p.parent = p then _ else _)
              split
              · exact Makes.pure _
              · refine (ih p.parent).bind ?_
                intro above
                cases above with
                | error failure => exact Makes.pure _
                | ok above =>
                    refine (d.makes_makeUnlessThere p).bind ?_
                    intro made
                    cases made with
                    | ok made => exact Makes.pure _
                    | error fault => exact Makes.pure _
          | isDirectory => exact Makes.pure _
          | notDirectory => exact Makes.pure _
          | «exists» => exact Makes.pure _
          | other message => exact Makes.pure _

/-! ## Saving -/

/-- A text stands where a path leads to, or was taken by a device there, and elsewhere nothing but
directories was made. -/
def Saved (s s' : σ) (p : Path) (text : String) : Prop :=
  ∃ k, d.spot? s' p = some k ∧
    (d.seen s' k = some (.file text) ∨ d.seen s k = some .sink ∧ d.seen s' k = some .sink) ∧
    ∀ k', k' ≠ k → d.Same s s' k'

variable {d} in
/-- Where something is saved depends on what was seen before. -/
theorem Saved.of_seen {p : Path} {text : String} (hseen : d.seen s' = d.seen s)
    (h : d.Saved s' s'' p text) : d.Saved s s'' p text := by
  simpa only [Saved, Same, hseen] using h

variable {d} in
theorem Same.eq_sink {k : κ} (h : d.Same s s' k) (hsink : d.seen s' k = some .sink) :
    d.seen s k = some .sink := by
  rcases h with hsame | ⟨-, hmade⟩
  · rw [← hsame, hsink]
  · rw [hsink] at hmade
    cases hmade

/-- Saving a text fails and only makes directories, or the text is saved. -/
theorem save_cases (p : Path) (text : String) (s : σ) :
    ∃ saved s', (d.files.save p text).run s = (saved, s') ∧
      ((∃ failure, saved = .error failure) ∧ d.Grows s s' ∨
        saved = .ok () ∧ d.Saved s s' p text) := by
  have habove := d.makes_ensureDirectory p.parts.length p.parent s
  rw [FileSystem.save, StateT.run_bind]
  cases hmade : (d.files.ensureDirectory p.parts.length p.parent).run s with
  | mk made s₁ =>
      rw [hmade] at habove
      cases made with
      | error failure => exact ⟨.error failure, s₁, rfl, .inl ⟨⟨failure, rfl⟩, habove⟩⟩
      | ok made =>
          show ∃ saved s', (d.files.write p text >>= _).run s₁ = (saved, s') ∧ _
          rw [StateT.run_bind]
          cases hwritten : (d.files.write p text).run s₁ with
          | mk written s₂ =>
              cases written with
              | error fault =>
                  have hseen := d.seen_unopened p text s₁ fault s₂ hwritten
                  exact ⟨_, s₂, rfl, .inl ⟨⟨_, rfl⟩, habove.trans (.of_seen hseen)⟩⟩
              | ok written =>
                  obtain ⟨k, hspot, htext, hother⟩ := d.seen_written p text s₁ s₂ hwritten
                  refine ⟨_, s₂, rfl, .inr ⟨rfl, k, hspot, ?_, ?_⟩⟩
                  · rcases htext with hfile | ⟨hsink, htaken⟩
                    · exact .inl hfile
                    · exact .inr ⟨(habove k).eq_sink hsink, htaken⟩
                  · intro k' hk'
                    exact (habove k').trans (.inl (hother k' hk'))

end Storage

/-! ## Trees -/

namespace Tree

variable {tree : Tree} {place other : List String} {what : Place}

/-- What is put at a place stands there, and elsewhere nothing changes. -/
theorem at?_put (hplace : place ≠ []) :
    (tree.put place what).at? other = if other = place then some what else tree.at? other := by
  by_cases hroot : other = []
  · rw [hroot, if_neg hplace.symm]
    rfl
  · have hempty : ¬other.isEmpty = true := by rwa [List.isEmpty_iff]
    rw [at?, at?, if_neg hempty, if_neg hempty, put]
    split
    case isTrue hany =>
        have hkey : (fun entry : List String × Place => decide (entry.1 = other)) ∘
            (fun entry => if entry.1 = place then (place, what) else entry) =
            fun entry => decide (entry.1 = other) := by
          funext entry
          by_cases hentry : entry.1 = place <;> simp [hentry]
        rw [List.find?_map, hkey, Option.map_map]
        cases hfind : tree.find? fun entry => decide (entry.1 = other) with
        | none =>
            obtain ⟨entry, hmem, hentry⟩ := List.any_eq_true.mp hany
            have hother : other ≠ place := by
              rintro rfl
              exact List.find?_eq_none.mp hfind entry hmem hentry
            rw [if_neg hother]
            rfl
        | some entry =>
            have hentry : entry.1 = other := by simpa using List.find?_some hfind
            by_cases hother : other = place <;> simp [hentry, hother]
    case isFalse hany =>
        have hnone : ∀ entry ∈ tree, ¬entry.1 = place := by
          intro entry hmem hentry
          exact hany (List.any_eq_true.mpr ⟨entry, hmem, decide_eq_true hentry⟩)
        rw [List.find?_append, Option.map_or]
        by_cases hother : other = place
        · have hfind : (tree.find? fun entry => decide (entry.1 = place)) = none := by
            simpa using hnone
          subst hother
          rw [hfind]
          simp
        · simp [hother, Ne.symm hother]

/-- What is put where no directory stands is not passed on the way to another place. -/
theorem follow_put (hplace : place ≠ []) (hfree : tree.at? place ≠ some .directory)
    {directory parts : List String} {target : List String}
    (h : tree.follow directory parts = .ok target) :
    (tree.put place what).follow directory parts = .ok target := by
  fun_induction follow tree directory parts with
  | case1 directory => exact h
  | case2 directory parts ih =>
      rw [follow]
      exact ih h
  | case3 directory part hpart here =>
      rw [follow]
      · exact h
      · exact hpart
  | case4 directory part parts hpart here hthere hmore ih =>
      have hkept : (tree.put place what).at? here = some .directory := by
        rw [at?_put hplace, if_neg, hthere]
        rintro rfl
        exact hfree hthere
      rw [follow]
      · exact ih h
      · exact hpart
      · exact hmore
      · exact hkept
  | case5 => cases h
  | case6 => cases h

theorem ne_nil_of_at? (h : tree.at? place ≠ some .directory) : place ≠ [] := by
  rintro rfl
  exact h rfl

variable {workingDirectory : List String} {p : Path}

theorem at?_makeDirectory (workingDirectory : List String) (p : Path) (tree : Tree)
    (other : List String) :
    (makeDirectory workingDirectory p tree).2.at? other = tree.at? other ∨
      tree.at? other = none ∧
        (makeDirectory workingDirectory p tree).2.at? other = some .directory := by
  rw [makeDirectory]
  split
  case h_1 => exact .inl rfl
  case h_2 place hplace =>
      split
      case h_1 => exact .inl rfl
      case h_2 hnone =>
          have hfree : tree.at? place ≠ some .directory := by rw [hnone]; nofun
          rw [at?_put (ne_nil_of_at? hfree)]
          by_cases hother : other = place
          · rw [if_pos hother, hother]
            exact .inr ⟨hnone, rfl⟩
          · rw [if_neg hother]
            exact .inl rfl

theorem eq_of_write_error {text : String} {fault : FileFault} {tree' : Tree}
    (h : write workingDirectory p text tree = (.error fault, tree')) : tree' = tree := by
  rw [write] at h
  split at h
  case h_1 => cases h; rfl
  case h_2 place hplace =>
      split at h
      case h_1 => cases h; rfl
      case h_2 => cases h
      case h_3 => cases h

/-- A text that was written stands where its path still leads to, or was taken by a device. -/
theorem at?_write {text : String} {tree' : Tree}
    (h : write workingDirectory p text tree = (.ok (), tree')) :
    ∃ place, (tree'.resolve workingDirectory p).toOption = some place ∧
      (tree'.at? place = some (.file text) ∨
        tree.at? place = some .sink ∧ tree'.at? place = some .sink) ∧
      ∀ other, other ≠ place → tree'.at? other = tree.at? other := by
  rw [write] at h
  split at h
  case h_1 => cases h
  case h_2 place hplace =>
      split at h
      case h_1 => cases h
      case h_2 hsink =>
          cases h
          exact ⟨place, congrArg Except.toOption hplace, .inr ⟨hsink, hsink⟩, fun _ _ => rfl⟩
      case h_3 hfree hdevice =>
          cases h
          have hroot := ne_nil_of_at? hfree
          refine ⟨place, congrArg Except.toOption (follow_put hroot hfree hplace), .inl ?_, ?_⟩
          · rw [at?_put hroot, if_pos rfl]
          · intro other hother
            rw [at?_put hroot, if_neg hother]

/-- The storage of a tree, seen from a working directory. -/
def storage (workingDirectory : List String) : Storage Tree (List String) where
  files := fileSystem workingDirectory
  seen := at?
  spot? tree p := (tree.resolve workingDirectory p).toOption
  seen_read _ _ := rfl
  seen_isDirectory _ _ := rfl
  seen_makeDirectory := at?_makeDirectory workingDirectory
  seen_unopened _ _ _ _ _ h := congrArg at? (eq_of_write_error h)
  seen_written _ _ _ _ h := at?_write h

end Tree

end ScreenDesign.CommandLine
