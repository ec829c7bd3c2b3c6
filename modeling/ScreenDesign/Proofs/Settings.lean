import ScreenDesign.Proofs.Results
import ScreenDesign.Proofs.Spelling
import ScreenDesign.Setting

/-!
# Settings of an environment

What a text converts to is said without the functions that convert it (`Setting.Converts`).  A text
stands for itself.  A truth value is written with one of its words, in any letter case and with
blanks around it.  A path stands for itself, or for a place in the home directory if its first part
is a lone tilde.  Converting finds exactly these values (`Setting.convert_eq_some_iff`).

It does not always end in a value or none.  A path may ask for a home that is not known, and then
converting fails (`Path.Homeless`).  This is the one way in which resolving a setting fails, and it
needs the setting for the directory of output (`Setting.resolution`, `Setting.unresolved_stray`).
-/

namespace ScreenDesign

/-! ## Homes -/

namespace Path

/-- Whether the first part of a path asks for a home. -/
def asksHome (p : Path) : Bool := p.slashes = 0 && p.parts.head?.any startsAtTilde

/-- A path that asks for a home that is not known: for one of others, or for one that is not given
or that asks for a home itself. -/
def Homeless (home : Option String) (p : Path) : Prop :=
  p.asksHome = true ∧ ∀ rest directory, p = ⟨0, "~" :: rest⟩ → home = some directory →
    startsAtTilde (homeText directory) = true

/-- The place in a home directory. -/
def inHome (directory : String) (rest : List String) : Path :=
  join (ofText (homeText directory)) ⟨0, rest⟩

theorem expandHome_of_asksHome {p : Path} (h : p.asksHome = false) (home : Option String) :
    expandHome home p = .ok p := by
  obtain ⟨slashes, parts⟩ := p
  cases slashes with
  | succ n => rfl
  | zero =>
      cases parts with
      | nil => rfl
      | cons first rest =>
          have hfirst : startsAtTilde first = false := h
          simp only [expandHome]
          rw [hfirst, if_neg Bool.false_ne_true]

theorem expandHome_tilde {directory : String} (rest : List String)
    (h : startsAtTilde (homeText directory) = false) :
    expandHome (some directory) ⟨0, "~" :: rest⟩ = .ok (inHome directory rest) := by
  have htilde : startsAtTilde "~" = true := by decide
  simp only [expandHome]
  rw [if_pos htilde, if_true, Option.map_some]
  show (if startsAtTilde (homeText directory) = true then _ else _) = _
  rw [h, if_neg Bool.false_ne_true]
  rfl

theorem expandHome_of_homeless {home : Option String} {p : Path} (h : p.Homeless home) :
    expandHome home p = .error .noHome := by
  obtain ⟨slashes, parts⟩ := p
  obtain ⟨hasks, hdirectory⟩ := h
  cases slashes with
  | succ n => cases hasks
  | zero =>
      cases parts with
      | nil => cases hasks
      | cons first rest =>
          have hfirst : startsAtTilde first = true := hasks
          simp only [expandHome]
          rw [if_pos hfirst]
          by_cases hself : first = "~"
          · subst hself
            rw [if_pos rfl]
            cases home with
            | none => rfl
            | some directory =>
                show (if startsAtTilde (homeText directory) = true then _ else _) = _
                rw [if_pos (hdirectory rest directory rfl rfl)]
          · rw [if_neg hself]

/-- A path that asks for no home is kept, a lone tilde is replaced by a known home, and nothing
else has one. -/
theorem expandHome_cases (home : Option String) (p : Path) :
    p.asksHome = false ∨ (∃ rest directory, p = ⟨0, "~" :: rest⟩ ∧ home = some directory ∧
      startsAtTilde (homeText directory) = false) ∨ p.Homeless home := by
  cases hasks : p.asksHome with
  | false => exact .inl rfl
  | true =>
      by_cases hknown : ∃ rest directory, p = ⟨0, "~" :: rest⟩ ∧ home = some directory ∧
        startsAtTilde (homeText directory) = false
      · exact .inr (.inl hknown)
      · refine .inr (.inr ⟨hasks, ?_⟩)
        intro rest directory hp hhome
        by_contra htilde
        exact hknown ⟨rest, directory, hp, hhome, Bool.eq_false_iff.mpr htilde⟩

end Path

/-! ## Words -/

/-- A text that is a word in any letter case, with blanks around it. -/
def Says (word s : String) : Prop :=
  ∃ front cs back, s.toList = front ++ cs ++ back ∧ (∀ c ∈ front, Text.isBlank c = true) ∧
    cs.map Char.toLower = word.toList ∧ ∀ c ∈ back, Text.isBlank c = true

theorem lower_trim_eq_iff {word s : String} (h : word.toList.any Text.isBlank = false) :
    Text.lower (Text.trim s) = word ↔ Says word s := by
  rw [Text.lower, Text.trim, String.toList_ofList, ← String.toList_inj, String.toList_ofList]
  constructor
  · intro hsame
    obtain ⟨front, back, hs, hfront, hback⟩ := Text.exists_trimBy Text.isBlank s.toList
    exact ⟨front, _, back, hs, hfront, hsame, hback⟩
  · rintro ⟨front, cs, back, hs, hfront, hsame, hback⟩
    have hinside : ∀ c ∈ cs, Text.isBlank c = false := by
      intro c hc
      have hlower : c.toLower ∈ word.toList := hsame ▸ List.mem_map_of_mem hc
      rw [Bool.eq_false_iff]
      intro hblank
      rw [Text.toLower_of_isBlank hblank] at hlower
      exact absurd hblank (List.any_eq_false.mp h c hlower)
    rw [hs, Text.trimBy_padded hfront hinside hback, hsame]

theorem exists_says_iff {words : List String} {s : String}
    (h : ∀ word ∈ words, word.toList.any Text.isBlank = false) :
    (∃ word ∈ words, Says word s) ↔ Text.lower (Text.trim s) ∈ words := by
  constructor
  · rintro ⟨word, hmem, hsays⟩
    rw [(lower_trim_eq_iff (h word hmem)).mpr hsays]
    exact hmem
  · intro hmem
    exact ⟨_, hmem, (lower_trim_eq_iff (h _ hmem)).mp rfl⟩

/-! ## Conversion -/

namespace Setting

/-- The words for a truth value. -/
def wordsOf : Bool → List String
  | true => trueWords
  | false => falseWords

/-- The kind of a value that is set. -/
def Value.kind? : Value → Option Kind
  | .text _ => some .text
  | .truth _ => some .truth
  | .path _ => some .path
  | .unset => none

/-- The value of a kind that a text stands for, where the home may be known. -/
inductive Converts (home : Option String) : Kind → String → Value → Prop
  | text {s : String} : Converts home .text s (.text s)
  | truth {word s : String} {b : Bool} :
      word ∈ wordsOf b → Says word s → Converts home .truth s (.truth b)
  | path {s : String} :
      (Path.ofText s).asksHome = false → Converts home .path s (.path (Path.ofText s))
  | inHome {s directory : String} {rest : List String} :
      Path.ofText s = ⟨0, "~" :: rest⟩ → home = some directory →
      Path.startsAtTilde (Path.homeText directory) = false →
      Converts home .path s (.path (Path.inHome directory rest))

/-- No word is for both truth values. -/
theorem truth?_eq_some_iff {s : String} {b : Bool} :
    truth? s = some b ↔ ∃ word ∈ wordsOf b, Says word s := by
  have hdisjoint : ∀ word ∈ trueWords, word ∉ falseWords := by decide
  rw [exists_says_iff (by cases b <;> decide), truth?]
  by_cases hyes : Text.lower (Text.trim s) ∈ trueWords
  · have hno := hdisjoint _ hyes
    cases b <;> simp [wordsOf, hyes, hno]
  · cases b <;> simp [wordsOf, hyes]

section

variable {home : Option String} {kind : Kind} {raw : String}

theorem Converts.kind?_eq {v : Value} (h : Converts home kind raw v) : v.kind? = some kind := by
  cases h <;> rfl

theorem convert_of_converts {v : Value} (h : Converts home kind raw v) :
    convert home kind raw = .ok (some v) := by
  cases h with
  | text => rfl
  | truth hword hsays =>
      rw [convert, truth?_eq_some_iff.mpr ⟨_, hword, hsays⟩]
      rfl
  | path hasks =>
      rw [convert, Path.expandHome_of_asksHome hasks]
      rfl
  | inHome hpath hhome htilde =>
      rw [convert, hpath, hhome, Path.expandHome_tilde _ htilde]
      rfl

/-- A text converts to a value, or it is no word for a truth value, or it is a path that asks for a
home that is not known. -/
theorem convert_cases (home : Option String) (kind : Kind) (raw : String) :
    (∃ v, Converts home kind raw v) ∨ kind = .truth ∧ convert home kind raw = .ok none ∨
      kind = .path ∧ (Path.ofText raw).Homeless home ∧ convert home kind raw = .error .noHome := by
  cases kind with
  | text => exact .inl ⟨_, .text⟩
  | truth =>
      cases htruth : truth? raw with
      | some b =>
          obtain ⟨word, hword, hsays⟩ := truth?_eq_some_iff.mp htruth
          exact .inl ⟨_, .truth hword hsays⟩
      | none =>
          refine .inr (.inl ⟨rfl, ?_⟩)
          rw [convert, htruth]
          rfl
  | path =>
      rcases Path.expandHome_cases home (Path.ofText raw) with
        hasks | ⟨rest, directory, hpath, hhome, htilde⟩ | hhomeless
      · exact .inl ⟨_, .path hasks⟩
      · exact .inl ⟨_, .inHome hpath hhome htilde⟩
      · refine .inr (.inr ⟨rfl, hhomeless, ?_⟩)
        rw [convert, Path.expandHome_of_homeless hhomeless]
        rfl

/-- Converting finds the value that a text stands for. -/
theorem convert_eq_some_iff {v : Value} :
    convert home kind raw = .ok (some v) ↔ Converts home kind raw v := by
  constructor
  · intro h
    rcases convert_cases home kind raw with ⟨w, hw⟩ | ⟨-, hnone⟩ | ⟨-, -, herror⟩
    · rw [convert_of_converts hw] at h
      cases h
      exact hw
    · rw [hnone] at h
      cases h
    · rw [herror] at h
      cases h
  · exact convert_of_converts

/-- A text converts to no path exactly if it asks for a home that is not known. -/
theorem homeless_iff : (Path.ofText raw).Homeless home ↔ ∀ v, ¬Converts home .path raw v := by
  constructor
  · intro hhomeless v hv
    have herror := convert_of_converts hv
    rw [convert, Path.expandHome_of_homeless hhomeless] at herror
    cases herror
  · intro hnone
    rcases convert_cases home .path raw with ⟨v, hv⟩ | ⟨htruth, -⟩ | ⟨-, hhomeless, -⟩
    · exact absurd hv (hnone v)
    · cases htruth
    · exact hhomeless

end

/-! ## Resolution -/

section

variable {e : Environment} {s : Setting} {raw : String}

theorem read_unset (h : e.get? s.variableName = none) : s.read e = pure s.default := by
  rw [read, h]

theorem read_of_converts (hget : e.get? s.variableName = some raw) {v : Value}
    (h : Converts e.home s.kind raw v) : s.read e = pure v := by
  rw [read, hget]
  show Logged.ofExcept (convert e.home s.kind raw) >>= _ = _
  rw [convert_of_converts h]
  rfl

theorem read_of_ignored (hget : e.get? s.variableName = some raw)
    (h : convert e.home s.kind raw = .ok none) :
    s.read e = (s.ignored raw >>= fun _ => pure s.default) := by
  rw [read, hget]
  show Logged.ofExcept (convert e.home s.kind raw) >>= _ = _
  rw [h]
  rfl

theorem read_of_homeless (hget : e.get? s.variableName = some raw) (hkind : s.kind = .path)
    (h : (Path.ofText raw).Homeless e.home) : s.read e = throw .noHome := by
  rw [read, hget, hkind]
  show Logged.ofExcept (convert e.home .path raw) >>= _ = _
  rw [convert, Path.expandHome_of_homeless h]
  rfl

/-- The setting for the directory of output is the only one that is a path. -/
theorem kind_eq_path_iff : s.kind = .path ↔ s = .outputDirectory := by
  cases s <;> decide

end

/-- How a setting is resolved in an environment. -/
structure Resolves (e : Environment) (s : Setting) : Prop where
  given : ∀ j, j ≠ .null → s.resolve e j = pure j
  unset : e.get? s.variableName = none → s.resolve e .null = pure s.default.toJson
  converted : ∀ raw v, e.get? s.variableName = some raw → Converts e.home s.kind raw v →
    v.kind? = some s.kind ∧ s.resolve e .null = pure v.toJson
  ignored : ∀ raw, e.get? s.variableName = some raw → (∀ v, ¬Converts e.home s.kind raw v) →
    s ≠ .outputDirectory →
      s.resolve e .null = (s.ignored raw >>= fun _ => pure s.default.toJson)
  failed : ∀ f, (s.resolve e .null).result = .error f ↔ f = .noHome ∧ s = .outputDirectory ∧
    ∃ raw, e.get? s.variableName = some raw ∧ (Path.ofText raw).Homeless e.home

theorem resolves (e : Environment) (s : Setting) : Resolves e s := by
  have hnull : s.resolve e .null = Value.toJson <$> s.read e := if_pos rfl
  constructor
  case given =>
    intro j hj
    exact if_neg hj
  case unset =>
    intro hget
    rw [hnull, read_unset hget, map_pure]
  case converted =>
    intro raw v hget hv
    rw [hnull, read_of_converts hget hv, map_pure]
    exact ⟨hv.kind?_eq, rfl⟩
  case ignored =>
    intro raw hget hnone hother
    rcases convert_cases e.home s.kind raw with ⟨v, hv⟩ | ⟨-, hignored⟩ | ⟨hpath, -⟩
    · exact absurd hv (hnone v)
    · rw [hnull, read_of_ignored hget hignored, map_bind, map_pure]
    · exact absurd (kind_eq_path_iff.mp hpath) hother
  case failed =>
    intro f
    rw [hnull, Logged.result_map]
    constructor
    · intro hf
      cases hget : e.get? s.variableName with
      | none =>
          rw [read_unset hget] at hf
          cases hf
      | some raw =>
          rcases convert_cases e.home s.kind raw with
            ⟨v, hv⟩ | ⟨-, hignored⟩ | ⟨hpath, hhomeless, -⟩
          · rw [read_of_converts hget hv] at hf
            cases hf
          · rw [read_of_ignored hget hignored] at hf
            cases hf
          · rw [read_of_homeless hget hpath hhomeless] at hf
            cases hf
            exact ⟨rfl, kind_eq_path_iff.mp hpath, raw, rfl, hhomeless⟩
    · rintro ⟨rfl, hs, raw, hget, hhomeless⟩
      rw [read_of_homeless hget (kind_eq_path_iff.mpr hs) hhomeless]
      rfl

/-- The threshold is what the text of the environment names, or its default. -/
theorem read_threshold (e : Environment) :
    Threshold.read e = pure (Threshold.ofText ((e.get? logLevel.variableName).getD "INFO")) := by
  rw [Threshold.read, readText]
  cases hget : e.get? logLevel.variableName with
  | none =>
      rw [read_unset hget]
      rfl
  | some raw =>
      rw [read_of_converts hget .text]
      rfl

theorem directory_cases (e : Environment) :
    e.get? outputDirectory.variableName = none ∧ directory e = pure e.workingDirectory ∨
    ∃ raw, e.get? outputDirectory.variableName = some raw ∧
      ((∃ p, Converts e.home .path raw (.path p) ∧ directory e = pure p) ∨
        (Path.ofText raw).Homeless e.home ∧ directory e = throw .noHome) := by
  rw [directory]
  cases hget : e.get? outputDirectory.variableName with
  | none =>
      rw [read_unset hget]
      exact .inl ⟨rfl, rfl⟩
  | some raw =>
      refine .inr ⟨raw, rfl, ?_⟩
      rcases convert_cases e.home .path raw with ⟨v, hv⟩ | ⟨htruth, -⟩ | ⟨-, hhomeless, -⟩
      · have hread := read_of_converts hget hv
        rw [hread]
        cases hv with
        | path hasks => exact .inl ⟨_, .path hasks, rfl⟩
        | inHome hpath hhome htilde => exact .inl ⟨_, .inHome hpath hhome htilde, rfl⟩
      · cases htruth
      · rw [read_of_homeless hget rfl hhomeless]
        exact .inr ⟨hhomeless, rfl⟩

/-- An environment with a word for dark mode and a directory in the home. -/
def homelyEnvironment : Environment :=
  ⟨[("SCREENFORGE_DARK_MODE", " oN "), ("SCREENFORGE_OUTPUT_DIR", "~/out"), ("HOME", "/home/me/")],
    ⟨1, ["work"]⟩⟩

/-- An environment where the directory of output is in the home of somebody else. -/
def strayEnvironment : Environment :=
  ⟨[("SCREENFORGE_OUTPUT_DIR", "~nobody"), ("HOME", "/home/me")], ⟨1, ["work"]⟩⟩

end Setting

end ScreenDesign
