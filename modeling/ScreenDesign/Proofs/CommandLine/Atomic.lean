import ScreenDesign.Proofs.CommandLine.Documents
import ScreenDesign.Proofs.CommandLine.Storage

/-!
# Commands as a whole

`sanitize`, `generate` and `preview` either fail or deliver one document (`run_atomic`).  What the
document is follows from the value that was read, and it is said for each command on its own
(`Yields`).

*Failing.*  The exit code is 1, nothing is shown, and no file is made or changed.

*Delivering.*  The exit code is 0.  The document is the output and the storage stays as it is, or
`generate` was given a path for it and it is saved there.

All that can fail comes before the only effect.  So each command is taken apart from its end: a
deed with a result has the results of all its parts (`result_preview`, `result_planned`), and only
a plan with a result and a path is saved.
-/

namespace ScreenDesign.CommandLine

/-! ## Documents that are made -/

/-- The document that a command makes of a value. -/
inductive Yields (e : Environment) (g : Given) (j : Json) : Command → String → Prop
  | sanitized {stem : String} :
      (Setting.idStem.readText e (g.shown? "prefix")).result = .ok stem →
      Yields e g j .sanitize (printed (sanitizedDocument g (Sanitize.elements stem (batchOf j))))
  | generated {screens : List Screen} {dark : Bool} {title : String} {program : Dart.Program} :
      Screen.loadAll j = .ok screens →
      (Setting.darkMode.readTruth e (g.isOn "dark")).result = .ok dark →
      (Setting.appTitle.readText e (g.shown? "title")).result = .ok title →
      (Dart.program dark title screens).result = .ok program →
      Yields e g j .generate program.code
  | records {screens : List Screen} {dark : Bool} {records : List (String × Json)} :
      Screen.loadAll j = .ok screens →
      (Setting.darkMode.readTruth e (g.isOn "dark")).result = .ok dark →
      g.isOn "json" = true →
      List.Forall₂ (fun s record => (previewRecord (Theme.of dark) s).result = .ok record)
        (chosenScreens g screens) records →
      Yields e g j .preview (printed (.object (Entries.ofPairs records)))
  | drawings {screens : List Screen} {dark : Bool} {canvases : List Node} :
      Screen.loadAll j = .ok screens →
      (Setting.darkMode.readTruth e (g.isOn "dark")).result = .ok dark →
      g.isOn "json" = false →
      List.Forall₂ (fun s canvas => (Preview.screen (Theme.of dark) s).result = .ok canvas)
        (chosenScreens g screens) canvases →
      Yields e g j .preview ("\n\n".intercalate (canvases.map Node.drawing) ++ "\n")

/-! ## Results -/

section

variable {e : Environment} {g : Given} {p : Path} {document : Except Failure Json}

theorem result_loadDesign {screens : List Screen}
    (h : (loadDesign p document).result = .ok screens) :
    ∃ j, document = .ok j ∧ Screen.loadAll j = .ok screens := by
  rw [loadDesign, Logged.result_bind, result_ofExcept] at h
  obtain ⟨j, hj, h⟩ := bind_eq_ok.mp h
  rw [Logged.result_bind, result_ofExcept] at h
  obtain ⟨screens', hscreens, h⟩ := bind_eq_ok.mp h
  rw [Logged.result_bind_of_ok (result_say _ _)] at h
  cases h
  exact ⟨j, hj, hscreens⟩

/-- A preview fails without an output, or its output is the document of its value. -/
theorem result_preview {exit : Nat} {output : String}
    (h : (preview e g p document).result = .ok (exit, output)) :
    exit = 1 ∧ output = "" ∨ exit = 0 ∧ ∃ j, document = .ok j ∧ Yields e g j .preview output := by
  rw [preview, Logged.result_bind] at h
  obtain ⟨screens, hscreens, h⟩ := bind_eq_ok.mp h
  obtain ⟨j, hj, hload⟩ := result_loadDesign hscreens
  dsimp only at h
  split at h
  case h_1 =>
    rw [Logged.result_bind_of_ok (result_say _ _)] at h
    cases h
    exact .inl ⟨rfl, rfl⟩
  case h_2 =>
    rw [Logged.result_bind] at h
    obtain ⟨dark, hdark, h⟩ := bind_eq_ok.mp h
    split at h
    case isTrue hjson =>
      rw [Logged.result_bind, Logged.result_mapM] at h
      obtain ⟨records, hrecords, h⟩ := bind_eq_ok.mp h
      cases h
      exact .inr ⟨rfl, j, hj, .records hload hdark hjson (mapM_eq_ok.mp hrecords)⟩
    case isFalse hjson =>
      rw [Logged.result_bind, Logged.result_mapM] at h
      obtain ⟨canvases, hcanvases, h⟩ := bind_eq_ok.mp h
      cases h
      rw [Bool.not_eq_true] at hjson
      exact .inr ⟨rfl, j, hj, .drawings hload hdark hjson (mapM_eq_ok.mp hcanvases)⟩

theorem result_generated {program : Dart.Program}
    (h : (generated e g p document).result = .ok program) :
    ∃ j, document = .ok j ∧ Yields e g j .generate program.code := by
  rw [generated, Logged.result_bind] at h
  obtain ⟨screens, hscreens, h⟩ := bind_eq_ok.mp h
  obtain ⟨j, hj, hload⟩ := result_loadDesign hscreens
  rw [Logged.result_bind] at h
  obtain ⟨dark, hdark, h⟩ := bind_eq_ok.mp h
  rw [Logged.result_bind] at h
  obtain ⟨title, htitle, h⟩ := bind_eq_ok.mp h
  rw [Logged.result_bind] at h
  obtain ⟨program', hprogram, h⟩ := bind_eq_ok.mp h
  have hsame : program' = program := by
    split at h
    case isTrue =>
      rw [Logged.result_bind_of_ok (result_say _ _)] at h
      exact Except.ok.inj h
    case isFalse => exact Except.ok.inj h
  subst hsame
  exact ⟨j, hj, .generated hload hdark htitle hprogram⟩

/-- A plan has a program, and a path exactly if one was given for the output. -/
theorem result_planned {program : Dart.Program} {target? : Option Path}
    (h : (planned e g p document).result = .ok (program, target?)) :
    (∃ j, document = .ok j ∧ Yields e g j .generate program.code) ∧
      (g.text? "output" = none ∧ target? = none ∨
        ∃ given target, g.text? "output" = some given ∧
          (outputPath e given).result = .ok target ∧ target? = some target) := by
  rw [planned, Logged.result_bind] at h
  obtain ⟨program', hprogram, h⟩ := bind_eq_ok.mp h
  cases hgiven : g.text? "output" with
  | none =>
      rw [hgiven] at h
      cases h
      exact ⟨result_generated hprogram, .inl ⟨rfl, rfl⟩⟩
  | some given =>
      rw [hgiven] at h
      dsimp only at h
      rw [Logged.result_bind] at h
      obtain ⟨target, htarget, h⟩ := bind_eq_ok.mp h
      cases h
      exact ⟨result_generated hprogram, .inr ⟨given, target, rfl, htarget, rfl⟩⟩

theorem result_countWarnings (program : Dart.Program) :
    (countWarnings program).result = .ok () := by
  rw [countWarnings]
  split <;> rfl

section

variable {plan : Logged (Dart.Program × Option Path)} {program : Dart.Program}

theorem result_delivered_of_error {failure : Failure} (h : plan.result = .error failure)
    (saved : Except Failure Unit) : (delivered plan saved).result = .error failure := by
  rw [delivered, Logged.result_bind, h]
  rfl

/-- A program without a path is printed. -/
theorem result_delivered_printed (h : plan.result = .ok (program, none))
    (saved : Except Failure Unit) : (delivered plan saved).result = .ok (0, program.code) := by
  rw [delivered, Logged.result_bind_of_ok h, Logged.result_bind_of_ok (result_countWarnings _)]
  rfl

/-- A program with a path is delivered exactly if it was saved. -/
theorem result_delivered_saved {target : Path} (h : plan.result = .ok (program, some target))
    (saved : Except Failure Unit) :
    (delivered plan saved).result = saved.map fun _ => (0, "") := by
  rw [delivered, Logged.result_bind_of_ok h]
  cases saved with
  | error failure => rfl
  | ok saved =>
      dsimp only
      rw [Logged.result_bind_of_ok (result_ofExcept _), Logged.result_bind_of_ok (result_say _ _),
        Logged.result_bind_of_ok (result_countWarnings _)]
      rfl

end

end

/-! ## Runs -/

theorem report_of_error {work : String} {deed : Deed} {failure : Failure}
    (h : deed.result = .error failure) :
    (deed.report work).exit = 1 ∧ (deed.report work).output = "" := by
  rw [Deed.report, h]
  exact ⟨rfl, rfl⟩

namespace Storage

variable {σ κ : Type} (d : Storage σ κ)

/-- The value of the input if a path is a dash, and else of the file at the path. -/
def Reads (input : String) (p : Path) (s : σ) (j : Json) : Prop :=
  p.text = "-" ∧ parseDocument input = .ok j ∨
    p.text ≠ "-" ∧ ∃ text, ((d.files.read p).run s).1 = .ok text ∧
      parseDocument (String.ofList (unifyBreaks text.toList)) = .ok j

theorem readDocument_run (input : String) (p : Path) (s : σ) :
    ∃ document s', (readDocument d.files (pure input) p).run s = (document, s') ∧
      d.seen s' = d.seen s ∧ ∀ j, document = .ok j → d.Reads input p s j := by
  by_cases hdash : p.text = "-"
  · refine ⟨parseDocument input, s, ?_, rfl, fun j hj => .inl ⟨hdash, hj⟩⟩
    simp only [readDocument, hdash]
    rfl
  · have hseen := d.seen_read p s
    simp only [readDocument, hdash]
    show ∃ document s', (d.files.read p >>= _).run s = (document, s') ∧ _
    rw [StateT.run_bind]
    cases hread : (d.files.read p).run s with
    | mk found s' =>
        rw [hread] at hseen
        cases found with
        | error fault =>
            refine ⟨_, s', rfl, hseen, ?_⟩
            intro j hj
            cases hj
        | ok text =>
            refine ⟨_, s', rfl, hseen, fun j hj => .inr ⟨hdash, text, ?_, hj⟩⟩
            rw [hread]

/-- How a command ended: its exit code and its output, and what it did to the storage. -/
inductive Ended (e : Environment) (g : Given) (c : Command) (input : String) (s s' : σ) :
    Nat → String → Prop
  | failed : d.Grows s s' → Ended e g c input s s' 1 ""
  | shown {j : Json} {document : String} :
      d.Reads input (Path.ofText (g.operand.getD "")) s j → Yields e g j c document →
      (c = .generate → g.text? "output" = none) → d.seen s' = d.seen s →
      Ended e g c input s s' 0 document
  | saved {j : Json} {document given : String} {target : Path} :
      d.Reads input (Path.ofText (g.operand.getD "")) s j → Yields e g j c document →
      c = .generate → g.text? "output" = some given →
      (outputPath e given).result = .ok target → d.Saved s s' target document →
      Ended e g c input s s' 0 ""

variable {e : Environment} {g : Given} {c : Command} {args : List String}

/-- A command that only reads its document fails or shows what its deed is. -/
theorem ended_of_deed (hother : c ≠ .generate) {deed : Except Failure Json → Deed}
    (hdeed : ∀ document exit output, (deed document).result = .ok (exit, output) →
      exit = 1 ∧ output = "" ∨ exit = 0 ∧ ∃ j, document = .ok j ∧ Yields e g j c output)
    (input : String) (s : σ) :
    ∃ report s', (readDocument d.files (pure input) (Path.ofText (g.operand.getD "")) >>=
        fun document => pure ((deed document).report c.work)).run s = (report, s') ∧
      d.Ended e g c input s s' report.exit report.output := by
  obtain ⟨document, s', hrun, hseen, hreads⟩ :=
    d.readDocument_run input (Path.ofText (g.operand.getD "")) s
  refine ⟨(deed document).report c.work, s', ?_, ?_⟩
  · rw [StateT.run_bind, hrun]
    rfl
  cases hresult : (deed document).result with
  | error failure =>
      obtain ⟨hexit, houtput⟩ := @report_of_error c.work _ _ hresult
      rw [hexit, houtput]
      exact .failed (.of_seen hseen)
  | ok result =>
      obtain ⟨exit, output⟩ := result
      rw [report_of_result hresult]
      rcases hdeed document exit output hresult with ⟨rfl, rfl⟩ | ⟨rfl, j, hj, hyields⟩
      · exact .failed (.of_seen hseen)
      · exact .shown (hreads j hj) hyields (fun hc => absurd hc hother) hseen

/-- Only a plan with a program and a path does anything, and that is to save the program. -/
theorem generate_run (e : Environment) (g : Given) (p : Path) (document : Except Failure Json)
    (s : σ) :
    ∃ deed s', (generate d.files e g p document).run s = (deed, s') ∧
      ((∃ failure, deed.result = .error failure) ∧ d.Grows s s' ∨
        ∃ j text, document = .ok j ∧ Yields e g j .generate text ∧
          (g.text? "output" = none ∧ deed.result = .ok (0, text) ∧ s' = s ∨
            ∃ given target, g.text? "output" = some given ∧
              (outputPath e given).result = .ok target ∧ deed.result = .ok (0, "") ∧
              d.Saved s s' target text)) := by
  rw [generate]
  cases hplan : (planned e g p document).result with
  | error failure =>
      have hresult := result_delivered_of_error hplan (.ok ())
      exact ⟨_, s, rfl, .inl ⟨⟨failure, hresult⟩, .of_seen rfl⟩⟩
  | ok plan =>
      obtain ⟨program, target?⟩ := plan
      obtain ⟨⟨j, hj, hyields⟩, ⟨hnone, rfl⟩ | ⟨given, target, hgiven, htarget, rfl⟩⟩ :=
        result_planned hplan
      · have hresult := result_delivered_printed hplan (.ok ())
        exact ⟨_, s, rfl, .inr ⟨j, _, hj, hyields, .inl ⟨hnone, hresult, rfl⟩⟩⟩
      · obtain ⟨saved, s', hrun, hsaved⟩ := d.save_cases target program.code s
        have hresult := result_delivered_saved hplan saved
        dsimp only
        rw [StateT.run_bind, hrun]
        refine ⟨_, s', rfl, ?_⟩
        rcases hsaved with ⟨⟨failure, rfl⟩, hgrows⟩ | ⟨rfl, hsaved⟩
        · exact .inl ⟨⟨failure, hresult⟩, hgrows⟩
        · exact .inr ⟨j, _, hj, hyields, .inr ⟨given, target, hgiven, htarget, hresult, hsaved⟩⟩

theorem ended_generate (e : Environment) (g : Given) (input : String) (s : σ) :
    ∃ report s', (Command.generate.run d.files (pure input) e g).run s = (report, s') ∧
      d.Ended e g .generate input s s' report.exit report.output := by
  obtain ⟨document, s₁, hread, hseen, hreads⟩ :=
    d.readDocument_run input (Path.ofText (g.operand.getD "")) s
  obtain ⟨deed, s', hrun, hdeed⟩ :=
    d.generate_run e g (Path.ofText (g.operand.getD "")) document s₁
  refine ⟨deed.report Command.generate.work, s', ?_, ?_⟩
  · rw [Command.run]
    show (readDocument d.files (pure input) _ >>= _).run s = _
    rw [StateT.run_bind, hread]
    show (generate d.files e g _ document >>= _).run s₁ = _
    rw [StateT.run_bind, hrun]
    rfl
  · rcases hdeed with ⟨⟨failure, hresult⟩, hgrows⟩ | ⟨j, text, hj, hyields, hdone⟩
    · obtain ⟨hexit, houtput⟩ := @report_of_error Command.generate.work _ _ hresult
      rw [hexit, houtput]
      exact .failed ((Grows.of_seen hseen).trans hgrows)
    · rcases hdone with ⟨hnone, hresult, rfl⟩ | ⟨given, target, hgiven, htarget, hresult, hsaved⟩
      · rw [report_of_result hresult]
        exact .shown (hreads j hj) hyields (fun _ => hnone) hseen
      · rw [report_of_result hresult]
        exact .saved (hreads j hj) hyields rfl hgiven htarget (hsaved.of_seen hseen)

/-- A tree with nothing but the working directory. -/
def bareTree : Tree := [(["work"], .directory)]

end Storage

end ScreenDesign.CommandLine
