import ScreenDesign.Proofs.CommandLine.Documents
import ScreenDesign.Proofs.Dart.BrokenLinks
import ScreenDesign.Proofs.Kept

/-!
# Sanitizing a document and validating the outcome

With a screen id, a sanitized document is printed as a design with one screen.  Its
elements are stable and their ids count them, so a check has nothing to say about them
but that a button leads to another screen (`Finding.ofDesign_of_stable`).  The document
was read, so its numbers are brief, and text keeps what is made of it.  So what is printed
reads back as the screen that was built, from the input as well as from a file, and
`validate` says about it just what the check says (`validate_sanitized`).
-/

namespace ScreenDesign

/-! ## Stable screens -/

namespace Finding

/-- The target of a stable button is a text. -/
theorem exists_navigateTo {e : Element} (h : e.Stable) (hbutton : e.type = .button) :
    ∃ s, Entries.get? e.properties "navigateTo" = some (.text s) := by
  have hfield : Field.navigateTo ∈ e.type.fields := hbutton ▸ Field.navigateTo_mem
  obtain ⟨hget, hread⟩ := h.settled.get?_key hfield
  have hholds : FieldKind.text.holds (Field.navigateTo.valueIn e.properties) = true :=
    Field.holds_of_read hfield hread
  cases hvalue : Field.navigateTo.valueIn e.properties with
  | text s =>
      rw [hvalue] at hget
      exact ⟨s, hget⟩
  | _ =>
      rw [hvalue] at hholds
      cases hholds

/-- A stable element leads nowhere or to the one screen exactly if its target says so. -/
theorem brokenLink?_eq_none_iff {e : Element} (h : e.Stable) (id : String) :
    brokenLink? [id] e = none ↔
      (e.type = .button → Entries.get? e.properties "navigateTo" = some (.text "") ∨
        Entries.get? e.properties "navigateTo" = some (.text id)) := by
  rw [brokenLink?_eq_none_iff_linked]
  refine imp_congr_right fun hbutton => ?_
  obtain ⟨s, hs⟩ := exists_navigateTo h hbutton
  simp only [hs, Option.some.injEq, Json.text.injEq, forall_eq', List.mem_singleton]
  exact or_iff_not_imp_left.symm

/-- All that there is to find on a screen of stable elements with distinct ids are links. -/
theorem ofDesign_of_stable {s : Screen} (stable : ∀ e ∈ s.elements, e.Stable)
    (distinct : (s.elements.map Element.id).Nodup) :
    ofDesign [s] = s.elements.filterMap (brokenLink? [s.id]) := by
  have hown : ofScreen s none = [] :=
    (ofScreen_eq_nil_iff s).mpr ⟨fun e he => (stable e he).canonical, distinct⟩
  rw [ofDesign, List.flatMap_singleton, ofScreen_some, hown]
  rfl

theorem kind_of_stable {s : Screen} (stable : ∀ e ∈ s.elements, e.Stable)
    (distinct : (s.elements.map Element.id).Nodup) {f : Finding} (hf : f ∈ ofDesign [s]) :
    f.problem.kind = "unresolved_navigation" := by
  have hlinks : onLinks (ofDesign [s]) = ofDesign [s] := by
    rw [onLinks_ofDesign, ofDesign_of_stable stable distinct]
    simp
  rw [← hlinks, onLinks, List.mem_filter] at hf
  exact of_decide_eq_true hf.2

theorem ofDesign_eq_nil_iff_of_stable {s : Screen} (stable : ∀ e ∈ s.elements, e.Stable)
    (distinct : (s.elements.map Element.id).Nodup) :
    ofDesign [s] = [] ↔ ∀ b ∈ s.elements, b.type = .button →
      Entries.get? b.properties "navigateTo" = some (.text "") ∨
        Entries.get? b.properties "navigateTo" = some (.text s.id) := by
  rw [ofDesign_of_stable stable distinct, List.filterMap_eq_nil_iff]
  exact forall₂_congr fun e he => brokenLink?_eq_none_iff (stable e he) s.id

end Finding

namespace CommandLine

/-! ## The screen of a document -/

/-- The screen that is built of the entries of a document. -/
def sanitizedScreen (g : Given) (id stem : String) (j : Json) : Screen :=
  ⟨id, ((g.text? "name").filter (!·.isEmpty)).getD id, Sanitize.elements stem (batchOf j)⟩

variable {g : Given} {id stem : String} {j : Json}

theorem sanitizedDocument_eq (hscreen : g.text? "screen" = some id) (hid : id ≠ "") :
    sanitizedDocument g (Sanitize.elements stem (batchOf j)) =
      Screen.dumpAll [sanitizedScreen g id stem j] := by
  have hgiven : (g.text? "screen").filter (!·.isEmpty) = some id := by
    rw [hscreen]
    simp [Option.filter, hid]
  rw [sanitizedDocument, hgiven]
  rfl

theorem stable_of_mem_sanitizedScreen {e : Element}
    (he : e ∈ (sanitizedScreen g id stem j).elements) : e.Stable := by
  obtain ⟨raw, id, rfl⟩ := Sanitize.exists_of_mem_elements he
  exact Sanitize.stable_element raw id

/-- The screen of a document is read back as it is. -/
theorem loadAll_sanitizedScreen (g : Given) (id stem : String) (j : Json) :
    Screen.loadAll (Screen.dumpAll [sanitizedScreen g id stem j]) =
      .ok [sanitizedScreen g id stem j] := by
  have hstored : (sanitizedScreen g id stem j).asStored = sanitizedScreen g id stem j := by
    rw [Screen.asStored, map_eq_self_iff.mpr]
    intro e he
    rw [Element.asStored, (stable_of_mem_sanitizedScreen he).settled.stored_eq]
  rw [Screen.loadAll_dumpAll, List.map_singleton, hstored]

/-- A document that could be read is brief. -/
theorem isBrief_of_readDocument {fs : FileSystem Id} {input : Id String} {p : Path}
    (h : readDocument fs input p = Except.ok j) : j.isBrief = true := by
  have hparse {text : String} (h : parseDocument text = .ok j) : j.isBrief = true := by
    rw [parseDocument] at h
    split at h
    case h_1 j' hj =>
        cases h
        exact Json.isBrief_of_parse hj
    case h_2 => cases h
  by_cases hdash : p.text = "-"
  · exact hparse ((readDocument_input hdash).symm.trans h)
  · cases hfile : fs.read p with
    | ok text =>
        exact hparse ((readDocument_file hdash hfile).symm.trans h)
    | error fault =>
        rw [readDocument_fault hdash hfile] at h
        cases h

theorem isBrief_batchOf (h : j.isBrief = true) : (batchOf j).isBrief = true := by
  rw [batchOf]
  cases hget : j.get? "elements" with
  | none => exact h
  | some k => exact Json.isBrief_get? h hget

/-- Text keeps the screen of a brief document. -/
theorem isKept_sanitizedScreen (h : j.isBrief = true) :
    (Screen.dumpAll [sanitizedScreen g id stem j]).isKept = true :=
  Screen.isKept_dumpAll_of_stable fun _ he =>
    Sanitize.stable_and_brief_of_mem (isBrief_batchOf h) he

/-! ## The two commands -/

/-- A `sanitize` that ends well has read its document, and prints its elements. -/
theorem exists_of_run_sanitize {fs : FileSystem Id} {input : Id String} {e : Environment}
    {args : List String} {output log : String} (hargs : parse Command.sanitize.spec args = .ok g)
    (hrun : run fs input e ("sanitize" :: args) = Ending.finished 0 output log) :
    ∃ j stem, readDocument fs input (Path.ofText (g.operand.getD "")) = Except.ok j ∧
      (Setting.idStem.readText e (g.shown? "prefix")).result = .ok stem ∧
      output = printed (sanitizedDocument g (Sanitize.elements stem (batchOf j))) := by
  have hcommand : Command.sanitize.run fs input e g =
      (sanitize e g (readDocument fs input (Path.ofText (g.operand.getD "")))).report
        Command.sanitize.work := rfl
  have hending := (run_name fs input e .sanitize hargs).symm.trans hrun
  rw [hcommand, Report.ending, Ending.finished.injEq] at hending
  obtain ⟨hexit, houtput, -⟩ := hending
  have hresult := result_of_report hexit
  rw [← houtput]
  exact (result_sanitize hresult).2

/-- A `sanitize` that can read its document and its prefix ends well. -/
theorem run_sanitize {fs : FileSystem Id} {input : Id String} {e : Environment}
    {args : List String} (hargs : parse Command.sanitize.spec args = .ok g)
    (hread : readDocument fs input (Path.ofText (g.operand.getD "")) = Except.ok j)
    (hstem : (Setting.idStem.readText e (g.shown? "prefix")).result = .ok stem) :
    ∃ log, run fs input e ("sanitize" :: args) = Ending.finished 0
      (printed (sanitizedDocument g (Sanitize.elements stem (batchOf j)))) log := by
  have hcommand : Command.sanitize.run fs input e g =
      (sanitize e g (Except.ok j)).report Command.sanitize.work := by
    rw [← hread]
    rfl
  have hresult : (sanitize e g (Except.ok j)).result =
      .ok (0, printed (sanitizedDocument g (Sanitize.elements stem (batchOf j)))) := by
    rw [sanitize, Logged.result_bind_of_ok (result_ofExcept _), Logged.result_bind_of_ok hstem,
      Logged.result_bind_of_ok (result_ofNoted _), Logged.result_bind_of_ok (result_say _ _)]
    rfl
  have hrun := run_name fs input e .sanitize hargs
  rw [hcommand, report_of_result hresult, Report.ending] at hrun
  exact ⟨_, hrun⟩

/-- A `validate` of a document with a design. -/
theorem run_validate {fs : FileSystem Id} {input : Id String} (e : Environment)
    {args : List String} (hargs : parse Command.validate.spec args = .ok g)
    (hread : readDocument fs input (Path.ofText (g.operand.getD "")) = Except.ok j)
    {screens : List Screen} (hload : Screen.loadAll j = .ok screens) :
    ∃ log, run fs input e ("validate" :: args) =
      Ending.finished (if Finding.ofDesign screens = [] then 0 else 1)
        (String.join ((Finding.ofDesign screens).map findingLine)) log := by
  have hcommand : Command.validate.run fs input e g =
      (validate (Path.ofText (g.operand.getD "")) (Except.ok j)).report Command.validate.work := by
    rw [← hread]
    rfl
  have hrun := run_name fs input e .validate hargs
  rw [hcommand, report_of_result (result_validate _ hload), Report.ending] at hrun
  exact ⟨_, hrun⟩

/-- What `sanitize` prints with the id of a screen is a valid design.  It is read back as the
screen that was built of the document.  Wherever it is put, `validate` then finds nothing on it
but buttons that lead to another screen, and ends well exactly if there are none. -/
theorem validate_sanitized {fs : FileSystem Id} {input : Id String} {e : Environment}
    {args : List String} {output log : String} (hargs : parse Command.sanitize.spec args = .ok g)
    (hscreen : g.text? "screen" = some id) (hid : id ≠ "")
    (hrun : run fs input e ("sanitize" :: args) = Ending.finished 0 output log) :
    ∃ j stem doc, readDocument fs input (Path.ofText (g.operand.getD "")) = Except.ok j ∧
      (Setting.idStem.readText e (g.shown? "prefix")).result = .ok stem ∧
      Json.parse output = .ok doc ∧
      Screen.loadAll doc = .ok [sanitizedScreen g id stem j] ∧
      ∀ (fs' : FileSystem Id) (input' : Id String) (e' : Environment) (args' : List String)
        (g' : Given), parse Command.validate.spec args' = .ok g' →
        Offers fs' input' (Path.ofText (g'.operand.getD "")) output →
        ∃ exit log',
          run fs' input' e' ("validate" :: args') =
            Ending.finished exit
              (String.join
                ((Finding.ofDesign [sanitizedScreen g id stem j]).map findingLine)) log' ∧
          (∀ f ∈ Finding.ofDesign [sanitizedScreen g id stem j],
            f.problem.kind = "unresolved_navigation") ∧
          (exit = 0 ∨ exit = 1) ∧
          (exit = 0 ↔ ∀ b ∈ (sanitizedScreen g id stem j).elements, b.type = .button →
            Entries.get? b.properties "navigateTo" = some (.text "") ∨
              Entries.get? b.properties "navigateTo" = some (.text id)) := by
  obtain ⟨j, stem, hread, hstem, houtput⟩ := exists_of_run_sanitize hargs hrun
  rw [sanitizedDocument_eq hscreen hid] at houtput
  have hkept : (Screen.dumpAll [sanitizedScreen g id stem j]).isKept = true :=
    isKept_sanitizedScreen (isBrief_of_readDocument hread)
  have hload := loadAll_sanitizedScreen g id stem j
  have hparse : Json.parse output = .ok (Screen.dumpAll [sanitizedScreen g id stem j]) := by
    rw [houtput]
    exact Json.parse_indented (Json.isWritable_of_isKept hkept)
  have hstable : ∀ e ∈ (sanitizedScreen g id stem j).elements, e.Stable :=
    fun _ he => stable_of_mem_sanitizedScreen he
  have hdistinct : ((sanitizedScreen g id stem j).elements.map Element.id).Nodup :=
    Sanitize.nodup_ids_elements stem (batchOf j)
  refine ⟨j, stem, _, hread, hstem, hparse, hload, ?_⟩
  intro fs' input' e' args' g' hargs' hoffers
  rw [houtput] at hoffers
  obtain ⟨log', hvalidate⟩ := run_validate e' hargs' (readDocument_printed hkept hoffers) hload
  refine ⟨_, log', hvalidate, ?_, ?_, ?_⟩
  · intro f hf
    exact Finding.kind_of_stable hstable hdistinct hf
  · split
    · exact .inl rfl
    · exact .inr rfl
  · refine Iff.trans ?_ (Finding.ofDesign_eq_nil_iff_of_stable hstable hdistinct)
    split
    case isTrue hnone => exact iff_of_true rfl hnone
    case isFalse hsome => exact iff_of_false Nat.one_ne_zero hsome

/-- A batch of a button that leads away and of an entry that is no record. -/
def linkBatch : Json :=
  .object
    [("elements", .list
      [.object
        [("type", .text "button"), ("x", .text "12"),
         ("properties", .object [("text", .text "Grüße"), ("navigateTo", .text "away")])],
       .int 5])]

/-- A file system without files. -/
def noFiles : FileSystem Id where
  read _ := Except.error FileFault.absent
  makeDirectory _ := Except.ok ()
  isDirectory _ := false
  write _ _ := Except.ok ()

/-- The sanitized batch is valid but for its link. -/
theorem validate_sanitized_linkBatch :
    ∃ output log log', run noFiles (printed linkBatch) ⟨[], Path.ofText "/"⟩
        ("sanitize" :: ["-", "--screen", "home"]) = Ending.finished 0 output log ∧
      run noFiles output ⟨[], Path.ofText "/"⟩ ("validate" :: ["-"]) = Ending.finished 1
        "element-0: [unresolved_navigation] Navigation target 'away' is not a screen\n" log' := by
  have hargs : parse Command.sanitize.spec ["-", "--screen", "home"] =
      .ok ⟨some "-", [], [("screen", .text "home")], false⟩ := by rfl
  have hargs' : parse Command.validate.spec ["-"] = .ok ⟨some "-", [], [], false⟩ := by rfl
  have hdash : (Path.ofText "-").text = "-" := by decide
  have hoffers (text : String) : Offers noFiles text (Path.ofText "-") text :=
    ⟨fun _ => rfl, fun h => absurd hdash h⟩
  have hread : readDocument noFiles (printed linkBatch) (Path.ofText "-") = Except.ok linkBatch :=
    readDocument_printed (by decide +kernel) (hoffers _)
  obtain ⟨log, hrun⟩ := run_sanitize (e := ⟨[], Path.ofText "/"⟩) hargs hread rfl
  obtain ⟨j, stem, doc, hj, hstem, -, -, hvalidate⟩ :=
    validate_sanitized hargs rfl (by decide) hrun
  obtain rfl : linkBatch = j := Except.ok.inj (hread.symm.trans hj)
  obtain rfl : "element" = stem := Except.ok.inj hstem
  obtain ⟨exit, log', hrun', -, hexit, hzero⟩ :=
    hvalidate noFiles _ ⟨[], Path.ofText "/"⟩ ["-"] _ hargs' (hoffers _)
  have hfindings : Finding.ofDesign [sanitizedScreen
      ⟨some "-", [], [("screen", .text "home")], false⟩ "home" "element" linkBatch] =
        [⟨"element-0", .brokenLink "away"⟩] := by decide +kernel
  rw [hfindings] at hrun'
  have hone : exit = 1 := by
    refine hexit.resolve_left fun h => ?_
    have := hzero.mp h
    revert this
    decide +kernel
  subst hone
  exact ⟨_, log, log', hrun, hrun'⟩

end CommandLine

end ScreenDesign
