import ScreenDesign.CommandLine.Command
import ScreenDesign.Proofs.Json.Roundtrip
import ScreenDesign.Proofs.Number.Text
import ScreenDesign.Proofs.Results

/-!
# Printed documents

A command prints a value as indented text with the end of its line.  Whether such a text
comes back as the input or as the text of a file, it is read as the value again
(`readDocument_printed`), provided that text keeps the value.  Reading a file rewrites
line breaks, and the return character is the only one that this touches.  No printed
text has one: it is escaped in texts, and nothing else is made of it
(`return_notMem_printed`).

The file systems here are pure: what is read from a path is always the same.
-/

namespace ScreenDesign

/-! ## The return character -/

namespace Json

theorem return_notMem_escaped (c : Char) : '\r' ∉ escaped c := by
  intro h
  obtain ⟨x, -, hx, heq⟩ | ⟨hcontrol, heq⟩ | ⟨-, -, hcontrol, heq⟩ := escaped_cases c
  · rw [heq] at h
    simp only [List.mem_cons, List.not_mem_nil, or_false] at h
    rcases h with h | rfl
    · cases h
    · cases hx
  · have hdigits : ∀ n < 32, '\r' ∉ '\\' :: 'u' :: hexDigits 4 n := by decide
    rw [heq] at h
    exact hdigits c.toNat hcontrol h
  · rw [heq, List.mem_singleton] at h
    subst h
    exact hcontrol (by decide)

theorem return_notMem_quoted (s : String) : '\r' ∉ quoted s := by
  intro h
  rcases List.mem_cons.mp h with h | h
  · cases h
  rcases List.mem_append.mp h with h | h
  · obtain ⟨c, -, hc⟩ := List.mem_flatMap.mp h
    exact return_notMem_escaped c hc
  · rw [List.mem_singleton] at h
    cases h

theorem return_notMem_numeral (n : Number) : '\r' ∉ numeral n := by
  have hnumeric {cs : List Char} (h : cs.all isNumeric = true) : '\r' ∉ cs := fun hmem =>
    absurd (List.all_eq_true.mp h _ hmem) (by decide)
  cases n with
  | int n => exact hnumeric (all_isNumeric_decimalText n)
  | float x =>
      cases x with
      | finite negative rank => exact hnumeric (Binary64.finite negative rank).all_isNumeric_text
      | infinite negative =>
          cases negative with
          | false => decide
          | true => decide
      | nan => decide

theorem return_notMem_newLine (depth : Nat) : '\r' ∉ newLine depth := by
  intro h
  rcases List.mem_cons.mp h with h | h
  · cases h
  · cases List.eq_of_mem_replicate h

mutual

theorem return_notMem_indentedChars (depth : Nat) : (j : Json) → '\r' ∉ indentedChars depth j
  | .null => by simp [indentedChars]
  | .bool true => by simp [indentedChars, truth]
  | .bool false => by simp [indentedChars, truth]
  | .number n => return_notMem_numeral n
  | .text s => return_notMem_quoted s
  | .list [] => by simp [indentedChars]
  | .list (j :: js) => by
      simp [indentedChars, return_notMem_newLine, return_notMem_indentedChars _ j,
        return_notMem_indentedItems depth js]
  | .object [] => by simp [indentedChars]
  | .object ((k, j) :: ms) => by
      simp [indentedChars, return_notMem_newLine, return_notMem_quoted,
        return_notMem_indentedChars _ j, return_notMem_indentedMembers depth ms]

theorem return_notMem_indentedItems (depth : Nat) :
    (js : List Json) → '\r' ∉ indentedItems depth js
  | [] => by simp [indentedItems, return_notMem_newLine]
  | j :: js => by
      simp [indentedItems, return_notMem_newLine, return_notMem_indentedChars _ j,
        return_notMem_indentedItems depth js]

theorem return_notMem_indentedMembers (depth : Nat) :
    (ms : List (String × Json)) → '\r' ∉ indentedMembers depth ms
  | [] => by simp [indentedMembers, return_notMem_newLine]
  | (k, j) :: ms => by
      simp [indentedMembers, return_notMem_newLine, return_notMem_quoted,
        return_notMem_indentedChars _ j, return_notMem_indentedMembers depth ms]

end

end Json

namespace CommandLine

/-- Only the return character is rewritten. -/
theorem unifyBreaks_of_notMem {cs : List Char} (h : '\r' ∉ cs) : unifyBreaks cs = cs := by
  induction cs with
  | nil => rfl
  | cons c cs ih =>
      have hc : c ≠ '\r' := fun heq => h (heq ▸ List.mem_cons_self)
      have hcs := ih fun hmem => h (List.mem_cons_of_mem c hmem)
      unfold unifyBreaks
      split
      case h_1 heq => cases heq
      case h_2 heq => exact absurd (List.cons.inj heq).1 hc
      case h_3 d ds _ heq =>
        obtain ⟨rfl, rfl⟩ := List.cons.inj heq
        rw [if_neg hc, hcs]

theorem return_notMem_printed (j : Json) : '\r' ∉ (printed j).toList := by
  rw [printed, Json.indented, String.toList_append, String.toList_ofList, List.mem_append, not_or]
  exact ⟨Json.return_notMem_indentedChars 0 j, by decide⟩

/-! ## Reading what was printed -/

section

variable {fs : FileSystem Id} {input : Id String} {p : Path}

theorem readDocument_input (hdash : p.text = "-") :
    readDocument fs input p = parseDocument input := by
  simp only [readDocument, hdash]
  rfl

theorem readDocument_file (hdash : p.text ≠ "-") {text : String}
    (h : fs.read p = Except.ok text) :
    readDocument fs input p = parseDocument (String.ofList (unifyBreaks text.toList)) := by
  simp only [readDocument, hdash, pure, bind]
  rw [h]
  rfl

theorem readDocument_fault (hdash : p.text ≠ "-") {fault : FileFault}
    (h : fs.read p = Except.error fault) :
    readDocument fs input p = Except.error (Failure.file fault p.text) := by
  simp only [readDocument, hdash, pure, bind]
  rw [h]
  rfl

/-- What stands at a path, or is the input if the path is a dash. -/
def Offers (fs : FileSystem Id) (input : Id String) (p : Path) (text : String) : Prop :=
  (p.text = "-" → input = text) ∧ (p.text ≠ "-" → fs.read p = Except.ok text)

/-- A printed document is read again, from the input as well as from a file. -/
theorem readDocument_printed {j : Json} (hj : j.isKept = true)
    (h : Offers fs input p (printed j)) : readDocument fs input p = Except.ok j := by
  have hparse : parseDocument (printed j) = .ok j := by
    rw [parseDocument, printed, Json.parse_indented (Json.isWritable_of_isKept hj)]
  by_cases hdash : p.text = "-"
  · rw [readDocument_input hdash, h.1 hdash, hparse]
  · rw [readDocument_file hdash (h.2 hdash), unifyBreaks_of_notMem (return_notMem_printed j),
      String.ofList_toList, hparse]

end

/-! ## Runs -/

/-- The ending of a run that came to a report. -/
def Report.ending (e : Environment) (r : Report) : Ending :=
  .finished r.exit r.output
    (log (match (Threshold.read e).result with
      | .ok n => n
      | .error _ => Threshold.standard) r.notices)

/-- A command is run on the arguments behind its name. -/
theorem run_name_bind {m : Type → Type} [Monad m] (fs : FileSystem m) (input : m String)
    (e : Environment) (c : Command) {args : List String} {g : Given}
    (hargs : parse c.spec args = .ok g) :
    run fs input e (c.name :: args) =
      (c.run fs input e g >>= fun report => pure (report.ending e)) := by
  have hname : c.name ≠ "-h" ∧ c.name ≠ "--help" ∧ Command.ofName? c.name = some c := by
    cases c <;> decide
  simp only [run, hname, hargs]
  rfl

theorem run_name (fs : FileSystem Id) (input : Id String) (e : Environment) (c : Command)
    {args : List String} {g : Given} (hargs : parse c.spec args = .ok g) :
    run fs input e (c.name :: args) = Report.ending e (c.run fs input e g) :=
  run_name_bind fs input e c hargs

/-! ## Results of commands -/

theorem result_say (level : Level) (message : String) : (say level message).result = .ok () := rfl

theorem result_ofExcept {α : Type} (x : Except Failure α) : (Logged.ofExcept x).result = x := rfl

theorem result_ofNoted {α : Type} (x : Noted α) : (Logged.ofNoted x).result = .ok x.value := rfl

/-- A document is sanitized exactly if it could be read, and the output is what its elements are
printed as. -/
theorem result_sanitize {e : Environment} {g : Given} {document : Except Failure Json}
    {exit : Nat} {output : String}
    (h : (sanitize e g document).result = .ok (exit, output)) :
    exit = 0 ∧ ∃ j stem, document = .ok j ∧
      (Setting.idStem.readText e (g.shown? "prefix")).result = .ok stem ∧
      output = printed (sanitizedDocument g (Sanitize.elements stem (batchOf j))) := by
  rw [sanitize, Logged.result_bind, result_ofExcept] at h
  obtain ⟨j, hj, h⟩ := bind_eq_ok.mp h
  rw [Logged.result_bind] at h
  obtain ⟨stem, hstem, h⟩ := bind_eq_ok.mp h
  rw [Logged.result_bind_of_ok (result_ofNoted _), Logged.result_bind_of_ok (result_say _ _)] at h
  cases h
  exact ⟨rfl, j, stem, hj, hstem, rfl⟩

/-- The findings of the screens of a document are the output, and without any the exit code is
zero. -/
theorem result_validate (p : Path) {j : Json} {screens : List Screen}
    (h : Screen.loadAll j = .ok screens) :
    (validate p (.ok j)).result =
      .ok (if Finding.ofDesign screens = [] then 0 else 1,
        String.join ((Finding.ofDesign screens).map findingLine)) := by
  have hload : (loadDesign p (.ok j)).result = .ok screens := by
    rw [loadDesign, Logged.result_bind_of_ok (result_ofExcept _),
      Logged.result_bind_of_ok ((result_ofExcept _).trans h),
      Logged.result_bind_of_ok (result_say _ _)]
    rfl
  rw [validate, Logged.result_bind_of_ok hload]
  cases hfindings : Finding.ofDesign screens with
  | nil => rfl
  | cons f fs => rfl

/-- A report with the exit code zero comes from a result. -/
theorem result_of_report {work : String} {deed : Deed} (h : (deed.report work).exit = 0) :
    deed.result = .ok (0, (deed.report work).output) := by
  rw [Deed.report] at h ⊢
  split at h
  case h_1 exit output hresult =>
    subst h
    exact hresult
  case h_2 => cases h

theorem report_of_result {work : String} {deed : Deed} {exit : Nat} {output : String}
    (h : deed.result = .ok (exit, output)) :
    deed.report work = ⟨exit, output, deed.notices⟩ := by
  rw [Deed.report, h]

end CommandLine

end ScreenDesign
