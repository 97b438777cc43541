import WorkspaceLint.Proofs.CommandLine.Stages
import WorkspaceLint.Proofs.Json.RoundTrip
import WorkspaceLint.Proofs.Report.Blocks
import WorkspaceLint.Text.Lines

/-!
# Line breaks in what is shown

Entries of a report and accounts of failures, rejections and diagnostics are meant to be lines. They
are put together from texts that anybody may supply, and nothing in between looks at line breaks: an
entry or an account has exactly the line breaks of its texts, in their order, and so it is a line
exactly if all of them are.

* `accounts_break_like_texts` — which line breaks an account or an entry has, and how many lines the
  standard output has.
* `forged_block_is_shown`     — a message with line breaks in it that passes for a second project.
-/

namespace WorkspaceLint

/-! ## Line breaks of a text -/

namespace Text

/-- The line breaks in a text, in order. -/
def breaks (text : String) : List Char := text.toList.filter isLineBreak

/-- The line breaks of two texts, one after the other. -/
theorem breaks_append (a b : String) : breaks (a ++ b) = breaks a ++ breaks b := by
  rw [breaks, String.toList_append, List.filter_append]
  rfl

/-- A digit is no line break. -/
theorem isLineBreak_of_isDigit {c : Char} (h : c.isDigit = true) : isLineBreak c = false := by
  simp only [Char.isDigit, Bool.and_eq_true, decide_eq_true_eq, ge_iff_le, UInt32.le_iff_toNat_le]
    at h
  simp only [isLineBreak, Char.toNat, Bool.or_eq_false_iff, Bool.and_eq_false_iff,
    decide_eq_false_iff_not, beq_eq_false_iff_ne]
  have hzero : '0'.val.toNat = 48 := rfl
  have hnine : '9'.val.toNat = 57 := rfl
  omega

/-- The text of an integer has no line breaks. -/
theorem breaks_toString_int (value : Int) : breaks (toString value) = [] := by
  rw [breaks, Json.toString_int_toList, List.filter_eq_nil_iff]
  intro c hc
  rcases List.mem_append.mp hc with hsign | hdigit
  · cases hnegative : decide (value < 0) with
    | true =>
      rw [hnegative, if_pos rfl] at hsign
      rw [List.mem_singleton.mp hsign]
      decide
    | false =>
      rw [hnegative, if_neg Bool.false_ne_true] at hsign
      cases hsign
  · simp [isLineBreak_of_isDigit (Json.isDigit_of_mem_toDigits hdigit)]

/-- Counting the line feeds among the breaks is counting them in the text. -/
theorem count_breaks (text : String) : (breaks text).count '\n' = text.toList.count '\n' :=
  List.count_filter (by decide)

end Text

open Text (breaks breaks_append breaks_toString_int)

/-! ## Accounts -/

/-- The words for kinds of diagnostics have no line breaks. -/
theorem DiagnosticKind.breaks_word (kind : DiagnosticKind) : breaks kind.word = [] := by
  cases kind <;> decide

/-- A failure that is told has the line breaks of its checker, its path and its fault. -/
theorem Failure.breaks_render (failure : Failure) :
    breaks failure.render = breaks failure.checker ++ breaks failure.path
      ++ breaks failure.fault.className ++ breaks failure.fault.text := by
  have hchecker : breaks "Checker " = [] := by decide
  have hpath : breaks " failed on " = [] := by decide
  have hcolon : breaks ": " = [] := by decide
  unfold Failure.render Fault.summary
  simp only [breaks_append, hchecker, hpath, hcolon, List.nil_append,
    List.append_nil, List.append_assoc]

/-- A rejection that is told has those of its checker, its finding and its project. -/
theorem Rejection.breaks_render (rejection : Rejection) :
    breaks rejection.render = breaks rejection.checker ++ breaks rejection.finding.code
      ++ breaks rejection.finding.path ++ breaks rejection.project := by
  have hchecker : breaks "Checker " = [] := by decide
  have hcode : breaks " reported " = [] := by decide
  have hpath : breaks " at " = [] := by decide
  have hproject : breaks ", which is not part of project " = [] := by decide
  have hend : breaks "; finding rejected" = [] := by decide
  unfold Rejection.render
  simp only [breaks_append, hchecker, hcode, hpath, hproject, hend,
    List.nil_append, List.append_nil, List.append_assoc]

/-- A diagnostic that is told has those of its path and its message. -/
theorem Diagnostic.breaks_render (diagnostic : Diagnostic) :
    breaks diagnostic.render = breaks diagnostic.path ++ breaks diagnostic.message := by
  have hcolon : breaks ": " = [] := by decide
  unfold Diagnostic.render
  simp only [breaks_append, DiagnosticKind.breaks_word, hcolon, List.nil_append,
    List.append_nil]

/-! ## Terminal sequences -/

namespace Log

/-- A terminal sequence has no line feed in it. -/
theorem count_of_afterSequence?_eq_some {text rest : List Char}
    (h : afterSequence? text = some rest) : rest.count '\n' = text.count '\n' := by
  unfold afterSequence? at h
  split at h
  next behind =>
    split at h
    next final rest' hfinal =>
      split at h
      next hc =>
        obtain rfl := Option.some.inj h
        -- Between its first two characters and its last one a sequence has parameters only.
        have hparameters : (behind.takeWhile isParameter).count '\n' = 0 :=
          List.count_eq_zero.mpr fun hmem => absurd (List.mem_takeWhile_imp hmem) (by decide)
        have hletter : final ≠ '\n' := fun heq => absurd (heq ▸ hc) (by decide)
        conv_rhs => rw [← List.takeWhile_append_dropWhile (p := isParameter) (l := behind), hfinal]
        rw [List.count_cons_of_ne (by decide), List.count_cons_of_ne (by decide), List.count_append,
          hparameters, List.count_cons_of_ne hletter, Nat.zero_add]
      · cases h
    · cases h
  · cases h

/-- Terminal sequences hold no line feed, so none is lost without them. -/
theorem count_withoutSequencesWithin (length : Nat) (text : List Char) :
    (withoutSequencesWithin length text).count '\n' = text.count '\n' := by
  induction length generalizing text with
  | zero => rfl
  | succ length ih =>
    cases text with
    | nil => rfl
    | cons c text =>
      rw [withoutSequencesWithin]
      split
      next rest hrest => rw [ih, count_of_afterSequence?_eq_some hrest]
      next => rw [List.count_cons, List.count_cons, ih]

/-- What is written of an entry has one line feed more than the entry. -/
theorem count_reportText (terminal : Bool) (text : String) :
    (reportText terminal text).toList.count '\n' = (breaks text).count '\n' + 1 := by
  rw [reportText, String.toList_append, List.count_append, Text.count_breaks]
  cases terminal with
  | true => rfl
  | false =>
    rw [if_neg Bool.false_ne_true, withoutSequences, String.toList_ofList,
      count_withoutSequencesWithin]
    rfl

end Log

namespace Report

open CommandLine (resultMessages reportLines)

/-! ## Entries -/

/-- A header has the line breaks of the path that it shows. -/
theorem breaks_header (root : String) (project : Project) :
    breaks (header root project) = breaks (relativize project.path root) := by
  have hbefore : breaks "In " = [] := by decide
  have hbehind : breaks ":" = [] := by decide
  unfold header
  simp only [breaks_append, hbefore, hbehind, List.nil_append, List.append_nil]

/-- The line of a finding has those of its path, its code and its message. -/
theorem breaks_line (line : Line) :
    breaks line.text = breaks line.path ++ breaks line.code ++ breaks line.message := by
  have hline : breaks ", line " = [] := by decide
  have hblank : breaks " " = [] := by decide
  have hcolon : breaks ": " = [] := by decide
  unfold Line.text
  simp only [breaks_append, breaks_toString_int, hline, hblank, hcolon, List.append_nil]

/-- The line breaks of the entries of a report. -/
theorem map_breaks_textLines (result : AnalysisResult) :
    (textLines result).map breaks = (withFindings result.projects).flatMap fun project =>
      [] :: breaks (relativize project.project.path result.workspace.root) :: [] ::
        project.findings.map fun finding =>
          breaks (relativize finding.path project.project.root) ++ breaks finding.code
            ++ breaks finding.message := by
  rw [textLines_eq_flatMap, List.map_flatMap]
  refine congrArg (fun block => (withFindings result.projects).flatMap block)
    (funext fun project => ?_)
  have hlines : (findingLines project).map breaks = project.findings.map fun finding =>
      breaks (relativize finding.path project.project.root) ++ breaks finding.code
        ++ breaks finding.message := by
    rw [findingLines, List.map_map]
    refine List.map_congr_left fun finding _ => ?_
    rw [Function.comp_apply, breaks_line, lineOf]
  rw [List.map_cons, List.map_cons, List.map_cons, hlines, breaks_header]
  rfl

/-- The entries of a report are lines exactly if the displayed paths, the codes and the messages in
it are. -/
theorem textLines_unbroken_iff (result : AnalysisResult) :
    (∀ entry ∈ textLines result, breaks entry = [])
      ↔ ∀ project ∈ withFindings result.projects,
          breaks (relativize project.project.path result.workspace.root) = []
          ∧ ∀ finding ∈ project.findings,
              breaks (relativize finding.path project.project.root) = []
              ∧ breaks finding.code = [] ∧ breaks finding.message = [] := by
  have hentries : (∀ entry ∈ textLines result, breaks entry = [])
      ↔ ∀ broken ∈ (textLines result).map breaks, broken = [] := by
    rw [List.forall_mem_map]
  rw [hentries, map_breaks_textLines, List.forall_mem_flatMap]
  refine forall₂_congr fun project _ => ?_
  simp only [List.forall_mem_cons, List.forall_mem_map, List.append_eq_nil_iff, and_assoc,
    true_and]

/-- A report has three entries for each project with findings and one for each finding. -/
theorem length_textLines (result : AnalysisResult) :
    (textLines result).length
      = 3 * (withFindings result.projects).length + result.findingCount := by
  rw [textLines, withFindings, AnalysisResult.findingCount, AnalysisResult.findings]
  induction result.projects with
  | nil => rfl
  | cons project projects ih =>
    rw [List.flatMap_cons, List.length_append, ih, List.flatMap_cons, List.length_append,
      List.filter_cons]
    by_cases hfindings : project.findings = []
    · simp [projectLines_of_no_findings _ hfindings, hfindings]
    · rw [projectLines_of_findings _ hfindings, if_pos (by simpa using hfindings)]
      simp only [List.length_cons, findingLines, List.length_map]
      omega

/-! ## The standard output -/

/-- On the standard output each entry ends one line, besides the lines that its own breaks end. -/
theorem count_join_reportText (terminal : Bool) (entries : List String) :
    (String.join (entries.map (Log.reportText terminal))).toList.count '\n'
      = entries.length + (entries.flatMap breaks).count '\n' := by
  induction entries with
  | nil => rfl
  | cons entry entries ih =>
    rw [List.map_cons, String.join_cons, String.toList_append, List.count_append, ih,
      Log.count_reportText, List.length_cons, List.flatMap_cons, List.count_append]
    omega

/-- **Accounts and entries break like their texts.** The account of a failure, a rejection or a
diagnostic has the line breaks of the texts it names, and so have the entries of a report: blank
entries have none, a header has those of the displayed path, and the line of a finding has those of
its displayed path, its code and its message; so all entries are lines exactly if these texts are.
What is told of a result in text takes three lines on the standard output for each project with
findings and one for each finding, and one more for each line feed in an entry. -/
theorem accounts_break_like_texts (failure : Failure) (rejection : Rejection)
    (diagnostic : Diagnostic) (result : AnalysisResult) (logger : Log.Logger)
    (terminals : Log.Terminals) :
    breaks failure.render = breaks failure.checker ++ breaks failure.path
      ++ breaks failure.fault.className ++ breaks failure.fault.text
    ∧ breaks rejection.render = breaks rejection.checker ++ breaks rejection.finding.code
      ++ breaks rejection.finding.path ++ breaks rejection.project
    ∧ breaks diagnostic.render = breaks diagnostic.path ++ breaks diagnostic.message
    ∧ (textLines result).map breaks = ((withFindings result.projects).flatMap fun project =>
        [] :: breaks (relativize project.project.path result.workspace.root) :: [] ::
          project.findings.map fun finding =>
            breaks (relativize finding.path project.project.root) ++ breaks finding.code
              ++ breaks finding.message)
    ∧ ((∀ entry ∈ textLines result, breaks entry = [])
        ↔ ∀ project ∈ withFindings result.projects,
            breaks (relativize project.project.path result.workspace.root) = []
            ∧ ∀ finding ∈ project.findings,
                breaks (relativize finding.path project.project.root) = []
                ∧ breaks finding.code = [] ∧ breaks finding.message = [])
    ∧ (logger.writeAll terminals (resultMessages .text result)).output.toList.count '\n'
      = 3 * (withFindings result.projects).length + result.findingCount
        + ((textLines result).flatMap breaks).count '\n' := by
  refine ⟨failure.breaks_render, rejection.breaks_render, diagnostic.breaks_render,
    map_breaks_textLines result, textLines_unbroken_iff result, ?_⟩
  rw [Log.Logger.output_writeAll, CommandLine.lines_resultMessages, reportLines,
    count_join_reportText, length_textLines]

/-- The result of a run in which one finding, in the first of two projects, has the block of the
second project in its message. -/
def forgedResult : AnalysisResult :=
  ⟨nestedWorkspace,
    [⟨nestedWorkspace.projects[0], [⟨"/w/a/m.py", 1, 1, "G1",
        "hello\n\nIn a/b/pyproject.toml:\n\nn.py, line 1 G1: hello"⟩], [], []⟩,
      ⟨nestedWorkspace.projects[1], [], [], []⟩]⟩

/-- The result of a run with a finding in each of two projects. -/
def honestResult : AnalysisResult :=
  ⟨nestedWorkspace,
    [⟨nestedWorkspace.projects[0], [⟨"/w/a/m.py", 1, 1, "G1", "hello"⟩], [], []⟩,
      ⟨nestedWorkspace.projects[1], [⟨"/w/a/b/n.py", 1, 1, "G1", "hello"⟩], [], []⟩]⟩

/-- A message with line breaks breaks its entry, and the output has eight lines where one finding in
one project calls for four. It is the output of two findings in two projects. Failures, rejections
and diagnostics break in the same way. -/
theorem forged_block_is_shown :
    let output (result : AnalysisResult) := (Log.Logger.writeAll ⟨false, false, false⟩
      ⟨true, false⟩ (resultMessages .text result)).output
    (∃ entry ∈ textLines forgedResult, breaks entry ≠ [])
    ∧ 3 * (withFindings forgedResult.projects).length + forgedResult.findingCount = 4
    ∧ (output forgedResult).toList.count '\n' = 8
    ∧ output forgedResult = output honestResult
    ∧ breaks (Failure.render ⟨"G", "/w/a/m.py", .withMessage "ValueError" "no\ngood"⟩) ≠ []
    ∧ breaks (Rejection.render ⟨"G", "/w/a/pyproject.toml", ⟨"/w/c\n.py", 1, 1, "G1", "hello"⟩⟩) ≠ []
    ∧ breaks (Diagnostic.render ⟨.missingProject, "/w/c\n/pyproject.toml", "not there"⟩) ≠ [] := by
  decide +kernel

end Report

end WorkspaceLint
