import Mathlib.Data.List.TakeWhile
import WorkspaceLint.Proofs.Workspace.Loading

/-!
# Lines of a unit

A position in a source file counts physical lines, which end at line feeds. The lines that a unit
shows to checkers are the displayed ones, which end at nine further characters as well. Once line
endings have been unified there are no carriage returns, and both notions are instances of one,
`linesEndingAt`: they differ in the characters at which a line ends and in nothing else.

* `linesEndingAt_get`           — the line around a character stands behind as many lines as there
  are ends before it.
* `displayedLines_eq`           — displayed lines, where there are no carriage returns.
* `SourceUnit.lines_of_loadUnit` — when the lines of a unit are its physical lines, and by how much
  the numbers are off otherwise.
-/

namespace WorkspaceLint

namespace Text

/-! ## Lines that end at some characters -/

/-- The lines of a text when they end at the given characters. An end at the end of the text starts
no further line. -/
def linesEndingAt (ends : Char → Bool) : List Char → List (List Char)
  | [] => []
  | c :: rest =>
    if ends c then [] :: linesEndingAt ends rest
    else match linesEndingAt ends rest with
      | [] => [[c]]
      | line :: lines => (c :: line) :: lines

/-- The line around a character that ends none, from what stands before it and behind it. -/
def lineAround (ends : Char → Bool) (before : List Char) (c : Char) (after : List Char) : List Char :=
  (before.reverse.takeWhile fun d => !ends d).reverse ++ c :: after.takeWhile fun d => !ends d

section

variable {ends : Char → Bool} {c : Char} {line rest : List Char}

/-- A character that ends a line leaves an empty one in front of the others. -/
theorem linesEndingAt_cons_of_end (h : ends c = true) :
    linesEndingAt ends (c :: rest) = [] :: linesEndingAt ends rest := by
  rw [linesEndingAt, if_pos h]

/-- Any other character stands at the front of the first line. -/
theorem linesEndingAt_cons (h : ends c = false) :
    linesEndingAt ends (c :: rest)
      = (c :: (linesEndingAt ends rest).headD []) :: (linesEndingAt ends rest).tail := by
  rw [linesEndingAt, if_neg (by simp [h])]
  cases linesEndingAt ends rest <;> rfl

/-- Whatever its first line holds, it is what stands before the first end. -/
theorem headD_linesEndingAt (text : List Char) :
    (linesEndingAt ends text).headD [] = text.takeWhile fun d => !ends d := by
  induction text with
  | nil => rfl
  | cons c rest ih =>
    cases hend : ends c with
    | true => rw [linesEndingAt_cons_of_end hend, List.takeWhile_cons, hend]; rfl
    | false => rw [linesEndingAt_cons hend, List.takeWhile_cons, hend, List.headD_cons, ih]; rfl

/-- A line and what follows it, when its end is known. -/
theorem linesEndingAt_append_end (hline : ∀ d ∈ line, ends d = false) (hend : ends c = true) :
    linesEndingAt ends (line ++ c :: rest) = line :: linesEndingAt ends rest := by
  induction line with
  | nil => exact linesEndingAt_cons_of_end hend
  | cons d line ih =>
    obtain ⟨hd, hline⟩ := List.forall_mem_cons.mp hline
    rw [List.cons_append, linesEndingAt_cons hd, ih hline]
    rfl

/-- A text without an end is one line, unless it is empty. -/
theorem linesEndingAt_of_no_end (hline : ∀ d ∈ line, ends d = false) :
    linesEndingAt ends line = if line.isEmpty then [] else [line] := by
  induction line with
  | nil => rfl
  | cons d line ih =>
    obtain ⟨hd, hline⟩ := List.forall_mem_cons.mp hline
    rw [linesEndingAt_cons hd, ih hline]
    cases line <;> rfl

/-- Lines do not depend on the ends that do not occur. -/
theorem linesEndingAt_congr {others : Char → Bool} {text : List Char}
    (h : ∀ d ∈ text, ends d = others d) : linesEndingAt ends text = linesEndingAt others text := by
  induction text with
  | nil => rfl
  | cons c rest ih =>
    obtain ⟨hc, hrest⟩ := List.forall_mem_cons.mp h
    rw [linesEndingAt, linesEndingAt, hc, ih hrest]

/-- Lines hold no end. -/
theorem not_ends_of_mem_linesEndingAt {text : List Char} (h : line ∈ linesEndingAt ends text) :
    ∀ d ∈ line, ends d = false := by
  induction text generalizing line with
  | nil => cases h
  | cons c rest ih =>
    cases hend : ends c with
    | true =>
      rw [linesEndingAt_cons_of_end hend] at h
      rcases List.mem_cons.mp h with rfl | h
      · simp
      · exact ih h
    | false =>
      rw [linesEndingAt_cons hend] at h
      rcases List.mem_cons.mp h with rfl | h
      · refine List.forall_mem_cons.mpr ⟨hend, ?_⟩
        rw [headD_linesEndingAt]
        exact fun d hd => by simpa using List.mem_takeWhile_imp hd
      · exact ih (List.mem_of_mem_tail h)

/-- What stands before an end does not belong to the line. -/
theorem lineAround_cons {before : List Char} {d : Char} (after : List Char)
    (h : ends d = true ∨ ∃ e ∈ before, ends e = true) :
    lineAround ends (d :: before) c after = lineAround ends before c after := by
  rw [lineAround, lineAround, List.reverse_cons, List.takeWhile_append]
  split
  next hall =>
    -- The line reaches back to the front of what stands before it, so the front is an end.
    have hwhole := (List.takeWhile_prefix fun d => !ends d).eq_of_length hall
    have hnone : ∀ e ∈ before, ends e = false := fun e he => by
      have hmem := List.mem_reverse.mpr he
      rw [← hwhole] at hmem
      simpa using List.mem_takeWhile_imp hmem
    have hd : ends d = true := h.resolve_right fun ⟨e, he, hend⟩ => by simp [hnone e he] at hend
    rw [List.takeWhile_cons_of_neg (by simp [hd]), List.append_nil, hwhole]
  next => rfl

/-- The line around a character stands behind as many lines as there are ends before it. -/
theorem linesEndingAt_get (before after : List Char) (h : ends c = false) :
    (linesEndingAt ends (before ++ c :: after))[before.countP ends]?
      = some (lineAround ends before c after) := by
  induction before with
  | nil =>
    rw [List.nil_append, linesEndingAt_cons h, headD_linesEndingAt]
    rfl
  | cons d before ih =>
    cases hend : ends d with
    | true =>
      rw [List.cons_append, linesEndingAt_cons_of_end hend, List.countP_cons_of_pos hend,
        List.getElem?_cons_succ, ih, lineAround_cons after (.inl hend)]
    | false =>
      rw [List.cons_append, linesEndingAt_cons hend, List.countP_cons_of_neg (by simp [hend])]
      cases hcount : before.countP ends with
      | zero =>
        -- The character stands on the first line, which begins with what stands before it.
        have hnone : ∀ e ∈ before, (!ends e) = true := by
          simpa using List.countP_eq_zero.mp hcount
        have hall : ∀ e ∈ before.reverse ++ [d], (!ends e) = true :=
          List.forall_mem_append.mpr ⟨by simpa using hnone, by simp [hend]⟩
        rw [List.getElem?_cons_zero, headD_linesEndingAt, List.takeWhile_append_of_pos hnone,
          List.takeWhile_cons_of_pos (by simp [h]), lineAround, List.reverse_cons,
          List.takeWhile_eq_self_iff.mpr hall]
        simp
      | succ count =>
        rw [hcount] at ih
        rw [List.getElem?_cons_succ, List.getElem?_tail, ih, lineAround_cons]
        exact .inr (List.countP_pos_iff.mp (by omega))

end

/-! ## Physical and displayed lines -/

/-- Whether a character ends a physical line. -/
def isLineFeed (c : Char) : Bool := c == '\n'

/-- The physical lines of a text: they end at line feeds. -/
def physicalLines (text : List Char) : List (List Char) := linesEndingAt isLineFeed text

/-- The physical lines of a text hold no line feed, and with a line feed behind each of them they
are the text again, except that the text need not end in one. -/
theorem physicalLines_spec (text : List Char) :
    (∀ line ∈ physicalLines text, '\n' ∉ line)
    ∧ (physicalLines text).flatMap (· ++ ['\n'])
      = if text.getLast?.all isLineFeed then text else text ++ ['\n'] := by
  refine ⟨fun line hline hmem => absurd (not_ends_of_mem_linesEndingAt hline _ hmem) (by decide), ?_⟩
  unfold physicalLines
  induction text with
  | nil => rfl
  | cons c rest ih =>
    cases hend : isLineFeed c with
    | true =>
      rw [linesEndingAt_cons_of_end hend, List.flatMap_cons, ih, beq_iff_eq.mp hend]
      cases rest with
      | nil => rfl
      | cons d rest =>
        rw [List.getLast?_cons_cons]
        split <;> rfl
    | false =>
      rw [linesEndingAt_cons hend, List.flatMap_cons]
      cases rest with
      | nil => simp [linesEndingAt, hend]
      | cons d rest =>
        -- There is a line for the character to stand on.
        obtain ⟨line, lines, hlines⟩ : ∃ line lines,
            linesEndingAt isLineFeed (d :: rest) = line :: lines := by
          cases hd : isLineFeed d with
          | true => exact ⟨_, _, linesEndingAt_cons_of_end hd⟩
          | false => exact ⟨_, _, linesEndingAt_cons hd⟩
        rw [hlines, List.flatMap_cons] at ih
        rw [hlines, List.headD_cons, List.tail_cons, List.getLast?_cons_cons, List.cons_append,
          List.cons_append, ih]
        split <;> rfl

/-- Where line endings are unified there are no carriage returns. -/
theorem not_mem_unifyLineEndings (text : List Char) : '\r' ∉ unifyLineEndings text := by
  fun_induction unifyLineEndings text with
  | case1 => simp
  | case2 rest ih => simpa using ih
  | case3 c rest _ ih =>
    rw [List.mem_cons, not_or]
    refine ⟨?_, ih⟩
    split
    · decide
    next hc => exact Ne.symm hc

/-- Without carriage returns, displayed lines are those that end at any line break. -/
theorem displayedLinesAfter_eq {line text : List Char} (hline : ∀ d ∈ line, isLineBreak d = false)
    (htext : '\r' ∉ text) :
    displayedLinesAfter line text = linesEndingAt isLineBreak (line.reverse ++ text) := by
  have hreverse {line : List Char} (h : ∀ d ∈ line, isLineBreak d = false) :
      ∀ d ∈ line.reverse, isLineBreak d = false := by simpa using h
  fun_induction displayedLinesAfter line text with
  | case1 line hempty =>
    rw [List.isEmpty_iff.mp hempty]
    rfl
  | case2 line hempty =>
    rw [List.append_nil, linesEndingAt_of_no_end (hreverse hline), List.isEmpty_reverse,
      if_neg hempty]
  | case3 line rest ih => exact absurd List.mem_cons_self htext
  | case4 line c rest _ hend ih =>
    rw [ih (by simp) (List.not_mem_of_not_mem_cons htext),
      linesEndingAt_append_end (hreverse hline) hend]
    rfl
  | case5 line c rest _ hend ih =>
    rw [ih (List.forall_mem_cons.mpr ⟨by simpa using hend, hline⟩)
      (List.not_mem_of_not_mem_cons htext), List.reverse_cons, List.append_assoc]
    rfl

end Text

/-! ## Units -/

namespace SourceUnit

open Text (isLineBreak isLineFeed linesEndingAt physicalLines lineAround)

variable {host : Host SourceFile} {mapper : PositionMapper} {path : Path} {unit : SourceUnit}

/-- In the source of a unit that was loaded, line endings are unified. -/
theorem exists_source_eq_of_loadUnit (h : loadUnit host mapper path = .ok unit) :
    ∃ text, unit.source = Text.unifyLineEndings text := by
  unfold loadUnit at h
  split at h
  · cases h
  next file _ =>
    unfold unitOf at h
    split at h
    · cases h
    · cases h
    next source hsource =>
      split at h
      · cases h
      cases h
      exact SourceText.exists_eq_unifyLineEndings_of_ofBytes hsource

/-- Of the line breaks in a text some are line feeds. -/
theorem countP_isLineBreak (text : List Char) :
    text.countP isLineBreak
      = text.count '\n' + text.countP fun c => isLineBreak c && !isLineFeed c := by
  induction text with
  | nil => rfl
  | cons c text ih =>
    rw [List.countP_cons, List.count_cons, List.countP_cons, ih]
    by_cases hc : c = '\n'
    · subst hc
      simp [isLineBreak, isLineFeed]
      omega
    · simp [isLineFeed, hc]
      omega

/-- **Lines of a unit and lines of its file.** The lines of a unit that was loaded are the physical
lines of its source exactly if its source has no line breaks but line feeds. A character that is no
line feed stands on the physical line whose number is one more than the line feeds before it, which
is the line that a position reports; among the lines of the unit, its number is greater by one for
each other line break before it. -/
theorem lines_of_loadUnit (h : loadUnit host mapper path = .ok unit) :
    (unit.lines = physicalLines unit.source
      ↔ ∀ c ∈ unit.source, isLineBreak c = true → c = '\n')
    ∧ ∀ before c after, unit.source = before ++ c :: after →
        (c ≠ '\n' → (physicalLines unit.source)[before.count '\n']?
          = some (lineAround isLineFeed before c after))
        ∧ (isLineBreak c = false →
            unit.lines[before.count '\n'
                + before.countP fun d => isLineBreak d && !isLineFeed d]?
              = some (lineAround isLineBreak before c after)) := by
  have hlines : unit.lines = linesEndingAt isLineBreak unit.source := by
    obtain ⟨text, htext⟩ := exists_source_eq_of_loadUnit h
    exact Text.displayedLinesAfter_eq (by simp) (htext ▸ Text.not_mem_unifyLineEndings text)
  refine ⟨⟨fun hsame c hc hbreak => ?_, fun honly => ?_⟩, fun before c after hsource =>
    ⟨fun hc => ?_, fun hc => ?_⟩⟩
  · -- The physical line around any other break is none of the lines of the unit.
    by_contra hfeed
    obtain ⟨before, after, hsource⟩ := List.append_of_mem hc
    have hline : lineAround isLineFeed before c after ∈ unit.lines := by
      rw [hsame, physicalLines, hsource]
      exact List.mem_of_getElem? (Text.linesEndingAt_get before after (beq_false_of_ne hfeed))
    rw [hlines] at hline
    have hnone := Text.not_ends_of_mem_linesEndingAt hline c (by simp [lineAround])
    rw [hbreak] at hnone
    cases hnone
  · rw [hlines, physicalLines]
    refine Text.linesEndingAt_congr fun c hc => ?_
    cases hbreak : isLineBreak c with
    | true => rw [honly c hc hbreak]; rfl
    | false =>
      have hfeed : c ≠ '\n' := fun heq => absurd (heq ▸ hbreak) (by decide)
      exact (beq_false_of_ne hfeed).symm
  · rw [hsource]
    exact Text.linesEndingAt_get before after (beq_false_of_ne hc)
  · rw [hlines, hsource, ← countP_isLineBreak]
    exact Text.linesEndingAt_get before after hc

/-- A host with a source file of two lines, the second of which begins with a form feed. -/
def formFeedHost : Host SourceFile :=
  ⟨⟨[(["w"], .directory), (["w", "m.py"], .file
    ⟨"a = 1\n\x0cb = 2\n".toUTF8.toList, none, none⟩)]⟩, ["w"], ⟨.root, ["w"]⟩, .standard⟩

/-- The unit of that source file. -/
def formFeedUnit : SourceUnit := ⟨"/w/m.py", "a = 1\n\x0cb = 2\n".toList, .identity⟩

/-- The unit with a form feed is loaded. -/
theorem formFeedUnit_is_loaded :
    loadUnit formFeedHost .identity (Path.ofText "/w/m.py") = .ok formFeedUnit :=
  toOption_eq_some_iff.mp (by decide +kernel)

/-- The second assignment stands on the second line of the file, and on the third of the unit. -/
theorem form_feed_shifts_lines :
    loadUnit formFeedHost .identity (Path.ofText "/w/m.py") = .ok formFeedUnit
    ∧ (physicalLines formFeedUnit.source)[1]? = some "\x0cb = 2".toList
    ∧ formFeedUnit.lines[2]? = some "b = 2".toList := by
  have hplace := (lines_of_loadUnit formFeedUnit_is_loaded).2 "a = 1\n\x0c".toList 'b'
    " = 2\n".toList rfl
  exact ⟨formFeedUnit_is_loaded, hplace.1 (by decide), hplace.2 (by decide)⟩

/-- The lines of a unit need not be the physical lines of its source. -/
theorem lines_can_outnumber_physicalLines :
    loadUnit formFeedHost .identity (Path.ofText "/w/m.py") = .ok formFeedUnit
    ∧ formFeedUnit.lines = ["a = 1".toList, [], "b = 2".toList]
    ∧ physicalLines formFeedUnit.source = ["a = 1".toList, "\x0cb = 2".toList]
    ∧ formFeedUnit.lines ≠ physicalLines formFeedUnit.source :=
  ⟨formFeedUnit_is_loaded, rfl, rfl, by decide⟩

end SourceUnit

end WorkspaceLint
