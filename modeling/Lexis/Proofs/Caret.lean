import Lexis.Diagnostic
import Lexis.Proofs.MaximalMunch

/-!
# The caret of a diagnostic

If a source cannot be scanned, the diagnostic points at the character that no lexeme begins with.
The character is not blank, so it is neither in the indentation that a line loses nor in what is
trimmed at its end (`lineBody_of_split`), and it stands in the shown line as far behind the bar as
the caret does in the row below.
-/

namespace Lexis

open Character

/-! ### The character that is pointed at -/

/-- A reading fails at a character of the text that is not blank, and names its place. -/
lemma Munch.exists_of_failure {file : String} {before text : List Char} {tokens : List Token}
    {failure : Option Error} (h : Munch file before text tokens failure) :
    ∀ e ∈ failure, ∃ place c rest, before ++ text = place ++ c :: rest ∧ isBlank c = false ∧
      e = ⟨.illegalLexeme (String.ofList [c]), ⟨Location.after place, file⟩⟩ := by
  induction h with
  | done => simp
  | blank _ _ ih =>
    rwa [List.append_assoc, List.singleton_append] at ih
  | comment _ _ ih =>
    rwa [List.append_assoc, Text.firstLine_append_afterLine] at ih
  | token hlongest _ _ ih =>
    obtain ⟨rest, rfl⟩ := hlongest.isPrefix
    rwa [List.append_assoc, List.drop_left] at ih
  | @illegal before rest c hblank _ =>
    rintro e ⟨⟩
    exact ⟨before, c, rest, rfl, hblank, rfl⟩

lemma isIndent_of_isBlank {c : Char} (h : isBlank c = false) : isIndent c = false := by
  by_contra hindent
  simp only [isIndent, Bool.not_eq_false, Bool.or_eq_true, beq_iff_eq] at hindent
  rcases hindent with rfl | rfl <;> exact absurd h (by decide)

lemma while_of_split {p : Char → Bool} {c : Char} (hc : p c = false) (init tail : List Char) :
    (init ++ c :: tail).takeWhile p = init.takeWhile p ∧
      (init ++ c :: tail).dropWhile p = init.dropWhile p ++ c :: tail := by
  induction init with
  | nil => simp [hc]
  | cons d init ih =>
    cases hd : p d with
    | true  => simp [hd, ih]
    | false => simp [hd]

/-- A character that is not blank is shown, and what is in front of it up to the indentation. -/
lemma lineBody_of_split {c : Char} (hc : isBlank c = false) (init tail : List Char) :
    ∃ front back, lineBody (init ++ c :: tail) = front ++ c :: back ∧
      indentation (init ++ c :: tail) + front.length = init.length := by
  obtain ⟨htake, hdrop⟩ := while_of_split (isIndent_of_isBlank hc) init tail
  refine ⟨init.dropWhile isIndent, Text.trimEnd isBlank tail, ?_, ?_⟩
  · rw [lineBody, hdrop, Text.trimEnd_append hc]
  · rw [indentation, htake, ← List.length_append, List.takeWhile_append_dropWhile]

/-! ### The rows of a diagnostic -/

/-- The first bar of a row stands behind that many characters. -/
def BarAt (column : Nat) (row : List Char) : Prop :=
  ∃ init rest, row = init ++ '|' :: rest ∧ '|' ∉ init ∧ init.length = column

/-- The three rows below the header point at a character: their bars stand below each other, and the
only caret of the last row stands below the character in the row before. -/
structure Pointing (gutter shown arrow : List Char) (c : Char) : Prop where
  bars : ∃ column, BarAt column gutter ∧ BarAt column shown ∧ BarAt column arrow
  caret : ∃ shaft, arrow = shaft ++ ['^', '\n'] ∧ '^' ∉ shaft ∧ shown[shaft.length]? = some c

lemma lineFeed_notMem_lineBody {line : List Char} (h : '\n' ∉ line) : '\n' ∉ lineBody line := by
  intro hmem
  have hdrop := (Text.trimEnd_isPrefix _ _).subset hmem
  exact h ((List.dropWhile_suffix _).subset hdrop)

namespace Error

variable {e : Error} {line : List Char}

/-- The first row of the header. -/
def title (e : Error) : String :=
  "Error: " ++ e.fault.name ++ match e.fault.tip? with
    | some tip => " (" ++ tip ++ ")"
    | none     => ""

/-- The second row of the header. -/
def fileRow (e : Error) : List Char := "-> ".toList ++ e.position.file.toList

/-- The number of the line, as it is written. -/
def number (e : Error) : List Char := e.position.line.repr.toList

/-- The margin of a row without a number. -/
def margin (e : Error) : List Char := List.replicate (e.number.length + 1) ' '

/-- The row of the line. -/
def shownRow (e : Error) (line : List Char) : List Char :=
  e.number ++ ' ' :: '|' :: ' ' :: lineBody line

/-- The row of the arrow, up to the caret. -/
def shaft (e : Error) (line : List Char) : List Char :=
  e.margin ++ '|' :: ' ' :: List.replicate (e.position.column - indentation line) '-'

lemma notMem_number {c : Char} (h : c.isDigit = false) (e : Error) : c ∉ e.number :=
  Text.notMem_repr h e.position.line

lemma toList_gutter (e : Error) : e.gutter.toList = e.margin ++ ['|'] := by
  have hone : "|".length = 1 := rfl
  rw [gutter, Text.toList_alignRight, hone, margin, number, String.length_toList]
  rfl

lemma toList_arrow (e : Error) (line : List Char) :
    (Text.alignRight (e.arrowLength line) '-' "^").toList =
      List.replicate (e.position.column - indentation line) '-' ++ ['^'] := by
  have hone : "^".length = 1 := rfl
  rw [Text.toList_alignRight, hone, arrowLength, Nat.add_sub_cancel]
  rfl

lemma toList_excerpt (e : Error) (line : List Char) :
    (e.excerpt line).toList =
      (e.margin ++ ['|']) ++
        '\n' :: (e.shownRow line ++ '\n' :: (e.shaft line ++ ['^', '\n'])) := by
  simp [excerpt, toList_gutter, toList_arrow, shownRow, shaft, number, -Nat.toList_repr,
    -Text.toList_alignRight]

lemma lines_excerpt (h : '\n' ∉ line) :
    Text.lines (e.excerpt line).toList =
      [e.margin ++ ['|', '\n'], e.shownRow line ++ ['\n'], e.shaft line ++ ['^', '\n']] := by
  have hmargin : '\n' ∉ e.margin ++ ['|'] := by simp [margin]
  have hshown : '\n' ∉ e.shownRow line := by
    simp [shownRow, notMem_number, lineFeed_notMem_lineBody h]
  have harrow : '\n' ∉ e.shaft line ++ ['^'] := by simp [shaft, margin]
  have hlast : e.shaft line ++ ['^', '\n'] = (e.shaft line ++ ['^']) ++ '\n' :: [] := by simp
  rw [toList_excerpt, Text.lines_row hmargin, Text.lines_row hshown, hlast, Text.lines_row harrow]
  simp

lemma header_eq (e : Error) : e.header = e.title ++ "\n-> " ++ e.position.file ++ "\n" := rfl

lemma toList_header (e : Error) :
    e.header.toList = e.title.toList ++ '\n' :: (e.fileRow ++ ['\n']) := by
  have harrow : "\n-> ".toList = '\n' :: "-> ".toList := by decide
  have hend : "\n".toList = ['\n'] := by decide
  rw [header_eq, String.toList_append, String.toList_append, String.toList_append, harrow, hend,
    fileRow]
  simp only [List.append_assoc, List.cons_append]

lemma lineFeed_notMem_title {c : Char} (h : e.fault = .illegalLexeme (String.ofList [c]))
    (hc : c ≠ '\n') : '\n' ∉ e.title.toList := by
  rw [title, h]
  simp only [Fault.name, Fault.tip?, String.toList_append, String.toList_ofList, List.mem_append,
    List.mem_singleton, not_or]
  exact ⟨⟨by decide, by decide⟩, ⟨by decide, ⟨by decide, Ne.symm hc⟩, by decide⟩, by decide⟩

/-- With the two rows of the header there are five. -/
lemma lines_diagnostic {c : Char} (h : e.fault = .illegalLexeme (String.ofList [c]))
    (hc : c ≠ '\n') (hfile : '\n' ∉ e.position.file.toList) (hline : '\n' ∉ line) :
    Text.lines (e.header ++ e.excerpt line).toList =
      [e.title.toList ++ ['\n'], e.fileRow ++ ['\n'], e.margin ++ ['|', '\n'],
        e.shownRow line ++ ['\n'], e.shaft line ++ ['^', '\n']] := by
  have htitle := lineFeed_notMem_title h hc
  have hpath : '\n' ∉ e.fileRow := by
    rw [fileRow, List.mem_append, not_or]
    exact ⟨by decide, hfile⟩
  rw [String.toList_append, toList_header, List.append_assoc, List.cons_append,
    Text.lines_row htitle, List.append_assoc, List.singleton_append, Text.lines_row hpath,
    lines_excerpt hline]

/-- The rows point at a character that the line has at the error's column. -/
lemma pointing {init tail : List Char} {c : Char} (hc : isBlank c = false)
    (hcolumn : e.position.column = init.length) :
    Pointing (e.margin ++ ['|', '\n']) (e.shownRow (init ++ c :: tail) ++ ['\n'])
      (e.shaft (init ++ c :: tail) ++ ['^', '\n']) c where
  bars := by
    have hmargin : '|' ∉ e.margin := by simp [margin]
    have hnumber : '|' ∉ e.number ++ [' '] := by simp [notMem_number]
    refine ⟨e.margin.length, ⟨e.margin, ['\n'], rfl, hmargin, rfl⟩, ?_, ?_⟩
    · exact ⟨e.number ++ [' '], ' ' :: lineBody (init ++ c :: tail) ++ ['\n'], by simp [shownRow],
        hnumber, by simp [margin]⟩
    · exact ⟨e.margin, _, List.append_assoc _ _ _, hmargin, rfl⟩
  caret := by
    obtain ⟨front, back, hbody, hlength⟩ := lineBody_of_split hc init tail
    have hshaft : (e.shaft (init ++ c :: tail)).length =
        (e.number ++ ' ' :: '|' :: ' ' :: front).length := by
      simp only [shaft, margin, List.length_append, List.length_cons, List.length_replicate]
      omega
    refine ⟨e.shaft (init ++ c :: tail), rfl, by simp [shaft, margin], ?_⟩
    rw [hshaft, shownRow, hbody]
    simp

end Error

lemma failure_of_tokenize {source : String} {file? : Option String} {e : Error}
    (h : tokenize source file? = .error e) : (scan source file?).failure = some e := by
  simp only [tokenize] at h
  split at h
  · next hfailure =>
    rw [hfailure, Except.error.inj h]
  · cases h

/-- The caret points at the illegal character. If a source is refused, the line of the error is in
the source, its indentation is in front of the error's column, and the diagnostic, unless the arrow
is too long for it, is the two rows of the header and three rows that point at the character. -/
theorem render_points {source : String} {file? : Option String} {e : Error}
    (h : tokenize source file? = .error e) (hfile : '\n' ∉ e.position.file.toList) :
    ∃ line c, Text.lineAt? source e.position.line = some line ∧
      e.fault = .illegalLexeme (String.ofList [c]) ∧
      indentation line.toList ≤ e.position.column ∧
      (e.position.column - indentation line.toList + 1 ≤ 65535 →
        ∃ rendered title file gutter shown arrow, e.render? source = some rendered ∧
          Text.lines rendered.toList = [title, file, gutter, shown, arrow] ∧
          title ++ file = e.header.toList ∧ Pointing gutter shown arrow c) := by
  have hmunch := munch_scan source file?
  rw [failure_of_tokenize h] at hmunch
  obtain ⟨place, c, rest, htext, hblank, he⟩ := hmunch.exists_of_failure e rfl
  have hsplit : source.toList = place ++ [c] ++ rest := by simpa using htext
  obtain ⟨tail, hline⟩ := Text.lineAt?_of_split hsplit (by simp)
    (by simpa using Text.isBreak_of_isBlank hblank)
  have hcolumn : e.position.column = (Text.openLine place).length := by rw [he, Location.after]
  have hnumber : e.position.line = (Location.after place).line := by rw [he]
  have hfeed := Text.lineFeed_notMem_of_lineAt? hline
  rw [List.append_assoc, List.singleton_append, ← hnumber] at hline
  rw [String.toList_ofList, List.append_assoc, List.singleton_append] at hfeed
  have hfault : e.fault = .illegalLexeme (String.ofList [c]) := by rw [he]
  refine ⟨_, c, hline, hfault, ?_, ?_⟩
  · obtain ⟨front, back, -, hlength⟩ := lineBody_of_split hblank (Text.openLine place) tail
    rw [String.toList_ofList, hcolumn, ← hlength]
    exact Nat.le_add_right _ _
  · intro hlimit
    have hne : c ≠ '\n' := by
      rintro rfl
      exact absurd hblank (by decide)
    refine ⟨_, _, _, _, _, _, ?_, Error.lines_diagnostic hfault hne hfile hfeed, ?_,
      Error.pointing hblank hcolumn⟩
    · rw [String.toList_ofList] at hlimit
      simp [Error.render?, hline, Error.arrowLength, Error.arrowLimit, hlimit]
    · simp only [Error.toList_header, List.append_assoc, List.singleton_append]

/-- Behind a tab and a blank. -/
theorem render_points_indented :
    ∃ line c, Text.lineAt? "x\n\t @ " 2 = some line ∧ Fault.illegalLexeme "@" =
      .illegalLexeme (String.ofList [c]) ∧ indentation line.toList ≤ 2 ∧
      (2 - indentation line.toList + 1 ≤ 65535 →
        ∃ rendered title file gutter shown arrow,
          Error.render? ⟨.illegalLexeme "@", ⟨⟨2, 2⟩, "shell"⟩⟩ "x\n\t @ " = some rendered ∧
          Text.lines rendered.toList = [title, file, gutter, shown, arrow] ∧
          title ++ file = (Error.header ⟨.illegalLexeme "@", ⟨⟨2, 2⟩, "shell"⟩⟩).toList ∧
          Pointing gutter shown arrow c) := by
  have hrefused : tokenize "x\n\t @ " none = .error ⟨.illegalLexeme "@", ⟨⟨2, 2⟩, "shell"⟩⟩ := by
    decide +kernel
  exact render_points hrefused (by decide)

end Lexis
