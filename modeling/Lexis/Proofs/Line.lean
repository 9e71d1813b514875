import Mathlib.Data.List.Induction
import Mathlib.Data.List.TakeWhile
import Lexis.Character.WhiteSpace
import Lexis.Location
import Lexis.Text.Line

/-!
# Lines and places

Two accounts of where a character stands: counting along the text (`Location.advance`) and cutting
the text into lines (`Text.lines`). They agree: the place behind a text is given by the number of
its line feeds and by what follows the last of them (`Location.advance_start`), and the line of that
number in a longer text goes on from there (`Text.lineAt?_of_split`).
-/

namespace Lexis

namespace Text

/-- What follows the last line feed of a text: the line that is still open at its end. -/
def openLine (text : List Char) : List Char := (text.reverse.takeWhile (· != '\n')).reverse

/-- The lines of a text that are closed by a line feed. -/
def closedLines (text : List Char) : List Char := (text.reverse.dropWhile (· != '\n')).reverse

@[simp] lemma openLine_nil : openLine [] = [] := rfl

@[simp] lemma openLine_concat_lineFeed (text : List Char) : openLine (text ++ ['\n']) = [] := by
  simp [openLine]

lemma openLine_concat {c : Char} (h : c ≠ '\n') (text : List Char) :
    openLine (text ++ [c]) = openLine text ++ [c] := by
  simp [openLine, h]

lemma closedLines_append_openLine (text : List Char) :
    closedLines text ++ openLine text = text := by
  rw [closedLines, openLine, ← List.reverse_append, List.takeWhile_append_dropWhile,
    List.reverse_reverse]

lemma lineFeed_notMem_openLine (text : List Char) : '\n' ∉ openLine text := by
  intro hmem
  simpa using List.mem_takeWhile_imp (List.mem_reverse.1 hmem)

lemma count_openLine (text : List Char) : (openLine text).count '\n' = 0 :=
  List.count_eq_zero.2 (lineFeed_notMem_openLine text)

lemma closedLines_eq (text : List Char) :
    closedLines text = [] ∨ ∃ init, closedLines text = init ++ ['\n'] := by
  unfold closedLines
  cases h : text.reverse.dropWhile (· != '\n') with
  | nil => exact Or.inl rfl
  | cons c rest =>
    have hc : c = '\n' := by
      have hhead := List.head?_dropWhile_not (· != '\n') text.reverse
      rw [h] at hhead
      simpa using hhead
    subst hc
    exact Or.inr ⟨rest.reverse, List.reverse_cons⟩

end Text

/-- The place behind a text: past its line feeds, and past what follows the last of them. -/
def Location.after (text : List Char) : Location :=
  ⟨text.count '\n' + 1, (Text.openLine text).length⟩

/-- Counting along a text leads to the place behind it. -/
theorem Location.advance_start (text : List Char) :
    Location.start.advance text = Location.after text := by
  induction text using List.reverseRecOn with
  | nil => rfl
  | append_singleton text c ih =>
    rw [advance_append, ih]
    by_cases hc : c = '\n'
    · subst hc
      simp [after]
    · simp [after, next_of_ne hc, Text.openLine_concat hc, hc]

@[simp] lemma Location.advance_after (before text : List Char) :
    (after before).advance text = after (before ++ text) := by
  rw [← advance_start, ← advance_append, advance_start]

namespace Text

/-! ### Cutting a text into lines -/

lemma lines_cons_of_ne {c : Char} (h : c ≠ '\n') {rest line : List Char} {others : List (List Char)}
    (hrest : lines rest = line :: others) : lines (c :: rest) = (c :: line) :: others := by
  simp [lines, h, hrest]

lemma exists_lines_eq_cons {text : List Char} (h : text ≠ []) :
    ∃ line others, lines text = line :: others :=
  List.exists_cons_of_ne_nil (mt (lines_eq_nil_iff text).1 h)

/-- A line feed divides the lines before it from those behind it. -/
lemma lines_append_lineFeed (init text : List Char) :
    lines (init ++ '\n' :: text) = lines (init ++ ['\n']) ++ lines text := by
  induction init with
  | nil => simp
  | cons c init ih =>
    by_cases hc : c = '\n'
    · subst hc
      simp [ih]
    · obtain ⟨line, others, hlines⟩ := exists_lines_eq_cons (show init ++ ['\n'] ≠ [] by simp)
      rw [hlines, List.cons_append] at ih
      rw [List.cons_append, List.cons_append, lines_cons_of_ne hc ih, lines_cons_of_ne hc hlines,
        List.cons_append]

lemma length_lines_concat_lineFeed (init : List Char) :
    (lines (init ++ ['\n'])).length = init.count '\n' + 1 := by
  induction init with
  | nil => simp
  | cons c init ih =>
    by_cases hc : c = '\n'
    · subst hc
      simp [ih]
    · obtain ⟨line, others, hlines⟩ := exists_lines_eq_cons (show init ++ ['\n'] ≠ [] by simp)
      rw [List.cons_append, lines_cons_of_ne hc hlines, List.length_cons, ← List.length_cons,
        ← hlines, ih, List.count_cons_of_ne hc]

lemma length_lines_closedLines (text : List Char) :
    (lines (closedLines text)).length = text.count '\n' := by
  have hcount : text.count '\n' = (closedLines text).count '\n' := by
    conv_lhs => rw [← closedLines_append_openLine text, List.count_append, count_openLine,
      Nat.add_zero]
  rw [hcount]
  rcases closedLines_eq text with h | ⟨init, h⟩
  · rw [h]; rfl
  · rw [h, length_lines_concat_lineFeed, List.count_append, List.count_singleton_self]

lemma lines_closedLines_append (before text : List Char) :
    lines (closedLines before ++ text) = lines (closedLines before) ++ lines text := by
  rcases closedLines_eq before with h | ⟨init, h⟩
  · simp [h]
  · rw [h, List.append_assoc, List.singleton_append, lines_append_lineFeed]

/-- A text without line feeds lengthens the first line of what follows. -/
lemma lines_append_of_notMem {head text line : List Char} {others : List (List Char)}
    (h : '\n' ∉ head) (htext : lines text = line :: others) :
    lines (head ++ text) = (head ++ line) :: others := by
  induction head with
  | nil => exact htext
  | cons c head ih =>
    rw [List.mem_cons, not_or] at h
    obtain ⟨hc, hhead⟩ := h
    rw [List.cons_append, lines_cons_of_ne (Ne.symm hc) (ih hhead), List.cons_append]

lemma lines_row {row : List Char} (h : '\n' ∉ row) (text : List Char) :
    lines (row ++ '\n' :: text) = (row ++ ['\n']) :: lines text :=
  lines_append_of_notMem h (lines_lineFeed text)

/-- The line that stands at a place goes on from what is before the place. -/
lemma getElem?_lines (before : List Char) {text line : List Char} {others : List (List Char)}
    (htext : lines text = line :: others) :
    (lines (before ++ text))[before.count '\n']? = some (openLine before ++ line) := by
  have hsplit : before ++ text = closedLines before ++ (openLine before ++ text) := by
    rw [← List.append_assoc, closedLines_append_openLine]
  have hopen := lines_append_of_notMem (lineFeed_notMem_openLine before) htext
  rw [hsplit, lines_closedLines_append, hopen, ← length_lines_closedLines,
    List.getElem?_append_right (Nat.le_refl _)]
  simp

/-- The first line of a text begins with what stands before the first line feed. -/
lemma exists_lines_append {c : Char} {piece : List Char} (h : '\n' ∉ c :: piece)
    (rest : List Char) :
    ∃ tail others, lines (c :: piece ++ rest) = (c :: piece ++ tail) :: others := by
  induction piece generalizing c with
  | nil =>
    have hc : c ≠ '\n' := fun heq => h (by simp [heq])
    cases hrest : lines rest with
    | nil => exact ⟨[], [], by simp [(lines_eq_nil_iff rest).1 hrest, lines, hc]⟩
    | cons line others => exact ⟨line, others, lines_cons_of_ne hc hrest⟩
  | cons d piece ih =>
    rw [List.mem_cons, not_or] at h
    obtain ⟨tail, others, hlines⟩ := ih h.2
    exact ⟨tail, others, lines_cons_of_ne (Ne.symm h.1) hlines⟩

/-! ### Showing a line -/

lemma trimEnd_concat {p : Char → Bool} {c : Char} (hc : p c = true) (text : List Char) :
    trimEnd p (text ++ [c]) = trimEnd p text := by
  simp [trimEnd, hc]

lemma trimEnd_append {p : Char → Bool} {c : Char} (hc : p c = false) (init tail : List Char) :
    trimEnd p (init ++ c :: tail) = init ++ c :: trimEnd p tail := by
  unfold trimEnd
  rw [List.reverse_append, List.reverse_cons, List.append_assoc, List.singleton_append,
    List.dropWhile_append]
  cases htail : tail.reverse.dropWhile p with
  | nil => simp [hc]
  | cons => simp

lemma trimEnd_isPrefix (p : Char → Bool) (text : List Char) : trimEnd p text <+: text := by
  rw [← List.reverse_suffix]
  simpa [trimEnd] using List.dropWhile_suffix p

lemma isBreak_of_isBlank {c : Char} (h : Character.isBlank c = false) : isBreak c = false := by
  by_contra hbreak
  simp only [isBreak, Bool.not_eq_false, Bool.or_eq_true, beq_iff_eq] at hbreak
  rcases hbreak with rfl | rfl <;> exact absurd h (by decide)

/-- The line at a place goes on with a piece of text that stands there, line breaks apart. -/
theorem lineAt?_of_split {source : String} {before piece rest : List Char}
    (hsource : source.toList = before ++ piece ++ rest) (hne : piece ≠ [])
    (hpiece : ∀ c ∈ piece, isBreak c = false) :
    ∃ tail, lineAt? source (Location.after before).line =
      some (String.ofList (openLine before ++ piece ++ tail)) := by
  have hfeed : '\n' ∉ piece := fun hmem => absurd (hpiece _ hmem) (by decide)
  obtain ⟨d, ds, hcons⟩ := List.exists_cons_of_ne_nil hne
  obtain ⟨tail, others, hlines⟩ := exists_lines_append (hcons ▸ hfeed) rest
  obtain ⟨init, c, rfl⟩ := (List.eq_nil_or_concat piece).resolve_left hne
  have hc : isBreak c = false := hpiece c (by simp)
  refine ⟨trimEnd isBreak tail, ?_⟩
  rw [← hcons] at hlines
  rw [Location.after, lineAt?_succ, hsource, List.append_assoc, getElem?_lines before hlines,
    Option.map_some]
  have htrim := trimEnd_append hc (openLine before ++ init) tail
  simp only [List.concat_eq_append, List.append_assoc, List.singleton_append] at htrim ⊢
  rw [htrim]

lemma exists_body_of_mem_lines {text line : List Char} (h : line ∈ lines text) :
    ∃ body, '\n' ∉ body ∧ (line = body ∨ line = body ++ ['\n']) := by
  induction text generalizing line with
  | nil => simp at h
  | cons c text ih =>
    by_cases hc : c = '\n'
    · subst hc
      rw [lines_lineFeed] at h
      rcases List.mem_cons.1 h with rfl | h
      · exact ⟨[], by simp, Or.inr rfl⟩
      · exact ih h
    · cases htext : lines text with
      | nil =>
        have hline : line = [c] := by simpa [lines, hc, htext] using h
        exact ⟨[c], by simpa using Ne.symm hc, Or.inl hline⟩
      | cons first others =>
        rw [lines_cons_of_ne hc htext] at h
        rw [htext] at ih
        rcases List.mem_cons.1 h with rfl | h
        · obtain ⟨body, hbody, hfirst⟩ := ih List.mem_cons_self
          refine ⟨c :: body, by simp [hbody, Ne.symm hc], ?_⟩
          exact hfirst.imp (congrArg (c :: ·)) (congrArg (c :: ·))
        · exact ih (List.mem_cons_of_mem _ h)

/-- A line that is shown has no line feed in it. -/
theorem lineFeed_notMem_of_lineAt? {source line : String} {number : Nat}
    (h : lineAt? source number = some line) : '\n' ∉ line.toList := by
  cases number with
  | zero => simp at h
  | succ n =>
    rw [lineAt?_succ, Option.map_eq_some_iff] at h
    obtain ⟨full, hfull, rfl⟩ := h
    obtain ⟨body, hbody, rfl | rfl⟩ := exists_body_of_mem_lines (List.mem_of_getElem? hfull)
    · rw [String.toList_ofList]
      intro hmem
      exact hbody ((trimEnd_isPrefix _ _).subset hmem)
    · rw [String.toList_ofList, trimEnd_concat (by decide)]
      intro hmem
      exact hbody ((trimEnd_isPrefix _ _).subset hmem)

/-! ### Numbers -/

/-- A number is written with digits alone. -/
lemma notMem_repr {c : Char} (h : c.isDigit = false) (n : Nat) : c ∉ n.repr.toList := by
  rw [Nat.toList_repr]
  intro hmem
  have hdigit := Nat.isDigit_of_mem_toDigits (by decide) (by decide) hmem
  exact absurd hdigit (by simp [h])

end Text
end Lexis
