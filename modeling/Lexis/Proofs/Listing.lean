import Lexis.Proofs.Line
import Lexis.Reader

/-!
# Lines that are read, shown and listed

Lines are counted in three ways: a reader counts them as it hands out characters, `Text.lineAt?`
cuts the text and picks one, and a listing numbers all of them. A line feed ends a line for each of
them, but they differ in what they do with carriage returns. They agree on the number of lines
(`Reader.exists_line_readToEnd`, `Text.lines_listing`) and, carriage returns at the end of a line
apart, on what the lines say (`Text.trimEnd_withoutBreak`). What a listing leaves out is a carriage
return in front of each line feed, and nothing else (`Text.flatMap_withoutBreak`).
-/

namespace Lexis

/-! ### Reading to the end -/

namespace Reader

/-- The reader after all that was left of the text is read. -/
def readToEnd (r : Reader) : Except Error Reader :=
  match _hread : r.read with
  | .error e           => .error e
  | .ok none           => .ok r
  | .ok (some (_, r')) => r'.readToEnd
termination_by r.rest.length
decreasing_by exact Nat.lt_of_succ_le (Nat.le_of_eq (length_rest_of_read _hread))

variable {r : Reader}

lemma readToEnd_of_nil (hopen : r.closed = false) (hrest : r.rest = []) :
    r.readToEnd = .ok r := by
  have hread : r.read = .ok none := by simp [read, hopen, hrest]
  rw [readToEnd]
  split <;> simp_all

lemma readToEnd_of_cons {c : Char} {rest : List Char} (hopen : r.closed = false)
    (hrest : r.rest = c :: rest) :
    r.readToEnd =
      readToEnd { r with rest := rest, last := r.upcoming, upcoming := r.upcoming.next c } := by
  have hread : r.read = .ok (some (c, { r with
      rest     := rest
      last     := r.upcoming
      upcoming := r.upcoming.next c })) := by simp [read, hopen, hrest]
  rw [readToEnd]
  split <;> simp_all

/-- A reader that is read to the end stays at the last character of its text. -/
theorem exists_readToEnd {init : List Char} {c : Char} (hopen : r.closed = false)
    (hrest : r.rest = init ++ [c]) :
    ∃ r', r.readToEnd = .ok r' ∧ r'.last = r.upcoming.advance init := by
  induction init generalizing r with
  | nil =>
    rw [readToEnd_of_cons hopen hrest]
    exact ⟨_, readToEnd_of_nil hopen rfl, rfl⟩
  | cons d init ih =>
    rw [readToEnd_of_cons hopen hrest]
    exact ih hopen rfl

end Reader

namespace Text

/-! ### The number of lines -/

/-- A text is a last line, or a line and a text behind its line feed. -/
theorem line_induction {P : List Char → Prop} (last : ∀ body, '\n' ∉ body → P body)
    (line : ∀ body rest, '\n' ∉ body → P rest → P (body ++ '\n' :: rest)) (text : List Char) :
    P text := by
  by_cases hfeed : '\n' ∈ text
  · obtain ⟨body, rest, rfl, hbody⟩ := List.eq_append_cons_of_mem hfeed
    exact line body rest hbody (line_induction last line rest)
  · exact last text hfeed
termination_by text.length
decreasing_by simp [*]; omega

lemma lines_of_notMem {body : List Char} (h : '\n' ∉ body) (hne : body ≠ []) :
    lines body = [body] := by
  obtain ⟨init, c, rfl⟩ := (List.eq_nil_or_concat body).resolve_left hne
  rw [List.concat_eq_append, List.mem_append, List.mem_singleton, not_or] at h
  obtain ⟨hinit, hc⟩ := h
  have hlast : lines [c] = [[c]] := by simp [lines, Ne.symm hc]
  rw [List.concat_eq_append, lines_append_of_notMem hinit hlast]

/-- The last character of a text is in the last of its lines. -/
lemma length_lines_concat (init : List Char) (c : Char) :
    (lines (init ++ [c])).length = init.count '\n' + 1 := by
  obtain ⟨line, hline⟩ : ∃ line, lines [c] = [line] := by
    by_cases hc : c = '\n' <;> simp [lines, hc]
  have hopen := lines_append_of_notMem (lineFeed_notMem_openLine init) hline
  rw [← closedLines_append_openLine init, List.append_assoc, lines_closedLines_append, hopen,
    List.length_append, length_lines_closedLines, closedLines_append_openLine]
  rfl

/-- A reader that is read to the end has counted the lines of its text. -/
theorem exists_line_readToEnd (source : String) (file? : Option String) :
    ∃ r, (Reader.ofSource source file?).readToEnd = .ok r ∧
      r.last.line = (lines source.toList).length := by
  rcases List.eq_nil_or_concat source.toList with hsource | ⟨init, c, hsource⟩
  · exact ⟨_, Reader.readToEnd_of_nil rfl hsource, by rw [hsource]; rfl⟩
  · rw [List.concat_eq_append] at hsource
    obtain ⟨r, hread, hlast⟩ := Reader.exists_readToEnd (r := .ofSource source file?) rfl hsource
    have hplace : r.last = Location.after init := hlast.trans (Location.advance_start init)
    exact ⟨r, hread, by rw [hplace, hsource, length_lines_concat, Location.after]⟩

/-! ### What a line says -/

lemma withoutBreak_concat_lineFeed (body : List Char) :
    withoutBreak (body ++ ['\n']) = dropLastIf '\r' body := by
  simp [withoutBreak]

lemma withoutBreak_of_notMem {body : List Char} (h : '\n' ∉ body) : withoutBreak body = body := by
  rw [withoutBreak, if_neg]
  intro hlast
  exact h (List.mem_of_getLast? hlast)

/-- A carriage return is dropped, or nothing is. -/
lemma dropLastIf_cases (c : Char) (text : List Char) :
    text = dropLastIf c text ++ [c] ∨ text = dropLastIf c text := by
  unfold dropLastIf
  split
  · next hlast =>
    obtain ⟨init, rfl⟩ := List.getLast?_eq_some_iff.1 hlast
    exact Or.inl (by rw [List.dropLast_concat])
  · exact Or.inr rfl

lemma lineFeed_notMem_dropLastIf {body : List Char} (h : '\n' ∉ body) :
    '\n' ∉ dropLastIf '\r' body := by
  intro hmem
  rcases dropLastIf_cases '\r' body with heq | heq <;> exact h (heq ▸ by simp [hmem])

/-- Where there is no line feed, the breaks at the end are carriage returns. -/
lemma trimEnd_isBreak_of_notMem {body : List Char} (h : '\n' ∉ body) :
    trimEnd isBreak body = trimEnd (· == '\r') body := by
  induction body using List.reverseRecOn with
  | nil => rfl
  | append_singleton body c ih =>
    rw [List.mem_append, List.mem_singleton, not_or] at h
    obtain ⟨hbody, hc⟩ := h
    by_cases hreturn : c = '\r'
    · rw [trimEnd_concat (by simp [isBreak, hreturn]), trimEnd_concat (by simp [hreturn]),
        ih hbody]
    · have hbreak : isBreak c = false := by simp [isBreak, hreturn, Ne.symm hc]
      rw [trimEnd_append hbreak body [], trimEnd_append (by simpa using hreturn) body []]
      rfl

/-- A line that is listed has no line feed in it. Carriage returns at its end apart, it is the line
that is shown. -/
theorem trimEnd_withoutBreak {text line : List Char} (h : line ∈ lines text) :
    '\n' ∉ withoutBreak line ∧
      trimEnd isBreak line = trimEnd (· == '\r') (withoutBreak line) := by
  obtain ⟨body, hbody, rfl | rfl⟩ := exists_body_of_mem_lines h
  · rw [withoutBreak_of_notMem hbody]
    exact ⟨hbody, trimEnd_isBreak_of_notMem hbody⟩
  · rw [withoutBreak_concat_lineFeed, trimEnd_concat (by decide), trimEnd_isBreak_of_notMem hbody]
    refine ⟨lineFeed_notMem_dropLastIf hbody, ?_⟩
    rcases dropLastIf_cases '\r' body with heq | heq
    · conv_lhs => rw [heq, trimEnd_concat (by decide)]
    · rw [← heq]

/-! ### Rows of a listing -/

/-- Rows that are put together are told apart by their line feeds. -/
lemma lines_flatMap {α : Type} {row : α → List Char} {items : List α}
    (h : ∀ item ∈ items, ∃ body, '\n' ∉ body ∧ row item = body ++ ['\n']) :
    lines (items.flatMap row) = items.map row := by
  induction items with
  | nil => rfl
  | cons item items ih =>
    obtain ⟨⟨body, hbody, hrow⟩, hitems⟩ := List.forall_mem_cons.1 h
    rw [List.flatMap_cons, List.map_cons, hrow, List.append_assoc, List.singleton_append,
      lines_row hbody, ih hitems]

/-- A listing has a row for each line. -/
theorem lines_listing (source : String) :
    lines (listing source).toList =
      ((lines source.toList).zipIdx 1).map fun (line, number) => listingRow number line := by
  rw [listing, String.toList_ofList]
  apply lines_flatMap
  rintro ⟨line, number⟩ hmem
  have hline := (trimEnd_withoutBreak (List.fst_mem_of_mem_zipIdx hmem)).1
  have hnumber := notMem_repr (c := '\n') (by decide) number
  refine ⟨(alignRight 3 ' ' number.repr).toList ++ ". ".toList ++ withoutBreak line, ?_, rfl⟩
  simp [hline, hnumber, -Nat.toList_repr]

/-! ### What a listing leaves out -/

/-- The text with a line feed alone in place of every carriage return and line feed. -/
def bareBreaks : List Char → List Char
  | '\r' :: '\n' :: rest => '\n' :: bareBreaks rest
  | c :: rest            => c :: bareBreaks rest
  | []                   => []

lemma bareBreaks_cons {c : Char} {rest : List Char} (h : c = '\r' → rest.head? ≠ some '\n') :
    bareBreaks (c :: rest) = c :: bareBreaks rest := by
  rw [bareBreaks]
  rintro tail rfl rfl
  exact h rfl rfl

/-- Within a line nothing is left out. -/
lemma bareBreaks_append {init rest : List Char} (h : '\n' ∉ init)
    (hlast : init.getLast? = some '\r' → rest.head? ≠ some '\n') :
    bareBreaks (init ++ rest) = init ++ bareBreaks rest := by
  induction init with
  | nil => rfl
  | cons c init ih =>
    obtain ⟨-, hinit⟩ := List.ne_and_not_mem_of_not_mem_cons h
    rw [List.cons_append, List.cons_append]
    cases init with
    | nil => exact bareBreaks_cons fun hc => hlast (by rw [hc]; rfl)
    | cons d init =>
      have hd : d ≠ '\n' := fun heq => hinit (by simp [heq])
      rw [bareBreaks_cons (by simpa using fun _ => hd), ih hinit hlast]

/-- At the end of a line a carriage return is left out. -/
lemma bareBreaks_line {body : List Char} (h : '\n' ∉ body) (rest : List Char) :
    bareBreaks (body ++ '\n' :: rest) = dropLastIf '\r' body ++ '\n' :: bareBreaks rest := by
  have hfeed : bareBreaks ('\n' :: rest) = '\n' :: bareBreaks rest :=
    bareBreaks_cons fun heq => absurd heq (by decide)
  by_cases hlast : body.getLast? = some '\r'
  · obtain ⟨init, rfl⟩ := List.getLast?_eq_some_iff.1 hlast
    have hinit : '\n' ∉ init := fun hmem => h (List.mem_append_left _ hmem)
    rw [dropLastIf, if_pos hlast, List.dropLast_concat, List.append_assoc, List.singleton_append,
      bareBreaks_append hinit (by simp), bareBreaks]
  · rw [dropLastIf, if_neg hlast, bareBreaks_append h fun heq => absurd heq hlast, hfeed]

/-- The line feed that is missing at the end of a text whose last line is not closed. -/
def missingBreak (text : List Char) : List Char :=
  if text = [] ∨ text.getLast? = some '\n' then [] else ['\n']

lemma missingBreak_line (body rest : List Char) :
    missingBreak (body ++ '\n' :: rest) = missingBreak rest := by
  cases rest with
  | nil         => simp [missingBreak]
  | cons c rest => simp [missingBreak, List.getLast?_append, List.getLast?_cons]

/-- The lines as they are listed, each with a line feed of its own, are the text with bare line
feeds and with a last line that is closed. -/
theorem flatMap_withoutBreak (text : List Char) :
    (lines text).flatMap (fun line => withoutBreak line ++ ['\n']) =
      bareBreaks text ++ missingBreak text := by
  induction text using line_induction with
  | last body hbody =>
    have hbare : bareBreaks (body ++ []) = body ++ bareBreaks [] :=
      bareBreaks_append hbody (by simp)
    rw [bareBreaks, List.append_nil] at hbare
    rw [hbare]
    by_cases hne : body = []
    · subst hne
      rfl
    · have hlast : body.getLast? ≠ some '\n' := fun heq => hbody (List.mem_of_getLast? heq)
      rw [lines_of_notMem hbody hne, missingBreak, if_neg (not_or.2 ⟨hne, hlast⟩),
        List.flatMap_singleton, withoutBreak_of_notMem hbody]
  | line body rest hbody ih =>
    rw [lines_row hbody, List.flatMap_cons, ih, withoutBreak_concat_lineFeed, bareBreaks_line hbody,
      missingBreak_line]
    simp

/-! ### Agreement -/

/-- Reading, showing and listing a source agree on its lines. A listing has as many rows as a reader
counts lines and as there are lines to show; each row is the number of a line and a text in that
line, which is the line as it is shown but for carriage returns at its end; and the texts, with a
line feed behind each, are the source without the carriage returns of its line breaks. -/
theorem listing_agrees (source : String) (file? : Option String) :
    ∃ texts : List (List Char),
      (lines (listing source).toList).length = texts.length ∧
      (∃ r, (Reader.ofSource source file?).readToEnd = .ok r ∧ r.last.line = texts.length) ∧
      (∀ n, (lineAt? source n).isSome = true ↔ 1 ≤ n ∧ n ≤ texts.length) ∧
      (∀ n text, texts[n]? = some text →
        '\n' ∉ text ∧
          (lines (listing source).toList)[n]? =
            some ((alignRight 3 ' ' (n + 1).repr).toList ++ ". ".toList ++ text ++ ['\n']) ∧
          lineAt? source (n + 1) = some (String.ofList (trimEnd (· == '\r') text))) ∧
      texts.flatMap (· ++ ['\n']) = bareBreaks source.toList ++ missingBreak source.toList := by
  refine ⟨(lines source.toList).map withoutBreak, ?_, ?_, ?_, ?_, ?_⟩
  · rw [lines_listing, List.length_map, List.length_zipIdx, List.length_map]
  · rw [List.length_map]
    exact exists_line_readToEnd source file?
  · intro n
    cases n with
    | zero   => simp
    | succ n =>
      rw [lineAt?_succ, Option.isSome_map, isSome_getElem?, List.length_map,
        and_iff_right (Nat.le_add_left 1 n)]
      exact Iff.rfl
  · intro n text htext
    rw [List.getElem?_map, Option.map_eq_some_iff] at htext
    obtain ⟨line, hline, rfl⟩ := htext
    obtain ⟨hfeed, htrim⟩ := trimEnd_withoutBreak (List.mem_of_getElem? hline)
    refine ⟨hfeed, ?_, ?_⟩
    · rw [lines_listing, List.getElem?_map, List.getElem?_zipIdx, hline, Nat.add_comm n 1]
      rfl
    · rw [lineAt?_succ, hline, Option.map_some, htrim]
  · rw [List.flatMap_map]
    exact flatMap_withoutBreak source.toList

/-- Two carriage returns in front of a line feed, a blank line, and a last line without one. -/
example : listing "a\r\r\n\nb\r" = "  1. a\r\n  2. \n  3. b\r\n" := by decide

end Text
end Lexis
