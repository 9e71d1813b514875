import Mathlib.Data.List.Basic
import Lexis.Diagnostic
import Lexis.Proofs.MaximalMunch

/-!
# Line ends with carriage returns

`Text.crlf` puts a carriage return in front of every line feed. To a reading it is one more blank in
front of a blank (`Munch.crlf`), or one more character of a comment, and no column counts it,
because the line feed behind it ends the line. A line that is shown has lost it at its end, whether
all line breaks are trimmed there (`Text.lineAt?_withReturns`) or just the one that ends the line
(`Text.listing_withReturns`). So nothing that is made of a text shows how its lines end
(`withReturns_invisible`).
-/

namespace Lexis

open Character

namespace Text

/-- The text with a carriage return in front of every line feed. -/
def crlf : List Char → List Char
  | []        => []
  | c :: rest => if c = '\n' then '\r' :: '\n' :: crlf rest else c :: crlf rest

/-- The source with a carriage return in front of every line feed. -/
def withReturns (source : String) : String := String.ofList (crlf source.toList)

@[simp] lemma crlf_nil : crlf [] = [] := rfl

@[simp] lemma crlf_lineFeed (rest : List Char) :
    crlf ('\n' :: rest) = '\r' :: '\n' :: crlf rest := by
  simp [crlf]

lemma crlf_cons {c : Char} (h : c ≠ '\n') (rest : List Char) :
    crlf (c :: rest) = c :: crlf rest := by
  simp [crlf, h]

@[simp] lemma toList_withReturns (source : String) :
    (withReturns source).toList = crlf source.toList := String.toList_ofList

@[simp] lemma crlf_append (text rest : List Char) :
    crlf (text ++ rest) = crlf text ++ crlf rest := by
  induction text with
  | nil => rfl
  | cons c text ih =>
    by_cases hc : c = '\n'
    · subst hc
      simp [ih]
    · rw [List.cons_append, crlf_cons hc, crlf_cons hc, ih, List.cons_append]

/-- Within a line nothing changes. -/
lemma crlf_of_notMem {text : List Char} (h : '\n' ∉ text) : crlf text = text := by
  induction text with
  | nil => rfl
  | cons c text ih =>
    obtain ⟨hc, htext⟩ := List.ne_and_not_mem_of_not_mem_cons h
    rw [crlf_cons (Ne.symm hc), ih htext]

lemma count_crlf (text : List Char) : (crlf text).count '\n' = text.count '\n' := by
  induction text with
  | nil => rfl
  | cons c text ih =>
    by_cases hc : c = '\n'
    · subst hc
      simp [ih]
    · rw [crlf_cons hc, List.count_cons_of_ne hc, List.count_cons_of_ne hc, ih]

/-- The carriage return stands in front of the line feed, so it is not in the open line. -/
lemma openLine_crlf (text : List Char) : openLine (crlf text) = openLine text := by
  induction text using List.reverseRecOn with
  | nil => rfl
  | append_singleton text c ih =>
    by_cases hc : c = '\n'
    · subst hc
      have hend : crlf (text ++ ['\n']) = (crlf text ++ ['\r']) ++ ['\n'] := by simp
      rw [hend, openLine_concat_lineFeed, openLine_concat_lineFeed]
    · rw [crlf_append, crlf_cons hc, crlf_nil, openLine_concat hc, openLine_concat hc, ih]

/-- A carriage return is blank like the line feed that it is put in front of. -/
lemma solid_crlf (text : List Char) : solid (crlf text) = solid text := by
  induction text with
  | nil => rfl
  | cons c text ih =>
    by_cases hc : c = '\n'
    · subst hc
      rw [crlf_lineFeed, solid_blank isBlank_lineFeed, solid_blank (by decide)]
    · rw [crlf_cons hc]
      cases hblank : isBlank c with
      | true  => rw [solid_blank hblank, solid_blank hblank]
      | false => rw [solid_cons hblank, solid_cons hblank, ih]

lemma split_crlf (text : List Char) :
    firstLine (crlf text) = crlf (firstLine text) ∧
      afterLine (crlf text) = crlf (afterLine text) := by
  induction text with
  | nil => exact ⟨rfl, rfl⟩
  | cons c text ih =>
    by_cases hc : c = '\n'
    · subst hc
      simp [firstLine_cons, afterLine_cons]
    · rw [crlf_cons hc, firstLine_cons hc, afterLine_cons hc, firstLine_cons hc, afterLine_cons hc,
        crlf_cons hc, ih.1]
      exact ⟨rfl, ih.2⟩

end Text

lemma Location.after_crlf (text : List Char) : after (Text.crlf text) = after text := by
  rw [after, after, Text.count_crlf, Text.openLine_crlf]

/-! ### Readings -/

/-- With carriage returns a text is read as without them. -/
theorem Munch.crlf {file : String} {before text : List Char} {tokens : List Token}
    {failure : Option Error} (h : Munch file before text tokens failure) :
    Munch file (Text.crlf before) (Text.crlf text) tokens failure := by
  induction h with
  | done => exact .done
  | @blank before rest c tokens failure hc _ ih =>
    by_cases hfeed : c = '\n'
    · subst hfeed
      have hreturn : isBlank '\r' = true := by decide
      rw [Text.crlf_lineFeed]
      refine .blank hreturn (.blank isBlank_lineFeed ?_)
      simpa using ih
    · rw [Text.crlf_append, Text.crlf_cons hfeed, Text.crlf_nil] at ih
      rw [Text.crlf_cons hfeed]
      exact .blank hc ih
  | @comment before text tokens failure hlongest _ ih =>
    obtain ⟨hline, hafter⟩ := Text.split_crlf text
    refine .comment (hlongest.of_solid_eq (Text.solid_crlf text).symm) ?_
    rwa [hline, hafter, ← Text.crlf_append]
  | @token before text lexeme kind tokens failure hlongest hne _ ih =>
    have hlongest' := hlongest.of_solid_eq (Text.solid_crlf text).symm
    have hlexeme := Text.crlf_of_notMem hlongest.isLexeme.lineFeed_notMem
    obtain ⟨rest, rfl⟩ := hlongest.isPrefix
    rw [List.drop_left, Text.crlf_append, hlexeme] at ih
    rw [Text.crlf_append, hlexeme] at hlongest' ⊢
    rw [← Location.after_crlf]
    refine .token hlongest' hne ?_
    rwa [List.drop_left]
  | @illegal before rest c hblank hnone =>
    have hfeed : c ≠ '\n' := by
      rintro rfl
      exact absurd hblank (by decide)
    rw [Text.crlf_cons hfeed, ← Location.after_crlf]
    refine .illegal hblank ?_
    intro q k hq hpre
    rw [← Text.crlf_cons hfeed] at hpre
    exact hnone q k hq ((hq.isPrefix_iff_of_solid_eq (Text.solid_crlf (c :: rest))).1 hpre)

/-! ### Lines -/

namespace Text

lemma lines_crlf (text : List Char) : lines (crlf text) = (lines text).map crlf := by
  induction text with
  | nil => rfl
  | cons c text ih =>
    by_cases hc : c = '\n'
    · subst hc
      have hreturn : lines ('\r' :: '\n' :: crlf text) = ['\r', '\n'] :: lines (crlf text) :=
        lines_cons_of_ne (by decide) (lines_lineFeed _)
      rw [crlf_lineFeed, hreturn, lines_lineFeed, List.map_cons, ih]
      rfl
    · rw [crlf_cons hc]
      cases htext : lines text with
      | nil =>
        obtain rfl := (lines_eq_nil_iff text).1 htext
        simp [lines, hc, crlf]
      | cons line others =>
        rw [htext, List.map_cons] at ih
        rw [lines_cons_of_ne hc ih, lines_cons_of_ne hc htext, List.map_cons, crlf_cons hc]

lemma trimEnd_crlf {line text : List Char} (h : line ∈ lines text) :
    trimEnd isBreak (crlf line) = trimEnd isBreak line := by
  obtain ⟨body, hbody, rfl | rfl⟩ := exists_body_of_mem_lines h
  · rw [crlf_of_notMem hbody]
  · rw [crlf_append, crlf_of_notMem hbody]
    simp [trimEnd, isBreak]

/-- The lines that are shown are the same, however they end. -/
theorem lineAt?_withReturns (source : String) (number : Nat) :
    lineAt? (withReturns source) number = lineAt? source number := by
  cases number with
  | zero => rw [lineAt?_zero, lineAt?_zero]
  | succ n =>
    rw [lineAt?_succ, lineAt?_succ, toList_withReturns, lines_crlf, List.getElem?_map,
      Option.map_map]
    apply Option.map_congr
    intro line hline
    rw [Function.comp_apply, trimEnd_crlf (List.mem_of_getElem? hline)]

lemma withoutBreak_crlf {line text : List Char} (h : line ∈ lines text) (hreturn : '\r' ∉ text) :
    withoutBreak (crlf line) = withoutBreak line := by
  have hline : '\r' ∉ line := by
    intro hmem
    apply hreturn
    rw [← flatten_lines text]
    exact List.mem_flatten_of_mem h hmem
  obtain ⟨body, hbody, rfl | rfl⟩ := exists_body_of_mem_lines h
  · rw [crlf_of_notMem hbody]
  · have hlast : body.getLast? ≠ some '\r' := by
      intro hlast
      exact hline (List.mem_append_left _ (List.mem_of_getLast? hlast))
    have hend : body ++ ['\r', '\n'] = (body ++ ['\r']) ++ ['\n'] := by simp
    rw [crlf_append, crlf_of_notMem hbody, crlf_lineFeed, crlf_nil, hend]
    simp [withoutBreak, dropLastIf, hlast]

/-- A listing shows the same lines, however they end. -/
theorem listing_withReturns {source : String} (h : '\r' ∉ source.toList) :
    listing (withReturns source) = listing source := by
  rw [listing, listing, toList_withReturns, lines_crlf, List.zipIdx_map, List.flatMap_map]
  refine congrArg String.ofList (List.flatMap_congr ?_)
  rintro ⟨line, number⟩ hmem
  have hline := List.fst_mem_of_mem_zipIdx hmem
  simp only [Prod.map_apply, id_eq, listingRow, withoutBreak_crlf hline h]

end Text

/-! ### Everything that is shown -/

/-- Line ends do not matter. If a source without carriage returns gets one in front of every line
feed, then the same tokens and the same failure are found, each line is shown as before, the listing
is the same, and so is every diagnostic, or it is missing as before. -/
theorem withReturns_invisible {source : String} (h : '\r' ∉ source.toList)
    (file? : Option String) :
    (scan (Text.withReturns source) file?).tokens = (scan source file?).tokens ∧
      (scan (Text.withReturns source) file?).failure = (scan source file?).failure ∧
      (∀ number, Text.lineAt? (Text.withReturns source) number = Text.lineAt? source number) ∧
      Text.listing (Text.withReturns source) = Text.listing source ∧
      ∀ e : Error, e.render? (Text.withReturns source) = e.render? source := by
  have hmunch := (munch_scan source file?).crlf
  rw [← Text.toList_withReturns] at hmunch
  obtain ⟨htokens, hfailure⟩ := (scan_iff_munch _ file? _ _).2 hmunch
  refine ⟨htokens, hfailure, Text.lineAt?_withReturns source, Text.listing_withReturns h, ?_⟩
  intro e
  simp only [Error.render?, Text.lineAt?_withReturns]

/-- A comment that is cut off, a pair of characters with a line feed in it, and an error below. -/
theorem withReturns_invisible_refused :
    '\r' ∉ "a // b\n=\n\n  .5 @".toList ∧
      (scan (Text.withReturns "a // b\n=\n\n  .5 @") none).tokens =
        (scan "a // b\n=\n\n  .5 @" none).tokens ∧
      Text.listing (Text.withReturns "a // b\n=\n\n  .5 @") =
        Text.listing "a // b\n=\n\n  .5 @" := by
  have hreturn : '\r' ∉ "a // b\n=\n\n  .5 @".toList := by decide
  obtain ⟨htokens, -, -, hlisting, -⟩ := withReturns_invisible hreturn none
  exact ⟨hreturn, htokens, hlisting⟩

end Lexis
