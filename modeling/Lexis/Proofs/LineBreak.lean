import Lexis.Proofs.Append

/-!
# Scanning line by line

A line feed brings a reading back to where it started: no lexeme and no comment reaches over it, and
what follows is read as a text of its own, further down. So the items of two texts with a line feed
between them are those of the one and then those of the other (`scan_append_lineFeed`).
-/

namespace Lexis

open Character

/-! ### Further down -/

/-- The same column, that many lines further down. -/
def Location.down (n : Nat) (l : Location) : Location := ⟨l.line + n, l.column⟩

/-- The same columns, that many lines further down. -/
def Span.down (n : Nat) (s : Span) : Span := { s with line := s.line + n }

/-- The same symbol, that many lines further down. -/
def Token.down (n : Nat) (t : Token) : Token := { t with span := t.span.down n }

/-- The same fault in the same file, that many lines further down. -/
def Error.down (n : Nat) (e : Error) : Error :=
  { e with position := ⟨e.position.toLocation.down n, e.position.file⟩ }

/-- Only what follows the last line feed is still open. -/
lemma Text.openLine_append_lineFeed (above text : List Char) :
    openLine (above ++ '\n' :: text) = openLine text := by
  induction text using List.reverseRecOn with
  | nil => simp
  | append_singleton text c ih =>
    rw [← List.cons_append, ← List.append_assoc]
    by_cases hc : c = '\n'
    · subst hc
      rw [openLine_concat_lineFeed, openLine_concat_lineFeed]
    · rw [openLine_concat hc, openLine_concat hc, ih]

lemma Location.after_append_lineFeed (above text : List Char) :
    after (above ++ '\n' :: text) = (after text).down (above.count '\n' + 1) := by
  have hcount : (above ++ '\n' :: text).count '\n' = text.count '\n' + (above.count '\n' + 1) := by
    rw [List.count_append, List.count_cons_self]
    omega
  rw [after, after, down, hcount, Text.openLine_append_lineFeed]
  simp only [mk.injEq, and_true]
  omega

namespace Munch

variable {file : String} {before text : List Char} {tokens : List Token} {failure : Option Error}

/-- Below a line feed a text is read as it is at the top. -/
theorem down (h : Munch file before text tokens failure) (above : List Char) :
    Munch file (above ++ '\n' :: before) text (tokens.map (Token.down (above.count '\n' + 1)))
      (failure.map (Error.down (above.count '\n' + 1))) := by
  induction h with
  | done => exact .done
  | blank hc _ ih =>
    refine .blank hc ?_
    rwa [List.append_assoc, List.cons_append]
  | comment hlongest _ ih =>
    refine .comment hlongest ?_
    rwa [List.append_assoc, List.cons_append]
  | @token before text lexeme kind tokens failure hlongest hne _ ih =>
    have hplace := Location.after_append_lineFeed above before
    have hrest : Munch file (above ++ '\n' :: before ++ lexeme) (text.drop lexeme.length)
        (tokens.map (Token.down (above.count '\n' + 1)))
        (failure.map (Error.down (above.count '\n' + 1))) := by
      rwa [List.append_assoc, List.cons_append]
    have htoken := Munch.token hlongest hne hrest
    rw [hplace] at htoken
    exact htoken
  | @illegal before rest c hblank hnone =>
    have hillegal : Munch file (above ++ '\n' :: before) (c :: rest) [] _ := .illegal hblank hnone
    rw [Location.after_append_lineFeed] at hillegal
    exact hillegal

/-! ### Over a line feed -/

/-- A text with a line feed behind it is read to its end or to its failure, as if nothing followed.
If it has not failed, the reading goes on behind the line feed. -/
theorem append_lineFeed (h : Munch file before text tokens failure) {rest : List Char}
    {others : List Token} {failure' : Option Error}
    (hrest : failure = none → Munch file (before ++ (text ++ ['\n'])) rest others failure') :
    Munch file before (text ++ '\n' :: rest) (tokens ++ if failure.isSome then [] else others)
      (failure.or failure') := by
  have hapart := Text.Apart.of_blank isBlank_lineFeed text rest
  rw [← List.append_assoc] at hrest
  refine h.append hapart (fun hnone => .blank isBlank_lineFeed (hrest hnone)) ?_
  rwa [Text.firstLine_lineFeed, Text.afterLine_lineFeed]

end Munch

/-- Scanning is a homomorphism at line feeds. If the first of two texts is refused, nothing but its
items is found; otherwise the items of the second follow, as many lines further down as the first
text and the line feed between them take. -/
theorem scan_append_lineFeed (a b : String) (file? : Option String) :
    ((scan (a ++ "\n" ++ b) file?).tokens, (scan (a ++ "\n" ++ b) file?).failure) =
      match (scan a file?).failure with
      | some e => ((scan a file?).tokens, some e)
      | none   =>
        ((scan a file?).tokens ++
            (scan b file?).tokens.map (Token.down (1 + a.toList.count '\n')),
          (scan b file?).failure.map (Error.down (1 + a.toList.count '\n'))) := by
  have hbelow := (munch_scan b file?).down a.toList
  have hmunch := (munch_scan a file?).append_lineFeed (fun _ => hbelow)
  have htext : (a ++ "\n" ++ b).toList = a.toList ++ '\n' :: b.toList := by
    simp [String.toList_append]
  rw [← htext] at hmunch
  obtain ⟨htokens, hfailure⟩ := (scan_iff_munch _ file? _ _).2 hmunch
  rw [htokens, hfailure, Nat.add_comm 1]
  cases (scan a file?).failure with
  | some e => simp
  | none   => simp

end Lexis
