import Mathlib.Data.List.Forall2
import Lexis.Proofs.Append

/-!
# What comments and blanks hold

A comment and a blank fill the rest of a line: no place is counted in it, because the line feed
behind it leads to the same place as ever. So a text in front of them is read as if only the line
feed followed (`Munch.append_filler`), be it complete or not, and a comment may say anything. It may
be a blank as well, unless the text ends with a slash, which would open the comment one character
earlier (`items_comment`).

Within a line all blanks are the same. A text is read as the one that has a space for each of them
(`Munch.evened`).
-/

namespace Lexis

open Character

/-- What is found in a source: the tokens, and the error that ended the stream if one did. -/
def Drain.items (d : Drain) : List Token × Option Error := (d.tokens, d.failure)

lemma items_of_munch {source : String} {file? : Option String} {tokens : List Token}
    {failure : Option Error}
    (h : Munch (file?.getD defaultFile) [] source.toList tokens failure) :
    (scan source file?).items = (tokens, failure) := by
  obtain ⟨htokens, hfailure⟩ := (munch_scan source file?).unique h
  rw [Drain.items, htokens, hfailure]

/-! ### The rest of a line -/

/-- There is nothing more in this line. -/
def Text.EndsLine (rest : List Char) : Prop := ∀ c ∈ rest.head?, c = '\n'

namespace Munch

variable {file : String} {before before' text head rest : List Char} {tokens others : List Token}
  {failure failure' : Option Error}

/-- The end of a line is dropped. -/
lemma of_endsLine (hrest : Text.EndsLine rest)
    (h : Munch file (before ++ Text.firstLine rest) (Text.afterLine rest) tokens failure) :
    Munch file before rest tokens failure := by
  cases rest with
  | nil => simpa [Text.firstLine, Text.afterLine] using h
  | cons c rest =>
    obtain rfl : c = '\n' := hrest c rfl
    exact .blank isBlank_lineFeed (by simpa using h)

/-- Behind the end of a line it does not matter what else was in the line. -/
lemma fill (hrest : Text.EndsLine rest) (hhead : '\n' ∉ head)
    (h : Munch file (before ++ Text.firstLine rest) (Text.afterLine rest) tokens failure) :
    Munch file (before ++ head ++ Text.firstLine rest) (Text.afterLine rest) tokens failure := by
  cases rest with
  | nil =>
    obtain ⟨rfl, rfl⟩ := h.eq_of_nil
    exact .done
  | cons c rest =>
    obtain rfl : c = '\n' := hrest c rfl
    refine h.of_after_eq ?_
    rw [Text.firstLine_lineFeed, ← Location.advance_after,
      ← Location.advance_after (before ++ head)]
    simp [Location.after, List.count_eq_zero_of_not_mem hhead]

/-- A text with something behind it that fills the line is read as if the line ended there. -/
lemma append_filler (head : List Char) (h : Munch file before text tokens failure)
    (hapart : Text.Apart text (head ++ rest)) (hhead : '\n' ∉ head) (hrest : Text.EndsLine rest)
    (hdrop : ∀ {before : List Char},
      Munch file (before ++ head ++ Text.firstLine rest) (Text.afterLine rest) others failure' →
        Munch file before (head ++ rest) others failure')
    (hothers : Munch file (before ++ text ++ Text.firstLine rest) (Text.afterLine rest) others
      failure') :
    Munch file before (text ++ (head ++ rest)) (tokens ++ if failure.isSome then [] else others)
      (failure.or failure') := by
  obtain ⟨hfirst, hafter⟩ := Text.split_append_of_notMem hhead rest
  have hbehind := hothers.fill hrest hhead
  apply h.append hapart
  · intro
    exact hdrop hbehind
  · intro
    rwa [hfirst, hafter, ← List.append_assoc]

lemma append_blank {c : Char} (h : Munch file before text tokens failure)
    (hblank : isBlank c = true) (hc : c ≠ '\n') (hrest : Text.EndsLine rest)
    (hothers : Munch file (before ++ text ++ Text.firstLine rest) (Text.afterLine rest) others
      failure') :
    Munch file before (text ++ c :: rest) (tokens ++ if failure.isSome then [] else others)
      (failure.or failure') := by
  apply append_filler [c] h (.of_blank hblank text rest) (by simpa using Ne.symm hc) hrest
  · intro before h
    exact .blank hblank (h.of_endsLine hrest)
  · exact hothers

lemma append_comment {body : List Char} (h : Munch file before text tokens failure)
    (hslash : text.getLast? ≠ some '/') (hbody : '\n' ∉ body) (hrest : Text.EndsLine rest)
    (hothers : Munch file (before ++ text ++ Text.firstLine rest) (Text.afterLine rest) others
      failure') :
    Munch file before (text ++ '/' :: '/' :: (body ++ rest))
      (tokens ++ if failure.isSome then [] else others) (failure.or failure') := by
  have hhead : '\n' ∉ '/' :: '/' :: body := by simpa using hbody
  obtain ⟨hfirst, hafter⟩ := Text.split_append_of_notMem hhead rest
  apply append_filler ('/' :: '/' :: body) h (.of_slash hslash _) hhead hrest
  · intro before h
    refine .comment (longest_comment _) ?_
    rwa [hfirst, hafter, ← List.append_assoc]
  · exact hothers

end Munch

/-- Where no slash precedes it, a comment is no more than a blank. -/
lemma items_comment {text body rest : List Char} (hslash : text.getLast? ≠ some '/')
    (hbody : '\n' ∉ body) (hrest : Text.EndsLine rest) (file? : Option String) :
    (scan (String.ofList (text ++ '/' :: '/' :: (body ++ rest))) file?).items =
      (scan (String.ofList (text ++ ' ' :: rest)) file?).items := by
  obtain ⟨tokens, failure, htext⟩ := exists_munch (file?.getD defaultFile) [] text
  obtain ⟨others, failure', hothers⟩ :=
    exists_munch (file?.getD defaultFile) ([] ++ text ++ Text.firstLine rest) (Text.afterLine rest)
  have hcomment := htext.append_comment hslash hbody hrest hothers
  have hblank := htext.append_blank (c := ' ') (by decide) (by decide) hrest hothers
  rw [items_of_munch (by rwa [String.toList_ofList]),
    items_of_munch (by rwa [String.toList_ofList])]

/-- Slashes at the end of a text belong to the comment that follows. -/
lemma exists_slashes (text : List Char) :
    ∃ front slashes : List Char, front.getLast? ≠ some '/' ∧ '\n' ∉ slashes ∧
      ∀ rest, text ++ '/' :: '/' :: rest = front ++ '/' :: '/' :: (slashes ++ rest) := by
  induction text using List.reverseRecOn with
  | nil => exact ⟨[], [], by simp, by simp, fun _ => rfl⟩
  | append_singleton text c ih =>
    by_cases hc : c = '/'
    · subst hc
      obtain ⟨front, slashes, hfront, hslashes, heq⟩ := ih
      refine ⟨front, slashes ++ ['/'], hfront, by simpa using hslashes, fun rest => ?_⟩
      simpa using heq ('/' :: rest)
    · exact ⟨text ++ [c], [], by simpa using hc, by simp, fun _ => rfl⟩

/-- A comment may say anything. -/
lemma items_comment_congr {body body' rest : List Char} (text : List Char) (hbody : '\n' ∉ body)
    (hbody' : '\n' ∉ body') (hrest : Text.EndsLine rest) (file? : Option String) :
    (scan (String.ofList (text ++ '/' :: '/' :: (body ++ rest))) file?).items =
      (scan (String.ofList (text ++ '/' :: '/' :: (body' ++ rest))) file?).items := by
  obtain ⟨front, slashes, hfront, hslashes, heq⟩ := exists_slashes text
  have hlonger : '\n' ∉ slashes ++ body := by simp [hslashes, hbody]
  have hlonger' : '\n' ∉ slashes ++ body' := by simp [hslashes, hbody']
  rw [heq, heq, ← List.append_assoc slashes, ← List.append_assoc slashes,
    items_comment hfront hlonger hrest, items_comment hfront hlonger' hrest]

/-! ### Blanks of a line -/

/-- Whether a character is a blank that ends no line. -/
def Character.isSpacing (c : Char) : Bool := isBlank c && c != '\n'

/-- A space for every blank that ends no line. -/
def Character.even (c : Char) : Char := if isSpacing c then ' ' else c

lemma Character.even_of_isSpacing {c : Char} (h : isSpacing c = true) : even c = ' ' := by
  simp [even, h]

lemma Character.even_of_isBlank {c : Char} (h : isBlank c = false) : even c = c := by
  simp [even, isSpacing, h]

@[simp] lemma Character.isBlank_even (c : Char) : isBlank (even c) = isBlank c := by
  unfold even
  split
  · next h =>
    have hblank : isBlank c = true := (Bool.and_eq_true_iff.1 h).1
    rw [hblank]
    decide
  · rfl

@[simp] lemma Character.even_eq_lineFeed_iff (c : Char) : even c = '\n' ↔ c = '\n' := by
  unfold even
  split
  · next h =>
    have hne : c ≠ '\n' := by simpa using (Bool.and_eq_true_iff.1 h).2
    simp [hne]
  · rfl

namespace Text

/-- The text with a space for every blank that ends no line. -/
def evened (text : List Char) : List Char := text.map even

@[simp] lemma evened_cons (c : Char) (rest : List Char) :
    evened (c :: rest) = even c :: evened rest := rfl

@[simp] lemma evened_append (text rest : List Char) :
    evened (text ++ rest) = evened text ++ evened rest := List.map_append

/-- Texts that differ in such blanks only are the same with spaces in their place. -/
lemma evened_eq_of_forall₂ {text text' : List Char}
    (h : List.Forall₂ (fun c d => c = d ∨ isSpacing c = true ∧ isSpacing d = true) text text') :
    evened text = evened text' := by
  induction h with
  | nil => rfl
  | cons hcd _ ih =>
    rw [evened_cons, evened_cons]
    refine congrArg₂ List.cons ?_ ih
    rcases hcd with rfl | ⟨hc, hd⟩
    · rfl
    · rw [even_of_isSpacing hc, even_of_isSpacing hd]

lemma evened_drop (n : Nat) (text : List Char) : evened (text.drop n) = (evened text).drop n :=
  List.map_drop

lemma evened_of_solid {text : List Char} (h : ∀ c ∈ text, isBlank c = false) :
    evened text = text := by
  conv_rhs => rw [← List.map_id text]
  exact List.map_congr_left fun c hc => even_of_isBlank (h c hc)

lemma split_evened (text : List Char) :
    firstLine (evened text) = evened (firstLine text) ∧
      afterLine (evened text) = evened (afterLine text) := by
  have htest : ((· != '\n') ∘ even : Char → Bool) = (· != '\n') := by
    funext c
    rw [Bool.eq_iff_iff]
    simp
  simp only [firstLine, afterLine, evened, List.takeWhile_map, List.dropWhile_map, htest,
    List.map_append, List.map_take, List.map_drop, and_self]

lemma solid_evened (text : List Char) : solid (evened text) = solid text := by
  have htest : ((fun c => !isBlank c) ∘ even : Char → Bool) = fun c => !isBlank c := by
    funext c
    simp
  rw [solid, evened, List.takeWhile_map, htest]
  exact evened_of_solid fun c hc => by simpa using List.mem_takeWhile_imp hc

end Text

lemma Location.advance_evened (l : Location) (text : List Char) :
    l.advance (Text.evened text) = l.advance text := by
  induction text generalizing l with
  | nil            => rfl
  | cons c text ih =>
    have hnext : l.next (even c) = l.next c := by simp [next]
    rw [Text.evened_cons, advance_cons, advance_cons, hnext, ih]

lemma Location.after_evened (text : List Char) : after (Text.evened text) = after text := by
  rw [← advance_start, advance_evened, advance_start]

/-- With spaces for other blanks a text is read as before. -/
theorem Munch.evened {file : String} {before text : List Char} {tokens : List Token}
    {failure : Option Error} (h : Munch file before text tokens failure) :
    Munch file (Text.evened before) (Text.evened text) tokens failure := by
  induction h with
  | done => exact .done
  | blank hc _ ih =>
    rw [Text.evened_append] at ih
    exact .blank (by simpa using hc) ih
  | @comment before text tokens failure hlongest _ ih =>
    obtain ⟨hfirst, hafter⟩ := Text.split_evened text
    refine .comment (hlongest.of_solid_eq (Text.solid_evened text).symm) ?_
    rwa [hfirst, hafter, ← Text.evened_append]
  | @token before text lexeme kind tokens failure hlongest hne _ ih =>
    have hlexeme := Text.evened_of_solid fun c => hlongest.isLexeme.isBlank_of_mem
    have hlongest' := hlongest.of_solid_eq (Text.solid_evened text).symm
    rw [Text.evened_append, hlexeme, Text.evened_drop] at ih
    rw [← Location.after_evened]
    exact .token hlongest' hne ih
  | @illegal before rest c hblank hnone =>
    have hsolid := Text.solid_evened (c :: rest)
    rw [Text.evened_cons, even_of_isBlank hblank] at hsolid ⊢
    rw [← Location.after_evened]
    refine .illegal hblank ?_
    intro q k hq hpre
    exact hnone q k hq ((hq.isPrefix_iff_of_solid_eq hsolid).1 hpre)

/-- Blanks within lines may be exchanged. -/
lemma items_eq_of_forall₂ {source source' : String}
    (h : List.Forall₂ (fun c d => c = d ∨ isSpacing c = true ∧ isSpacing d = true) source.toList
      source'.toList) (file? : Option String) :
    (scan source file?).items = (scan source' file?).items := by
  have hsource := (munch_scan source file?).evened
  have hsource' := (munch_scan source' file?).evened
  rw [Text.evened_eq_of_forall₂ h] at hsource
  obtain ⟨htokens, hfailure⟩ := hsource.unique hsource'
  rw [Drain.items, Drain.items, htokens, hfailure]

/-! ### What does not matter -/

/-- What comments and blanks hold does not matter. If a comment runs to the end of its line, what it
says has no say in what is found, whatever stands in front of it; if no slash does, a space in its
place gives the same. Nor does it matter which blanks stand within the lines of a source. -/
theorem scan_filler {p c c' r : String} (hc : '\n' ∉ c.toList) (hc' : '\n' ∉ c'.toList)
    (hr : Text.EndsLine r.toList) (file? : Option String) :
    (scan (p ++ "//" ++ c ++ r) file?).items = (scan (p ++ "//" ++ c' ++ r) file?).items ∧
      (p.toList.getLast? ≠ some '/' →
        (scan (p ++ "//" ++ c ++ r) file?).items = (scan (p ++ " " ++ r) file?).items) ∧
      ∀ source source' : String,
        List.Forall₂ (fun a b => a = b ∨ isSpacing a = true ∧ isSpacing b = true) source.toList
          source'.toList →
        (scan source file?).items = (scan source' file?).items := by
  have hcomment : ∀ body : String, p ++ "//" ++ body ++ r =
      String.ofList (p.toList ++ '/' :: '/' :: (body.toList ++ r.toList)) := by
    intro body
    apply String.toList_injective
    simp [String.toList_append]
  have hblank : p ++ " " ++ r = String.ofList (p.toList ++ ' ' :: r.toList) := by
    apply String.toList_injective
    simp [String.toList_append]
  rw [hcomment, hcomment, hblank]
  refine ⟨items_comment_congr p.toList hc hc' hr file?, ?_, ?_⟩
  · intro hslash
    exact items_comment hslash hc hr file?
  · intro source source' h
    exact items_eq_of_forall₂ h file?

/-- A comment behind a numeral without the digits of its exponent, a comment behind a slash, and
blanks of several sorts. -/
theorem scan_filler_exponent :
    '\n' ∉ " !\t".toList ∧ Text.EndsLine "\n+ 2".toList ∧ "a = 1e".toList.getLast? ≠ some '/' ∧
      (scan ("a = 1e" ++ "//" ++ " !\t" ++ "\n+ 2") none).items =
        (scan ("a = 1e" ++ " " ++ "\n+ 2") none).items ∧
      (scan ("a /" ++ "//" ++ " !\t" ++ "\n+ 2") none).items =
        (scan ("a /" ++ "//" ++ "/" ++ "\n+ 2") none).items ∧
      (scan "a\t// \n" none).items = (scan "a\r//\t\n" none).items := by
  have hc : '\n' ∉ " !\t".toList := by decide
  have hc' : '\n' ∉ "/".toList := by decide
  have hr : Text.EndsLine "\n+ 2".toList := by simp [Text.EndsLine]
  have hslash : "a = 1e".toList.getLast? ≠ some '/' := by decide
  have hblanks : List.Forall₂ (fun c d => c = d ∨ isSpacing c = true ∧ isSpacing d = true)
      "a\t// \n".toList "a\r//\t\n".toList :=
    .cons (Or.inl rfl) (.cons (Or.inr (by decide)) (.cons (Or.inl rfl) (.cons (Or.inl rfl)
      (.cons (Or.inr (by decide)) (.cons (Or.inl rfl) .nil)))))
  obtain ⟨-, hblank, hexchange⟩ := scan_filler (p := "a = 1e") hc hc' hr none
  obtain ⟨hcomment, -, -⟩ := scan_filler (p := "a /") hc hc' hr none
  exact ⟨hc, hr, hslash, hblank hslash, hcomment, hexchange _ _ hblanks⟩

end Lexis
