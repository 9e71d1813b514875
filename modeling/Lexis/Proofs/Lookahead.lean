import Lexis.Proofs.Offset

/-!
# How far a reading looks ahead

Two texts with a common head are read alike up to its last character (`Munch.exists_agrees`). A
lexeme that ends in front of that character is the longest one for both: a longer one, cut short one
character behind the end of the first, would still be a lexeme, and it would stand in the head. For
the same reason a character that begins no lexeme is illegal for both if there is one more character
in the head. Where neither is decided in the head, nothing that follows ends in front of its last
character (`Munch.Late`).
-/

namespace Lexis

open Character

/-! ### What is decided in a head -/

lemma isPrefix_of_append {q p x : List Char} (hpre : q <+: p ++ x) (hle : q.length ≤ p.length) :
    q <+: p :=
  List.prefix_of_prefix_length_le hpre (List.prefix_append p x) hle

variable {p x x' : List Char}

/-- A lexeme that does not reach the end of a head is the longest one whatever follows. -/
lemma Longest.of_append {lexeme : List Char} {kind : Kind} (h : Longest lexeme kind (p ++ x))
    (hlt : lexeme.length < p.length) (x' : List Char) : Longest lexeme kind (p ++ x') where
  isLexeme := h.isLexeme
  isPrefix := (isPrefix_of_append h.isPrefix hlt.le).trans (List.prefix_append p x')
  length_le := by
    intro q k hq hpre
    by_contra hlonger
    have hpos := List.length_pos_iff.2 h.isLexeme.ne_nil
    -- one character more than the longest lexeme is in the head
    obtain ⟨k', hcut⟩ := hq.take (n := lexeme.length + 1) (by omega)
    have hlength : (q.take (lexeme.length + 1)).length = lexeme.length + 1 := by
      rw [List.length_take]
      omega
    have hhead : q.take (lexeme.length + 1) <+: p :=
      isPrefix_of_append ((List.take_prefix _ q).trans hpre) (by omega)
    have hle := h.length_le _ _ hcut (hhead.trans (List.prefix_append p x))
    omega

/-- If two characters are there, then whatever follows has no say in whether a lexeme begins. -/
lemma Lexeme.exists_of_append {q : List Char} {kind : Kind} (h : Lexeme q kind)
    (hpre : q <+: p ++ x') (hlength : 2 ≤ p.length) (x : List Char) :
    ∃ q' kind', Lexeme q' kind' ∧ q' <+: p ++ x := by
  obtain ⟨kind', hcut⟩ := h.take (n := 2) le_rfl
  have hhead : q.take 2 <+: p :=
    isPrefix_of_append ((List.take_prefix 2 q).trans hpre)
      (Nat.le_trans (List.length_take_le 2 q) hlength)
  exact ⟨q.take 2, kind', hcut, hhead.trans (List.prefix_append p x)⟩

/-- A comment that opens in a head opens whatever follows. -/
lemma longest_comment_of_append (h : Longest ['/', '/'] .comment (p ++ x))
    (hlength : 2 ≤ p.length) (x' : List Char) : Longest ['/', '/'] .comment (p ++ x') := by
  obtain ⟨rest, rfl⟩ := isPrefix_of_append h.isPrefix hlength
  rw [List.append_assoc]
  exact longest_comment _

namespace Munch

variable {file : String} {before text : List Char} {tokens tokens' : List Token}
  {failure failure' : Option Error}

/-- Behind a line nothing is found in front of its end. -/
lemma late_afterLine
    (h : Munch file (before ++ Text.firstLine text) (Text.afterLine text) tokens failure) :
    Late (before ++ text) (before.length + (Text.firstLine text).length) tokens failure := by
  have hlate := h.late
  rwa [List.append_assoc, Text.firstLine_append_afterLine, List.length_append] at hlate

/-- Behind a line that goes on behind a head, nothing is found in front of the head's end. -/
lemma late_of_notMem (hfeed : '\n' ∉ p)
    (h : Munch file (before ++ Text.firstLine (p ++ x)) (Text.afterLine (p ++ x)) tokens failure) :
    Late (before ++ p ++ x) ((before ++ p).length - 1) tokens failure := by
  have hlate := h.late_afterLine
  rw [(Text.split_append_of_notMem hfeed x).1, ← List.append_assoc, List.length_append] at hlate
  refine hlate.mono ?_
  rw [List.length_append]
  omega

/-- In front of the end of a lexeme nothing is found. -/
lemma late_of_lexeme {kind : Kind} (hlexeme : Lexeme p kind)
    (h : Munch file before (p ++ x) tokens failure) :
    Late (before ++ p ++ x) ((before ++ p).length - 1) tokens failure := by
  have hpre := List.prefix_append p x
  rw [List.append_assoc, List.length_append]
  generalize p ++ x = text at h hpre
  cases h with
  | done => exact absurd (List.prefix_nil.1 hpre) hlexeme.ne_nil
  | blank hc _ =>
    obtain ⟨tail, rfl, -⟩ := hlexeme.exists_of_isPrefix hpre
    simp [hlexeme.isBlank_of_mem List.mem_cons_self] at hc
  | comment hlongest h =>
    have hle : p.length ≤ 2 := hlongest.length_le _ _ hlexeme hpre
    have hfirst : 2 ≤ (Text.firstLine text).length := by
      obtain ⟨rest, rfl⟩ := hlongest.isPrefix
      simp [Text.firstLine_cons]
    exact h.late_afterLine.mono (by omega)
  | token hlongest _ h =>
    have hle := hlongest.length_le _ _ hlexeme hpre
    exact (h.late.cons hlongest _).mono (by omega)
  | illegal _ hnone => exact absurd hpre (hnone p kind hlexeme)

/-! ### Readings of a common head -/

/-- Two readings of texts that begin with `head`: they agree up to the last character of `head`, and
what follows the first tokens comes to the same or is found from that character on. -/
inductive Agrees (head x x' : List Char) :
    List Token → Option Error → List Token → Option Error → Prop where
  | same {failure : Option Error} : Agrees head x x' [] failure [] failure
  | late {tokens tokens' : List Token} {failure failure' : Option Error}
      (h : Late (head ++ x) (head.length - 1) tokens failure)
      (h' : Late (head ++ x') (head.length - 1) tokens' failure') :
      Agrees head x x' tokens failure tokens' failure'
  | token {token : Token} {tokens tokens' : List Token} {failure failure' : Option Error}
      (hnear : ∀ tail, token.lastOffset (head ++ tail) + 2 ≤ head.length)
      (h : Agrees head x x' tokens failure tokens' failure') :
      Agrees head x x' (token :: tokens) failure (token :: tokens') failure'

/-- A lexeme that ends in front of the last character of the head is a token of both readings. -/
lemma Agrees.cons {lexeme rest : List Char} (hne : lexeme ≠ []) (hrest : rest ≠ [])
    (h : Agrees (before ++ lexeme ++ rest) x x' tokens failure tokens' failure') (symbol : Symbol) :
    Agrees (before ++ (lexeme ++ rest)) x x'
      (⟨symbol, Lexer.spanAt (Location.after before) lexeme⟩ :: tokens) failure
      (⟨symbol, Lexer.spanAt (Location.after before) lexeme⟩ :: tokens') failure' := by
  rw [List.append_assoc] at h
  refine .token ?_ h
  intro tail
  have hlast := Token.lastOffset_spanAt before hne (lexeme ++ rest ++ tail) symbol
  have hpos := List.length_pos_iff.2 hrest
  rw [List.append_assoc, List.length_append, List.length_append]
  omega

/-- If the head has one character at most, then there is nothing in front of its last one. -/
lemma exists_agrees_of_short (h : Munch file before (p ++ x) tokens failure) (hshort : p.length < 2)
    (x' : List Char) :
    ∃ tokens' failure', Munch file before (p ++ x') tokens' failure' ∧
      Agrees (before ++ p) x x' tokens failure tokens' failure' := by
  obtain ⟨tokens', failure', h'⟩ := exists_munch file before (p ++ x')
  have hlate := h.late
  have hlate' := h'.late
  have hhead : (before ++ p).length - 1 ≤ before.length := by
    rw [List.length_append]
    omega
  rw [← List.append_assoc] at hlate hlate'
  exact ⟨tokens', failure', h', .late (hlate.mono hhead) (hlate'.mono hhead)⟩

/-- If the head is a lexeme, then there is nothing in front of its last character. -/
lemma exists_agrees_of_lexeme {kind : Kind} (h : Munch file before (p ++ x) tokens failure)
    (hlexeme : Lexeme p kind) (x' : List Char) :
    ∃ tokens' failure', Munch file before (p ++ x') tokens' failure' ∧
      Agrees (before ++ p) x x' tokens failure tokens' failure' := by
  obtain ⟨tokens', failure', h'⟩ := exists_munch file before (p ++ x')
  exact ⟨tokens', failure', h', .late (h.late_of_lexeme hlexeme) (h'.late_of_lexeme hlexeme)⟩

/-- Texts with a common head are read alike up to the last character of the head. -/
theorem exists_agrees (h : Munch file before (p ++ x) tokens failure) (x' : List Char) :
    ∃ tokens' failure', Munch file before (p ++ x') tokens' failure' ∧
      Agrees (before ++ p) x x' tokens failure tokens' failure' := by
  generalize htext : p ++ x = text at h
  induction h generalizing p with
  | done =>
    obtain ⟨rfl, rfl⟩ := List.append_eq_nil_iff.1 htext
    exact exists_agrees_of_short .done (by decide) x'
  | @blank before rest c tokens failure hc h ih =>
    cases p with
    | nil =>
      obtain rfl : x = c :: rest := htext
      exact exists_agrees_of_short (.blank hc h) (by decide) x'
    | cons d p =>
      obtain ⟨rfl, rfl⟩ := List.cons.inj htext
      obtain ⟨tokens', failure', h', hagrees⟩ := ih rfl
      rw [List.append_assoc] at hagrees
      exact ⟨tokens', failure', .blank hc h', hagrees⟩
  | @comment before text tokens failure hlongest h ih =>
    subst htext
    rcases Nat.lt_or_ge p.length 2 with hshort | hlength
    · exact exists_agrees_of_short (.comment hlongest h) hshort x'
    · have hlongest' := longest_comment_of_append hlongest hlength x'
      by_cases hfeed : '\n' ∈ p
      · -- the comment ends in the head
        obtain ⟨hfirst, hafter⟩ := Text.split_append_of_mem hfeed x
        obtain ⟨hfirst', hafter'⟩ := Text.split_append_of_mem hfeed x'
        obtain ⟨tokens', failure', h', hagrees⟩ := ih hafter.symm
        rw [hfirst, List.append_assoc, Text.firstLine_append_afterLine] at hagrees
        rw [hfirst, ← hfirst', ← hafter'] at h'
        exact ⟨tokens', failure', .comment hlongest' h', hagrees⟩
      · -- the comment goes on behind the head
        obtain ⟨tokens', failure', h'⟩ := exists_munch file
          (before ++ Text.firstLine (p ++ x')) (Text.afterLine (p ++ x'))
        exact ⟨tokens', failure', .comment hlongest' h',
          .late (h.late_of_notMem hfeed) (h'.late_of_notMem hfeed)⟩
  | @token before text lexeme kind tokens failure hlongest hne h ih =>
    subst htext
    rcases Nat.lt_or_ge lexeme.length p.length with hlt | hle
    · -- the lexeme ends in the head, in front of its last character
      have hlongest' := hlongest.of_append hlt x'
      obtain ⟨rest, rfl⟩ := isPrefix_of_append hlongest.isPrefix hlt.le
      have hrest : rest ≠ [] := by
        rintro rfl
        simp at hlt
      have hdrop : ∀ tail, (lexeme ++ rest ++ tail).drop lexeme.length = rest ++ tail := by
        intro tail
        rw [List.append_assoc, List.drop_left]
      obtain ⟨tokens', failure', h', hagrees⟩ := ih (hdrop x).symm
      rw [← hdrop x'] at h'
      exact ⟨_, failure', .token hlongest' hne h', hagrees.cons hlongest.isLexeme.ne_nil hrest _⟩
    · rcases Nat.lt_or_ge p.length 2 with hshort | hlength
      · exact exists_agrees_of_short (.token hlongest hne h) hshort x'
      · -- the head is a lexeme, so neither text has a shorter one
        have hpre : p <+: lexeme :=
          List.prefix_of_prefix_length_le (List.prefix_append p x) hlongest.isPrefix hle
        obtain ⟨kind', hlexeme⟩ := hlongest.isLexeme.of_isPrefix hpre hlength
        exact exists_agrees_of_lexeme (.token hlongest hne h) hlexeme x'
  | @illegal before rest c hblank hnone =>
    rcases Nat.lt_or_ge p.length 2 with hshort | hlength
    · exact exists_agrees_of_short (htext ▸ .illegal hblank hnone) hshort x'
    · obtain ⟨d, p, rfl⟩ := List.exists_cons_of_length_pos (Nat.lt_of_lt_of_le Nat.two_pos hlength)
      obtain ⟨rfl, rfl⟩ := List.cons.inj htext
      refine ⟨[], _, .illegal hblank ?_, .same⟩
      intro q k hq hpre
      obtain ⟨q', k', hq', hpre'⟩ := hq.exists_of_append hpre hlength x
      exact hnone q' k' hq' hpre'

namespace Agrees

variable {head : List Char}

/-- The tokens in front of the last character of the head are the same, and they are the first. -/
lemma filter_eq (h : Agrees head x x' tokens failure tokens' failure') :
    tokens.filter (fun token => token.lastOffset (head ++ x) + 2 ≤ head.length) =
        tokens'.filter (fun token => token.lastOffset (head ++ x') + 2 ≤ head.length) ∧
      tokens.filter (fun token => token.lastOffset (head ++ x) + 2 ≤ head.length) <+: tokens' := by
  induction h with
  | same => simp
  | late h h' =>
    have hnone : ∀ {y others failure}, Late (head ++ y) (head.length - 1) others failure →
        others.filter (fun token => token.lastOffset (head ++ y) + 2 ≤ head.length) = [] := by
      intro y others failure hlate
      refine List.filter_eq_nil_iff.2 fun token htoken => ?_
      have hle := hlate.le_lastOffset token htoken
      simp only [decide_eq_true_eq]
      omega
    rw [hnone h, hnone h']
    exact ⟨rfl, List.nil_prefix⟩
  | token hnear _ ih =>
    rw [List.filter_cons_of_pos (by simpa using hnear x),
      List.filter_cons_of_pos (by simpa using hnear x'), ih.1]
    exact ⟨rfl, List.cons_prefix_cons.2 ⟨rfl, ih.1 ▸ ih.2⟩⟩

/-- An error in front of the last character of the head is an error of both readings. -/
lemma failure_eq (h : Agrees head x x' tokens failure tokens' failure') {e : Error}
    (he : failure = some e)
    (hnear : Text.offset (head ++ x) e.position.toLocation + 2 ≤ head.length) :
    tokens' = tokens ∧ failure' = some e := by
  induction h with
  | same => exact ⟨rfl, he⟩
  | late h _ =>
    have hle := h.le_offset e he
    omega
  | token _ _ ih =>
    obtain ⟨rfl, rfl⟩ := ih he
    exact ⟨rfl, rfl⟩

end Agrees

end Munch

/-! ### Sources with a common head -/

/-- In front of the end of a text are all of its tokens. -/
lemma Munch.filter_eq_self {file : String} {before text : List Char} {tokens : List Token}
    {failure : Option Error} (h : Munch file before text tokens failure) {m : Nat}
    (hlt : (before ++ text).length < m) :
    tokens.filter (fun token => token.lastOffset (before ++ text) + 2 ≤ m) = tokens := by
  apply List.filter_eq_self.2
  intro token htoken
  have hlast := h.lastOffset_lt token htoken
  simp only [decide_eq_true_eq]
  omega

/-- If two sources begin alike, then so do their readings, but for the last common character. The
tokens that end in front of it are the same ones, and the first ones; if a source fails in front of
it, then the other has the same tokens and fails there, too. -/
theorem scan_lookahead {source source' : String} {m : Nat}
    (h : source.toList.take m = source'.toList.take m) (file? : Option String) :
    (scan source file?).tokens.filter (fun token => token.lastOffset source.toList + 2 ≤ m) =
        (scan source' file?).tokens.filter (fun token => token.lastOffset source'.toList + 2 ≤ m) ∧
      (scan source file?).tokens.filter (fun token => token.lastOffset source.toList + 2 ≤ m) <+:
        (scan source' file?).tokens ∧
      ∀ e, (scan source file?).failure = some e →
        Text.offset source.toList e.position.toLocation + 2 ≤ m →
        (scan source' file?).tokens = (scan source file?).tokens ∧
          (scan source' file?).failure = some e := by
  have hmunch := munch_scan source file?
  rcases Nat.lt_or_ge source.toList.length m with hlt | hle
  · -- all of the source is common, so the other one is the same
    have hlength := congrArg List.length h
    rw [List.length_take, List.length_take] at hlength
    rw [List.take_of_length_le hlt.le, List.take_of_length_le (by omega)] at h
    obtain rfl := String.toList_injective h
    have hall := hmunch.filter_eq_self hlt
    rw [List.nil_append] at hall
    rw [hall]
    exact ⟨rfl, List.prefix_rfl, fun e he _ => ⟨rfl, he⟩⟩
  · have hhead : (source.toList.take m).length = m := List.length_take_of_le hle
    have hsource := List.take_append_drop m source.toList
    have hsource' := List.take_append_drop m source'.toList
    rw [← h] at hsource'
    rw [← hsource] at hmunch
    obtain ⟨tokens', failure', hmunch', hagrees⟩ := hmunch.exists_agrees (source'.toList.drop m)
    rw [List.nil_append] at hagrees
    rw [hsource'] at hmunch'
    obtain ⟨rfl, rfl⟩ := hmunch'.unique (munch_scan source' file?)
    obtain ⟨hfilter, hprefix⟩ := hagrees.filter_eq
    rw [hhead, hsource, hsource'] at hfilter
    rw [hhead, hsource] at hprefix
    refine ⟨hfilter, hprefix, ?_⟩
    intro e he hnear
    apply hagrees.failure_eq he
    rwa [hhead, hsource]

/-- A numeral and an illegal character, with one character behind it before the sources part. -/
theorem scan_lookahead_illegal :
    let e : Error := ⟨.illegalLexeme "@", ⟨⟨2, 3⟩, defaultFile⟩⟩
    "a\n.5e@ /* 1".toList.take 7 = "a\n.5e@ //x".toList.take 7 ∧
      (scan "a\n.5e@ /* 1" none).failure = some e ∧
      Text.offset "a\n.5e@ /* 1".toList e.position.toLocation + 2 ≤ 7 ∧
      (scan "a\n.5e@ //x" none).tokens = (scan "a\n.5e@ /* 1" none).tokens ∧
      (scan "a\n.5e@ //x" none).failure = some e := by
  have hhead : "a\n.5e@ /* 1".toList.take 7 = "a\n.5e@ //x".toList.take 7 := by decide
  have he : (scan "a\n.5e@ /* 1" none).failure =
      some ⟨.illegalLexeme "@", ⟨⟨2, 3⟩, defaultFile⟩⟩ := by
    decide +kernel
  have hnear : Text.offset "a\n.5e@ /* 1".toList ⟨2, 3⟩ + 2 ≤ 7 := by decide
  obtain ⟨-, -, hfailure⟩ := scan_lookahead hhead none
  exact ⟨hhead, he, hnear, hfailure _ he hnear⟩

end Lexis
