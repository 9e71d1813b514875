import Lexis.Lexer
import Lexis.Proofs.Lexeme

/-!
# Tables that lexers write to

A table is consulted for two things: whether a text is a mark, and what kind a lexeme has. A table
*knows the marks* if it answers the first question as the seeded table does; on such a table a text
is cut in the same places. A table is *lexical* if it has the fixed vocabulary and every entry is a
lexeme under its own kind. The seeded table is lexical, lexers keep it so, and all lexical tables
are the same to a lexer (`Lexer.next_of_lexical`, `Lexer.drain_of_lexical`).
-/

namespace Lexis

open Character

/-! ### What is read -/

namespace Piece

/-- The ways in which a lexeme is cut off the head of a text. -/
inductive Reads (t : SymbolTable) (c : Char) (rest : List Char) : Piece → Prop where
  | word (hword : isWordStart c = true) : Reads t c rest (.word (c :: rest.takeWhile isWordPart))
  | numeral (hword : isWordStart c = false) (hnum : Numeral.starts c rest = true) :
      Reads t c rest (.numeral (Numeral.leading (c :: rest)))
  | mark {s : Symbol} (hword : isWordStart c = false) (hnum : Numeral.starts c rest = false)
      (hs : (pairAt t c rest).or (t.lookup (String.ofList [c])) = some s) :
      Reads t c rest (.mark s)

variable {t : SymbolTable} {c : Char} {rest : List Char} {p : Piece}

lemma reads_of_read? (h : read? t c rest = some p) : Reads t c rest p := by
  by_cases hword : isWordStart c = true
  · rw [read?_word hword, Option.some.injEq] at h
    exact h ▸ .word hword
  · rw [Bool.not_eq_true] at hword
    by_cases hnum : Numeral.starts c rest = true
    · rw [read?_numeral hword hnum, Option.some.injEq] at h
      exact h ▸ .numeral hword hnum
    · rw [Bool.not_eq_true] at hnum
      rw [read?_mark hword hnum, Option.map_eq_some_iff] at h
      obtain ⟨s, hs, rfl⟩ := h
      exact .mark hword hnum hs

/-- Nothing is read only where neither a word nor a numeral starts and no mark is found. -/
lemma of_read?_eq_none (h : read? t c rest = none) :
    isWordStart c = false ∧ Numeral.starts c rest = false ∧ pairAt t c rest = none ∧
      t.lookup (String.ofList [c]) = none := by
  by_cases hword : isWordStart c = true
  · simp [read?_word hword] at h
  · rw [Bool.not_eq_true] at hword
    by_cases hnum : Numeral.starts c rest = true
    · simp [read?_numeral hword hnum] at h
    · rw [Bool.not_eq_true] at hnum
      rw [read?_mark hword hnum, Option.map_eq_none_iff, Option.or_eq_none_iff] at h
      exact ⟨hword, hnum, h⟩

end Piece

namespace SymbolTable

/-- The table finds the same marks as the seeded one. -/
def KnowsMarks (t : SymbolTable) : Prop :=
  ∀ text, isProbe text = true →
    t.lookup (String.ofList text) = seeded.lookup (String.ofList text)

/-- Every entry is a lexeme under its own kind, and the fixed vocabulary is there. -/
structure Lexical (t : SymbolTable) : Prop where
  lexeme_of_mem : ∀ s ∈ t.entries, Lexeme s.lexeme.toList s.kind
  contains_fixed : ∀ word ∈ Vocabulary.fixed, t.contains word.1 = true

/-- The tables that lexers alone have written to since they were seeded. -/
inductive LexersOnly : SymbolTable → Prop where
  | seeded : LexersOnly seeded
  | next {t : SymbolTable} (l : Lexer) (h : LexersOnly t) : LexersOnly (l.next t).table

/-! ### Lexical tables -/

namespace Lexical

variable {t t' : SymbolTable} {text : List Char} {kind : Kind} {s : Symbol}

lemma lexeme_of_lookup (h : t.Lexical) (hs : t.lookup (String.ofList text) = some s) :
    Lexeme text s.kind := by
  have hlexeme := h.lexeme_of_mem s (mem_of_lookup hs)
  rwa [SymbolTable.lexeme_of_lookup hs, String.toList_ofList] at hlexeme

/-- A text that has a kind of its own is in every lexical table if it is in the vocabulary. -/
lemma exists_lookup (h : t.Lexical)
    (hfixed : (String.ofList text, kind) ∈ Vocabulary.fixed) :
    ∃ s, t.lookup (String.ofList text) = some s := by
  have hcontains := h.contains_fixed _ hfixed
  exact Option.isSome_iff_exists.1 hcontains

lemma lookup_mark (h : t.Lexical) (hmark : IsMark text kind) :
    t.lookup (String.ofList text) = some ⟨String.ofList text, kind⟩ := by
  have hmem : (String.ofList text, kind) ∈ Vocabulary.fixed :=
    List.mem_append_right _ (Vocabulary.mem_of_kind? hmark)
  obtain ⟨⟨lexeme, kind'⟩, hs⟩ := h.exists_lookup hmem
  obtain rfl : lexeme = String.ofList text := SymbolTable.lexeme_of_lookup hs
  have hkind : kind' = kind := (h.lexeme_of_lookup hs).kind_unique (.mark hmark)
  rw [hs, hkind]

/-- Where only a mark can stand, a lexical table has nothing but marks. -/
lemma isMark_of_lookup (h : t.Lexical) (hprobe : isProbe text = true)
    (hs : t.lookup (String.ofList text) = some s) : IsMark text s.kind := by
  cases text with
  | nil => simp [isProbe] at hprobe
  | cons c rest =>
    simp only [isProbe, Bool.and_eq_true, Bool.not_eq_true'] at hprobe
    exact (h.lexeme_of_lookup hs).isMark_of_head hprobe.1.1.2 hprobe.1.2 List.prefix_rfl

lemma lookup_le (h : t.Lexical) (h' : t'.Lexical) (hprobe : isProbe text = true)
    (hs : t.lookup (String.ofList text) = some s) : t'.lookup (String.ofList text) = some s := by
  rw [h'.lookup_mark (h.isMark_of_lookup hprobe hs), ← SymbolTable.lexeme_of_lookup hs]

lemma lookup_eq (h : t.Lexical) (h' : t'.Lexical) (hprobe : isProbe text = true) :
    t.lookup (String.ofList text) = t'.lookup (String.ofList text) := by
  apply Option.ext
  intro s
  exact ⟨h.lookup_le h' hprobe, h'.lookup_le h hprobe⟩

/-! ### Entering lexemes -/

/-- A text that is entered as a lexeme has its own kind, and the table stays lexical. It need be a
lexeme of the given kind only if it is new: the kind of an entry stays. -/
lemma enter (h : t.Lexical)
    (hnew : t.lookup (String.ofList text) = none → Lexeme text kind) :
    Lexeme text (t.enter (String.ofList text) kind).1.kind ∧
      (t.enter (String.ofList text) kind).2.Lexical := by
  cases hs : t.lookup (String.ofList text) with
  | some s =>
    rw [enter_of_lookup hs]
    exact ⟨h.lexeme_of_lookup hs, h⟩
  | none =>
    rw [enter_of_absent hs]
    refine ⟨hnew hs, ?_, ?_⟩
    · refine List.forall_mem_append.2 ⟨h.lexeme_of_mem, ?_⟩
      simpa using hnew hs
    · intro word hword
      have hcontains := h.contains_fixed word hword
      simp only [contains, lookup, List.find?_append, Option.isSome_or, Bool.or_eq_true]
      exact Or.inl hcontains

/-- A word that a lexical table does not have is not reserved. -/
lemma lexeme_of_absent (h : t.Lexical) (hword : IsWord text)
    (hs : t.lookup (String.ofList text) = none) : Lexeme text .identifier := by
  refine .identifier hword ?_
  rw [Option.eq_none_iff_forall_not_mem]
  intro kind hkind
  have hmem : (String.ofList text, kind) ∈ Vocabulary.fixed :=
    List.mem_append_left _ (Vocabulary.mem_of_kind? hkind)
  obtain ⟨s, hs'⟩ := h.exists_lookup hmem
  rw [hs] at hs'
  cases hs'

end Lexical

lemma isWord_spelling (word : Keyword) : IsWord word.spelling.toList := by
  cases word <;> decide

lemma lexeme_of_mem_fixed {word : String × Kind} (h : word ∈ Vocabulary.fixed) :
    Lexeme word.1.toList word.2 := by
  rcases List.mem_append.1 h with hreserved | hmark
  · obtain ⟨w, -, rfl⟩ := List.mem_map.1 hreserved
    exact .keyword (isWord_spelling w) (by simpa using Vocabulary.kind?_reserved w)
  · have hall : ∀ word ∈ Vocabulary.marks, Vocabulary.marks.kind? word.1 = some word.2 := by decide
    exact .mark (by simpa [IsMark] using hall word hmark)

/-- Where words are registered that are lexemes of their own kinds, all entries are. -/
lemma lexeme_of_mem_enterAll {t : SymbolTable} {words : Vocabulary}
    (h : ∀ s ∈ t.entries, Lexeme s.lexeme.toList s.kind)
    (hwords : ∀ word ∈ words, Lexeme word.1.toList word.2) :
    ∀ s ∈ (t.enterAll words).entries, Lexeme s.lexeme.toList s.kind := by
  induction words generalizing t with
  | nil => exact h
  | cons word words ih =>
    obtain ⟨hword, hwords⟩ := List.forall_mem_cons.1 hwords
    have hentered : ∀ s ∈ (t.enter word.1 word.2).2.entries, Lexeme s.lexeme.toList s.kind := by
      cases hlookup : t.lookup word.1 with
      | some s =>
        rw [enter_of_lookup hlookup]
        exact h
      | none =>
        rw [enter_of_absent hlookup]
        exact List.forall_mem_append.2 ⟨h, by simpa using hword⟩
    exact ih hentered hwords

theorem lexical_seeded : seeded.Lexical where
  lexeme_of_mem := by
    rw [entries_seeded]
    exact List.forall_mem_map.2 fun _ hword => lexeme_of_mem_fixed hword
  contains_fixed := by decide

/-- Words may be registered in any number if each has its own kind. -/
lemma Lexical.enterAll {t : SymbolTable} {words : Vocabulary} (h : t.Lexical)
    (hwords : ∀ word ∈ words, Lexeme word.1.toList word.2) : (t.enterAll words).Lexical := by
  induction words generalizing t with
  | nil => exact h
  | cons word words ih =>
    obtain ⟨hword, hrest⟩ := List.forall_mem_cons.1 hwords
    have hnew : t.lookup (String.ofList word.1.toList) = none → Lexeme word.1.toList word.2 := by
      intro
      exact hword
    have hentered := (h.enter hnew).2
    rw [String.ofList_toList] at hentered
    exact ih hentered hrest

lemma Lexical.seed {t : SymbolTable} (h : t.Lexical) : t.seed.Lexical :=
  h.enterAll fun _ hword => lexeme_of_mem_fixed hword

theorem Lexical.knowsMarks {t : SymbolTable} (h : t.Lexical) : t.KnowsMarks :=
  fun _ hprobe => h.lookup_eq lexical_seeded hprobe

/-! ### The same marks, the same cuts -/

namespace KnowsMarks

variable {t : SymbolTable} {c : Char}

lemma pairAt_eq {rest : List Char} (h : t.KnowsMarks) (hblank : isBlank c = false)
    (hword : isWordStart c = false) (hnum : Numeral.starts c rest = false) :
    pairAt t c rest = pairAt seeded c rest := by
  cases rest with
  | nil => rfl
  | cons d rest =>
    have hnum' : Numeral.starts c [d] = false := hnum
    exact h [c, d] (by simp [isProbe, hblank, hword, hnum'])

lemma opensComment_eq (h : t.KnowsMarks) (hblank : isBlank c = false) (rest : List Char) :
    opensComment t c rest = opensComment seeded c rest := by
  unfold opensComment
  cases hword : isWordStart c with
  | true => rfl
  | false =>
    cases hnum : Numeral.starts c rest with
    | true  => rfl
    | false => rw [h.pairAt_eq hblank hword hnum]

lemma skip_eq (h : t.KnowsMarks) (inside : Bool) (l : Location) (text : List Char) :
    Trivia.skip t inside l text = Trivia.skip seeded inside l text := by
  induction text generalizing inside l with
  | nil => simp
  | cons c rest ih =>
    cases inside with
    | true => simp only [Trivia.skip_inside, ih]
    | false =>
      cases hblank : isBlank c with
      | true => simp only [Trivia.skip_blank hblank, ih]
      | false =>
        have hopens := h.opensComment_eq hblank rest
        cases hcomment : opensComment seeded c rest with
        | true =>
          rw [Trivia.skip_comment hblank (hopens.trans hcomment),
            Trivia.skip_comment hblank hcomment, ih]
        | false =>
          rw [Trivia.skip_stop hblank (hopens.trans hcomment), Trivia.skip_stop hblank hcomment]

lemma read?_eq (h : t.KnowsMarks) (hblank : isBlank c = false) (rest : List Char) :
    Piece.read? t c rest = Piece.read? seeded c rest := by
  cases hword : isWordStart c with
  | true => rw [Piece.read?_word hword, Piece.read?_word hword]
  | false =>
    cases hnum : Numeral.starts c rest with
    | true => rw [Piece.read?_numeral hword hnum, Piece.read?_numeral hword hnum]
    | false =>
      have hdigit : c.isDigit = false := by
        simp only [Numeral.starts, Bool.or_eq_false_iff] at hnum
        exact hnum.1
      have hsingle : t.lookup (String.ofList [c]) = seeded.lookup (String.ofList [c]) :=
        h [c] (by simp [isProbe, Numeral.starts, hblank, hword, hdigit])
      rw [Piece.read?_mark hword hnum, Piece.read?_mark hword hnum,
        h.pairAt_eq hblank hword hnum, hsingle]

end KnowsMarks

/-- A lexeme that is cut off on a lexical table gets its own kind, and the table stays lexical. -/
lemma Lexical.enter_piece {t : SymbolTable} {c : Char} {rest : List Char} {p : Piece}
    (h : t.Lexical) (hread : Piece.read? t c rest = some p) :
    Lexeme p.text (p.enter t).1.kind ∧ (p.enter t).2.Lexical := by
  cases Piece.reads_of_read? hread with
  | word hword =>
    have hisWord : IsWord (c :: rest.takeWhile isWordPart) :=
      ⟨hword, fun _ hd => List.mem_takeWhile_imp hd⟩
    exact h.enter (h.lexeme_of_absent hisWord)
  | numeral _ hnum => exact h.enter fun _ => .numeral (Numeral.isNumeral_leading hnum)
  | mark _ _ hs =>
    refine ⟨h.lexeme_of_mem _ ?_, h⟩
    rcases Option.or_eq_some_iff.1 hs with hpair | ⟨-, hone⟩
    · cases rest with
      | nil      => simp [pairAt] at hpair
      | cons _ _ => exact mem_of_lookup hpair
    · exact mem_of_lookup hone

end SymbolTable

/-! ### Lexers on lexical tables -/

/-- Where skipping stops no blank stands. -/
lemma Trivia.isBlank_of_head_rest (t : SymbolTable) (inside : Bool) (place : Location)
    (text : List Char) : ∀ c ∈ (skip t inside place text).rest.head?, isBlank c = false := by
  intro c hc
  obtain ⟨rest, hrest⟩ := List.head?_eq_some_iff.1 hc
  exact (rest_skip_stops t inside place hrest).1

/-- Two steps that differ at most in the table they leave. -/
structure Step.Agrees (s s' : Step) : Prop where
  answer : s.answer = s'.answer
  lexer : s.lexer = s'.lexer
  events : s.events = s'.events

/-- Two drains that differ at most in the table they leave. -/
structure Drain.Agrees (d d' : Drain) : Prop where
  tokens : d.tokens = d'.tokens
  failure : d.failure = d'.failure
  lexer : d.lexer = d'.lexer
  events : d.events = d'.events

/-- The symbol of a piece has its characters as the lexeme. -/
lemma Piece.lexeme_enter (t : SymbolTable) (p : Piece) :
    (p.enter t).1.lexeme = String.ofList p.text := by
  rw [← toList_lexeme_enter t p, String.ofList_toList]

lemma Piece.symbol_enter (t : SymbolTable) (p : Piece) :
    (p.enter t).1 = ⟨String.ofList p.text, (p.enter t).1.kind⟩ := by
  rw [← lexeme_enter t p]

lemma Piece.symbol_unique {t t' : SymbolTable} {p : Piece} (h : Lexeme p.text (p.enter t).1.kind)
    (h' : Lexeme p.text (p.enter t').1.kind) : (p.enter t).1 = (p.enter t').1 := by
  have hlexeme := (lexeme_enter t p).trans (lexeme_enter t' p).symm
  exact Symbol.mk.injEq _ _ _ _ ▸ ⟨hlexeme, h.kind_unique h'⟩

namespace Lexer

variable {t t' : SymbolTable}

lemma nextAt_of_lexical (h : t.Lexical) (l : Lexer) (place : Location) {text : List Char}
    (hblank : ∀ c ∈ text.head?, isBlank c = false) :
    (l.nextAt t place text).Agrees (l.nextAt .seeded place text) ∧
      (l.nextAt t place text).table.Lexical := by
  cases text with
  | nil => exact ⟨⟨rfl, rfl, rfl⟩, h⟩
  | cons c rest =>
    have hread := h.knowsMarks.read?_eq (hblank c rfl) rest
    cases hpiece : Piece.read? SymbolTable.seeded c rest with
    | none =>
      rw [nextAt_of_none (hread.trans hpiece), nextAt_of_none hpiece]
      exact ⟨⟨rfl, rfl, rfl⟩, h⟩
    | some p =>
      obtain ⟨hkind, hlexical⟩ := h.enter_piece (hread.trans hpiece)
      obtain ⟨hkind', -⟩ := SymbolTable.lexical_seeded.enter_piece hpiece
      rw [nextAt_of_some (hread.trans hpiece), nextAt_of_some hpiece,
        Piece.symbol_unique hkind hkind']
      exact ⟨⟨rfl, rfl, rfl⟩, hlexical⟩

lemma next_of_lexical_seeded (h : t.Lexical) (l : Lexer) :
    (l.next t).Agrees (l.next .seeded) ∧ (l.next t).table.Lexical := by
  cases hended : l.ended with
  | true =>
    rw [next_of_ended hended, next_of_ended hended]
    exact ⟨⟨rfl, rfl, rfl⟩, h⟩
  | false =>
    obtain ⟨hagrees, hlexical⟩ := nextAt_of_lexical h l
      (Trivia.skip .seeded false l.location l.input).location
      (Trivia.isBlank_of_head_rest .seeded false l.location l.input)
    rw [next_of_open hended, next_of_open hended, h.knowsMarks.skip_eq]
    exact ⟨⟨hagrees.answer, hagrees.lexer, congrArg (_ ++ ·) hagrees.events⟩, hlexical⟩

/-- A lexer does the same on all lexical tables, and they stay lexical. -/
theorem next_of_lexical (h : t.Lexical) (h' : t'.Lexical) (l : Lexer) :
    (l.next t).Agrees (l.next t') ∧ (l.next t).table.Lexical := by
  obtain ⟨hagrees, hlexical⟩ := next_of_lexical_seeded h l
  obtain ⟨hagrees', -⟩ := next_of_lexical_seeded h' l
  exact ⟨⟨hagrees.answer.trans hagrees'.answer.symm, hagrees.lexer.trans hagrees'.lexer.symm,
    hagrees.events.trans hagrees'.events.symm⟩, hlexical⟩

theorem drain_of_lexical {t t' : SymbolTable} (h : t.Lexical) (h' : t'.Lexical) (l : Lexer) :
    (l.drain t).Agrees (l.drain t') ∧ (l.drain t).table.Lexical := by
  obtain ⟨⟨hanswer, hlexer, hevents⟩, hlexical⟩ := next_of_lexical h h' l
  obtain ⟨-, hlexical'⟩ := next_of_lexical h' h l
  match hstep : (l.next t).answer with
  | .error e =>
    rw [drain_of_error hstep, drain_of_error (hanswer.symm.trans hstep)]
    exact ⟨⟨rfl, rfl, hlexer, hevents⟩, hlexical⟩
  | .ok none =>
    rw [drain_of_none hstep, drain_of_none (hanswer.symm.trans hstep)]
    exact ⟨⟨rfl, rfl, hlexer, hevents⟩, hlexical⟩
  | .ok (some token) =>
    have hshorter := next_shortens hstep
    obtain ⟨hrest, htable⟩ := drain_of_lexical hlexical hlexical' (l.next t).lexer
    rw [drain_of_some hstep, drain_of_some (hanswer.symm.trans hstep), ← hlexer, ← hevents]
    exact ⟨⟨congrArg (token :: ·) hrest.tokens, hrest.failure, hrest.lexer,
      congrArg (_ ++ ·) hrest.events⟩, htable⟩
termination_by l.input.length

end Lexer

lemma SymbolTable.LexersOnly.lexical {t : SymbolTable} (h : t.LexersOnly) : t.Lexical := by
  induction h with
  | seeded      => exact lexical_seeded
  | next l _ ih => exact (Lexer.next_of_lexical ih lexical_seeded l).2

end Lexis
