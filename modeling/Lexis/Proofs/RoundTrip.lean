import Mathlib.Data.List.Forall2
import Lexis.Proofs.Append

/-!
# Lexemes with blanks between them

The text of a token is a word, a numeral, an operator or a separator (`Text.IsTokenText`); that is
every lexeme but the two slashes, which open a comment. If such texts are put one behind the other
with blanks between them (`Text.spaced`), then each of them is a token again, of the kind that it
has when nothing else is there (`tokenize_spaced`).
-/

namespace Lexis

open Character

/-! ### Texts of tokens -/

/-- A word, a numeral, an operator or a separator. -/
def Text.IsTokenText (text : List Char) : Prop :=
  IsWord text ∨ IsNumeral text ∨ ∃ op : Operator, op.spelling.toList = text

lemma isMark_spelling (op : Operator) : IsMark op.spelling.toList (.operator op) := by
  rw [IsMark, String.ofList_toList]
  exact Vocabulary.kind?_marks op

/-- The marks are the operators and the two slashes. -/
lemma IsMark.cases_spelling {text : List Char} {kind : Kind} (h : IsMark text kind) :
    (∃ op : Operator, op.spelling.toList = text) ∨ text = ['/', '/'] := by
  rcases List.mem_append.1 (Vocabulary.mem_of_kind? h) with hmem | hmem
  · obtain ⟨op, -, heq⟩ := List.mem_map.1 hmem
    have hspelling : op.spelling = String.ofList text := (Prod.mk.inj heq).1
    exact Or.inl ⟨op, by rw [hspelling, String.toList_ofList]⟩
  · right
    have hspelling : String.ofList text = "//" := (Prod.mk.inj (List.mem_singleton.1 hmem)).1
    rw [← String.toList_ofList (l := text), hspelling]
    rfl

namespace Text.IsTokenText

variable {text : List Char} {kind : Kind}

lemma exists_lexeme (h : IsTokenText text) : ∃ kind, Lexeme text kind := by
  rcases h with hword | hnum | ⟨op, rfl⟩
  · exact hword.exists_lexeme
  · exact ⟨_, .numeral hnum⟩
  · exact ⟨_, .mark (isMark_spelling op)⟩

/-- No token has the text that opens a comment. -/
lemma ne_slashes (h : IsTokenText text) : text ≠ ['/', '/'] := by
  rintro rfl
  rcases h with hword | hnum | ⟨op, hop⟩
  · exact absurd hword (by decide)
  · exact Numeral.slash_notMem hnum List.mem_cons_self
  · exact absurd hop (by cases op <;> decide)

lemma of_lexeme (h : Lexeme text kind) (hne : text ≠ ['/', '/']) : IsTokenText text := by
  rcases h.cases_sort with hword | hnum | hmark
  · exact Or.inl hword
  · exact Or.inr (Or.inl hnum)
  · exact Or.inr (Or.inr (hmark.cases_spelling.resolve_right hne))

end Text.IsTokenText

/-- The token has a text that is none of a comment, and the kind of that lexeme. -/
structure Token.HasText (x : String) (token : Token) : Prop where
  lexeme_eq : token.lexeme = x
  isLexeme : Lexeme x.toList token.kind
  isTokenText : Text.IsTokenText x.toList

/-- All that is read are tokens with texts of tokens. -/
lemma Munch.hasText_of_mem {file : String} {before text : List Char} {tokens : List Token}
    {failure : Option Error} (h : Munch file before text tokens failure) :
    ∀ token ∈ tokens, token.HasText token.lexeme := by
  induction h with
  | done | illegal _ _            => simp
  | blank _ _ ih | comment _ _ ih => exact ih
  | @token _ _ lexeme kind _ _ hlongest hne _ ih =>
    refine List.forall_mem_cons.2 ⟨⟨rfl, ?_, ?_⟩, ih⟩
    · rw [Token.lexeme, String.toList_ofList]
      exact hlongest.isLexeme
    · rw [Token.lexeme, String.toList_ofList]
      exact .of_lexeme hlongest.isLexeme hne

/-! ### One lexeme -/

/-- Where nothing follows, a lexeme is the longest one. -/
lemma Lexeme.longest {text : List Char} {kind : Kind} (h : Lexeme text kind) :
    Longest text kind text :=
  ⟨h, List.prefix_rfl, fun _ _ _ hpre => hpre.length_le⟩

/-- A source is accepted if it is read to its end. -/
lemma tokenize_eq_ok_iff {source : String} {file? : Option String} {tokens : List Token} :
    tokenize source file? = .ok tokens ↔
      Munch (file?.getD defaultFile) [] source.toList tokens none := by
  rw [← scan_iff_munch, tokenize]
  constructor
  · intro h
    split at h
    · cases h
    · next hnone => exact ⟨Except.ok.inj h, hnone⟩
  · rintro ⟨rfl, hnone⟩
    simp only [hnone]

/-- The text of a token alone is that one token. -/
lemma Token.HasText.tokenize_alone {x : String} {token : Token} (h : token.HasText x)
    (file? : Option String) :
    ∃ alone, tokenize x file? = .ok [alone] ∧ alone.lexeme = x ∧ alone.kind = token.kind := by
  refine ⟨⟨⟨String.ofList x.toList, token.kind⟩, Lexer.spanAt (Location.after []) x.toList⟩,
    tokenize_eq_ok_iff.2 (.token h.isLexeme.longest h.isTokenText.ne_slashes ?_), ?_, rfl⟩
  · rw [List.drop_length]
    exact .done
  · rw [Token.lexeme, String.ofList_toList]

/-- Tokens with the same texts have the same kinds, as lexemes have one kind only. -/
lemma Token.HasText.kind_eq {x : String} {token token' : Token} (h : token.HasText x)
    (h' : token'.HasText x) : token.kind = token'.kind :=
  h.isLexeme.kind_unique h'.isLexeme

/-! ### Many lexemes -/

/-- Lexemes one behind the other, with blanks in front of all but the first. -/
def Text.spaced (blanks lexemes : List String) : String :=
  String.join (List.zipWith (· ++ ·) ("" :: blanks) lexemes)

lemma isGap_of_blanks {gap : List Char} (h : ∀ c ∈ gap, isBlank c = true) : IsGap false gap := by
  induction gap with
  | nil => exact .nil
  | cons c gap ih =>
    obtain ⟨hc, hgap⟩ := List.forall_mem_cons.1 h
    exact .blank hc (ih hgap)

/-- Where blanks come first, no lexeme in front reaches over them. -/
lemma apart_zipWith {gaps : List String} (hgaps : ∀ gap ∈ gaps, ∀ c ∈ gap.toList, isBlank c = true)
    (hne : ∀ gap ∈ gaps, gap ≠ "") (text : List Char) (lexemes : List String) :
    Text.Apart text (String.join (List.zipWith (· ++ ·) gaps lexemes)).toList := by
  match gaps, lexemes with
  | [], _ | _ :: _, [] => exact .of_nil text
  | gap :: gaps, x :: lexemes =>
    have hgap : gap.toList ≠ [] := by
      intro hnil
      exact hne gap List.mem_cons_self (String.toList_eq_nil_iff.1 hnil)
    obtain ⟨c, cs, hcons⟩ := List.exists_cons_of_ne_nil hgap
    have hc : isBlank c = true := hgaps gap List.mem_cons_self c (by simp [hcons])
    rw [List.zipWith_cons_cons, String.join_cons, String.toList_append, String.toList_append, hcons]
    exact .of_blank hc text _

/-- Lexemes with blanks in front of them are read one by one. -/
lemma exists_munch_zipWith (file : String) {lexemes gaps : List String} (before : List Char)
    (hlexemes : ∀ x ∈ lexemes, Text.IsTokenText x.toList)
    (hgaps : ∀ gap ∈ gaps, ∀ c ∈ gap.toList, isBlank c = true)
    (hne : ∀ gap ∈ gaps.tail, gap ≠ "") (hlength : lexemes.length ≤ gaps.length) :
    ∃ tokens, Munch file before (String.join (List.zipWith (· ++ ·) gaps lexemes)).toList tokens
        none ∧
      List.Forall₂ Token.HasText lexemes tokens := by
  induction lexemes generalizing gaps before with
  | nil => exact ⟨[], by simpa using .done, .nil⟩
  | cons x lexemes ih =>
    cases gaps with
    | nil => simp at hlength
    | cons gap gaps =>
      obtain ⟨hgap, hgaps⟩ := List.forall_mem_cons.1 hgaps
      obtain ⟨hx, hlexemes⟩ := List.forall_mem_cons.1 hlexemes
      obtain ⟨kind, hkind⟩ := hx.exists_lexeme
      obtain ⟨tokens, hrest, hforall⟩ := ih (before ++ gap.toList ++ x.toList) hlexemes hgaps
        (fun g hg => hne g (List.mem_of_mem_tail hg)) (Nat.le_of_succ_le_succ hlength)
      have hlongest := hkind.longest.append (apart_zipWith hgaps hne x.toList lexemes)
      refine ⟨⟨⟨String.ofList x.toList, kind⟩,
        Lexer.spanAt (Location.after (before ++ gap.toList)) x.toList⟩ :: tokens, ?_,
        .cons ⟨?_, hkind, hx⟩ hforall⟩
      · rw [List.zipWith_cons_cons, String.join_cons, String.toList_append, String.toList_append,
          List.append_assoc]
        refine .gap (isGap_of_blanks hgap) (by simp) (.token hlongest hx.ne_slashes ?_)
        rwa [List.drop_left]
      · rw [Token.lexeme, String.ofList_toList]

/-- Lexemes with blanks between them are accepted, and each is a token. -/
lemma exists_tokenize_spaced {blanks lexemes : List String}
    (hblanks : ∀ gap ∈ blanks, gap ≠ "" ∧ ∀ c ∈ gap.toList, isBlank c = true)
    (hlexemes : ∀ x ∈ lexemes, Text.IsTokenText x.toList)
    (hlength : lexemes.length ≤ blanks.length + 1) (file? : Option String) :
    ∃ tokens, tokenize (Text.spaced blanks lexemes) file? = .ok tokens ∧
      List.Forall₂ Token.HasText lexemes tokens := by
  have hgaps : ∀ gap ∈ "" :: blanks, ∀ c ∈ gap.toList, isBlank c = true :=
    List.forall_mem_cons.2 ⟨by simp, fun gap hgap => (hblanks gap hgap).2⟩
  obtain ⟨tokens, hmunch, hforall⟩ := exists_munch_zipWith (file?.getD defaultFile) [] hlexemes
    hgaps (fun gap hgap => (hblanks gap hgap).1) hlength
  exact ⟨tokens, tokenize_eq_ok_iff.2 hmunch, hforall⟩

/-- Tokens with the texts of other tokens have their kinds, too. -/
lemma map_kind_lexeme_eq {tokens tokens' : List Token}
    (h : List.Forall₂ Token.HasText (tokens.map Token.lexeme) tokens')
    (htexts : ∀ token ∈ tokens, token.HasText token.lexeme) :
    tokens'.map (fun token => (token.kind, token.lexeme)) =
      tokens.map fun token => (token.kind, token.lexeme) := by
  induction tokens generalizing tokens' with
  | nil =>
    cases h
    rfl
  | cons token tokens ih =>
    obtain ⟨htext, htexts⟩ := List.forall_mem_cons.1 htexts
    cases h with
    | cons hhead htail =>
      rw [List.map_cons, List.map_cons, hhead.lexeme_eq, hhead.kind_eq htext, ih htail htexts]

/-- Lexemes with blanks between them are read back. Whatever texts of tokens are put one behind the
other and whatever blanks between them, each text is one token, with the kind that it has alone. In
particular the lexemes of an accepted source give its lexemes and kinds again. -/
theorem tokenize_spaced {blanks : List String}
    (hblanks : ∀ gap ∈ blanks, gap ≠ "" ∧ ∀ c ∈ gap.toList, isBlank c = true)
    (file? : Option String) :
    (∀ lexemes : List String, (∀ x ∈ lexemes, Text.IsTokenText x.toList) →
      lexemes.length ≤ blanks.length + 1 →
      ∃ tokens, tokenize (Text.spaced blanks lexemes) file? = .ok tokens ∧
        List.Forall₂ (fun x token => token.lexeme = x ∧
          ∃ alone, tokenize x file? = .ok [alone] ∧ alone.lexeme = x ∧ alone.kind = token.kind)
          lexemes tokens) ∧
    ∀ (source : String) (tokens : List Token), tokenize source file? = .ok tokens →
      tokens.length ≤ blanks.length + 1 →
      ∃ tokens', tokenize (Text.spaced blanks (tokens.map Token.lexeme)) file? = .ok tokens' ∧
        tokens'.map (fun token => (token.kind, token.lexeme)) =
          tokens.map fun token => (token.kind, token.lexeme) := by
  constructor
  · intro lexemes hlexemes hlength
    obtain ⟨tokens, htokenize, hforall⟩ :=
      exists_tokenize_spaced hblanks hlexemes hlength file?
    refine ⟨tokens, htokenize, hforall.imp fun x token h => ⟨h.lexeme_eq, ?_⟩⟩
    exact h.tokenize_alone file?
  · intro source tokens hsource hlength
    have htexts := (tokenize_eq_ok_iff.1 hsource).hasText_of_mem
    have hlexemes : ∀ x ∈ tokens.map Token.lexeme, Text.IsTokenText x.toList :=
      List.forall_mem_map.2 fun token htoken => (htexts token htoken).isTokenText
    obtain ⟨tokens', htokenize, hforall⟩ :=
      exists_tokenize_spaced hblanks hlexemes (by simpa using hlength) file?
    exact ⟨tokens', htokenize, map_kind_lexeme_eq hforall htexts⟩

/-- A numeral without the digits of its exponent, a sign, a reserved word and two slashes. -/
theorem tokenize_spaced_slashes :
    (∀ gap ∈ ["\n", " \t", "\r\n", "\u00a0"],
      gap ≠ "" ∧ ∀ c ∈ gap.toList, isBlank c = true) ∧
    (∀ x ∈ ["1e", "+", "if", "/", "/"], Text.IsTokenText x.toList) ∧
    ∃ tokens tokens', tokenize "1e\n+ \tif\r\n/\u00a0/" none = .ok tokens ∧
      tokens.length = 5 ∧
      tokenize (Text.spaced ["\n", " \t", "\r\n", "\u00a0"] (tokens.map Token.lexeme)) none =
        .ok tokens' ∧
      tokens'.map (fun token => (token.kind, token.lexeme)) =
        tokens.map fun token => (token.kind, token.lexeme) := by
  have hall : ["\n", " \t", "\r\n", "\u00a0"].all
      (fun gap => gap != "" && gap.toList.all isBlank) = true := by decide
  have hblanks : ∀ gap ∈ ["\n", " \t", "\r\n", "\u00a0"],
      gap ≠ "" ∧ ∀ c ∈ gap.toList, isBlank c = true := by
    intro gap hgap
    have hgap' := List.all_eq_true.1 hall gap hgap
    rwa [Bool.and_eq_true, bne_iff_ne, List.all_eq_true] at hgap'
  have hnum : IsNumeral "1e".toList :=
    ⟨['1'], ['e'], rfl, .whole (by decide) (by simp [Numeral.IsDigits]),
      Or.inr (.unsigned rfl (by simp [Numeral.IsDigits]))⟩
  have hslash : Text.IsTokenText "/".toList := Or.inr (Or.inr ⟨.divide, rfl⟩)
  have hlexemes : ∀ x ∈ ["1e", "+", "if", "/", "/"], Text.IsTokenText x.toList := by
    simp only [List.forall_mem_cons]
    exact ⟨Or.inr (Or.inl hnum), Or.inr (Or.inr ⟨.plus, rfl⟩), Or.inl (by decide), hslash, hslash,
      by simp⟩
  obtain ⟨hspaced, hagain⟩ := tokenize_spaced hblanks none
  obtain ⟨tokens, htokenize, hforall⟩ := hspaced _ hlexemes (by decide)
  have hlength : tokens.length = 5 := hforall.length_eq.symm
  obtain ⟨tokens', htokenize', hmap⟩ := hagain _ tokens htokenize (by simp [hlength])
  exact ⟨hblanks, hlexemes, tokens, tokens', htokenize, hlength, htokenize', hmap⟩

end Lexis
