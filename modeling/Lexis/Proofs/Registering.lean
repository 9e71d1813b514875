import Lexis.Proofs.Resume

/-!
# Words that are registered by hand

The table of a lexer may be written to by others, before the lexer is asked for a token and between
two times. What a lexer takes for a mark must not be among the words that are registered
(`isProbe`); anything else may be, under any kind, be it `Kind.comment`. Then the lexer still cuts
the text where it would have cut it on a fresh table, and the only thing that shows is the kind of a
word or a numeral: it is the one under which that was registered first.

What was registered is kept in a list, first to last (`SymbolTable.Recalls`). A step on a table that
recalls such a list is the step on the seeded table, up to the kind in its token
(`SymbolTable.Recalls.step_next`).
-/

namespace Lexis

open Character

/-! ### What a table recalls -/

namespace Vocabulary

variable {words others : Vocabulary} {spelling other : String} {kind : Kind}

lemma kind?_append (words others : Vocabulary) (spelling : String) :
    kind? (words ++ others) spelling = (words.kind? spelling).or (others.kind? spelling) :=
  List.lookup_append

lemma kind?_concat_self (words : Vocabulary) (spelling : String) (kind : Kind) :
    kind? (words ++ [(spelling, kind)]) spelling = some ((words.kind? spelling).getD kind) := by
  cases h : words.kind? spelling <;> simp [kind?_append, kind?_cons, h]

lemma kind?_concat_of_ne (hne : spelling ≠ other) (words : Vocabulary) (kind : Kind) :
    kind? (words ++ [(other, kind)]) spelling = words.kind? spelling := by
  rw [kind?_append, kind?_cons, if_neg hne]
  exact Option.or_none

/-- No reserved word is looked up as a mark. -/
lemma kind?_reserved_of_isProbe {text : List Char} (h : isProbe text = true) :
    Vocabulary.reserved.kind? (String.ofList text) = none := by
  rw [Option.eq_none_iff_forall_not_mem]
  intro kind hkind
  obtain ⟨word, -, hword⟩ := List.mem_map.1 (mem_of_kind? hkind)
  have hisWord := SymbolTable.isWord_spelling word
  rw [(Prod.mk.inj hword).1, String.toList_ofList] at hisWord
  match text, h, hisWord with
  | c :: rest, h, hisWord => exact absurd hisWord.1 (by simp [isWordStart_of_isProbe h])

end Vocabulary

/-- A table recalls what was registered in it, first to last: a lexeme has the kind under which it
was registered first. The fixed vocabulary came before everything else, and it has all the marks. -/
structure SymbolTable.Recalls (t : SymbolTable) (known : Vocabulary) : Prop where
  lookup_eq : ∀ lexeme, t.lookup lexeme = (known.kind? lexeme).map fun kind => ⟨lexeme, kind⟩
  fixed : Vocabulary.fixed <+: known
  marks : ∀ text, isProbe text = true →
    known.kind? (String.ofList text) = Vocabulary.marks.kind? (String.ofList text)

namespace SymbolTable

/-- A registry that was seeded in some order recalls the fixed vocabulary. -/
lemma recalls_seed (fresh : Nat) (order : SeedOrder) :
    (Store.seed ⟨{}, fresh⟩ order).registry.erase.Recalls Vocabulary.fixed where
  lookup_eq lexeme := by
    rw [Registry.lookup_erase (Store.lexical_seed fresh order).1, Vocabulary.fixed,
      Vocabulary.kind?_append]
    exact Store.symbol_seed ⟨{}, fresh⟩ order lexeme
  fixed := List.prefix_rfl
  marks text hprobe := by
    rw [Vocabulary.fixed, Vocabulary.kind?_append, Vocabulary.kind?_reserved_of_isProbe hprobe,
      Option.none_or]

lemma recalls_seeded : seeded.Recalls Vocabulary.fixed := by
  have herase := Store.erase_seed (Store.keyed_empty 0)
  have hrecalls := recalls_seed 0 .listed
  rwa [herase] at hrecalls

namespace Recalls

variable {t : SymbolTable} {known : Vocabulary} {lexeme : String} {kind : Kind}

lemma knowsMarks (h : t.Recalls known) : t.KnowsMarks := by
  intro text hprobe
  rw [h.lookup_eq, recalls_seeded.lookup_eq, h.marks text hprobe,
    recalls_seeded.marks text hprobe]

/-- What is not known is not in the fixed vocabulary. -/
lemma kind?_fixed_of_none (h : t.Recalls known) (hnone : known.kind? lexeme = none) :
    Vocabulary.fixed.kind? lexeme = none := by
  obtain ⟨others, rfl⟩ := h.fixed
  rw [Vocabulary.kind?_append, Option.or_eq_none_iff] at hnone
  exact hnone.1

lemma kind?_of_fixed (h : t.Recalls known) (hkind : Vocabulary.fixed.kind? lexeme = some kind) :
    known.kind? lexeme = some kind := by
  obtain ⟨others, rfl⟩ := h.fixed
  rw [Vocabulary.kind?_append, hkind, Option.some_or]

lemma kind?_of_lookup {s : Symbol} (h : t.Recalls known) (hs : t.lookup lexeme = some s) :
    known.kind? lexeme = some s.kind := by
  rw [h.lookup_eq, Option.map_eq_some_iff] at hs
  obtain ⟨kind, hkind, rfl⟩ := hs
  exact hkind

/-- What is registered once more makes no difference. -/
lemma again (h : t.Recalls known) (hkind : known.kind? lexeme = some kind) (kind' : Kind) :
    t.Recalls (known ++ [(lexeme, kind')]) := by
  have hsame (other : String) :
      Vocabulary.kind? (known ++ [(lexeme, kind')]) other = known.kind? other := by
    by_cases heq : other = lexeme
    · rw [heq, Vocabulary.kind?_concat_self, hkind, Option.getD_some]
    · exact Vocabulary.kind?_concat_of_ne heq known kind'
  refine ⟨?_, h.fixed.trans (List.prefix_append _ _), ?_⟩
  · intro other
    rw [hsame, h.lookup_eq]
  · intro text hprobe
    rw [hsame, h.marks text hprobe]

/-- What is entered gets the kind that is known for it, and is known from then on. -/
lemma enter (h : t.Recalls known) (hprobe : isProbe lexeme.toList = false) (kind kind' : Kind)
    (hnew : known.kind? lexeme = none → kind' = kind) :
    (t.enter lexeme kind).1 = ⟨lexeme, (known.kind? lexeme).getD kind⟩ ∧
      (t.enter lexeme kind).2.Recalls (known ++ [(lexeme, kind')]) := by
  have hlookup := h.lookup_eq lexeme
  cases hkind : known.kind? lexeme with
  | some kind₀ =>
    rw [hkind, Option.map_some] at hlookup
    rw [enter_of_lookup hlookup]
    exact ⟨rfl, h.again hkind kind'⟩
  | none =>
    rw [hkind, Option.map_none] at hlookup
    obtain rfl := hnew hkind
    refine ⟨by rw [enter_of_absent hlookup]; rfl, ?_, h.fixed.trans (List.prefix_append _ _), ?_⟩
    · intro other
      by_cases heq : other = lexeme
      · have hself := lookup_enter_self t lexeme kind'
        rw [heq, hself, enter_of_absent hlookup, Vocabulary.kind?_concat_self, hkind]
        rfl
      · rw [lookup_enter_of_ne t (Ne.symm heq), Vocabulary.kind?_concat_of_ne heq, h.lookup_eq]
    · intro text htext
      have hne : String.ofList text ≠ lexeme := by
        rintro rfl
        rw [String.toList_ofList] at hprobe
        simp [hprobe] at htext
      rw [Vocabulary.kind?_concat_of_ne hne, h.marks text htext]

end Recalls

end SymbolTable

/-! ### One step -/

/-- The token with the kind under which its lexeme was registered, if it was. -/
def Token.recalling (known : Vocabulary) (token : Token) : Token :=
  ⟨⟨token.lexeme, (known.kind? token.lexeme).getD token.kind⟩, token.span⟩

/-- What is registered by an answer: the lexeme of a token. -/
def registered : Except Error (Option Token) → Vocabulary
  | .ok (some token) => [(token.lexeme, token.kind)]
  | _                => []

/-- A step is another one but for the kinds, and its table recalls one registration more. -/
structure Step.Recalls (step plain : Step) (known : Vocabulary) : Prop where
  answer : step.answer = plain.answer.map (·.map (Token.recalling known))
  lexer : step.lexer = plain.lexer
  table : step.table.Recalls (known ++ registered step.answer)

namespace SymbolTable.Recalls

variable {t : SymbolTable} {known : Vocabulary} {c : Char} {rest : List Char} {p : Piece}

/-- A lexeme that may be new gets the kind that is known for it, here as on the seeded table. -/
lemma enter_new (h : t.Recalls known) {lexeme : String} (hprobe : isProbe lexeme.toList = false)
    (kind : Kind) :
    (t.enter lexeme kind).1 =
        ⟨lexeme, (known.kind? lexeme).getD (seeded.enter lexeme kind).1.kind⟩ ∧
      (t.enter lexeme kind).2.Recalls (known ++ [(lexeme, (t.enter lexeme kind).1.kind)]) := by
  obtain ⟨hsymbol, -⟩ := h.enter hprobe kind kind fun _ => rfl
  obtain ⟨hseeded, -⟩ := recalls_seeded.enter hprobe kind kind fun _ => rfl
  have hnew : known.kind? lexeme = none → (t.enter lexeme kind).1.kind = kind := by
    intro hnone
    rw [hsymbol, hnone, Option.getD_none]
  refine ⟨?_, (h.enter hprobe kind _ hnew).2⟩
  rw [hsymbol, hseeded]
  cases hkind : known.kind? lexeme with
  | some kind => rfl
  | none      => rw [h.kind?_fixed_of_none hkind]; rfl

lemma isProbe_of_isNumeral {text : List Char} (h : IsNumeral text) : isProbe text = false := by
  obtain ⟨c, rest, rfl⟩ := List.exists_cons_of_ne_nil (Numeral.ne_nil h)
  simp [isProbe, Numeral.starts_of_isNumeral h]

/-- A lexeme that is cut off the head of a text gets the kind that is known for it. -/
lemma enter_piece (h : t.Recalls known) (hread : Piece.read? t c rest = some p) :
    (p.enter t).1 = ⟨String.ofList p.text,
        (known.kind? (String.ofList p.text)).getD (p.enter seeded).1.kind⟩ ∧
      (p.enter t).2.Recalls (known ++ [(String.ofList p.text, (p.enter t).1.kind)]) := by
  cases Piece.reads_of_read? hread with
  | word hword =>
    apply h.enter_new
    rw [String.toList_ofList]
    simp [isProbe, hword]
  | numeral _ hnum =>
    apply h.enter_new
    rw [String.toList_ofList]
    exact isProbe_of_isNumeral (Numeral.isNumeral_leading hnum)
  | @mark s _ _ hs =>
    have hlookup : t.lookup s.lexeme = some s := by
      rcases Option.or_eq_some_iff.1 hs with hpair | ⟨-, hone⟩
      · obtain ⟨d, ds, rfl, -⟩ := Piece.toList_lexeme_of_pairAt hpair
        rwa [lexeme_of_lookup hpair]
      · rwa [lexeme_of_lookup hone]
    have hkind := h.kind?_of_lookup hlookup
    rw [Piece.text, String.ofList_toList, hkind]
    exact ⟨rfl, h.again hkind s.kind⟩

lemma step_nextAt (h : t.Recalls known) (l : Lexer) (place : Location) (text : List Char)
    (hblank : ∀ c ∈ text.head?, isBlank c = false) :
    (l.nextAt t place text).Recalls (l.nextAt seeded place text) known := by
  cases text with
  | nil => exact ⟨rfl, rfl, by simpa [Lexer.nextAt, registered] using h⟩
  | cons c rest =>
    have hread := h.knowsMarks.read?_eq (hblank c rfl) rest
    cases hpiece : Piece.read? seeded c rest with
    | none =>
      rw [Lexer.nextAt_of_none (hread.trans hpiece), Lexer.nextAt_of_none hpiece]
      exact ⟨rfl, rfl, by simpa [registered] using h⟩
    | some p =>
      obtain ⟨hsymbol, htable⟩ := h.enter_piece (hread.trans hpiece)
      have hlexeme := Piece.lexeme_enter seeded p
      rw [Lexer.nextAt_of_some (hread.trans hpiece), Lexer.nextAt_of_some hpiece]
      refine ⟨?_, rfl, ?_⟩
      · rw [hsymbol]
        simp only [Except.map, Option.map_some, Token.recalling, Token.lexeme, Token.kind, hlexeme]
      · rw [hsymbol] at htable ⊢
        exact htable

/-- On a table that recalls registrations a step is what it is on the seeded table, except that the
kind of a token is the one under which its lexeme was registered. -/
theorem step_next (h : t.Recalls known) (l : Lexer) :
    (l.next t).Recalls (l.next seeded) known := by
  cases hended : l.ended with
  | true =>
    rw [Lexer.next_of_ended hended, Lexer.next_of_ended hended]
    exact ⟨rfl, rfl, by simpa [registered] using h⟩
  | false =>
    rw [Lexer.next_of_open hended, Lexer.next_of_open hended, h.knowsMarks.skip_eq]
    have hstep := h.step_nextAt l (Trivia.skip seeded false l.location l.input).location _
      (Trivia.isBlank_of_head_rest seeded false l.location l.input)
    exact ⟨hstep.answer, hstep.lexer, hstep.table⟩

end SymbolTable.Recalls

/-! ### Kinds -/

/-- The kind of a lexeme in a table where these words were registered: a word or a numeral has the
kind under which it was registered first, and one of its own if it was not; a mark has the kind of
the mark. -/
structure Token.HasKind (known : Vocabulary) (token : Token) : Prop where
  word : IsWord token.lexeme.toList →
    token.kind = (known.kind? token.lexeme).getD .identifier
  numeral : IsNumeral token.lexeme.toList →
    token.kind = (known.kind? token.lexeme).getD (.literal (Numeral.classify token.lexeme.toList))
  mark : ¬ IsWord token.lexeme.toList → ¬ IsNumeral token.lexeme.toList →
    Vocabulary.marks.kind? token.lexeme = some token.kind

/-- On a lexical table a token has the kind of its lexeme. -/
lemma Lexer.lexeme_of_next {l : Lexer} {t : SymbolTable} {token : Token} (ht : t.Lexical)
    (h : (l.next t).answer = .ok (some token)) : Lexeme token.lexeme.toList token.kind := by
  cases hended : l.ended with
  | true =>
    rw [next_of_ended hended] at h
    cases h
  | false =>
    have hfinds := finds_next ht hended
    generalize (l.next t).lexer = l' at hfinds
    rw [h] at hfinds
    cases hfinds with
    | token _ _ hlongest _ =>
      rw [Token.lexeme, String.toList_ofList]
      exact hlongest.isLexeme

namespace SymbolTable.Recalls

variable {t : SymbolTable} {known : Vocabulary} {text : List Char} {kind : Kind}

lemma getD_of_isWord (h : t.Recalls known) (hlexeme : Lexeme text kind) (hword : IsWord text) :
    (known.kind? (String.ofList text)).getD kind =
      (known.kind? (String.ofList text)).getD .identifier := by
  cases hlexeme with
  | keyword _ hkind =>
    -- reserved words are known from the start
    have hfixed : Vocabulary.fixed.kind? (String.ofList text) = some kind := by
      rw [Vocabulary.fixed, Vocabulary.kind?_append, hkind, Option.some_or]
    rw [h.kind?_of_fixed hfixed]
    rfl
  | identifier _ _ => rfl
  | numeral hnum   => exact absurd hnum hword.not_isNumeral
  | mark hmark     => exact absurd hmark (hword.not_isMark _)

lemma getD_of_isNumeral (known : Vocabulary) (hlexeme : Lexeme text kind)
    (hnum : IsNumeral text) :
    (known.kind? (String.ofList text)).getD kind =
      (known.kind? (String.ofList text)).getD (.literal (Numeral.classify text)) := by
  rw [hlexeme.kind_unique (.numeral hnum)]

lemma getD_of_isMark (h : t.Recalls known) (hmark : IsMark text kind) :
    (known.kind? (String.ofList text)).getD kind = kind := by
  have hkind := (h.marks text hmark.isProbe).trans hmark
  rw [hkind]
  rfl

/-- A token whose lexeme has its own kind has the kind it should have when it is recalled. -/
lemma hasKind_recalling {token : Token} (h : t.Recalls known)
    (hlexeme : Lexeme token.lexeme.toList token.kind) :
    (token.recalling known).HasKind known := by
  have hchars : String.ofList token.lexeme.toList = token.lexeme := String.ofList_toList
  constructor
  · intro hword
    have hkind := h.getD_of_isWord hlexeme hword
    rwa [hchars] at hkind
  · intro hnum
    have hkind := getD_of_isNumeral known hlexeme hnum
    rwa [hchars] at hkind
  · intro hword hnum
    have hmark := (hlexeme.cases_sort.resolve_left hword).resolve_left hnum
    have hkind := h.getD_of_isMark hmark
    rw [IsMark, hchars] at hmark
    rw [hchars] at hkind
    exact hmark.trans (congrArg some hkind.symm)

/-- The tokens of a step have the kinds that their lexemes have in the table. -/
lemma hasKind_of_next (h : t.Recalls known) {l : Lexer} {token : Token}
    (hanswer : (l.next t).answer = .ok (some token)) : token.HasKind known := by
  rw [(h.step_next l).answer] at hanswer
  cases hplain : (l.next seeded).answer with
  | error e => rw [hplain] at hanswer; cases hanswer
  | ok plain? =>
    cases plain? with
    | none => rw [hplain] at hanswer; cases hanswer
    | some plain =>
      rw [hplain] at hanswer
      obtain rfl : plain.recalling known = token := Option.some.inj (Except.ok.inj hanswer)
      exact h.hasKind_recalling (Lexer.lexeme_of_next lexical_seeded hplain)

end SymbolTable.Recalls

/-! ### Runs -/

/-- What is done with a table and a lexer on it. -/
inductive Use where
  /-- A word is registered. -/
  | intern (lexeme : String) (kind : Kind)
  /-- The lexer is asked for a token. -/
  | next
deriving DecidableEq, Repr

namespace Use

/-- Whether the lexer is asked. -/
def isNext : Use → Bool
  | intern _ _ => false
  | next       => true

/-- The words that are registered by hand are none that lexers look up as marks. -/
def LeaveMarks (uses : List Use) : Prop :=
  ∀ lexeme kind, intern lexeme kind ∈ uses → isProbe lexeme.toList = false

end Use

/-- What a lexer answered, and what was registered in its table before, first to last. -/
structure Finding where
  known : Vocabulary
  answer : Except Error (Option Token)

/-- The lexeme and the place of a token, or the error. -/
def Finding.outline (a : Finding) : Except Error (Option (String × Span)) :=
  a.answer.map (·.map fun token => (token.lexeme, token.span))

/-- The findings of a lexer when words are registered in its table in between. Asking for
`Kind.bogus` registers nothing. -/
def Lexer.findings (l : Lexer) (t : SymbolTable) (known : Vocabulary) : List Use → List Finding
  | []                          => []
  | .intern lexeme kind :: uses =>
    l.findings (t.intern lexeme kind).2
      (if kind = .bogus then known else known ++ [(lexeme, kind)]) uses
  | .next :: uses               =>
    ⟨known, (l.next t).answer⟩ ::
      (l.next t).lexer.findings (l.next t).table (known ++ registered (l.next t).answer) uses

/-- The findings of a machine when words are registered in its registry in between. -/
def Machine.findings (m : Machine) (s : Store) : List Use → List (Except Error (Option Token))
  | []                          => []
  | .intern lexeme kind :: uses => m.findings (s.intern lexeme kind).2 uses
  | .next :: uses               =>
    let turn := Scene.turn ⟨m, s, []⟩
    turn.answer.map (·.map TokenRef.token) :: turn.scene.machine.findings turn.scene.store uses

namespace Use.LeaveMarks

variable {uses : List Use} {use : Use}

lemma tail (h : LeaveMarks (use :: uses)) : LeaveMarks uses :=
  fun lexeme kind hmem => h lexeme kind (List.mem_cons_of_mem _ hmem)

lemma head {lexeme : String} {kind : Kind} (h : LeaveMarks (intern lexeme kind :: uses)) :
    isProbe lexeme.toList = false :=
  h lexeme kind List.mem_cons_self

end Use.LeaveMarks

section Runs

variable {t t' : SymbolTable} {known known' : Vocabulary} {uses : List Use}

lemma SymbolTable.Recalls.intern {lexeme : String} (h : t.Recalls known)
    (hprobe : isProbe lexeme.toList = false) (kind : Kind) :
    (t.intern lexeme kind).2.Recalls
      (if kind = .bogus then known else known ++ [(lexeme, kind)]) := by
  unfold SymbolTable.intern
  split
  · exact h
  · exact (h.enter hprobe kind kind fun _ => rfl).2

/-- The kinds apart, a step is the same on all tables that recall registrations. -/
lemma SymbolTable.Recalls.outline_eq (h : t.Recalls known) (l : Lexer) (others : Vocabulary) :
    Finding.outline ⟨known, (l.next t).answer⟩ =
      Finding.outline ⟨others, (l.next .seeded).answer⟩ := by
  rw [Finding.outline, Finding.outline, (h.step_next l).answer]
  match (l.next .seeded).answer with
  | .error e         => rfl
  | .ok none         => rfl
  | .ok (some token) => rfl

/-- Registrations show in no lexeme, place or error. -/
theorem outlines_eq (h : t.Recalls known) (h' : t'.Recalls known') (huses : Use.LeaveMarks uses)
    (l : Lexer) :
    (l.findings t known uses).map Finding.outline =
      (l.findings t' known' (uses.filter Use.isNext)).map Finding.outline := by
  induction uses generalizing l t t' known known' with
  | nil => rfl
  | cons use uses ih =>
    cases use with
    | intern lexeme kind => exact ih (h.intern huses.head kind) h' huses.tail l
    | next =>
      have hstep := h.step_next l
      have hstep' := h'.step_next l
      have hrest := ih hstep.table hstep'.table huses.tail (l.next .seeded).lexer
      rw [List.filter_cons_of_pos rfl, Lexer.findings, Lexer.findings, List.map_cons, List.map_cons,
        h.outline_eq l known', ← h'.outline_eq l known', hstep.lexer, hstep'.lexer, hrest]

/-- The tokens of a run have the kinds that their lexemes had in the table. -/
theorem hasKind_of_mem_findings (h : t.Recalls known) (huses : Use.LeaveMarks uses) {l : Lexer}
    {a : Finding} (ha : a ∈ l.findings t known uses) {token : Token}
    (htoken : a.answer = .ok (some token)) : token.HasKind a.known := by
  induction uses generalizing l t known with
  | nil => cases ha
  | cons use uses ih =>
    cases use with
    | intern lexeme kind => exact ih (h.intern huses.head kind) huses.tail ha
    | next =>
      rcases List.mem_cons.1 ha with rfl | ha
      · exact h.hasKind_of_next htoken
      · exact ih (h.step_next l).table huses.tail ha

/-- A lexer finds the same on two tables that recall the same. -/
lemma Lexer.findings_congr (h : t.Recalls known) (h' : t'.Recalls known)
    (huses : Use.LeaveMarks uses) (l : Lexer) :
    l.findings t known uses = l.findings t' known uses := by
  induction uses generalizing l t t' known with
  | nil => rfl
  | cons use uses ih =>
    cases use with
    | intern lexeme kind =>
      exact ih (h.intern huses.head kind) (h'.intern huses.head kind) huses.tail l
    | next =>
      have hstep := h.step_next l
      have hstep' := h'.step_next l
      have hanswer := hstep.answer.trans hstep'.answer.symm
      have htable := hstep'.table
      rw [← hanswer] at htable
      have hrest := ih hstep.table htable huses.tail (l.next .seeded).lexer
      rw [findings, findings, ← hanswer, hstep.lexer, hstep'.lexer, hrest]

/-- A machine finds what the lexer finds that it follows. -/
lemma Machine.findings_eq {m : Machine} {l : Lexer} {s : Store} (h : m.Tracks l)
    (hkeyed : s.registry.Keyed) (known : Vocabulary) (uses : List Use) :
    m.findings s uses = (l.findings s.registry.erase known uses).map Finding.answer := by
  induction uses generalizing m l s known with
  | nil => rfl
  | cons use uses ih =>
    cases use with
    | intern lexeme kind =>
      have herase : (s.intern lexeme kind).2.registry.erase =
          (s.registry.erase.intern lexeme kind).2 :=
        congrArg Prod.snd (Store.erase_intern hkeyed lexeme kind)
      have hrest := ih h (Store.keyed_intern hkeyed lexeme kind)
        (if kind = .bogus then known else known ++ [(lexeme, kind)])
      rw [herase] at hrest
      exact hrest
    | next =>
      have hmirrors := Scene.turn_mirrors (s := ⟨m, s, []⟩) h hkeyed
      have hrest := ih hmirrors.machine (hmirrors.store.keyed hkeyed)
        (known ++ registered (l.next s.registry.erase).answer)
      rw [hmirrors.table] at hrest
      rw [Lexer.findings, List.map_cons, ← hrest]
      exact congrArg (· :: _) hmirrors.answer

end Runs

/-- Words that are registered by hand move no token. Let a table be seeded, and let words be
registered in it before and between the times a lexer on it is asked for a token, under any kinds,
none of them a text that is looked up as a mark. Then the lexemes and places of the tokens and the
error are what they are without these words. A mark has its own kind, and a word or a numeral has
the kind under which it was registered first; if it was not registered, by hand or by the lexer, it
has a kind of its own. A machine on a registry that was seeded in any order finds the same. -/
theorem findings_of_registering (source : String) (file? : Option String) {uses : List Use}
    (h : ∀ lexeme kind, .intern lexeme kind ∈ uses → isProbe lexeme.toList = false) :
    let l := Lexer.ofSource source file?
    let findings := l.findings .seeded Vocabulary.fixed uses
    findings.map Finding.outline =
        (l.findings .seeded Vocabulary.fixed (uses.filter Use.isNext)).map Finding.outline ∧
      (∀ a ∈ findings, ∀ token, a.answer = .ok (some token) → token.HasKind a.known) ∧
      ∀ fresh order, ∃ m, Machine.new (Reader.ofSource source file?) = .ok m ∧
        m.findings (Store.seed ⟨{}, fresh⟩ order) uses = findings.map Finding.answer := by
  intro l findings
  have hseeded := SymbolTable.recalls_seeded
  refine ⟨outlines_eq hseeded hseeded h l, ?_, ?_⟩
  · intro a ha token htoken
    exact hasKind_of_mem_findings hseeded h ha htoken
  · intro fresh order
    obtain ⟨m, hnew, hstands⟩ := Machine.new_stands (r := .ofSource source file?) rfl
    have htracks : m.Tracks l := .opened rfl hstands
    have hkeyed := (Store.lexical_seed fresh order).1
    refine ⟨m, hnew, ?_⟩
    rw [Machine.findings_eq htracks hkeyed Vocabulary.fixed uses,
      Lexer.findings_congr (SymbolTable.recalls_seed fresh order) hseeded h l]

/-- A word that is registered as a comment, one that is registered when it was scanned already, and
a numeral that begins with a point, in front of a comment and an illegal character. -/
theorem findings_of_registering_comment :
    let uses : List Use := [.intern "x" .comment, .next, .next, .intern "y" .comment,
      .intern ".5" (.literal .integer), .next, .next, .next]
    let l := Lexer.ofSource "x y .5 y//\n@" none
    (l.findings .seeded Vocabulary.fixed uses).map Finding.outline =
        [.ok (some ("x", ⟨1, 0, 0⟩)), .ok (some ("y", ⟨1, 2, 2⟩)), .ok (some (".5", ⟨1, 4, 5⟩)),
          .ok (some ("y", ⟨1, 7, 7⟩)), .error ⟨.illegalLexeme "@", ⟨⟨2, 0⟩, "shell"⟩⟩] ∧
      ∃ m, Machine.new (Reader.ofSource "x y .5 y//\n@" none) = .ok m ∧
        m.findings (Store.seed ⟨{}, 0⟩ .listed) uses =
          [.ok (some ⟨⟨"x", .comment⟩, ⟨1, 0, 0⟩⟩), .ok (some ⟨⟨"y", .identifier⟩, ⟨1, 2, 2⟩⟩),
            .ok (some ⟨⟨".5", .literal .integer⟩, ⟨1, 4, 5⟩⟩),
            .ok (some ⟨⟨"y", .identifier⟩, ⟨1, 7, 7⟩⟩),
            .error ⟨.illegalLexeme "@", ⟨⟨2, 0⟩, "shell"⟩⟩] := by
  intro uses l
  have hall : (uses.all fun
      | .intern lexeme _ => !isProbe lexeme.toList
      | .next            => true) = true := by decide
  have hwords (lexeme : String) (kind : Kind) (hmem : .intern lexeme kind ∈ uses) :
      isProbe lexeme.toList = false := by
    simpa using List.all_eq_true.1 hall _ hmem
  obtain ⟨houtlines, -, hmachine⟩ := findings_of_registering "x y .5 y//\n@" none hwords
  obtain ⟨m, hnew, hfindings⟩ := hmachine 0 .listed
  refine ⟨?_, m, hnew, ?_⟩
  · rw [houtlines]
    decide +kernel
  · rw [hfindings]
    decide +kernel

end Lexis
