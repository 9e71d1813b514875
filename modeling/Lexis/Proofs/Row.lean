import Mathlib.Data.List.Basic
import Lexis.Proofs.CommandLine
import Lexis.Proofs.Literal

/-!
# Rows are read back

A row tells the token that it is the row of (`Token.ofRow?_row`). A number that is too long for its
column pushes on what stands behind it, so no column has a place of its own; but a number goes as
far as its digits, the name of a kind fits its column (`Kind.length_name_le`), and the lexeme is all
that is left, whatever it looks like. The lexemes of emitted tokens stay in one line, so the rows of
several tokens are told apart where they are printed one below the other
(`CommandLine.eq_of_rows_eq`).
-/

namespace Lexis

/-! ### Columns -/

namespace Text

/-- The number at the head of a text, and what follows it. -/
def number? (text : List Char) : Option (Nat × List Char) :=
  let digits := Numeral.digits text
  if digits = [] then none
  else some (Nat.ofDigitChars 10 digits 0, text.drop digits.length)

/-- The number in the column at the head of a text, and what follows the column. -/
def column? (text : List Char) : Option (Nat × List Char) :=
  number? (text.dropWhile (· == ' '))

variable {rest : List Char}

lemma isDigits_repr (n : Nat) : Numeral.IsDigits n.repr.toList := by
  intro c hc
  rw [Nat.toList_repr] at hc
  exact Nat.isDigit_of_mem_toDigits (by decide) (by decide) hc

lemma repr_ne_nil (n : Nat) : n.repr.toList ≠ [] := by
  rw [Nat.toList_repr]
  exact Nat.toDigits_ne_nil

/-- A number goes as far as its digits. -/
lemma number?_append (h : ∀ c ∈ rest.head?, c.isDigit = false) (n : Nat) :
    number? (n.repr.toList ++ rest) = some (n, rest) := by
  have hrest : Numeral.digits rest = [] := by
    cases rest with
    | nil      => rfl
    | cons c _ => simpa [Numeral.digits] using h
  have hdigits : Numeral.digits (n.repr.toList ++ rest) = n.repr.toList := by
    rw [Numeral.digits_append (isDigits_repr n), hrest, List.append_nil]
  rw [number?, hdigits, if_neg (repr_ne_nil n), List.drop_left, Nat.toList_repr,
    Nat.ofDigitChars_ten_toDigits]

/-- A column ends where its number does, whether that is as wide as it should be or wider. -/
lemma column?_append (h : ∀ c ∈ rest.head?, c.isDigit = false) (width n : Nat) :
    column? ((alignRight width ' ' n.repr).toList ++ rest) = some (n, rest) := by
  have hblanks : ∀ c ∈ List.replicate (width - n.repr.length) ' ', (c == ' ') = true := by
    simp +contextual
  have hnumber : (n.repr.toList ++ rest).dropWhile (· == ' ') = n.repr.toList ++ rest := by
    cases hdigits : n.repr.toList with
    | nil => exact absurd hdigits (repr_ne_nil n)
    | cons c digits =>
      have hc : c.isDigit = true := isDigits_repr n c (by rw [hdigits]; exact List.mem_cons_self)
      have hblank : c ≠ ' ' := by
        rintro rfl
        exact absurd hc (by decide)
      simp [hblank]
  rw [column?, toList_alignRight, List.append_assoc, List.dropWhile_append_of_pos hblanks, hnumber,
    number?_append h]

end Text

namespace Kind

/-- The kind in the column at the head of a text, and what follows the column and a blank. -/
def column? (text : List Char) : Option (Kind × List Char) :=
  (ofName? (String.ofList ((text.take 14).takeWhile (· != ' ')))).map (·, text.drop 15)

/-- Every name fits the column of the kinds. -/
lemma length_name_le (kind : Kind) : kind.name.length ≤ 14 := by
  have hall : ∀ kind ∈ all, kind.name.length ≤ 14 := by decide
  exact hall kind kind.mem_all

lemma isAlpha_of_mem_name (kind : Kind) : ∀ c ∈ kind.name.toList, c.isAlpha = true := by
  have hall : ∀ kind ∈ all, kind.name.toList.all Char.isAlpha = true := by decide
  exact List.all_eq_true.1 (hall kind kind.mem_all)

/-- A column has the name of one kind, and ends in the same place whatever the kind. -/
lemma column?_append (kind : Kind) (rest : List Char) :
    column? ((Text.alignLeft 14 kind.name).toList ++ ' ' :: rest) = some (kind, rest) := by
  have hlength : (Text.alignLeft 14 kind.name).toList.length = 14 := by
    have hle := kind.length_name_le
    simp [String.length_toList]
    omega
  have hname : ∀ c ∈ kind.name.toList, (c != ' ') = true := by
    intro c hc
    have halpha := kind.isAlpha_of_mem_name c hc
    simp only [bne_iff_ne, ne_eq]
    rintro rfl
    exact absurd halpha (by decide)
  have htake : ((Text.alignLeft 14 kind.name).toList ++ ' ' :: rest).take 14 =
      kind.name.toList ++ List.replicate (14 - kind.name.length) ' ' := by
    rw [List.take_left' hlength, Text.toList_alignLeft]
  have hdrop : ((Text.alignLeft 14 kind.name).toList ++ ' ' :: rest).drop 15 = rest := by
    rw [show 15 = 14 + 1 from rfl, ← List.drop_drop, List.drop_left' hlength]
    rfl
  have hblanks : (List.replicate (14 - kind.name.length) ' ').takeWhile (· != ' ') = [] := by
    simp
  rw [column?, htake, hdrop, List.takeWhile_append_of_pos hname, hblanks, List.append_nil,
    String.ofList_toList, ofName?_name]
  rfl

end Kind

/-! ### Rows -/

namespace Token

/-- Read a row. -/
def ofRow? (row : String) : Option Token := do
  let (first, rest) ← Text.column? row.toList
  let rest ← " ".toList.isPrefixOf? rest
  let (last, rest) ← Text.column? rest
  let rest ← "   line: ".toList.isPrefixOf? rest
  let (line, rest) ← Text.column? rest
  let rest ← "   ".toList.isPrefixOf? rest
  let (kind, lexeme) ← Kind.column? rest
  return ⟨⟨String.ofList lexeme, kind⟩, ⟨line, first, last⟩⟩

lemma toList_row (t : Token) :
    t.row.toList =
      (Text.alignRight 6 ' ' t.span.first.repr).toList ++ (" ".toList ++
        ((Text.alignRight 6 ' ' t.span.last.repr).toList ++ ("   line: ".toList ++
          ((Text.alignRight 3 ' ' t.span.line.repr).toList ++ ("   ".toList ++
            ((Text.alignLeft 14 t.kind.name).toList ++ ' ' :: t.lexeme.toList)))))) := by
  simp only [row, String.toList_append, List.append_assoc]
  rfl

lemma isPrefixOf?_append (head rest : List Char) :
    head.isPrefixOf? (head ++ rest) = some rest := by
  simp

/-- A row is the row of one token. -/
theorem ofRow?_row (t : Token) : ofRow? t.row = some t := by
  rw [ofRow?, toList_row]
  rw [Text.column?_append (by simp), Option.bind_eq_bind, Option.bind_some]
  simp only [isPrefixOf?_append, Option.bind_eq_bind, Option.bind_some]
  rw [Text.column?_append (by simp), Option.bind_some]
  simp only [isPrefixOf?_append, Option.bind_some]
  rw [Text.column?_append (by simp), Option.bind_some]
  simp only [isPrefixOf?_append, Option.bind_some]
  rw [Kind.column?_append, Option.bind_some, String.ofList_toList]
  rfl

lemma row_injective : Function.Injective row := by
  intro t t' h
  have hread := congrArg ofRow? h
  rwa [ofRow?_row, ofRow?_row, Option.some.injEq] at hread

/-- A row is in one line if the lexeme is. -/
lemma lineFeed_notMem_row {t : Token} (h : '\n' ∉ t.lexeme.toList) : '\n' ∉ t.row.toList := by
  have hnumber := Text.notMem_repr (c := '\n') (by decide)
  have hname : '\n' ∉ t.kind.name.toList := by
    intro hmem
    exact absurd (t.kind.isAlpha_of_mem_name _ hmem) (by decide)
  simp [row, hnumber, hname, h, -Nat.toList_repr]

end Token

/-! ### Rows of several tokens -/

namespace CommandLine

variable {tokens tokens' : List Token}

/-- The lines of what is printed are the rows. -/
lemma lines_rows (h : ∀ token ∈ tokens, '\n' ∉ token.row.toList) :
    Text.lines (rows tokens).toList = tokens.map fun token => token.row.toList ++ ['\n'] := by
  induction tokens with
  | nil => rfl
  | cons token tokens ih =>
    obtain ⟨hrow, htokens⟩ := List.forall_mem_cons.1 h
    have hline := Text.lines_row hrow (rows tokens).toList
    rw [ih htokens] at hline
    simpa [rows_cons] using hline

lemma eq_of_rows_eq (h : ∀ token ∈ tokens, '\n' ∉ token.row.toList)
    (h' : ∀ token ∈ tokens', '\n' ∉ token.row.toList) (heq : rows tokens = rows tokens') :
    tokens = tokens' := by
  have hlines := congrArg (fun printed : String => Text.lines printed.toList) heq
  simp only [lines_rows h, lines_rows h'] at hlines
  refine List.map_injective_iff.2 ?_ hlines
  intro token token' hrow
  exact Token.row_injective (String.toList_inj.1 (List.append_cancel_right hrow))

end CommandLine

namespace Lexer

/-- The row of a token that is emitted is in one line. -/
lemma Emits.lineFeed_notMem_row {l l' : Lexer} {tokens : List Token} (h : l.Emits tokens l') :
    ∀ token ∈ tokens, '\n' ∉ token.row.toList := by
  intro token htoken
  exact Token.lineFeed_notMem_row (h.lexeme_of_mem token htoken).lineFeed_notMem

/-- The tokens of a drain are emitted. -/
lemma exists_emits_drain (l : Lexer) {t : SymbolTable} (ht : t.LexersOnly) :
    ∃ l', l.Emits (l.drain t).tokens l' := by
  match hanswer : (l.next t).answer with
  | .ok none =>
    rw [drain_of_none hanswer]
    exact ⟨l, .nil⟩
  | .error e =>
    rw [drain_of_error hanswer]
    exact ⟨l, .nil⟩
  | .ok (some token) =>
    have hshorter := next_shortens hanswer
    obtain ⟨l', hrest⟩ := exists_emits_drain (l.next t).lexer (ht.next l)
    rw [drain_of_some hanswer]
    exact ⟨l', .next ht hanswer hrest⟩
termination_by l.input.length

end Lexer

/-- Rows are read back. A row gives back its token, so the row of a token is the row of no other.
The rows of tokens that are emitted on tables that belong to lexers have no line feeds in them;
where such rows are printed one below the other, as they are for a source, no other such tokens give
the same text. -/
theorem tokens_of_rows :
    (∀ token : Token, Token.ofRow? token.row = some token) ∧
    (∀ token token' : Token, token.row = token'.row → token = token') ∧
    (∀ (l l' : Lexer) (tokens : List Token), l.Emits tokens l' →
      ∀ token ∈ tokens, '\n' ∉ token.row.toList) ∧
    (∀ (l₁ l₁' l₂ l₂' : Lexer) (tokens₁ tokens₂ : List Token), l₁.Emits tokens₁ l₁' →
      l₂.Emits tokens₂ l₂' → CommandLine.rows tokens₁ = CommandLine.rows tokens₂ →
        tokens₁ = tokens₂) ∧
    ∀ (source source' : String) (file? file?' : Option String),
      CommandLine.rows (scan source file?).tokens = CommandLine.rows (scan source' file?').tokens →
        (scan source file?).tokens = (scan source' file?').tokens := by
  refine ⟨Token.ofRow?_row, ?_, ?_, ?_, ?_⟩
  · intro token token' h
    exact Token.row_injective h
  · intro l l' tokens h
    exact h.lineFeed_notMem_row
  · intro l₁ l₁' l₂ l₂' tokens₁ tokens₂ h₁ h₂ heq
    exact CommandLine.eq_of_rows_eq h₁.lineFeed_notMem_row h₂.lineFeed_notMem_row heq
  · intro source source' file? file?' heq
    obtain ⟨l, h⟩ := (Lexer.ofSource source file?).exists_emits_drain .seeded
    obtain ⟨l', h'⟩ := (Lexer.ofSource source' file?').exists_emits_drain .seeded
    exact CommandLine.eq_of_rows_eq h.lineFeed_notMem_row h'.lineFeed_notMem_row heq

/-- A source and the same source with a comment behind it, in files of different names. -/
theorem tokens_of_rows_comment :
    CommandLine.rows (scan "if 1.5" none).tokens =
        CommandLine.rows (scan "if 1.5 // x" (some "a.x")).tokens ∧
      (scan "if 1.5" none).tokens = (scan "if 1.5 // x" (some "a.x")).tokens ∧
      '\n' ∉ (Token.row ⟨⟨"if", .keyword .ifWord⟩, ⟨1, 0, 1⟩⟩).toList := by
  have hrows : CommandLine.rows (scan "if 1.5" none).tokens =
      CommandLine.rows (scan "if 1.5 // x" (some "a.x")).tokens := by decide +kernel
  have hemits : (Lexer.ofSource "if 1.5" none).Emits
      [⟨⟨"if", .keyword .ifWord⟩, ⟨1, 0, 1⟩⟩] ⟨"shell", " 1.5".toList, ⟨1, 2⟩, false⟩ :=
    .next .seeded rfl .nil
  obtain ⟨-, -, honeLine, -, hsources⟩ := tokens_of_rows
  exact ⟨hrows, hsources _ _ _ _ hrows, honeLine _ _ _ hemits _ List.mem_cons_self⟩

end Lexis
