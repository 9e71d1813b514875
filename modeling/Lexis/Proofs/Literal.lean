import Lexis.Proofs.Classify
import Lexis.Proofs.Kind
import Lexis.Proofs.RoundTrip
import Lexis.Proofs.Spans

/-!
# Numerals that are scanned

A scan takes a numeral piece by piece and checks none of it; its kind is settled later, by patterns
on the whole. The two agree (`literals_of_emits`): what is scanned has a base that the patterns
accept, so its kind depends only on whether its exponent has a digit and on whether there is a
point, and what the patterns accept without a sign is scanned in one piece.
-/

namespace Lexis

open Character

namespace Numeral

open RegularExpression Pattern

/-! ### The shape of what is scanned -/

/-- The pattern `[0-9]*(\.[0-9]*)?([eE][+-]?[0-9]*)?`. -/
def scannedPattern : RegularExpression Char :=
  digit.star * (optional (char '.' * digit.star) *
    optional (oneOf ['e', 'E'] * (signPattern * digit.star)))

/-- The text has an exponent mark and at least one digit behind it, perhaps with a sign between. -/
def HasPower (text : List Char) : Prop :=
  ∃ before m s d after, text = before ++ m :: (s ++ d :: after) ∧ isExponentMark m = true ∧
    IsOptionalSign s ∧ d.isDigit = true

variable {base power text : List Char}

lemma isOptionalSign_of_isSign {s : Char} (h : isSign s = true) : IsOptionalSign [s] := by
  have hsign := isOptionalSign_sign [s]
  rwa [sign, if_pos h] at hsign

/-- An exponent is a mark, a sign that may be missing, and digits. -/
lemma IsExponent.exists_parts (h : IsExponent power) :
    ∃ m s ds, power = m :: (s ++ ds) ∧ isExponentMark m = true ∧ IsOptionalSign s ∧
      IsDigits ds := by
  cases h with
  | unsigned hm hds  => exact ⟨_, [], _, rfl, hm, Or.inl rfl, hds⟩
  | signed hm hs hds => exact ⟨_, [_], _, rfl, hm, isOptionalSign_of_isSign hs, hds⟩

lemma mem_exponentMarks (m : Char) : m ∈ ['e', 'E'] ↔ isExponentMark m = true := by
  simp [isExponentMark]

/-- Numerals have the shape in which a scan takes them. -/
lemma mem_scannedPattern (h : IsNumeral text) : text ∈ scannedPattern.matches' := by
  obtain ⟨base, power, rfl, hbase, hpower⟩ := h
  obtain ⟨ds, point, rfl, hds, hpoint⟩ := hbase.exists_parts
  simp only [scannedPattern, mem_mul, mem_optional, mem_char, mem_oneOf, mem_star_digit,
    mem_signPattern, mem_exponentMarks]
  refine ⟨ds, hds, point ++ power, ⟨point, ?_, power, ?_, rfl⟩, (List.append_assoc _ _ _).symm⟩
  · rcases hpoint with rfl | ⟨fs, rfl, hfs⟩
    · exact Or.inl rfl
    · exact Or.inr ⟨_, rfl, fs, hfs, rfl⟩
  · rcases hpower with rfl | hpower
    · exact Or.inl rfl
    · obtain ⟨m, s, es, rfl, hm, hs, hes⟩ := hpower.exists_parts
      exact Or.inr ⟨_, ⟨m, hm, rfl⟩, _, ⟨s, hs, es, hes, rfl⟩, rfl⟩

/-! ### Base and exponent of a numeral -/

lemma IsBase.exists_digit (h : IsBase base) : ∃ d ∈ base, d.isDigit = true := by
  have hdigit {ds : List Char} (hne : ds ≠ []) (hds : IsDigits ds) :
      ∃ d ∈ ds, d.isDigit = true := by
    obtain ⟨d, ds, rfl⟩ := List.exists_cons_of_ne_nil hne
    exact ⟨d, List.mem_cons_self, hds d List.mem_cons_self⟩
  cases h with
  | whole hne hds => exact hdigit hne hds
  | decimal hne hds _ =>
    obtain ⟨d, hd, hdigit⟩ := hdigit hne hds
    exact ⟨d, List.mem_append_left _ hd, hdigit⟩
  | fractional hne hfs =>
    obtain ⟨d, hd, hdigit⟩ := hdigit hne hfs
    exact ⟨d, List.mem_cons_of_mem _ hd, hdigit⟩

/-- A base is a decimal if it has a point. -/
lemma IsBase.isDecimal_iff (h : IsBase base) : IsDecimal base ↔ '.' ∈ base := by
  refine ⟨IsDecimal.point_mem, fun hpoint => ?_⟩
  rcases (isBase_iff base).1 h with hwhole | hdecimal
  · exact absurd (hwhole.2 _ hpoint) (by decide)
  · exact hdecimal

lemma isExponentMark_of_head (hpower : power = [] ∨ IsExponent power) :
    ∀ m ∈ power.head?, isExponentMark m = true := by
  rcases hpower with rfl | hpower
  · simp
  · obtain ⟨m, s, ds, rfl, hm, -⟩ := hpower.exists_parts
    simpa using hm

/-- What stands in front of the exponent of a numeral is its base. -/
lemma mantissa_eq_base (hbase : IsBase base) (hpower : power = [] ∨ IsExponent power) :
    mantissa (base ++ power) = base :=
  (mantissa_append hbase.isExponentMark_of_mem (isExponentMark_of_head hpower)).1

/-- The point of a numeral is in its base. -/
lemma point_mem_iff (hpower : power = [] ∨ IsExponent power) :
    '.' ∈ base ++ power ↔ '.' ∈ base := by
  rw [List.mem_append, or_iff_left]
  intro hmem
  have hcases := (hpower.resolve_left (List.ne_nil_of_mem hmem)).mem_cases hmem
  exact absurd hcases (by decide)

lemma IsFullExponent.isExponent (h : IsFullExponent power) : IsExponent power := by
  obtain ⟨hm, hs, hds⟩ := h
  rcases hs with rfl | rfl | rfl
  · exact .unsigned hm hds.2
  · exact .signed hm rfl hds.2
  · exact .signed hm rfl hds.2

/-- An exponent does not lack its digits if it has one. -/
lemma isFullExponent_iff (hpower : power = [] ∨ IsExponent power) :
    IsFullExponent power ↔ ∃ d ∈ power, d.isDigit = true := by
  constructor
  · rintro ⟨hm, hs, hds⟩
    obtain ⟨d, ds, rfl⟩ := List.exists_cons_of_ne_nil hds.1
    exact ⟨d, by simp, hds.2 d List.mem_cons_self⟩
  · rintro ⟨d, hd, hdigit⟩
    have hexponent := hpower.resolve_left (List.ne_nil_of_mem hd)
    obtain ⟨m, s, ds, rfl, hm, hs, hds⟩ := hexponent.exists_parts
    refine .mk hm hs ⟨?_, hds⟩
    rintro rfl
    rw [List.append_nil] at hd
    rcases List.mem_cons.1 hd with rfl | hd
    · exact absurd hdigit (by simp [(isExponentMark_ne hm).1])
    · rcases hs with rfl | rfl | rfl
      · cases hd
      · exact absurd hdigit (by simp [List.mem_singleton.1 hd])
      · exact absurd hdigit (by simp [List.mem_singleton.1 hd])

/-- A digit behind an exponent mark is in the exponent, as a base has no mark. -/
lemma hasPower_iff (hbase : IsBase base) (hpower : power = [] ∨ IsExponent power) :
    HasPower (base ++ power) ↔ IsFullExponent power := by
  constructor
  · rintro ⟨before, m, s, d, after, heq, hm, hs, hd⟩
    rw [isFullExponent_iff hpower]
    rcases List.append_eq_append_iff.1 heq with ⟨more, -, rfl⟩ | ⟨more, rfl, htail⟩
    · exact ⟨d, by simp, hd⟩
    · cases more with
      | nil =>
        obtain rfl : m :: (s ++ d :: after) = power := htail
        exact ⟨d, by simp, hd⟩
      | cons m' more =>
        obtain ⟨rfl, -⟩ := List.cons.inj htail
        have hnone := hbase.isExponentMark_of_mem m (by simp)
        simp [hm] at hnone
  · rintro @⟨m, s, ds, hm, hs, hds⟩
    obtain ⟨d, ds, rfl⟩ := List.exists_cons_of_ne_nil hds.1
    exact ⟨base, m, s, d, ds, rfl, hm, hs, hds.2 d List.mem_cons_self⟩

/-- A numeral is scientific if its exponent has digits: no sign is in front of it. -/
lemma isScientific_append_iff (hbase : IsBase base) (hpower : power = [] ∨ IsExponent power) :
    IsScientific (base ++ power) ↔ IsFullExponent power := by
  constructor
  · rintro ⟨s, base', power', heq, hs, hbase', hfull⟩
    have hunsigned := unsigned_append (s := []) (Or.inl rfl) (hbase.isSign_of_head power)
    rw [List.nil_append, heq, unsigned_append hs (hbase'.isSign_of_head power')] at hunsigned
    obtain ⟨-, hbehind⟩ :=
      mantissa_append hbase.isExponentMark_of_mem (isExponentMark_of_head hpower)
    have hhead : ∀ m ∈ power'.head?, isExponentMark m = true := by
      obtain ⟨hm, -, -⟩ := hfull
      simpa using hm
    have hbehind' := (mantissa_append hbase'.isExponentMark_of_mem hhead).2
    rw [hunsigned, ← heq, hbehind] at hbehind'
    rwa [hbehind']
  · intro hfull
    exact ⟨[], base, power, rfl, Or.inl rfl, hbase, hfull⟩

/-- The form of a numeral is seen from its exponent and its point. -/
theorem classify_of_isNumeral (h : IsNumeral text) :
    (classify text = .scientific ↔ HasPower text) ∧
      (classify text = .decimal ↔ ¬ HasPower text ∧ '.' ∈ text) ∧
      (classify text = .integer ↔ ¬ HasPower text ∧ '.' ∉ text) := by
  obtain ⟨base, power, rfl, hbase, hpower⟩ := h
  have hscientific : isScientific (base ++ power) = true ↔ HasPower (base ++ power) := by
    rw [isScientific_iff, isScientific_append_iff hbase hpower, hasPower_iff hbase hpower]
  have hdecimal : isDecimal (mantissa (base ++ power)) = true ↔ '.' ∈ base ++ power := by
    rw [mantissa_eq_base hbase hpower, Numeral.isDecimal_iff, hbase.isDecimal_iff,
      point_mem_iff hpower]
  rw [← hscientific, ← hdecimal, classify]
  cases isScientific (base ++ power) <;> cases isDecimal (mantissa (base ++ power)) <;> simp

/-- What the patterns accept without a sign is a numeral. -/
lemma isNumeral_of_mem_pattern (hsign : ∀ c ∈ text.head?, isSign c = false)
    (h : text ∈ decimalPattern.matches' ∨ text ∈ scientificPattern.matches') : IsNumeral text := by
  rcases h with hdecimal | hscientific
  · have hbase := (isBase_iff text).2 (Or.inr (mem_decimalPattern.1 hdecimal))
    exact ⟨text, [], (List.append_nil text).symm, hbase, Or.inl rfl⟩
  · obtain ⟨s, base, power, rfl, hs, hbase, hpower⟩ := mem_scientificPattern.1 hscientific
    obtain rfl : s = [] := by
      rcases hs with rfl | rfl | rfl
      · rfl
      · exact absurd (hsign '+' rfl) (by decide)
      · exact absurd (hsign '-' rfl) (by decide)
    exact ⟨base, power, rfl, hbase, hpower.imp_right IsFullExponent.isExponent⟩

end Numeral

/-! ### Literals -/

/-- A token that is written as a number, or that counts as one. -/
def Token.IsNumeric (token : Token) : Prop :=
  token.kind.isLiteral = true ∨ ∃ c ∈ token.lexeme.toList.head?, c.isDigit = true ∨ c = '.'

/-- The lexeme has the shape of a number, with a digit in front of its exponent, and the kind says
what can be seen of the lexeme: whether its exponent has digits, and else whether it has a point. -/
structure Token.IsScanned (token : Token) : Prop where
  shape : token.lexeme.toList ∈ Numeral.scannedPattern.matches'
  digit : ∃ d ∈ Numeral.mantissa token.lexeme.toList, d.isDigit = true
  scientific : token.kind = .literal .scientific ↔ Numeral.HasPower token.lexeme.toList
  decimal : token.kind = .literal .decimal ↔
    ¬ Numeral.HasPower token.lexeme.toList ∧ '.' ∈ token.lexeme.toList
  integer : token.kind = .literal .integer ↔
    ¬ Numeral.HasPower token.lexeme.toList ∧ '.' ∉ token.lexeme.toList
  /-- What is in front of the exponent is never refused. -/
  accepted : '.' ∈ token.lexeme.toList →
    Numeral.mantissa token.lexeme.toList ∈ Numeral.decimalPattern.matches'

/-- A token with the shape of a numeral and the kind of its lexeme is as it is scanned. -/
lemma Token.isScanned_of_lexeme {token : Token}
    (hlexeme : Lexeme token.lexeme.toList token.kind) (h : token.IsNumeric) :
    token.IsScanned := by
  have hnum : IsNumeral token.lexeme.toList := by
    rcases h with hkind | ⟨c, hc, hhead⟩
    · exact hlexeme.isNumeral_of_isLiteral hkind
    · exact hlexeme.isNumeral_of_head hc hhead
  have hkind (form : Literal) : token.kind = .literal form ↔
      Numeral.classify token.lexeme.toList = form := by
    rw [hlexeme.kind_unique (.numeral hnum), Kind.literal.injEq]
  obtain ⟨hscientific, hdecimal, hinteger⟩ := Numeral.classify_of_isNumeral hnum
  obtain ⟨base, power, htext, hbase, hpower⟩ := hnum
  have hmantissa := Numeral.mantissa_eq_base hbase hpower
  rw [← htext] at hmantissa
  refine ⟨Numeral.mem_scannedPattern ⟨base, power, htext, hbase, hpower⟩, ?_,
    (hkind _).trans hscientific, (hkind _).trans hdecimal, (hkind _).trans hinteger, ?_⟩
  · rw [hmantissa]
    exact hbase.exists_digit
  · intro hpoint
    rw [htext, Numeral.point_mem_iff hpower] at hpoint
    rw [hmantissa]
    exact Numeral.mem_decimalPattern.2 (hbase.isDecimal_iff.2 hpoint)

/-- The tokens that are emitted have the kinds of their lexemes. -/
lemma Lexer.Emits.lexeme_of_mem {l l' : Lexer} {tokens : List Token} (h : l.Emits tokens l') :
    ∀ token ∈ tokens, Lexeme token.lexeme.toList token.kind := by
  induction h with
  | nil => simp
  | next ht hanswer _ ih =>
    exact List.forall_mem_cons.2 ⟨Lexer.lexeme_of_next ht.lexical hanswer, ih⟩

/-- A numeral alone is one token. -/
lemma tokenize_of_isNumeral {text : String} (h : IsNumeral text.toList) (file? : Option String) :
    tokenize text file? = .ok [⟨⟨text, .literal (Numeral.classify text.toList)⟩,
      ⟨1, 0, text.length - 1⟩⟩] := by
  have hslashes : text.toList ≠ ['/', '/'] := by
    intro heq
    rw [heq] at h
    exact Numeral.slash_notMem h List.mem_cons_self
  have hspan : Lexer.spanAt (Location.after []) text.toList = ⟨1, 0, text.length - 1⟩ := by
    simp [Lexer.spanAt, Location.after, Text.openLine, String.length_toList]
  have hmunch : Munch (file?.getD defaultFile) [] text.toList
      [⟨⟨String.ofList text.toList, .literal (Numeral.classify text.toList)⟩,
        Lexer.spanAt (Location.after []) text.toList⟩] none := by
    refine .token (Lexeme.numeral h).longest hslashes ?_
    rw [List.drop_length]
    exact .done
  rw [String.ofList_toList, hspan] at hmunch
  exact tokenize_eq_ok_iff.2 hmunch

/-- Scanning and patterns agree on numerals. Whatever a lexer emits on tables that belong to
lexers, a numeric token has the shape of a number with a digit in front of its exponent, and its
kind is seen from whether there are digits in its exponent and whether there is a point. Every text
without a sign that one of the patterns accepts is a single token when nothing else is there. -/
theorem literals_of_emits :
    (∀ (l l' : Lexer) (tokens : List Token), l.Emits tokens l' →
      ∀ token ∈ tokens, token.IsNumeric → token.IsScanned) ∧
    ∀ (text : String) (file? : Option String), (∀ c ∈ text.toList.head?, isSign c = false) →
      text.toList ∈ Numeral.decimalPattern.matches' ∨
        text.toList ∈ Numeral.scientificPattern.matches' →
      tokenize text file? = .ok [⟨⟨text, .literal (Numeral.classify text.toList)⟩,
        ⟨1, 0, text.length - 1⟩⟩] := by
  constructor
  · intro l l' tokens h token htoken hnumeric
    exact Token.isScanned_of_lexeme (h.lexeme_of_mem token htoken) hnumeric
  · intro text file? hsign h
    exact tokenize_of_isNumeral (Numeral.isNumeral_of_mem_pattern hsign h) file?

/-- A decimal whose exponent has no digits, in front of a word and of a scientific literal that
begins with a point; and a text with a signed exponent alone. -/
theorem literals_of_emits_exponents :
    Token.IsScanned ⟨⟨"1.e+", .literal .decimal⟩, ⟨1, 0, 3⟩⟩ ∧
      Token.IsScanned ⟨⟨".5E3", .literal .scientific⟩, ⟨1, 6, 9⟩⟩ ∧
      tokenize ".5e-3" none = .ok [⟨⟨".5e-3", .literal .scientific⟩, ⟨1, 0, 4⟩⟩] := by
  have hemits : (Lexer.ofSource "1.e+x .5E3" none).Emits
      [⟨⟨"1.e+", .literal .decimal⟩, ⟨1, 0, 3⟩⟩, ⟨⟨"x", .identifier⟩, ⟨1, 4, 4⟩⟩,
        ⟨⟨".5E3", .literal .scientific⟩, ⟨1, 6, 9⟩⟩]
      ⟨"shell", [], ⟨1, 10⟩, false⟩ :=
    .next .seeded rfl (.next (.next (.ofSource "x" none) .seeded) rfl (.next .seeded rfl .nil))
  have hpattern : ".5e-3".toList ∈ Numeral.scientificPattern.matches' := by
    rw [Numeral.mem_scientificPattern]
    refine ⟨[], ['.', '5'], ['e', '-', '3'], rfl, Or.inl rfl, .fractional ?_ ?_, Or.inr ?_⟩
    · decide
    · simp [Numeral.IsDigits]
    · exact @Numeral.IsFullExponent.mk 'e' ['-'] ['3'] rfl (Or.inr (Or.inr rfl))
        ⟨by decide, by simp [Numeral.IsDigits]⟩
  obtain ⟨hscanned, halone⟩ := literals_of_emits
  exact ⟨hscanned _ _ _ hemits _ List.mem_cons_self (Or.inl rfl),
    hscanned _ _ _ hemits _ (by simp) (Or.inl rfl),
    halone ".5e-3" none (by simp [isSign]) (Or.inr hpattern)⟩

end Lexis
