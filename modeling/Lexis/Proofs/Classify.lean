import Mathlib.Computability.RegularExpressions
import Lexis.Proofs.Numeral

/-!
# The form of a literal

`Numeral.classify` decides a grammar on texts of any origin (`Numeral.classify_iff`): a text is
scientific if it is a base with an exponent, either of them perhaps signed, and otherwise decimal if
what stands in front of its first exponent mark is digits around a point. Everything else counts as
an integer.

The same is decided by two patterns, one for what is in front of the exponent and one for the whole
(`Numeral.classify_eq_judge`). The patterns overlap, and only the second admits a sign.
-/

namespace Lexis

open Character

namespace Numeral

/-! ### The grammar -/

/-- Digits, at least one of them. -/
def IsWhole (text : List Char) : Prop := text ≠ [] ∧ IsDigits text

/-- A sign, or none. -/
def IsOptionalSign (text : List Char) : Prop := text = [] ∨ text = ['+'] ∨ text = ['-']

/-- Digits around a point, with a digit on one side at least. -/
inductive IsDecimal : List Char → Prop where
  /-- The digits behind the point are there, as in `.5`. -/
  | behind {ds fs : List Char} (hds : IsDigits ds) (hfs : IsWhole fs) : IsDecimal (ds ++ '.' :: fs)
  /-- The digits in front of the point are there, as in `12.`. -/
  | inFront {ds fs : List Char} (hds : IsWhole ds) (hfs : IsDigits fs) :
      IsDecimal (ds ++ '.' :: fs)

/-- An exponent that does not lack its digits. -/
inductive IsFullExponent : List Char → Prop where
  | mk {m : Char} {s ds : List Char} (hm : isExponentMark m = true) (hs : IsOptionalSign s)
      (hds : IsWhole ds) : IsFullExponent (m :: (s ++ ds))

/-- A base with an exponent, either of them perhaps with a sign. -/
def IsScientific (text : List Char) : Prop :=
  ∃ s base power, text = s ++ (base ++ power) ∧ IsOptionalSign s ∧ IsBase base ∧
    IsFullExponent power

/-- The part of a text in front of its first exponent mark, which is all of it if it has none. -/
def IsFront (base text : List Char) : Prop :=
  ∃ power, text = base ++ power ∧ (∀ c ∈ base, isExponentMark c = false) ∧
    ∀ m ∈ power.head?, isExponentMark m = true

/-! ### Parts of a text -/

lemma isWhole_iff (text : List Char) : isWhole text = true ↔ IsWhole text := by
  simp [isWhole, IsWhole, IsDigits]

/-- A point with digits around it is where the digits in front of it stop. -/
lemma isDecimal_append {ds : List Char} (hds : IsDigits ds) (fs : List Char) :
    isDecimal (ds ++ '.' :: fs) = (fs.all Char.isDigit && (!fs.isEmpty || !ds.isEmpty)) := by
  have hdrop : (ds ++ '.' :: fs).dropWhile Char.isDigit = '.' :: fs := by
    rw [List.dropWhile_append_of_pos hds]
    simp [Char.isDigit]
  have hdigits : digits (ds ++ '.' :: fs) = ds := by
    rw [digits_append hds, digits_point, List.append_nil]
  simp [isDecimal, hdrop, hdigits]

theorem isDecimal_iff (text : List Char) : isDecimal text = true ↔ IsDecimal text := by
  constructor
  · intro h
    unfold isDecimal at h
    split at h
    · next c fs hdrop =>
      simp only [Bool.and_eq_true, beq_iff_eq, List.all_eq_true] at h
      obtain ⟨⟨rfl, hfs⟩, hne⟩ := h
      have htext : digits text ++ '.' :: fs = text := by
        rw [← hdrop]
        exact List.takeWhile_append_dropWhile
      rw [← htext]
      by_cases hnil : fs = []
      · exact .inFront ⟨by simpa [hnil] using hne, isDigits_digits text⟩ hfs
      · exact .behind (isDigits_digits text) ⟨hnil, hfs⟩
    · cases h
  · intro h
    cases h with
    | behind hds hfs  => simp [isDecimal_append hds, hfs.1, List.all_eq_true.2 hfs.2]
    | inFront hds hfs => simp [isDecimal_append hds.2, hds.1, List.all_eq_true.2 hfs]

/-- A base is digits, with or without a point. -/
lemma isBase_iff (text : List Char) : IsBase text ↔ IsWhole text ∨ IsDecimal text := by
  constructor
  · intro h
    cases h with
    | whole hne hds       => exact Or.inl ⟨hne, hds⟩
    | decimal hne hds hfs => exact Or.inr (.inFront ⟨hne, hds⟩ hfs)
    | fractional hne hfs  => exact Or.inr (@IsDecimal.behind [] _ (by simp [IsDigits]) ⟨hne, hfs⟩)
  · rintro (⟨hne, hds⟩ | hdecimal)
    · exact .whole hne hds
    · cases hdecimal with
      | inFront hds hfs => exact .decimal hds.1 hds.2 hfs
      | @behind ds fs hds hfs =>
        by_cases hnil : ds = []
        · subst hnil
          exact .fractional hfs.1 hfs.2
        · exact .decimal hnil hds hfs.2

lemma isExponentMark_of_isDigit {c : Char} (h : c.isDigit = true) : isExponentMark c = false := by
  rw [Bool.eq_false_iff]
  intro hmark
  exact absurd h (by simp [(isExponentMark_ne hmark).1])

/-- A base has digits and a point in it, and nothing else. -/
lemma IsBase.mem_cases {base : List Char} (h : IsBase base) {c : Char} (hc : c ∈ base) :
    c.isDigit = true ∨ c = '.' := by
  obtain ⟨ds, point, rfl, hds, hpoint⟩ := h.exists_parts
  rcases List.mem_append.1 hc with hc | hc
  · exact Or.inl (hds c hc)
  · obtain ⟨fs, rfl, hfs⟩ := hpoint.resolve_left (List.ne_nil_of_mem hc)
    exact (List.mem_cons.1 hc).elim Or.inr fun hc => Or.inl (hfs c hc)

lemma IsBase.isExponentMark_of_mem {base : List Char} (h : IsBase base) :
    ∀ c ∈ base, isExponentMark c = false := by
  intro c hc
  rcases h.mem_cases hc with hdigit | rfl
  · exact isExponentMark_of_isDigit hdigit
  · decide

/-- No base begins with a sign. -/
lemma IsBase.isSign_of_head {base : List Char} (h : IsBase base) (rest : List Char) :
    ∀ c ∈ (base ++ rest).head?, isSign c = false := by
  obtain ⟨d, ds, rfl⟩ := List.exists_cons_of_ne_nil h.ne_nil
  rintro c ⟨⟩
  rcases h.mem_cases List.mem_cons_self with hdigit | rfl
  · exact isSign_of_isDigit hdigit
  · decide

/-! ### Signs and exponents -/

lemma isOptionalSign_sign (text : List Char) : IsOptionalSign (sign text) := by
  unfold sign
  split
  · next c _ =>
    split
    · next hsign =>
      simp only [isSign, Bool.or_eq_true, beq_iff_eq] at hsign
      rcases hsign with rfl | rfl
      · exact Or.inr (Or.inl rfl)
      · exact Or.inr (Or.inr rfl)
    · exact Or.inl rfl
  · exact Or.inl rfl

lemma sign_append_unsigned (text : List Char) : sign text ++ unsigned text = text :=
  List.prefix_iff_eq_append.1 (sign_isPrefix text)

/-- A sign is taken off, and no more than one. -/
lemma unsigned_append {s rest : List Char} (hs : IsOptionalSign s)
    (hrest : ∀ c ∈ rest.head?, isSign c = false) : unsigned (s ++ rest) = rest := by
  rcases hs with rfl | rfl | rfl
  · cases rest with
    | nil         => rfl
    | cons c rest => simp [unsigned, sign, hrest c rfl]
  · rfl
  · rfl

/-- The front of a text is found by looking for its first exponent mark. -/
lemma mantissa_append {base power : List Char} (hbase : ∀ c ∈ base, isExponentMark c = false)
    (hpower : ∀ m ∈ power.head?, isExponentMark m = true) :
    mantissa (base ++ power) = base ∧
      (base ++ power).dropWhile (fun c => !isExponentMark c) = power := by
  have hfront : ∀ c ∈ base, (!isExponentMark c) = true := by simpa using hbase
  rw [mantissa, List.takeWhile_append_of_pos hfront, List.dropWhile_append_of_pos hfront]
  cases power with
  | nil          => simp
  | cons m power => simp [hpower m rfl]

lemma isFront_iff (base text : List Char) : IsFront base text ↔ mantissa text = base := by
  constructor
  · rintro ⟨power, rfl, hbase, hpower⟩
    exact (mantissa_append hbase hpower).1
  · rintro rfl
    refine ⟨text.dropWhile fun c => !isExponentMark c,
      List.takeWhile_append_dropWhile.symm, ?_, ?_⟩
    · intro c hc
      simpa using List.mem_takeWhile_imp hc
    · intro m hm
      simpa [Option.mem_def.1 hm] using List.head?_dropWhile_not (fun c => !isExponentMark c) text

theorem isScientific_iff (text : List Char) : isScientific text = true ↔ IsScientific text := by
  constructor
  · intro h
    unfold isScientific at h
    split at h
    · next m power hdrop =>
      simp only [Bool.and_eq_true, Bool.or_eq_true, isWhole_iff, isDecimal_iff] at h
      obtain ⟨hbase, hds⟩ := h
      have hmark : isExponentMark m = true := by
        simpa [hdrop] using List.head?_dropWhile_not (fun c => !isExponentMark c) (unsigned text)
      have hunsigned : mantissa (unsigned text) ++ m :: power = unsigned text := by
        rw [← hdrop]
        exact List.takeWhile_append_dropWhile
      refine ⟨sign text, mantissa (unsigned text), m :: power, ?_, isOptionalSign_sign text,
        (isBase_iff _).2 hbase, ?_⟩
      · rw [hunsigned, sign_append_unsigned]
      · rw [← sign_append_unsigned power]
        exact .mk hmark (isOptionalSign_sign power) hds
    · cases h
  · rintro ⟨s, base, _, rfl, hs, hbase, @⟨m, s', ds, hm, hs', hds⟩⟩
    have hunsigned := unsigned_append hs (hbase.isSign_of_head (m :: (s' ++ ds)))
    have hpower : unsigned (s' ++ ds) = ds :=
      unsigned_append hs' fun c hc => isSign_of_isDigit (hds.2 c (List.mem_of_mem_head? hc))
    have hhead : ∀ c ∈ (m :: (s' ++ ds)).head?, isExponentMark c = true := by simpa using hm
    obtain ⟨hfront, hbehind⟩ := mantissa_append hbase.isExponentMark_of_mem hhead
    have hform := (isBase_iff base).1 hbase
    rw [isScientific, hunsigned, hfront, hbehind]
    simpa [hpower, isWhole_iff, isDecimal_iff, hds] using hform

end Numeral

/-! ### Patterns -/

namespace Pattern

open RegularExpression

/-- One of several characters. -/
def oneOf (cs : List Char) : RegularExpression Char := (cs.map char).foldr (· + ·) 0

/-- What a pattern matches, or nothing. -/
def optional (p : RegularExpression Char) : RegularExpression Char := 1 + p

/-- What a pattern matches, once or several times. -/
def repeated (p : RegularExpression Char) : RegularExpression Char := p * p.star

variable {p q : RegularExpression Char} {cs text : List Char}

lemma mem_char {c : Char} : text ∈ (char c).matches' ↔ text = [c] := Iff.rfl

lemma mem_add : text ∈ (p + q).matches' ↔ text ∈ p.matches' ∨ text ∈ q.matches' := Iff.rfl

lemma mem_mul :
    text ∈ (p * q).matches' ↔ ∃ a ∈ p.matches', ∃ b ∈ q.matches', a ++ b = text :=
  Language.mem_mul

lemma mem_optional : text ∈ (optional p).matches' ↔ text = [] ∨ text ∈ p.matches' := Iff.rfl

lemma mem_oneOf : text ∈ (oneOf cs).matches' ↔ ∃ c ∈ cs, text = [c] := by
  induction cs with
  | nil => simp [oneOf]
  | cons c cs ih =>
    have hcons : text ∈ (oneOf (c :: cs)).matches' ↔ text = [c] ∨ text ∈ (oneOf cs).matches' :=
      mem_add
    simp [hcons, ih]

lemma mem_star_oneOf : text ∈ (oneOf cs).star.matches' ↔ ∀ c ∈ text, c ∈ cs := by
  rw [matches'_star, Language.mem_kstar]
  constructor
  · rintro ⟨pieces, rfl, hpieces⟩ c hc
    obtain ⟨piece, hpiece, hc⟩ := List.mem_flatten.1 hc
    obtain ⟨d, hd, rfl⟩ := mem_oneOf.1 (hpieces piece hpiece)
    rwa [List.mem_singleton.1 hc]
  · intro h
    refine ⟨text.map fun c => [c], ?_, ?_⟩
    · rw [← List.flatMap_def, List.flatMap_singleton']
    · simpa [mem_oneOf] using h

lemma mem_repeated_oneOf :
    text ∈ (repeated (oneOf cs)).matches' ↔ text ≠ [] ∧ ∀ c ∈ text, c ∈ cs := by
  rw [repeated, mem_mul]
  constructor
  · rintro ⟨_, hhead, tail, htail, rfl⟩
    obtain ⟨c, hc, rfl⟩ := mem_oneOf.1 hhead
    exact ⟨by simp, List.forall_mem_cons.2 ⟨hc, mem_star_oneOf.1 htail⟩⟩
  · rintro ⟨hne, h⟩
    obtain ⟨c, tail, rfl⟩ := List.exists_cons_of_ne_nil hne
    obtain ⟨hc, htail⟩ := List.forall_mem_cons.1 h
    exact ⟨[c], mem_oneOf.2 ⟨c, hc, rfl⟩, tail, mem_star_oneOf.2 htail, rfl⟩

end Pattern

namespace Numeral

open RegularExpression Pattern

/-- The pattern `[0-9]`. -/
def digit : RegularExpression Char := oneOf ['0', '1', '2', '3', '4', '5', '6', '7', '8', '9']

/-- The pattern `[+-]?`. -/
def signPattern : RegularExpression Char := optional (oneOf ['+', '-'])

/-- The pattern `[0-9]*\.[0-9]+|[0-9]+\.[0-9]*`. -/
def decimalPattern : RegularExpression Char :=
  digit.star * (char '.' * repeated digit) + repeated digit * (char '.' * digit.star)

/-- The pattern `[0-9]+\.[0-9]+|[0-9]+\.|\.[0-9]+|[0-9]+`. -/
def basePattern : RegularExpression Char :=
  repeated digit * (char '.' * repeated digit) + repeated digit * char '.' +
    char '.' * repeated digit + repeated digit

/-- The pattern `[eE][+-]?[0-9]+`. -/
def exponentPattern : RegularExpression Char :=
  oneOf ['e', 'E'] * (signPattern * repeated digit)

/-- The pattern `[+-]?([0-9]+\.[0-9]+|[0-9]+\.|\.[0-9]+|[0-9]+)([eE][+-]?[0-9]+)?`. -/
def scientificPattern : RegularExpression Char :=
  signPattern * (basePattern * optional exponentPattern)

/-- The form of a literal as two patterns decide it: the first is tried on what stands in front of
an exponent mark, the second on the whole of a text that has one. -/
def judge (text : List Char) : Literal :=
  if text.any isExponentMark && scientificPattern.rmatch text then .scientific
  else if (mantissa text).contains '.' && decimalPattern.rmatch (mantissa text) then .decimal
  else .integer

variable {text : List Char}

/-- The ten digits, one by one. -/
lemma isDigit_iff_mem (c : Char) :
    c.isDigit = true ↔ c ∈ ['0', '1', '2', '3', '4', '5', '6', '7', '8', '9'] := by
  constructor
  · intro h
    obtain ⟨hlow, hhigh⟩ := toNat_of_isDigit h
    have hall : ∀ n ∈ List.range' 48 10,
        Char.ofNat n ∈ ['0', '1', '2', '3', '4', '5', '6', '7', '8', '9'] := by decide
    rw [← Char.ofNat_toNat c]
    exact hall c.toNat (List.mem_range'_1.2 (by omega))
  · exact List.all_eq_true.1 (by decide) c

lemma mem_star_digit : text ∈ digit.star.matches' ↔ IsDigits text := by
  rw [digit, mem_star_oneOf]
  simp only [IsDigits, isDigit_iff_mem]

lemma mem_repeated_digit : text ∈ (repeated digit).matches' ↔ IsWhole text := by
  rw [digit, mem_repeated_oneOf]
  simp only [IsWhole, IsDigits, isDigit_iff_mem]

lemma mem_signPattern : text ∈ signPattern.matches' ↔ IsOptionalSign text := by
  simp [signPattern, mem_optional, mem_oneOf, IsOptionalSign]

theorem mem_decimalPattern : text ∈ decimalPattern.matches' ↔ IsDecimal text := by
  simp only [decimalPattern, mem_add, mem_mul, mem_char, mem_star_digit, mem_repeated_digit]
  constructor
  · rintro (⟨ds, hds, _, ⟨_, rfl, fs, hfs, rfl⟩, rfl⟩ | ⟨ds, hds, _, ⟨_, rfl, fs, hfs, rfl⟩, rfl⟩)
    · exact .behind hds hfs
    · exact .inFront hds hfs
  · intro h
    cases h with
    | @behind ds fs hds hfs  => exact Or.inl ⟨ds, hds, _, ⟨_, rfl, fs, hfs, rfl⟩, rfl⟩
    | @inFront ds fs hds hfs => exact Or.inr ⟨ds, hds, _, ⟨_, rfl, fs, hfs, rfl⟩, rfl⟩

lemma mem_basePattern : text ∈ basePattern.matches' ↔ IsBase text := by
  simp only [basePattern, mem_add, mem_mul, mem_char, mem_repeated_digit]
  constructor
  · rintro (((⟨ds, hds, _, ⟨_, rfl, fs, hfs, rfl⟩, rfl⟩ | ⟨ds, hds, _, rfl, rfl⟩) |
      ⟨_, rfl, fs, hfs, rfl⟩) | hds)
    · exact .decimal hds.1 hds.2 hfs.2
    · exact .decimal hds.1 hds.2 (by simp [IsDigits])
    · exact .fractional hfs.1 hfs.2
    · exact .whole hds.1 hds.2
  · intro h
    cases h with
    | whole hne hds          => exact Or.inr ⟨hne, hds⟩
    | @fractional fs hne hfs => exact Or.inl (Or.inr ⟨_, rfl, fs, ⟨hne, hfs⟩, rfl⟩)
    | @decimal ds fs hne hds hfs =>
      by_cases hnil : fs = []
      · subst hnil
        exact Or.inl (Or.inl (Or.inr ⟨ds, ⟨hne, hds⟩, _, rfl, rfl⟩))
      · exact Or.inl (Or.inl (Or.inl
          ⟨ds, ⟨hne, hds⟩, _, ⟨_, rfl, fs, ⟨hnil, hfs⟩, rfl⟩, rfl⟩))

lemma mem_exponentPattern : text ∈ exponentPattern.matches' ↔ IsFullExponent text := by
  have hmark (m : Char) : m ∈ ['e', 'E'] ↔ isExponentMark m = true := by simp [isExponentMark]
  simp only [exponentPattern, mem_mul, mem_oneOf, mem_signPattern, mem_repeated_digit, hmark]
  constructor
  · rintro ⟨_, ⟨m, hm, rfl⟩, _, ⟨s, hs, ds, hds, rfl⟩, rfl⟩
    have hexponent : IsFullExponent (m :: (s ++ ds)) := .mk hm hs hds
    exact hexponent
  · rintro @⟨m, s, ds, hm, hs, hds⟩
    exact ⟨_, ⟨m, hm, rfl⟩, _, ⟨s, hs, ds, hds, rfl⟩, rfl⟩

/-- The second pattern admits a base alone, too. -/
theorem mem_scientificPattern : text ∈ scientificPattern.matches' ↔
    ∃ s base power, text = s ++ (base ++ power) ∧ IsOptionalSign s ∧ IsBase base ∧
      (power = [] ∨ IsFullExponent power) := by
  simp only [scientificPattern, mem_mul, mem_signPattern, mem_basePattern, mem_optional,
    mem_exponentPattern]
  constructor
  · rintro ⟨s, hs, _, ⟨base, hbase, power, hpower, rfl⟩, rfl⟩
    exact ⟨s, base, power, rfl, hs, hbase, hpower⟩
  · rintro ⟨s, base, power, rfl, hs, hbase, hpower⟩
    exact ⟨s, hs, _, ⟨base, hbase, power, hpower, rfl⟩, rfl⟩

lemma isExponentMark_of_isOptionalSign {s : List Char} (h : IsOptionalSign s) :
    ∀ c ∈ s, isExponentMark c = false := by
  rcases h with rfl | rfl | rfl <;> simp [isExponentMark]

/-- A text that the second pattern admits is scientific if it has an exponent mark. -/
lemma isScientific_iff_pattern :
    IsScientific text ↔
      (∃ m ∈ text, isExponentMark m = true) ∧ text ∈ scientificPattern.matches' := by
  rw [mem_scientificPattern]
  constructor
  · rintro ⟨s, base, _, rfl, hs, hbase, @⟨m, s', ds, hm, hs', hds⟩⟩
    exact ⟨⟨m, by simp, hm⟩, s, base, _, rfl, hs, hbase, Or.inr (.mk hm hs' hds)⟩
  · rintro ⟨⟨m, hmem, hm⟩, s, base, power, rfl, hs, hbase, rfl | hpower⟩
    · -- without an exponent there is no mark
      rw [List.append_nil, List.mem_append] at hmem
      have hnone : isExponentMark m = false :=
        hmem.elim (isExponentMark_of_isOptionalSign hs m) (hbase.isExponentMark_of_mem m)
      simp [hm] at hnone
    · exact ⟨s, base, power, rfl, hs, hbase, hpower⟩

lemma IsDecimal.point_mem (h : IsDecimal text) : '.' ∈ text := by
  cases h <;> simp

/-- The two patterns decide the same as the grammar. -/
theorem classify_eq_judge (text : List Char) : classify text = judge text := by
  have hscientific :
      (text.any isExponentMark && scientificPattern.rmatch text) = isScientific text := by
    rw [Bool.eq_iff_iff, Bool.and_eq_true, List.any_eq_true, rmatch_iff_matches',
      isScientific_iff, isScientific_iff_pattern]
  have hdecimal : ((mantissa text).contains '.' && decimalPattern.rmatch (mantissa text)) =
      isDecimal (mantissa text) := by
    rw [Bool.eq_iff_iff, Bool.and_eq_true, List.contains_iff_mem, rmatch_iff_matches',
      mem_decimalPattern, isDecimal_iff]
    exact and_iff_right_of_imp IsDecimal.point_mem
  rw [judge, hscientific, hdecimal, classify]

/-! ### Classification -/

/-- The grammar of literals is decided on every text: a text is scientific if it has the form of
one, and otherwise decimal if the part in front of its first exponent mark is one. -/
theorem classify_iff (text : List Char) :
    (classify text = .scientific ↔ IsScientific text) ∧
      (classify text = .decimal ↔
        ¬ IsScientific text ∧ ∃ base, IsFront base text ∧ IsDecimal base) ∧
      (classify text = .integer ↔
        ¬ IsScientific text ∧ ¬ ∃ base, IsFront base text ∧ IsDecimal base) := by
  have hfront : (∃ base, IsFront base text ∧ IsDecimal base) ↔ IsDecimal (mantissa text) := by
    simp [isFront_iff]
  rw [hfront, ← isScientific_iff, ← isDecimal_iff, classify]
  cases isScientific text <;> cases isDecimal (mantissa text) <;> simp

/-- Only what has an exponent may have a sign. -/
example : classify "+1.5e-3".toList = .scientific ∧ classify "+1.5".toList = .integer :=
  ⟨rfl, rfl⟩

end Numeral

end Lexis
