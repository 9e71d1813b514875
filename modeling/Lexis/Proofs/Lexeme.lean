import Lexis.Proofs.Numeral
import Lexis.Vocabulary

/-!
# The language of lexemes

What a lexeme is, with no regard to how one is found: a word, a numeral, or a mark of the fixed
vocabulary. `Lexeme text kind` says that `text` is a lexeme and `kind` its kind. The three sorts are
told apart by their first characters, so a lexeme has one kind only (`Lexeme.kind_unique`), and no
lexeme has a blank in it (`Lexeme.isBlank_of_mem`).
-/

namespace Lexis

open Character

/-! ### Words -/

/-- A character that starts a word, and characters that go on with it. -/
def IsWord : List Char → Prop
  | []        => False
  | c :: rest => isWordStart c = true ∧ ∀ d ∈ rest, isWordPart d = true

instance : DecidablePred IsWord
  | []        => inferInstanceAs (Decidable False)
  | c :: rest =>
    decidable_of_iff ((isWordStart c && rest.all isWordPart) = true) (by simp [IsWord])

@[simp] lemma isWord_cons (c : Char) (rest : List Char) :
    IsWord (c :: rest) ↔ isWordStart c = true ∧ ∀ d ∈ rest, isWordPart d = true := Iff.rfl

lemma IsWord.ne_nil {text : List Char} (h : IsWord text) : text ≠ [] := by
  rintro rfl
  exact h

lemma IsWord.isWordPart_of_mem {text : List Char} (h : IsWord text) {d : Char} (hd : d ∈ text) :
    isWordPart d = true := by
  match text, h with
  | c :: rest, ⟨hstart, hrest⟩ =>
    rcases List.mem_cons.1 hd with rfl | hd
    · exact isWordPart_of_isWordStart hstart
    · exact hrest d hd

/-! ### Marks -/

/-- Whether a text is looked up to find out if it is a mark: one or two characters that no blank, no
word and no numeral begins with. -/
def isProbe : List Char → Bool
  | []        => false
  | c :: rest =>
    !isBlank c && !isWordStart c && !Numeral.starts c rest && decide (rest.length ≤ 1)

/-- A text is a mark if the fixed vocabulary has it as one. -/
def IsMark (text : List Char) (kind : Kind) : Prop :=
  Vocabulary.marks.kind? (String.ofList text) = some kind

lemma Vocabulary.mem_of_kind? {words : Vocabulary} {spelling : String} {kind : Kind}
    (h : words.kind? spelling = some kind) : (spelling, kind) ∈ words := by
  obtain ⟨before, after, rfl, -⟩ := List.lookup_eq_some_iff.1 h
  simp

lemma IsMark.isProbe {text : List Char} {kind : Kind} (h : IsMark text kind) :
    isProbe text = true := by
  have hall : ∀ entry ∈ Vocabulary.marks, Lexis.isProbe entry.1.toList = true := by decide
  simpa using hall _ (Vocabulary.mem_of_kind? h)

lemma IsMark.length_le {text : List Char} {kind : Kind} (h : IsMark text kind) :
    text.length ≤ 2 := by
  have hprobe := h.isProbe
  cases text with
  | nil => simp
  | cons c rest =>
    simp only [Lexis.isProbe, Bool.and_eq_true, decide_eq_true_eq] at hprobe
    exact Nat.succ_le_succ hprobe.2

lemma IsMark.isBlank_of_mem {text : List Char} {kind : Kind} (h : IsMark text kind) {c : Char}
    (hc : c ∈ text) : isBlank c = false := by
  have hall : ∀ entry ∈ Vocabulary.marks, (entry.1.toList.all fun c => !isBlank c) = true := by
    decide
  have hmark := hall _ (Vocabulary.mem_of_kind? h)
  rw [String.toList_ofList, List.all_eq_true] at hmark
  simpa using hmark c hc

/-- No mark begins with a digit or with a point. -/
lemma IsMark.head {c : Char} {rest : List Char} {kind : Kind} (h : IsMark (c :: rest) kind) :
    c.isDigit = false ∧ c ≠ '.' := by
  have hall : ∀ entry ∈ Vocabulary.marks,
      (entry.1.toList.head?.all fun c => !c.isDigit && c != '.') = true := by decide
  simpa using hall _ (Vocabulary.mem_of_kind? h)

/-! ### Words, numerals and marks are apart -/

lemma isWordStart_of_isProbe {c : Char} {rest : List Char} (h : isProbe (c :: rest) = true) :
    isWordStart c = false := by
  simp only [isProbe, Bool.and_eq_true, Bool.not_eq_true'] at h
  exact h.1.1.2

lemma IsWord.not_isNumeral {text : List Char} (h : IsWord text) : ¬ IsNumeral text := by
  intro hnum
  obtain ⟨c, rest, rfl⟩ := List.exists_cons_of_ne_nil h.ne_nil
  have hstart := Numeral.isWordStart_of_starts (Numeral.starts_of_isNumeral hnum)
  exact absurd h.1 (by simp [hstart])

lemma IsWord.not_isMark {text : List Char} (h : IsWord text) (kind : Kind) :
    ¬ IsMark text kind := by
  intro hmark
  obtain ⟨c, rest, rfl⟩ := List.exists_cons_of_ne_nil h.ne_nil
  have hstart := isWordStart_of_isProbe hmark.isProbe
  exact absurd h.1 (by simp [hstart])

lemma IsNumeral.not_isMark {text : List Char} (h : IsNumeral text) (kind : Kind) :
    ¬ IsMark text kind := by
  intro hmark
  obtain ⟨c, rest, rfl⟩ := List.exists_cons_of_ne_nil (Numeral.ne_nil h)
  obtain ⟨hdigit, hpoint⟩ := hmark.head
  rcases Numeral.head_of_starts (Numeral.starts_of_isNumeral h) with h | h
  · exact absurd h (by simp [hdigit])
  · exact hpoint h

/-! ### Lexemes -/

/-- The lexemes and their kinds. -/
inductive Lexeme : List Char → Kind → Prop where
  /-- A word that the vocabulary reserves. -/
  | keyword {text : List Char} {kind : Kind} (hword : IsWord text)
      (hkind : Vocabulary.reserved.kind? (String.ofList text) = some kind) : Lexeme text kind
  /-- Any other word. -/
  | identifier {text : List Char} (hword : IsWord text)
      (hkind : Vocabulary.reserved.kind? (String.ofList text) = none) : Lexeme text .identifier
  | numeral {text : List Char} (hnum : IsNumeral text) :
      Lexeme text (.literal (Numeral.classify text))
  | mark {text : List Char} {kind : Kind} (hmark : IsMark text kind) : Lexeme text kind

/-- A word is a lexeme, reserved or not. -/
lemma IsWord.exists_lexeme {text : List Char} (h : IsWord text) : ∃ kind, Lexeme text kind := by
  cases hkind : Vocabulary.reserved.kind? (String.ofList text) with
  | some kind => exact ⟨kind, .keyword h hkind⟩
  | none      => exact ⟨.identifier, .identifier h hkind⟩

namespace Lexeme

variable {text : List Char} {kind kind' : Kind}

lemma cases_sort (h : Lexeme text kind) : IsWord text ∨ IsNumeral text ∨ IsMark text kind := by
  cases h with
  | keyword hword _ | identifier hword _ => exact Or.inl hword
  | numeral hnum                         => exact Or.inr (Or.inl hnum)
  | mark hmark                           => exact Or.inr (Or.inr hmark)

lemma isBlank_of_mem (h : Lexeme text kind) {c : Char} (hc : c ∈ text) : isBlank c = false := by
  rcases h.cases_sort with hword | hnum | hmark
  · rw [Bool.eq_false_iff]
    intro hblank
    exact absurd (hword.isWordPart_of_mem hc) (by simp [isWordPart_of_isBlank hblank])
  · exact Numeral.isBlank_of_mem hnum c hc
  · exact hmark.isBlank_of_mem hc

lemma lineFeed_notMem (h : Lexeme text kind) : '\n' ∉ text := by
  intro hmem
  exact absurd isBlank_lineFeed (by simp [h.isBlank_of_mem hmem])

lemma ne_nil (h : Lexeme text kind) : text ≠ [] := by
  rintro rfl
  rcases h.cases_sort with hword | hnum | hmark
  · exact hword
  · exact Numeral.ne_nil hnum rfl
  · exact absurd hmark.isProbe (by decide)

/-- A lexeme has only one kind. -/
theorem kind_unique (h : Lexeme text kind) (h' : Lexeme text kind') : kind = kind' := by
  cases h with
  | keyword hword hkind =>
    cases h' with
    | keyword _ hkind'    => exact Option.some.inj (hkind.symm.trans hkind')
    | identifier _ hkind' => rw [hkind] at hkind'; cases hkind'
    | numeral hnum        => exact absurd hnum hword.not_isNumeral
    | mark hmark          => exact absurd hmark (hword.not_isMark _)
  | identifier hword hkind =>
    cases h' with
    | keyword _ hkind' => rw [hkind] at hkind'; cases hkind'
    | identifier _ _   => rfl
    | numeral hnum     => exact absurd hnum hword.not_isNumeral
    | mark hmark       => exact absurd hmark (hword.not_isMark _)
  | numeral hnum =>
    cases h' with
    | keyword hword _ | identifier hword _ => exact absurd hnum hword.not_isNumeral
    | numeral _                            => rfl
    | mark hmark                           => exact absurd hmark (hnum.not_isMark _)
  | mark hmark =>
    cases h' with
    | keyword hword _ | identifier hword _ => exact absurd hmark (hword.not_isMark _)
    | numeral hnum                         => exact absurd hmark (hnum.not_isMark _)
    | mark hmark'                          => exact Option.some.inj (hmark.symm.trans hmark')

/-! ### Lexemes cut short -/

/-- A lexeme cut short is a lexeme, if two characters are left. -/
theorem of_isPrefix {piece : List Char} (h : Lexeme text kind) (hpre : piece <+: text)
    (hlength : 2 ≤ piece.length) : ∃ kind', Lexeme piece kind' := by
  obtain ⟨c, rest, rfl⟩ := List.exists_cons_of_length_pos (Nat.lt_of_lt_of_le Nat.two_pos hlength)
  rcases h.cases_sort with hword | hnum | hmark
  · obtain ⟨tail, rfl⟩ := hpre
    have hpart : ∀ d ∈ rest, isWordPart d = true := fun d hd =>
      hword.2 d (List.mem_append_left tail hd)
    have hcut : IsWord (c :: rest) := ⟨hword.1, hpart⟩
    exact hcut.exists_lexeme
  · have hpoint : c :: rest ≠ ['.'] := by
      intro heq
      simp [heq] at hlength
    exact ⟨_, .numeral (Numeral.isNumeral_of_isPrefix hnum hpre (List.cons_ne_nil c rest) hpoint)⟩
  · -- a mark has no more than two characters
    obtain rfl := hpre.eq_of_length_le (Nat.le_trans hmark.length_le hlength)
    exact ⟨kind, h⟩

/-- The first characters of a lexeme, two of them at least, are a lexeme. -/
lemma take (h : Lexeme text kind) {n : Nat} (hn : 2 ≤ n) :
    ∃ kind', Lexeme (text.take n) kind' := by
  by_cases hle : text.length ≤ n
  · rw [List.take_of_length_le hle]
    exact ⟨kind, h⟩
  · apply h.of_isPrefix (List.take_prefix n text)
    rw [List.length_take]
    omega

/-! ### What the first character says -/

variable {c : Char} {rest : List Char}

lemma isWord_of_isWordStart (h : Lexeme (c :: rest) kind) (hc : isWordStart c = true) :
    IsWord (c :: rest) := by
  rcases h.cases_sort with hword | hnum | hmark
  · exact hword
  · have hstart := Numeral.isWordStart_of_starts (Numeral.starts_of_isNumeral hnum)
    exact absurd hc (by simp [hstart])
  · exact absurd hc (by simp [isWordStart_of_isProbe hmark.isProbe])

/-- Where a numeral starts, nothing but a numeral does. -/
lemma isNumeral_of_starts {text : List Char} (h : Lexeme (c :: rest) kind)
    (hstarts : Numeral.starts c text = true) : IsNumeral (c :: rest) := by
  rcases h.cases_sort with hword | hnum | hmark
  · exact absurd hword.1 (by simp [Numeral.isWordStart_of_starts hstarts])
  · exact hnum
  · obtain ⟨hdigit, hpoint⟩ := hmark.head
    rcases Numeral.head_of_starts hstarts with h | h
    · exact absurd h (by simp [hdigit])
    · exact absurd h hpoint

/-- Where neither a word nor a numeral starts, only a mark does. -/
lemma isMark_of_head {text : List Char} (h : Lexeme (c :: rest) kind)
    (hword : isWordStart c = false) (hnum : Numeral.starts c text = false) (hpre : rest <+: text) :
    IsMark (c :: rest) kind := by
  have hnot : ¬ IsNumeral (c :: rest) := by
    intro h
    have hstarts := Numeral.starts_of_isPrefix (Numeral.starts_of_isNumeral h) hpre
    exact absurd hstarts (by simp [hnum])
  have hnot' : ¬ IsWord (c :: rest) := fun h => absurd h.1 (by simp [hword])
  cases h with
  | keyword h _ | identifier h _ => exact absurd h hnot'
  | numeral h                    => exact absurd h hnot
  | mark h                       => exact h

end Lexeme
end Lexis
