import Mathlib.Data.List.Basic
import Lexis.Text.Quoted

/-!
# Quoted texts are read back

A character inside quotes tells where it ends: a backslash says how to go on, and anything else is a
character by itself (`Text.unescape?_escapeBy`). No character is written with a quote in front, so
the first quote that stands alone is the closing one, and a quoted text tells what it quotes and
where it ends (`Text.eq_of_quoteBy_append`). This does not depend on which characters are taken to
be visible: `escapeBy` and `quoteBy` leave that open.
-/

namespace Lexis

open Character

/-! ### Hexadecimal numbers -/

namespace Text

/-- The value of a hexadecimal digit. -/
def hexDigit (c : Char) : Nat := if c.isDigit then c.toNat - 48 else c.toNat - 87

/-- The number that hexadecimal digits stand for. -/
def hexNumber (digits : List Char) : Nat := digits.foldl (fun n c => 16 * n + hexDigit c) 0

lemma hexDigit_digitChar {d : Nat} (h : d < 16) : hexDigit d.digitChar = d := by
  have hall : ∀ d < 16, hexDigit d.digitChar = d := by decide
  exact hall d h

/-- The digits of a number are one digit, or those of its sixteenth and one digit more. -/
lemma hexDigits_induction {motive : Nat → List Char → Prop}
    (digit : ∀ d < 16, motive d [d.digitChar])
    (append : ∀ n digits, motive n digits → ∀ d < 16,
      motive (16 * n + d) (digits ++ [d.digitChar])) (n : Nat) :
    motive n (Nat.toDigits 16 n) := by
  induction n using Nat.strongRecOn with
  | ind n ih =>
    by_cases hlt : n < 16
    · rw [Nat.toDigits_of_lt_base hlt]
      exact digit n hlt
    · have hfront := ih (n / 16) (Nat.div_lt_self (by omega) (by decide))
      have hmore := append _ _ hfront (n % 16) (Nat.mod_lt n (by decide))
      rw [Nat.div_add_mod] at hmore
      rwa [Nat.toDigits_of_base_le (by decide) (Nat.not_lt.1 hlt)]

lemma hexNumber_toDigits (n : Nat) : hexNumber (Nat.toDigits 16 n) = n := by
  apply hexDigits_induction (motive := fun n digits => hexNumber digits = n)
  · intro d hd
    simp [hexNumber, hexDigit_digitChar hd]
  · intro n digits ih d hd
    rw [hexNumber] at ih
    simp [hexNumber, ih, hexDigit_digitChar hd]

lemma notMem_hexDigits {c : Char} (h : ∀ d < 16, d.digitChar ≠ c) (n : Nat) :
    c ∉ Nat.toDigits 16 n := by
  apply hexDigits_induction (motive := fun _ digits => c ∉ digits)
  · intro d hd
    simpa using Ne.symm (h d hd)
  · intro n digits ih d hd
    simpa [ih] using Ne.symm (h d hd)

/-! ### Quoted texts -/

/-- A character as it is written inside quotes, for any notion of what can be seen. -/
def escapeBy (visible : Char → Bool) (c : Char) : List Char :=
  if c = '\x00' then ['\\', '0']
  else if c = '\t' then ['\\', 't']
  else if c = '\r' then ['\\', 'r']
  else if c = '\n' then ['\\', 'n']
  else if c = '"' then ['\\', '"']
  else if c = '\\' then ['\\', '\\']
  else if visible c then [c]
  else codePoint c

/-- The character that is meant behind a backslash, and what follows it. -/
def escaped? : List Char → Option (Char × List Char)
  | '0' :: rest      => some ('\x00', rest)
  | 't' :: rest      => some ('\t', rest)
  | 'r' :: rest      => some ('\r', rest)
  | 'n' :: rest      => some ('\n', rest)
  | '"' :: rest      => some ('"', rest)
  | '\\' :: rest     => some ('\\', rest)
  | 'u' :: _ :: rest =>
    some (Char.ofNat (hexNumber (rest.takeWhile (· != '\x7d'))),
      (rest.dropWhile (· != '\x7d')).drop 1)
  | _                => none

/-- The character at the head of what is inside quotes, and what follows it. -/
def unescape? : List Char → Option (Char × List Char)
  | c :: rest => if c = '\\' then escaped? rest else some (c, rest)
  | []        => none

lemma unescape?_codePoint (c : Char) (rest : List Char) :
    unescape? (codePoint c ++ rest) = some (c, rest) := by
  have hdigits : ∀ d ∈ Nat.toDigits 16 c.toNat, (d != '\x7d') = true := by
    intro d hd
    rw [bne_iff_ne]
    rintro rfl
    exact notMem_hexDigits (by decide) _ hd
  have htake : (Nat.toDigits 16 c.toNat ++ '\x7d' :: rest).takeWhile (· != '\x7d') =
      Nat.toDigits 16 c.toNat := by
    simp [List.takeWhile_append_of_pos hdigits]
  have hdrop : (Nat.toDigits 16 c.toNat ++ '\x7d' :: rest).dropWhile (· != '\x7d') =
      '\x7d' :: rest := by
    simp [List.dropWhile_append_of_pos hdigits]
  simp [codePoint, unescape?, escaped?, htake, hdrop, hexNumber_toDigits, Char.ofNat_toNat]

/-- A character inside quotes is read back, whichever characters are taken to be seen. -/
lemma unescape?_escapeBy (visible : Char → Bool) (c : Char) (rest : List Char) :
    unescape? (escapeBy visible c ++ rest) = some (c, rest) := by
  unfold escapeBy
  split_ifs with hzero htab hreturn hfeed hquote hslash hvisible
  · rw [hzero]; rfl
  · rw [htab]; rfl
  · rw [hreturn]; rfl
  · rw [hfeed]; rfl
  · rw [hquote]; rfl
  · rw [hslash]; rfl
  · simp [unescape?, hslash]
  · exact unescape?_codePoint c rest

/-- What is written for a character does not begin with a quote. -/
lemma escapeBy_append_ne (visible : Char → Bool) (c : Char) (rest rest' : List Char) :
    escapeBy visible c ++ rest ≠ '"' :: rest' := by
  unfold escapeBy codePoint
  split_ifs with hzero htab hreturn hfeed hquote hslash hvisible
  all_goals simp [*]

/-- A text between quotes, for any notion of what can be seen. -/
def quoteBy (visible : Char → Bool) (text : String) : String :=
  String.ofList ('"' :: text.toList.flatMap (escapeBy visible) ++ ['"'])

lemma quoteBy_isVisible : quoteBy isVisible = quote := rfl

/-- What is inside quotes is told by what is written there, and so is its end. -/
lemma eq_of_escaped_append {visible : Char → Bool} {text text' rest rest' : List Char}
    (h : text.flatMap (escapeBy visible) ++ '"' :: rest =
      text'.flatMap (escapeBy visible) ++ '"' :: rest') : text = text' ∧ rest = rest' := by
  induction text generalizing text' with
  | nil =>
    cases text' with
    | nil => simpa using h
    | cons c' text' =>
      rw [List.flatMap_cons, List.append_assoc] at h
      exact absurd h.symm (escapeBy_append_ne visible c' _ _)
  | cons c text ih =>
    rw [List.flatMap_cons, List.append_assoc] at h
    cases text' with
    | nil => exact absurd h (escapeBy_append_ne visible c _ _)
    | cons c' text' =>
      rw [List.flatMap_cons, List.append_assoc] at h
      have hread := congrArg unescape? h
      rw [unescape?_escapeBy, unescape?_escapeBy, Option.some.injEq, Prod.mk.injEq] at hread
      obtain ⟨rfl, hrest⟩ := hread
      obtain ⟨rfl, rfl⟩ := ih hrest
      exact ⟨rfl, rfl⟩

/-- A quoted text at the head of a text is told by that text, and so is what follows it. -/
theorem eq_of_quoteBy_append {visible : Char → Bool} {text text' : String} {rest rest' : List Char}
    (h : (quoteBy visible text).toList ++ rest = (quoteBy visible text').toList ++ rest') :
    text = text' ∧ rest = rest' := by
  simp only [quoteBy, String.toList_ofList, List.cons_append, List.append_assoc, List.cons.injEq,
    true_and, List.nil_append] at h
  obtain ⟨htext, hrest⟩ := eq_of_escaped_append h
  exact ⟨String.toList_inj.1 htext, hrest⟩

end Text
end Lexis
