import Mathlib.Data.List.TakeWhile
import Lexis.Numeral

/-!
# The shape of numerals

A numeral is digits with or without a point, and then perhaps an exponent, of which the digits may
be missing. `Numeral.leading` takes a numeral wherever one starts (`Numeral.isNumeral_leading`), and
no numeral at the head of a text is longer than the one it takes (`Numeral.isPrefix_leading`).
-/

namespace Lexis

open Character

/-! ### The shape of a numeral -/

namespace Numeral

/-- Digits alone, in any number. -/
def IsDigits (text : List Char) : Prop := ∀ c ∈ text, c.isDigit = true

/-- What stands before the exponent of a numeral. -/
inductive IsBase : List Char → Prop where
  /-- Digits, as in `12`. -/
  | whole {ds : List Char} (hne : ds ≠ []) (hds : IsDigits ds) : IsBase ds
  /-- Digits and a point, with or without further digits, as in `12.` and `12.5`. -/
  | decimal {ds fs : List Char} (hne : ds ≠ []) (hds : IsDigits ds) (hfs : IsDigits fs) :
      IsBase (ds ++ '.' :: fs)
  /-- A point and digits, as in `.5`. -/
  | fractional {fs : List Char} (hne : fs ≠ []) (hfs : IsDigits fs) : IsBase ('.' :: fs)

/-- The exponent of a numeral; it may lack its digits. -/
inductive IsExponent : List Char → Prop where
  /-- A mark and digits, as in `e10`. -/
  | unsigned {m : Char} {ds : List Char} (hm : isExponentMark m = true) (hds : IsDigits ds) :
      IsExponent (m :: ds)
  /-- A mark, a sign and digits, as in `E-3`. -/
  | signed {m s : Char} {ds : List Char} (hm : isExponentMark m = true) (hs : isSign s = true)
      (hds : IsDigits ds) : IsExponent (m :: s :: ds)

end Numeral

/-- What stands before an exponent, and perhaps an exponent. -/
def IsNumeral (text : List Char) : Prop :=
  ∃ base power, text = base ++ power ∧ Numeral.IsBase base ∧ (power = [] ∨ Numeral.IsExponent power)

namespace Numeral

lemma IsBase.exists_parts {base : List Char} (h : IsBase base) :
    ∃ ds point, base = ds ++ point ∧ IsDigits ds ∧
      (point = [] ∨ ∃ fs, point = '.' :: fs ∧ IsDigits fs) := by
  cases h with
  | whole _ hds        => exact ⟨base, [], by simp, hds, Or.inl rfl⟩
  | decimal _ hds hfs  => exact ⟨_, _, rfl, hds, Or.inr ⟨_, rfl, hfs⟩⟩
  | fractional _ hfs   => exact ⟨[], _, rfl, by simp [IsDigits], Or.inr ⟨_, rfl, hfs⟩⟩

lemma starts_of_isNumeral {c : Char} {rest : List Char} (h : IsNumeral (c :: rest)) :
    starts c rest = true := by
  obtain ⟨base, power, heq, hbase, -⟩ := h
  cases hbase with
  | whole hne hds =>
    obtain ⟨d, ds, rfl⟩ := List.exists_cons_of_ne_nil hne
    obtain ⟨rfl, -⟩ := List.cons.inj heq
    simp [starts, hds c List.mem_cons_self]
  | decimal hne hds _ =>
    obtain ⟨d, ds, rfl⟩ := List.exists_cons_of_ne_nil hne
    obtain ⟨rfl, -⟩ := List.cons.inj heq
    simp [starts, hds c List.mem_cons_self]
  | fractional hne hfs =>
    obtain ⟨d, fs, rfl⟩ := List.exists_cons_of_ne_nil hne
    obtain ⟨rfl, rfl⟩ := List.cons.inj heq
    simp [starts, hfs d List.mem_cons_self]

lemma head_of_starts {c : Char} {rest : List Char} (h : starts c rest = true) :
    c.isDigit = true ∨ c = '.' := by
  simp only [starts, Bool.or_eq_true, Bool.and_eq_true, beq_iff_eq] at h
  exact h.imp_right And.left

/-- What follows a numeral's first character may go on further. -/
lemma starts_of_isPrefix {c : Char} {rest text : List Char} (h : starts c rest = true)
    (hpre : rest <+: text) : starts c text = true := by
  obtain ⟨tail, rfl⟩ := hpre
  cases rest with
  | nil      => simp_all [starts]
  | cons d _ => simpa [starts] using h

lemma isWordStart_of_starts {c : Char} {rest : List Char} (h : starts c rest = true) :
    isWordStart c = false := by
  rcases head_of_starts h with hdigit | rfl
  · exact isWordStart_of_isDigit hdigit
  · decide

lemma IsBase.ne_nil {base : List Char} (h : IsBase base) : base ≠ [] := by
  cases h with
  | whole hne _         => exact hne
  | decimal _ _ _       => simp
  | fractional _ _      => simp

lemma ne_nil {text : List Char} (h : IsNumeral text) : text ≠ [] := by
  obtain ⟨base, power, rfl, hbase, -⟩ := h
  simp [hbase.ne_nil]

/-! ### The leading numeral is the longest -/

lemma digits_append {ds : List Char} (hds : IsDigits ds) (rest : List Char) :
    digits (ds ++ rest) = ds ++ digits rest := List.takeWhile_append_of_pos hds

lemma isDigits_digits (text : List Char) : IsDigits (digits text) :=
  fun _ hc => List.mem_takeWhile_imp hc

@[simp] lemma digits_point (rest : List Char) : digits ('.' :: rest) = [] := by
  simp [digits, Char.isDigit]

@[simp] lemma fraction_point (rest : List Char) :
    fraction ('.' :: rest) = '.' :: digits rest := by simp [fraction]

lemma fraction_of_ne {c : Char} (h : c ≠ '.') (rest : List Char) : fraction (c :: rest) = [] := by
  simp [fraction, h]

lemma isExponentMark_ne {m : Char} (h : isExponentMark m = true) :
    m.isDigit = false ∧ m ≠ '.' := by
  simp only [isExponentMark, Bool.or_eq_true, beq_iff_eq] at h
  rcases h with rfl | rfl <;> decide

lemma isDigit_of_isSign {s : Char} (h : isSign s = true) : s.isDigit = false := by
  simp only [isSign, Bool.or_eq_true, beq_iff_eq] at h
  rcases h with rfl | rfl <;> decide

lemma isSign_of_isDigit {d : Char} (h : d.isDigit = true) : isSign d = false := by
  rw [Bool.eq_false_iff]
  intro hsign
  exact absurd h (by simp [isDigit_of_isSign hsign])

/-- Where digits are followed by something else, the leading numeral goes on with that. -/
lemma leading_append {ds rest : List Char} (hds : IsDigits ds) (hrest : digits rest = []) :
    leading (ds ++ rest) =
      ds ++ (fraction rest ++ exponent (rest.drop (fraction rest).length)) := by
  have hwhole : digits (ds ++ rest) = ds := by rw [digits_append hds, hrest, List.append_nil]
  simp only [leading, hwhole, List.drop_left, List.length_append, List.append_assoc]
  rw [← List.drop_drop, List.drop_left]

/-- An exponent at the head of a text is part of the exponent there. -/
lemma IsExponent.isPrefix {power : List Char} (h : IsExponent power) (rest : List Char) :
    power <+: exponent (power ++ rest) := by
  cases h with
  | @unsigned m ds hm hds =>
    cases ds with
    | nil => simp [exponent, hm]
    | cons d ds =>
      have hsign : sign (d :: (ds ++ rest)) = [] := by
        simp [sign, isSign_of_isDigit (hds d List.mem_cons_self)]
      have hdigits := digits_append hds rest
      rw [List.cons_append] at hdigits
      simp [exponent, hm, hsign, hdigits]
  | @signed m s ds hm hs hds =>
    have hsign : sign (s :: (ds ++ rest)) = [s] := by simp [sign, hs]
    simp [exponent, hm, hsign, digits_append hds]

/-- An exponent is neither digits nor a fraction. -/
lemma IsExponent.digits_fraction {power : List Char} (h : IsExponent power) (rest : List Char) :
    digits (power ++ rest) = [] ∧ fraction (power ++ rest) = [] := by
  cases h with
  | unsigned hm _ | signed hm _ _ =>
    obtain ⟨hdigit, hpoint⟩ := isExponentMark_ne hm
    exact ⟨by simp [digits, hdigit], fraction_of_ne hpoint _⟩

/-- No numeral at the head of a text is longer than the leading one. -/
theorem isPrefix_leading {q text : List Char} (hq : IsNumeral q) (h : q <+: text) :
    q <+: leading text := by
  obtain ⟨rest, rfl⟩ := h
  obtain ⟨base, power, rfl, hbase, hpower⟩ := hq
  obtain ⟨ds, point, rfl, hds, hpoint⟩ := hbase.exists_parts
  rcases hpoint with rfl | ⟨fs, rfl, hfs⟩ <;> rcases hpower with rfl | hpower
  · -- further digits may follow in `rest`
    simp [leading, digits_append hds]
  · obtain ⟨hdigits, hfraction⟩ := hpower.digits_fraction rest
    rw [List.append_nil, List.append_assoc, leading_append hds hdigits, hfraction]
    exact (List.prefix_append_right_inj ds).2 (hpower.isPrefix rest)
  · have hdigits : digits ('.' :: (fs ++ rest)) = [] := digits_point _
    simp only [List.append_nil, List.append_assoc, List.cons_append]
    rw [leading_append hds hdigits, fraction_point, digits_append hfs]
    simp
  · have hdigits : digits ('.' :: (fs ++ (power ++ rest))) = [] := digits_point _
    have hfraction : fraction ('.' :: (fs ++ (power ++ rest))) = '.' :: fs := by
      rw [fraction_point, digits_append hfs, (hpower.digits_fraction rest).1, List.append_nil]
    simp only [List.append_assoc, List.cons_append]
    rw [leading_append hds hdigits, hfraction]
    simp only [List.length_cons, List.drop_succ_cons, List.drop_left, List.cons_append,
      List.prefix_append_right_inj, List.cons_prefix_cons, true_and]
    exact hpower.isPrefix rest

lemma isExponent_exponent (text : List Char) : exponent text = [] ∨ IsExponent (exponent text) := by
  unfold exponent
  split
  · next c rest =>
    split
    · next hmark =>
      right
      cases rest with
      | nil => exact .unsigned hmark (isDigits_digits _)
      | cons d rest =>
        cases hsign : isSign d with
        | true =>
          simpa [sign, hsign] using .signed hmark hsign (isDigits_digits rest)
        | false =>
          simpa [sign, hsign] using .unsigned hmark (isDigits_digits (d :: rest))
    · exact Or.inl rfl
  · exact Or.inl rfl

/-- What a scan takes where a numeral starts is a numeral. -/
theorem isNumeral_leading {c : Char} {rest : List Char} (h : starts c rest = true) :
    IsNumeral (leading (c :: rest)) := by
  have hbase : IsBase (digits (c :: rest) ++
      fraction ((c :: rest).drop (digits (c :: rest)).length)) := by
    simp only [starts, Bool.or_eq_true, Bool.and_eq_true, beq_iff_eq] at h
    rcases h with hdigit | ⟨rfl, hnext⟩
    · have hne : digits (c :: rest) ≠ [] := by simp [digits, hdigit]
      generalize (c :: rest).drop (digits (c :: rest)).length = tail
      unfold fraction
      split
      · split
        · next heq =>
          subst heq
          exact .decimal hne (isDigits_digits _) (isDigits_digits _)
        · simpa using .whole hne (isDigits_digits _)
      · simpa using .whole hne (isDigits_digits _)
    · cases rest with
      | nil => simp at hnext
      | cons d rest =>
        have hne : digits (d :: rest) ≠ [] := by simpa [digits] using hnext
        simpa using .fractional hne (isDigits_digits _)
  exact ⟨_, _, rfl, hbase, isExponent_exponent _⟩

/-! ### Numerals cut short -/

/-- What a list with another behind it begins with is in front, or goes on behind. -/
lemma isPrefix_append_cases {piece head tail : List Char} (h : piece <+: head ++ tail) :
    piece <+: head ∨ ∃ more, piece = head ++ more ∧ more <+: tail := by
  rcases List.prefix_or_prefix_of_prefix h (List.prefix_append head tail) with hpre | ⟨more, rfl⟩
  · exact Or.inl hpre
  · exact Or.inr ⟨more, rfl, (List.prefix_append_right_inj head).1 h⟩

lemma IsDigits.of_isPrefix {ds piece : List Char} (h : IsDigits ds) (hpre : piece <+: ds) :
    IsDigits piece := fun c hc => h c (hpre.subset hc)

lemma IsBase.of_isPrefix {base piece : List Char} (h : IsBase base) (hpre : piece <+: base)
    (hne : piece ≠ []) (hpoint : piece ≠ ['.']) : IsBase piece := by
  cases h with
  | whole _ hds => exact .whole hne (hds.of_isPrefix hpre)
  | decimal hne' hds hfs =>
    rcases isPrefix_append_cases hpre with hpre | ⟨more, rfl, hmore⟩
    · exact .whole hne (hds.of_isPrefix hpre)
    · rcases List.prefix_cons_iff.1 hmore with rfl | ⟨fs', rfl, hfs'⟩
      · rw [List.append_nil]
        exact .whole hne' hds
      · exact .decimal hne' hds (hfs.of_isPrefix hfs')
  | fractional _ hfs =>
    rcases List.prefix_cons_iff.1 hpre with rfl | ⟨fs', rfl, hfs'⟩
    · exact absurd rfl hne
    · refine .fractional ?_ (hfs.of_isPrefix hfs')
      rintro rfl
      exact hpoint rfl

lemma IsExponent.of_isPrefix {power piece : List Char} (h : IsExponent power)
    (hpre : piece <+: power) : piece = [] ∨ IsExponent piece := by
  cases h with
  | unsigned hm hds =>
    rcases List.prefix_cons_iff.1 hpre with rfl | ⟨ds', rfl, hds'⟩
    · exact Or.inl rfl
    · exact Or.inr (.unsigned hm (hds.of_isPrefix hds'))
  | signed hm hs hds =>
    rcases List.prefix_cons_iff.1 hpre with rfl | ⟨rest, rfl, hrest⟩
    · exact Or.inl rfl
    · rcases List.prefix_cons_iff.1 hrest with rfl | ⟨ds', rfl, hds'⟩
      · exact Or.inr (.unsigned hm (by simp [IsDigits]))
      · exact Or.inr (.signed hm hs (hds.of_isPrefix hds'))

/-- A numeral cut short is a numeral, unless nothing or a point alone is left. -/
theorem isNumeral_of_isPrefix {text piece : List Char} (h : IsNumeral text)
    (hpre : piece <+: text) (hne : piece ≠ []) (hpoint : piece ≠ ['.']) : IsNumeral piece := by
  obtain ⟨base, power, rfl, hbase, hpower⟩ := h
  rcases isPrefix_append_cases hpre with hpre | ⟨more, rfl, hmore⟩
  · exact ⟨piece, [], by simp, hbase.of_isPrefix hpre hne hpoint, Or.inl rfl⟩
  · refine ⟨base, more, rfl, hbase, ?_⟩
    rcases hpower with rfl | hpower
    · exact Or.inl (List.prefix_nil.1 hmore)
    · exact hpower.of_isPrefix hmore

/-! ### The characters of numerals -/

lemma isBlank_of_isDigit {c : Char} (h : c.isDigit = true) : isBlank c = false := by
  rw [Bool.eq_false_iff]
  intro hblank
  exact absurd (isWordPart_of_isDigit h) (by simp [isWordPart_of_isBlank hblank])

lemma isBlank_of_isExponentMark {c : Char} (h : isExponentMark c = true) : isBlank c = false := by
  simp only [isExponentMark, Bool.or_eq_true, beq_iff_eq] at h
  rcases h with rfl | rfl <;> decide

lemma isBlank_of_isSign {c : Char} (h : isSign c = true) : isBlank c = false := by
  simp only [isSign, Bool.or_eq_true, beq_iff_eq] at h
  rcases h with rfl | rfl <;> decide

lemma isBlank_point : isBlank '.' = false := by decide

lemma IsExponent.mem_cases {power : List Char} (h : IsExponent power) {c : Char} (hc : c ∈ power) :
    c.isDigit = true ∨ isExponentMark c = true ∨ isSign c = true := by
  cases h with
  | unsigned hm hds =>
    rcases List.mem_cons.1 hc with rfl | hc
    · exact Or.inr (Or.inl hm)
    · exact Or.inl (hds c hc)
  | signed hm hs hds =>
    rcases List.mem_cons.1 hc with rfl | hc
    · exact Or.inr (Or.inl hm)
    · rcases List.mem_cons.1 hc with rfl | hc
      · exact Or.inr (Or.inr hs)
      · exact Or.inl (hds c hc)

/-- Numerals are written with digits, a point, exponent marks and signs. -/
lemma mem_cases {text : List Char} (h : IsNumeral text) {c : Char} (hc : c ∈ text) :
    c.isDigit = true ∨ c = '.' ∨ isExponentMark c = true ∨ isSign c = true := by
  obtain ⟨base, power, rfl, hbase, hpower⟩ := h
  rcases List.mem_append.1 hc with hc | hc
  · obtain ⟨ds, point, rfl, hds, hpoint⟩ := hbase.exists_parts
    rcases List.mem_append.1 hc with hc | hc
    · exact Or.inl (hds c hc)
    · obtain ⟨fs, rfl, hfs⟩ := hpoint.resolve_left (List.ne_nil_of_mem hc)
      rcases List.mem_cons.1 hc with rfl | hc
      · exact Or.inr (Or.inl rfl)
      · exact Or.inl (hfs c hc)
  · have hpower := hpower.resolve_left (List.ne_nil_of_mem hc)
    exact (hpower.mem_cases hc).imp_right Or.inr

lemma isBlank_of_mem {text : List Char} (h : IsNumeral text) :
    ∀ c ∈ text, isBlank c = false := by
  intro c hc
  rcases mem_cases h hc with hdigit | rfl | hmark | hsign
  · exact isBlank_of_isDigit hdigit
  · exact isBlank_point
  · exact isBlank_of_isExponentMark hmark
  · exact isBlank_of_isSign hsign

lemma slash_notMem {text : List Char} (h : IsNumeral text) : '/' ∉ text := by
  intro hmem
  exact absurd (mem_cases h hmem) (by decide)

end Numeral

end Lexis
