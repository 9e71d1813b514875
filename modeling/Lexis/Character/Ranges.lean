/-!
# Ranges of code points

A class of characters is kept as the list of its closed ranges of code points, in increasing order.
Membership looks no further than the first range that starts beyond the code point in question.
-/

namespace Lexis

/-- Closed ranges of code points, `(first, last)`, in increasing order. -/
abbrev Ranges := List (Nat × Nat)

/-- Whether a code point lies in one of the ranges. -/
def Ranges.covers : Ranges → Nat → Bool
  | [], _                    => false
  | (first, last) :: rest, n => decide (first ≤ n) && (decide (n ≤ last) || covers rest n)

@[simp] theorem Ranges.covers_nil (n : Nat) : Ranges.covers [] n = false := rfl

@[simp] theorem Ranges.covers_cons (first last : Nat) (rest : Ranges) (n : Nat) :
    Ranges.covers ((first, last) :: rest) n =
      (decide (first ≤ n) && (decide (n ≤ last) || Ranges.covers rest n)) := rfl

theorem Ranges.covers_head {first last n : Nat} (hfirst : first ≤ n) (hlast : n ≤ last)
    (rest : Ranges) : Ranges.covers ((first, last) :: rest) n = true := by
  simp [hfirst, hlast]

/-- A covered code point lies between the ends of some range. -/
theorem Ranges.exists_mem_of_covers {rs : Ranges} {n : Nat} (h : rs.covers n = true) :
    ∃ r ∈ rs, r.1 ≤ n ∧ n ≤ r.2 := by
  induction rs with
  | nil => simp at h
  | cons r rest ih =>
    obtain ⟨first, last⟩ := r
    simp only [covers_cons, Bool.and_eq_true, Bool.or_eq_true, decide_eq_true_eq] at h
    rcases h with ⟨hfirst, hlast | hrest⟩
    · exact ⟨_, List.mem_cons_self, hfirst, hlast⟩
    · obtain ⟨r, hr, hn⟩ := ih hrest
      exact ⟨r, List.mem_cons_of_mem _ hr, hn⟩

/-- Whether no range of the one class meets a range of the other. -/
def Ranges.apart (rs qs : Ranges) : Bool :=
  rs.all fun r => qs.all fun q => decide (r.2 < q.1) || decide (q.2 < r.1)

/-- Classes that are apart have no code point in common. -/
theorem Ranges.not_covers_of_apart {rs qs : Ranges} (hapart : rs.apart qs = true) {n : Nat}
    (h : rs.covers n = true) : qs.covers n = false := by
  rw [Bool.eq_false_iff]
  intro h'
  obtain ⟨r, hr, hrn⟩ := exists_mem_of_covers h
  obtain ⟨q, hq, hqn⟩ := exists_mem_of_covers h'
  have hrq := List.all_eq_true.1 (List.all_eq_true.1 hapart r hr) q hq
  simp only [Bool.or_eq_true, decide_eq_true_eq] at hrq
  omega

end Lexis
