import Mathlib.Tactic.Lemma
import Lexis.Scene

/-!
# Loops end

A loop ends after so many rounds if each round that goes on leaves less to do (`EndsAfter`,
`exists_endsAfter`). There are three loops: a machine passes over characters, it takes characters,
and a search starts again behind a comment. In each of them a round that goes on takes a character
off what is left (`Machine.left`), whatever the registry holds; so there are no more such rounds
than characters.
-/

namespace Lexis

open Character

/-- The loop goes on for so many rounds, and comes to a result in the next one. -/
inductive EndsAfter {σ ρ : Type} (round : σ → ρ ⊕ σ) : Nat → σ → ρ → Prop where
  | leave {s : σ} {r : ρ} (h : round s = .inl r) : EndsAfter round 0 s r
  | again {n : Nat} {s s' : σ} {r : ρ} (h : round s = .inr s') (hrest : EndsAfter round n s' r) :
      EndsAfter round (n + 1) s r

/-- A loop ends if each round that goes on leaves less to do. It comes to what solves its
equation. -/
theorem exists_endsAfter {σ ρ : Type} {round : σ → ρ ⊕ σ} (size : σ → Nat) {f : σ → ρ}
    (hf : ∀ s, f s = (round s).elim id f)
    (hsize : ∀ s s', round s = .inr s' → size s' < size s) (s : σ) :
    ∃ n ≤ size s, EndsAfter round n s (f s) := by
  match hround : round s with
  | .inl r =>
    have hresult : f s = r := by rw [hf, hround]; rfl
    exact ⟨0, Nat.zero_le _, hresult ▸ .leave hround⟩
  | .inr s' =>
    have hlt := hsize s s' hround
    have hresult : f s = f s' := by rw [hf, hround]; rfl
    obtain ⟨n, hn, hrest⟩ := exists_endsAfter size hf hsize s'
    exact ⟨n + 1, Nat.succ_le_of_lt (Nat.lt_of_le_of_lt hn hlt), hresult ▸ .again hround hrest⟩
termination_by size s

/-! ### The loops of a machine -/

namespace Machine

/-- The characters that are looked at or not read yet. -/
def left (m : Machine) : List Char := m.ch.toList ++ m.source.elim [] (·.rest)

lemma length_left (m : Machine) : m.left.length = m.pending := by
  cases hsource : m.source <;> simp [left, pending, hsource]

/-- One round of a loop that goes on as long as a test of the character that is looked at holds. -/
def whileRound {α : Type} (p : Char → Machine → Bool) (step : α → EStateM Error Machine α)
    (x : α × Machine) : EStateM.Result Error Machine α ⊕ α × Machine :=
  match x.2.ch with
  | none   => .inl (.ok x.1 x.2)
  | some c =>
    if p c x.2 then
      match step x.1 x.2 with
      | .ok a m    => .inr (a, m)
      | .error e m => .inl (.error e m)
    else .inl (.ok x.1 x.2)

/-- One round of passing over characters. -/
def skipRound (p : Char → Location → Bool) :
    Unit × Machine → EStateM.Result Error Machine Unit ⊕ Unit × Machine :=
  whileRound (fun c m => p c m.place) fun _ => advance

/-- One round of taking characters of a class. -/
def takeRound (p : Char → Bool) :
    Draft × Machine → EStateM.Result Error Machine Draft ⊕ Draft × Machine :=
  whileRound (fun c _ => p c) take

lemma pending_whileRound {α : Type} {p : Char → Machine → Bool}
    {step : α → EStateM Error Machine α} {x x' : α × Machine}
    (hstep : ∀ {a a' m m'}, step a m = .ok a' m' → advance m = .ok () m')
    (h : whileRound p step x = .inr x') : x'.2.pending < x.2.pending := by
  revert h
  fun_cases whileRound p step x with
  | case2 c hch _ a m hgoes =>
    intro h
    obtain rfl := Sum.inr.inj h
    have hpending := pending_advance (hstep hgoes)
    rwa [hch] at hpending
  | _ => simp

lemma skipWhile_eq_round (p : Char → Location → Bool) (x : Unit × Machine) :
    x.2.skipWhile p = (skipRound p x).elim id fun x => x.2.skipWhile p := by
  rw [skipWhile, skipRound, whileRound]
  split
  · next hch => rw [hch]; rfl
  · next c hch =>
    rw [hch]
    dsimp only
    split
    · split
      · next hstep => rw [hstep]; rfl
      · next hstep => rw [hstep]; rfl
    · rfl

lemma takeWhile_eq_round (p : Char → Bool) (x : Draft × Machine) :
    x.2.takeWhile p x.1 = (takeRound p x).elim id fun x => x.2.takeWhile p x.1 := by
  rw [takeWhile, takeRound, whileRound]
  split
  · next hch => rw [hch]; rfl
  · next c hch =>
    rw [hch]
    dsimp only
    split
    · split
      · next hstep => rw [hstep]; rfl
      · next hstep => rw [hstep]; rfl
    · rfl

/-- Passing over characters ends. -/
lemma exists_endsAfter_skip (p : Char → Location → Bool) (m : Machine) :
    ∃ n ≤ m.left.length, EndsAfter (skipRound p) n ((), m) (m.skipWhile p) := by
  rw [length_left]
  refine exists_endsAfter (·.2.pending) (skipWhile_eq_round p) ?_ ((), m)
  intro x x' h
  exact pending_whileRound id h

/-- Taking characters ends. -/
lemma exists_endsAfter_take (p : Char → Bool) (d : Draft) (m : Machine) :
    ∃ n ≤ m.left.length, EndsAfter (takeRound p) n (d, m) (m.takeWhile p d) := by
  rw [length_left]
  refine exists_endsAfter (·.2.pending) (takeWhile_eq_round p) ?_ (d, m)
  intro x x' h
  exact pending_whileRound advance_of_take h

end Machine

/-! ### The loop of a search -/

namespace Scene

/-- One round of a search: it goes on only behind a comment. -/
def round (s : Scene) : EStateM.Result Error Scene (Option TokenRef) ⊕ Scene :=
  if s.machine.ended then .inl ((do close; return none : EStateM Error Scene _) s)
  else
    match act (Machine.skipWhile fun c _ => isBlank c) s with
    | .error e s => .inl (.error e s)
    | .ok () s   =>
      match s.machine.ch with
      | none   => .inl ((do close; return none : EStateM Error Scene _) s)
      | some c =>
        let d := Draft.startingAt s.machine.place
        if isWordStart c then .inl (scanWord d s)
        else if s.machine.startsNumeral c then .inl (scanNumeral d s)
        else
          match scanMark d s with
          | .error e s     => .inl (.error e s)
          | .ok (some t) s => .inl (emit t s)
          | .ok none s     => .inr s

/-- A search is one round of it, and the search again if the round goes on. -/
lemma next_eq_round (s : Scene) : s.next = s.round.elim id next := by
  -- both sides ask the same in the same order
  rw [next, round]
  split
  · rfl
  · split
    · next hskip => rw [hskip]; rfl
    · next s₁ hskip =>
      rw [hskip]
      dsimp only
      split
      · next hch => rw [hch]; rfl
      · next c hch =>
        rw [hch]
        dsimp only
        split
        · rfl
        · split
          · rfl
          · split
            · next hmark => rw [hmark]; rfl
            · next hmark => rw [hmark]; rfl
            · next hmark => rw [hmark]; rfl

/-- A round that goes on is behind a comment, which takes a character. -/
lemma pending_round {s s' : Scene} (h : s.round = .inr s') :
    s'.machine.pending < s.machine.pending := by
  revert h
  fun_cases round s with
  | case8 _ s₁ hskip c hch _ _ _ s₂ hmark =>
    intro h
    obtain rfl := Sum.inr.inj h
    have hle := Machine.pending_skipWhile (machine_of_act hskip)
    exact Nat.lt_of_lt_of_le (pending_scanMark hch hmark) hle
  | _ => simp

/-- A search ends, whatever the registry holds. -/
theorem exists_endsAfter_next (s : Scene) :
    ∃ n ≤ s.machine.left.length, EndsAfter round n s s.next := by
  rw [Machine.length_left]
  apply exists_endsAfter (·.machine.pending) next_eq_round
  intro s s' h
  exact pending_round h

end Scene

end Lexis
