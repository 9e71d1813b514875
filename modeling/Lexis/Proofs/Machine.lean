import Mathlib.Tactic.Lemma
import Lexis.Lexer
import Lexis.Machine

/-!
# What the machine takes

`Machine.Stands file m l text` says that a machine is open and looks at the head of `text`, which
goes on at the place `l`. An action on such a machine comes to a result and leaves a machine that
stands further on. Taking characters is described by what it cuts off the text (`Machine.Takes`):
the machine takes the numeral that `Numeral.leading` cuts off (`Machine.takes_numeral`), and passes
over as much as `List.takeWhile` does.
-/

namespace Lexis

open Character

lemma bind_of_ok {ε σ α β : Type} {x : EStateM ε σ α} {s s' : σ} {a : α} (h : x s = .ok a s')
    (f : α → EStateM ε σ β) : (x >>= f) s = f a s' := by
  change EStateM.bind x f s = f a s'
  simp [EStateM.bind, h]

lemma bind_of_error {ε σ α β : Type} {x : EStateM ε σ α} {s s' : σ} {e : ε}
    (h : x s = .error e s') (f : α → EStateM ε σ β) : (x >>= f) s = .error e s' := by
  change EStateM.bind x f s = .error e s'
  simp [EStateM.bind, h]

/-- The draft of a text that starts at a place and stays in its line. -/
def Draft.of (l : Location) (text : List Char) : Draft :=
  ⟨text, l.line, l.column, l.column + (text.length - 1)⟩

lemma Draft.startingAt_eq (l : Location) : startingAt l = of l [] := rfl

lemma Draft.span_of (l : Location) {text : List Char} (h : text ≠ []) :
    (of l text).span = Lexer.spanAt l text := by
  have hpos := List.length_pos_iff.2 h
  simp only [span, of, Lexer.spanAt, Span.mk.injEq, true_and]
  omega

namespace Machine

/-- The machine is open and looks at the head of a text that goes on at a place. -/
inductive Stands (file : String) : Machine → Location → List Char → Prop where
  | atEnd {r : Reader} {l place : Location} (hopen : r.closed = false) (hfile : r.file = file)
      (hrest : r.rest = []) : Stands file ⟨file, some r, none, place, false⟩ l []
  | here {r : Reader} {l : Location} {c : Char} {rest : List Char} (hopen : r.closed = false)
      (hfile : r.file = file) (hrest : r.rest = rest) (hnext : r.upcoming = l.next c) :
      Stands file ⟨file, some r, some c, l, false⟩ l (c :: rest)

namespace Stands

variable {file : String} {m : Machine} {l : Location} {c : Char} {text : List Char}

lemma ch_eq (h : Stands file m l text) : m.ch = text.head? := by cases h <;> rfl

lemma ended_eq (h : Stands file m l text) : m.ended = false := by cases h <;> rfl

lemma file_eq (h : Stands file m l text) : m.file = file := by cases h <;> rfl

lemma place_eq (h : Stands file m l (c :: text)) : m.place = l := by cases h; rfl

lemma closing_eq (h : Stands file m l text) : m.closing = [.closed file] := by
  cases h with
  | atEnd hopen hfile _ | here hopen hfile _ _ => simp [closing, hopen, hfile]

lemma exists_source (h : Stands file m l text) : ∃ r, m.source = some r ∧ r.closed = false := by
  cases h with
  | atEnd hopen _ _ | here hopen _ _ _ => exact ⟨_, rfl, hopen⟩

lemma peek_eq (h : Stands file m l (c :: text)) : m.peek = text.head? := by
  cases h with
  | here hopen _ hrest _ => simp [peek, Reader.peek, hopen, hrest]

lemma startsNumeral_eq (h : Stands file m l (c :: text)) :
    m.startsNumeral c = Numeral.starts c text := by
  rw [startsNumeral, h.peek_eq, Numeral.starts]

end Stands

/-! ### Looking on -/

lemma read_stands {file : String} {r : Reader} (hopen : r.closed = false) (hfile : r.file = file)
    (ch : Option Char) (place : Location) :
    ∃ m, advance ⟨file, some r, ch, place, false⟩ = .ok () m ∧ Stands file m r.upcoming r.rest := by
  cases hrest : r.rest with
  | nil =>
    have hread : r.read = .ok none := by simp [Reader.read, hopen, hrest]
    exact ⟨_, by simp only [advance, hread]; rfl, .atEnd hopen hfile hrest⟩
  | cons c rest =>
    have hread : r.read = .ok (some (c, { r with
        rest     := rest
        last     := r.upcoming
        upcoming := r.upcoming.next c })) := by simp [Reader.read, hopen, hrest]
    exact ⟨_, by simp only [advance, hread], .here (r := { r with
        rest     := rest
        last     := r.upcoming
        upcoming := r.upcoming.next c }) hopen hfile rfl rfl⟩

variable {file : String} {m : Machine} {l : Location} {c : Char} {text rest : List Char}

/-- Past a character the machine stands at what follows. -/
lemma Stands.advance (h : Stands file m l (c :: rest)) :
    ∃ m', m.advance = .ok () m' ∧ Stands file m' (l.next c) rest := by
  cases h with
  | @here r _ _ _ hopen hfile hrest hnext =>
    obtain ⟨m', hadvance, hstands⟩ := read_stands hopen hfile (some c) l
    rw [hrest, hnext] at hstands
    exact ⟨m', hadvance, hstands⟩

/-- A machine that was just made stands at what the reader has left. -/
lemma new_stands {r : Reader} (h : r.closed = false) :
    ∃ m, new r = .ok m ∧ Stands r.file m r.upcoming r.rest := by
  obtain ⟨m, hadvance, hstands⟩ := read_stands h rfl none ⟨0, 0⟩
  exact ⟨m, by simp only [new, hadvance], hstands⟩

lemma new_of_closed {r : Reader} (h : r.closed = true) : new r = .error r.closedError := by
  simp only [new, Machine.advance, Reader.read_of_closed h]

lemma ended_of_new {r : Reader} (h : new r = .ok m) : m.ended = false := by
  cases hclosed : r.closed with
  | false =>
    obtain ⟨m', hnew, hstands⟩ := new_stands hclosed
    obtain rfl := Except.ok.inj (hnew.symm.trans h)
    exact hstands.ended_eq
  | true =>
    rw [new_of_closed hclosed] at h
    cases h

/-! ### Taking characters -/

lemma take_stands (h : Stands file m (l.advance text) (c :: rest)) (htext : '\n' ∉ text) :
    ∃ m', take (Draft.of l text) m = .ok (Draft.of l (text ++ [c])) m' ∧
      Stands file m' (l.advance (text ++ [c])) rest := by
  obtain ⟨m', hadvance, hstands⟩ := h.advance
  refine ⟨m', ?_, by simpa using hstands⟩
  have hcolumn : m.place.column = l.column + text.length := by
    rw [h.place_eq, Location.advance_of_notMem htext]
  have hget : (get : EStateM Error Machine Machine) m = .ok m m := rfl
  rw [take, bind_of_ok hget, bind_of_ok hadvance, h.ch_eq, hcolumn]
  simp [Draft.push, Draft.of, pure, EStateM.pure]

/-- The action takes what is cut off the head of the text, all of it in one line. -/
def Takes (x : Draft → EStateM Error Machine Draft) (cut : List Char → List Char) : Prop :=
  ∀ ⦃file : String⦄ ⦃l : Location⦄ ⦃text rest : List Char⦄ ⦃m : Machine⦄,
    Stands file m (l.advance text) rest → '\n' ∉ text →
    ∃ m', x (Draft.of l text) m = .ok (Draft.of l (text ++ cut rest)) m' ∧
      '\n' ∉ text ++ cut rest ∧
      Stands file m' (l.advance (text ++ cut rest)) (rest.drop (cut rest).length)

namespace Takes

variable {x y : Draft → EStateM Error Machine Draft} {f g : List Char → List Char}

/-- What is taken after something else is cut off behind it. -/
lemma andThen (hx : Takes x f) (hy : Takes y g) :
    Takes (fun d => x d >>= y) fun text => f text ++ g (text.drop (f text).length) := by
  intro file l text rest m h htext
  obtain ⟨m₁, hfirst, htext₁, h₁⟩ := hx h htext
  obtain ⟨m₂, hsecond, htext₂, h₂⟩ := hy h₁ htext₁
  refine ⟨m₂, ?_, ?_, ?_⟩
  · simp only [bind_of_ok hfirst, hsecond, List.append_assoc]
  · rwa [List.append_assoc] at htext₂
  · rwa [List.append_assoc, List.drop_drop, ← List.length_append] at h₂

end Takes

lemma takeWhile_stop {p : Char → Bool} (h : ∀ c ∈ m.ch, p c = false) (d : Draft) :
    takeWhile p d m = .ok d m := by
  rw [takeWhile]
  split
  · rfl
  · next c hch => simp [h c hch]

lemma takeWhile_step {p : Char → Bool} {d d' : Draft} {m' : Machine} (hch : m.ch = some c)
    (hp : p c = true) (htake : take d m = .ok d' m') : takeWhile p d m = takeWhile p d' m' := by
  rw [takeWhile]
  split
  · next hnone => simp [hch] at hnone
  · next c' hch' =>
    obtain rfl : c = c' := by simpa [hch] using hch'
    rw [if_pos hp]
    split
    · next d₁ m₁ hstep =>
      rw [htake] at hstep
      obtain ⟨rfl, rfl⟩ := EStateM.Result.ok.inj hstep
      rfl
    · next e m₁ hstep =>
      rw [htake] at hstep
      cases hstep

lemma takes_takeWhile {p : Char → Bool} (hp : p '\n' = false) :
    Takes (takeWhile p) (List.takeWhile p) := by
  intro file l text rest m h htext
  induction rest generalizing text m with
  | nil =>
    have hstop := takeWhile_stop (p := p) (m := m) (by simp [h.ch_eq]) (Draft.of l text)
    exact ⟨m, by simpa using hstop, by simpa using htext, by simpa using h⟩
  | cons c rest ih =>
    cases hc : p c with
    | false =>
      have hstop := takeWhile_stop (p := p) (m := m) (by simp [h.ch_eq, hc]) (Draft.of l text)
      exact ⟨m, by simpa [hc] using hstop, by simpa [hc] using htext, by simpa [hc] using h⟩
    | true =>
      have hfeed : c ≠ '\n' := by
        rintro rfl
        simp [hp] at hc
      obtain ⟨m₁, htake, h₁⟩ := take_stands h htext
      have htext₁ : '\n' ∉ text ++ [c] := by simp [htext, Ne.symm hfeed]
      obtain ⟨m₂, hwhile, htext₂, h₂⟩ := ih h₁ htext₁
      rw [List.append_assoc, List.singleton_append] at hwhile htext₂ h₂
      refine ⟨m₂, ?_, ?_, ?_⟩
      · rw [takeWhile_step h.ch_eq hc htake, hwhile, List.takeWhile_cons_of_pos hc]
      · rwa [List.takeWhile_cons_of_pos hc]
      · rwa [List.takeWhile_cons_of_pos hc]

lemma takes_digits : Takes takeDigits Numeral.digits :=
  takes_takeWhile (by decide)

/-- A character of a class at the head of a text, and what is cut off behind it. -/
def cutIf (p : Char → Bool) (cut : List Char → List Char) : List Char → List Char
  | []        => []
  | c :: rest => if p c then c :: cut rest else []

lemma takes_takeIf {x : Draft → EStateM Error Machine Draft} {cut : List Char → List Char}
    (hx : Takes x cut) {p : Char → Bool} (hp : p '\n' = false) :
    Takes (takeIf p x) (cutIf p cut) := by
  intro file l text rest m h htext
  have hget : (get : EStateM Error Machine Machine) m = .ok m m := rfl
  cases hhead : m.ch.any p with
  | false =>
    have hcut : cutIf p cut rest = [] := by
      cases rest with
      | nil => rfl
      | cons c rest =>
        have hc : p c = false := by simpa [h.ch_eq] using hhead
        simp [cutIf, hc]
    refine ⟨m, ?_, by simpa [hcut] using htext, by simpa [hcut] using h⟩
    rw [takeIf, bind_of_ok hget, hhead, hcut, List.append_nil]
    rfl
  | true =>
    cases rest with
    | nil => simp [h.ch_eq] at hhead
    | cons c rest =>
      have hc : p c = true := by simpa [h.ch_eq] using hhead
      have hfeed : c ≠ '\n' := by
        rintro rfl
        simp [hp] at hc
      have hcut : text ++ cutIf p cut (c :: rest) = text ++ [c] ++ cut rest := by simp [cutIf, hc]
      obtain ⟨m₁, htake, h₁⟩ := take_stands h htext
      have htext₁ : '\n' ∉ text ++ [c] := by simp [htext, Ne.symm hfeed]
      obtain ⟨m₂, hgoes, htext₂, h₂⟩ := hx h₁ htext₁
      rw [hcut]
      refine ⟨m₂, ?_, htext₂, by simpa [cutIf, hc] using h₂⟩
      rw [takeIf, bind_of_ok hget, hhead, if_pos rfl, bind_of_ok htake, hgoes]

lemma takes_pure : Takes pure fun _ => [] := by
  intro file l text rest m h htext
  exact ⟨m, by rw [List.append_nil]; rfl, by rwa [List.append_nil], by simpa using h⟩

lemma Takes.congr {x : Draft → EStateM Error Machine Draft} {f g : List Char → List Char}
    (hx : Takes x f) (h : ∀ text, f text = g text) : Takes x g := (funext h : f = g) ▸ hx

lemma takes_fraction : Takes takeFraction Numeral.fraction := by
  refine (takes_takeIf takes_digits (by decide)).congr fun text => ?_
  cases text <;> simp [cutIf, Numeral.fraction]

lemma takes_sign : Takes takeSign Numeral.sign := by
  refine (takes_takeIf takes_pure (by decide)).congr fun text => ?_
  cases text <;> simp [cutIf, Numeral.sign]

lemma takes_exponent : Takes takeExponent Numeral.exponent := by
  refine (takes_takeIf (takes_sign.andThen takes_digits) (by decide)).congr fun text => ?_
  cases text <;> simp [cutIf, Numeral.exponent]

/-- The machine takes the numeral that stands at the head of the text. -/
theorem takes_numeral : Takes takeNumeral Numeral.leading := by
  have htakes := takes_digits.andThen (takes_fraction.andThen takes_exponent)
  refine Takes.congr htakes fun text => ?_
  simp [Numeral.leading, List.drop_drop]

/-! ### Passing over characters -/

lemma skipWhile_stop {p : Char → Location → Bool} (h : ∀ c ∈ m.ch, p c m.place = false) :
    skipWhile p m = .ok () m := by
  rw [skipWhile]
  split
  · rfl
  · next c hch => simp [h c hch]

lemma skipWhile_step {p : Char → Location → Bool} {m' : Machine} (hch : m.ch = some c)
    (hp : p c m.place = true) (hadvance : m.advance = .ok () m') :
    skipWhile p m = skipWhile p m' := by
  rw [skipWhile]
  split
  · next hnone => simp [hch] at hnone
  · next c' hch' =>
    obtain rfl : c = c' := by simpa [hch] using hch'
    rw [if_pos hp]
    split
    · next m₁ hstep =>
      rw [hadvance] at hstep
      obtain ⟨-, rfl⟩ := EStateM.Result.ok.inj hstep
      rfl
    · next e m₁ hstep =>
      rw [hadvance] at hstep
      cases hstep

/-- Passing over characters of a class. -/
lemma skipWhile_class (p : Char → Bool) (h : Stands file m l text) :
    ∃ m', skipWhile (fun c _ => p c) m = .ok () m' ∧
      Stands file m' (l.advance (text.takeWhile p)) (text.dropWhile p) := by
  induction text generalizing l m with
  | nil => exact ⟨m, skipWhile_stop (by simp [h.ch_eq]), h⟩
  | cons c text ih =>
    cases hc : p c with
    | false =>
      exact ⟨m, skipWhile_stop (by simp [h.ch_eq, hc]), by simpa [hc] using h⟩
    | true =>
      obtain ⟨m₁, hadvance, h₁⟩ := h.advance
      obtain ⟨m₂, hskip, h₂⟩ := ih h₁
      refine ⟨m₂, ?_, by simpa [hc] using h₂⟩
      rw [skipWhile_step h.ch_eq hc hadvance, hskip]

/-- Nothing is passed over in another line. -/
lemma skipWhile_of_line_ne {n : Nat} (h : Stands file m l text) (hline : l.line ≠ n) :
    skipWhile (fun _ place => place.line == n) m = .ok () m := by
  apply skipWhile_stop
  intro c hc
  cases h with
  | atEnd _ _ _  => cases hc
  | here _ _ _ _ => simpa using hline

/-- Passing over what is left of a line leads to where skipping inside of a comment leads. -/
lemma skipWhile_line (t : SymbolTable) (h : Stands file m l text) :
    ∃ m' l' rest, skipWhile (fun _ place => place.line == l.line) m = .ok () m' ∧
      Stands file m' l' rest ∧ Trivia.skip t true l text = Trivia.skip t false l' rest ∧
      rest.length ≤ text.length := by
  induction text generalizing l m with
  | nil => exact ⟨m, l, [], skipWhile_stop (by simp [h.ch_eq]), h, by simp, Nat.le_refl _⟩
  | cons c text ih =>
    have hline : (m.place.line == l.line) = true := by simp [h.place_eq]
    obtain ⟨m₁, hadvance, h₁⟩ := h.advance
    by_cases hc : c = '\n'
    · subst hc
      refine ⟨m₁, _, text, ?_, h₁, rfl, Nat.le_succ _⟩
      rw [skipWhile_step h.ch_eq hline hadvance]
      exact skipWhile_of_line_ne h₁ (by simp)
    · have hnext : (l.next c).line = l.line := by rw [Location.next_of_ne hc]
      obtain ⟨m₂, l', rest, hskip, h₂, htrivia, hle⟩ := ih h₁
      rw [hnext] at hskip
      refine ⟨m₂, l', rest, ?_, h₂, ?_, Nat.le_succ_of_le hle⟩
      · rw [skipWhile_step h.ch_eq hline hadvance, hskip]
      · have hinside : (c != '\n') = true := by simpa using hc
        rw [Trivia.skip_inside, hinside, htrivia]

end Machine

end Lexis
