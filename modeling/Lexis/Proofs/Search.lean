import Lexis.Proofs.Turn

/-!
# What one search leaves

A search for a token adds nothing to a registry but the object of the word or numeral that it gives
out, and that only if the lexeme had none (`Store.Leaves`). This is so for every state of a machine
and on every registry (`Scene.leaves_turn`): while characters are taken, marks looked up and
comments passed over the store stays as it is (`Scene.Keeps`), and only `Scene.scanNew` makes an
object.
-/

namespace Lexis

open Character

/-! ### One search -/

/-- What a search for a token may leave of a store. -/
inductive Store.Leaves (s : Store) : Except Error (Option TokenRef) → Store → Prop where
  /-- Nothing is added. If a token is given out, its object was there. -/
  | same {answer : Except Error (Option TokenRef)}
      (hfound : ∀ t, answer = .ok (some t) → ∃ lexeme, s.registry.find? lexeme = some t.symbol) :
      Leaves s answer s
  /-- A word or a numeral that was not there is given out, and its object is the only new entry. -/
  | added {lexeme : String} {kind : Kind} (span : Span)
      (habsent : s.registry.find? lexeme = none)
      (hkind : kind = .identifier ∨ kind = .literal (Numeral.classify lexeme.toList)) :
      Leaves s (.ok (some ⟨⟨s.fresh, ⟨lexeme, kind⟩⟩, span⟩))
        ⟨⟨s.registry.entries ++ [(lexeme, ⟨s.fresh, ⟨lexeme, kind⟩⟩)]⟩, s.fresh + 1⟩

namespace Scene

/-- The scene that an action leaves, with a result or an error. -/
def left {α : Type} : EStateM.Result Error Scene α → Scene
  | .ok _ s    => s
  | .error _ s => s

/-- An action that leaves the store as it was. -/
def Keeps {α : Type} (x : EStateM Error Scene α) : Prop := ∀ s, (left (x s)).store = s.store

/-- With such a result a search for a token leaves what it may leave. -/
def LeavesBy (s : Store) : EStateM.Result Error Scene (Option TokenRef) → Prop
  | .ok t s'    => s.Leaves (.ok t) s'.store
  | .error e s' => s.Leaves (.error e) s'.store

variable {α β : Type} {s s' : Scene} {d : Draft}

namespace Keeps

lemma of_ok {x : EStateM Error Scene α} {a : α} (h : Keeps x) (hx : x s = .ok a s') :
    s'.store = s.store := by
  simpa [hx, left] using h s

lemma of_error {x : EStateM Error Scene α} {e : Error} (h : Keeps x) (hx : x s = .error e s') :
    s'.store = s.store := by
  simpa [hx, left] using h s

lemma pure (a : α) : Keeps (Pure.pure a) := fun _ => rfl

lemma bind {x : EStateM Error Scene α} {f : α → EStateM Error Scene β} (hx : Keeps x)
    (hf : ∀ a, Keeps (f a)) : Keeps (x >>= f) := by
  intro s
  match hresult : x s with
  | .ok a s₁ =>
    rw [bind_of_ok hresult, hf a s₁]
    exact hx.of_ok hresult
  | .error e s₁ =>
    rw [bind_of_error hresult]
    exact hx.of_error hresult

lemma act (x : EStateM Error Machine α) : Keeps (Scene.act x) := by
  intro s
  unfold Scene.act
  split <;> rfl

lemma record (e : Event) : Keeps (Scene.record e) := fun _ => rfl

lemma close : Keeps Scene.close := fun _ => rfl

lemma get : Keeps get := fun _ => rfl

lemma throw (e : Error) : Keeps (α := α) (throw e) := fun _ => rfl

lemma find (text : List Char) : Keeps (Scene.find text) := by
  intro s
  rw [find_eq]
  rfl

lemma findPair (d : Draft) : Keeps (Scene.findPair d) := by
  intro s
  unfold Scene.findPair
  split
  · exact find _ s
  · rfl

lemma finishSingle (d : Draft) : Keeps (Scene.finishSingle d) := by
  refine (find d.text).bind fun found => ?_
  cases found with
  | some x => exact pure _
  | none   => exact (record _).bind fun _ => get.bind fun _ => close.bind fun _ => throw _

lemma finishPair (d : Draft) (x : SymbolRef) : Keeps (Scene.finishPair d x) := by
  refine (act _).bind fun d => ?_
  split
  · exact (record _).bind fun _ => (act _).bind fun _ => pure _
  · exact pure _

lemma scanMark (d : Draft) : Keeps (Scene.scanMark d) := by
  refine (act _).bind fun d => (findPair d).bind fun found => ?_
  cases found with
  | some x => exact finishPair d x
  | none   => exact finishSingle d

end Keeps

/-! ### What is found -/

lemma exists_find?_of_findPair {x : SymbolRef} (h : findPair d s = .ok (some x) s') :
    ∃ lexeme, s.store.registry.find? lexeme = some x := by
  unfold findPair at h
  split at h
  · rw [find_eq] at h
    obtain ⟨hfound, -⟩ := EStateM.Result.ok.inj h
    exact ⟨_, hfound⟩
  · cases h

lemma exists_find?_of_finishSingle {t : TokenRef} (h : finishSingle d s = .ok (some t) s') :
    ∃ lexeme, s.store.registry.find? lexeme = some t.symbol := by
  cases hfound : s.store.registry.find? (String.ofList d.text) with
  | some x =>
    rw [finishSingle_of_found hfound] at h
    obtain ⟨htoken, -⟩ := EStateM.Result.ok.inj h
    obtain rfl := Option.some.inj htoken
    exact ⟨_, hfound⟩
  | none =>
    rw [finishSingle_of_absent hfound] at h
    cases h

lemma symbol_of_finishPair {x : SymbolRef} {t : TokenRef}
    (h : finishPair d x s = .ok (some t) s') : t.symbol = x := by
  obtain ⟨d', s₁, -, h⟩ := bind_eq_ok h
  by_cases hkind : x.symbol.kind = .comment
  · rw [if_pos hkind] at h
    obtain ⟨_, _, -, h⟩ := bind_eq_ok h
    obtain ⟨_, _, -, h⟩ := bind_eq_ok h
    cases h
  · rw [if_neg hkind] at h
    obtain ⟨htoken, -⟩ := EStateM.Result.ok.inj h
    obtain rfl := Option.some.inj htoken
    rfl

/-- An operator or separator is given out only if it is there. -/
lemma exists_find?_of_scanMark {t : TokenRef} (h : scanMark d s = .ok (some t) s') :
    ∃ lexeme, s.store.registry.find? lexeme = some t.symbol := by
  obtain ⟨d', s₁, htake, h⟩ := bind_eq_ok h
  obtain ⟨found, s₂, hpair, h⟩ := bind_eq_ok h
  have hstore₁ := (Keeps.act _).of_ok htake
  have hstore₂ := (Keeps.findPair d').of_ok hpair
  rw [← hstore₁]
  cases found with
  | some x =>
    obtain rfl := symbol_of_finishPair h
    exact exists_find?_of_findPair hpair
  | none =>
    rw [← hstore₂]
    exact exists_find?_of_finishSingle h

/-! ### Words and numerals -/

/-- An error or the end of the stream leaves the store as it was. -/
lemma leavesBy_error {store : Store} {e : Error} (h : s'.store = store) :
    LeavesBy store (.error e s') := by
  rw [LeavesBy, h]
  exact .same (by simp)

lemma leavesBy_ending {store : Store} (h : s'.store = store) : LeavesBy store (.ok none s') := by
  rw [LeavesBy, h]
  exact .same (by simp)

/-- A word or a numeral is added if it was not there. -/
lemma leavesBy_scanNew (take : Draft → EStateM Error Machine Draft) {kind : List Char → Kind}
    (hkind : ∀ text, kind text = .identifier ∨ kind text = .literal (Numeral.classify text))
    (d : Draft) (s : Scene) : LeavesBy s.store (scanNew take kind d s) := by
  rw [scanNew]
  cases hact : act (take d) s with
  | error e s₁ =>
    rw [bind_of_error hact]
    exact leavesBy_error ((Keeps.act _).of_error hact)
  | ok d₁ s₁ =>
    have hstore := (Keeps.act _).of_ok hact
    have hbogus : kind d₁.text ≠ .bogus := by
      rcases hkind d₁.text with h | h <;> simp [h]
    rw [bind_of_ok hact, ← hstore]
    rcases s₁.store.intern_cases (String.ofList d₁.text) (kind d₁.text) with
      ⟨x, hx, heq⟩ | ⟨-, h, -⟩ | ⟨habsent, -, heq⟩
    · rw [bind_of_ok (resolve_of_intern heq)]
      refine .same fun t ht => ⟨_, hx.trans ?_⟩
      cases ht
      rfl
    · exact absurd h hbogus
    · rw [bind_of_ok (resolve_of_intern heq), Store.register, Registry.insert_of_absent habsent]
      exact .added _ habsent (by simpa using hkind d₁.text)

/-! ### The whole search -/

/-- However a search goes, it leaves no more than one new entry, and none but for the word or
numeral that it gives out. -/
theorem leavesBy_next (s : Scene) : LeavesBy s.store (next s) := by
  fun_induction next s with
  | case1 s _ => exact leavesBy_ending rfl
  | case2 s _ e s₁ hskip => exact leavesBy_error ((Keeps.act _).of_error hskip)
  | case3 s _ s₁ hskip _ =>
    have hstore : s₁.store = s.store := (Keeps.act _).of_ok hskip
    exact leavesBy_ending hstore
  | case4 s _ s₁ hskip c _ d _ =>
    rw [← (Keeps.act _).of_ok hskip]
    exact leavesBy_scanNew _ (fun _ => Or.inl rfl) d s₁
  | case5 s _ s₁ hskip c _ d _ _ =>
    rw [← (Keeps.act _).of_ok hskip]
    exact leavesBy_scanNew _ (fun _ => Or.inr rfl) d s₁
  | case6 s _ s₁ hskip c _ d _ _ e s₂ hmark =>
    rw [← (Keeps.act _).of_ok hskip]
    exact leavesBy_error ((Keeps.scanMark d).of_error hmark)
  | case7 s _ s₁ hskip c _ d _ _ t s₂ hmark =>
    have hstore := (Keeps.scanMark d).of_ok hmark
    rw [← (Keeps.act _).of_ok hskip, ← hstore]
    obtain ⟨lexeme, hfind⟩ := exists_find?_of_scanMark hmark
    refine .same fun t' ht => ⟨lexeme, ?_⟩
    cases ht
    rwa [hstore]
  | case8 s _ s₁ hskip c _ d _ _ s₂ hmark ih =>
    -- a comment was passed over, and the search goes on with the same store
    rw [← (Keeps.act _).of_ok hskip, ← (Keeps.scanMark d).of_ok hmark]
    exact ih

theorem leaves_turn (s : Scene) : s.store.Leaves s.turn.answer s.turn.scene.store := by
  have h := leavesBy_next s
  match hnext : s.next with
  | .ok t s' =>
    rw [hnext] at h
    rwa [turn_of_ok hnext]
  | .error e s' =>
    rw [hnext] at h
    rwa [turn_of_error hnext]

end Scene

end Lexis
