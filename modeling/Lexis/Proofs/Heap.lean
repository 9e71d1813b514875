import Lexis.Heap
import Lexis.Proofs.Turn

/-!
# Heaps grow

All that ever happens to the registries of a heap is that an empty one is added, or that an object
is made in one of them (`Tables.Step`): every action leads from registries to registries that have
grown (`Heap.Effect.grows`), and so does every run. `Tables.Sound` holds at the start and is kept
by every such step: each object is under its own lexeme, none is of the kind of nothing, no lexeme
stands twice in a registry, and no two places have the same address.
-/

namespace Lexis

namespace Tables

/-- An empty registry is added, or an object is made in one that is there. -/
inductive Step (ts : Tables) : Tables → Prop where
  | add : Step ts ts.add
  | make {slot : Nat} {s s' : Store} (hs : ts.store? slot = some s) (h : s.Step s') :
      Step ts (ts.put slot s')

/-- Registries are added and objects are made, one after the other. -/
abbrev Grows : Tables → Tables → Prop := Relation.ReflTransGen Step

variable {ts ts' : Tables} {slot other : Nat} {s s' : Store} {lexeme lexeme' : String}
  {x y : SymbolRef}

/-! ### Slots -/

lemma store?_eq_some :
    ts.store? slot = some s ↔ ts.registries[slot]? = some s.registry ∧ ts.fresh = s.fresh := by
  obtain ⟨r, fresh⟩ := s
  cases h : ts.registries[slot]? <;> simp [store?, h]

lemma find?_of_store? (hs : ts.store? slot = some s) (lexeme : String) :
    ts.find? slot lexeme = s.registry.find? lexeme := by
  rw [find?, (store?_eq_some.1 hs).1]
  rfl

lemma put_self (hs : ts.store? slot = some s) : ts.put slot s = ts := by
  obtain ⟨hr, hfresh⟩ := store?_eq_some.1 hs
  obtain ⟨hlt, hget⟩ := List.getElem?_eq_some_iff.1 hr
  rw [put, ← hfresh, ← hget, List.set_getElem_self]

lemma put_put (ts : Tables) (slot : Nat) (s s' : Store) :
    (ts.put slot s).put slot s' = ts.put slot s' := by
  simp [put]

lemma store?_put (hs : ts.store? slot = some s) (s' : Store) :
    (ts.put slot s').store? slot = some s' := by
  obtain ⟨hlt, -⟩ := List.getElem?_eq_some_iff.1 (store?_eq_some.1 hs).1
  rw [store?_eq_some]
  simp [put, hlt]

lemma find?_put (hs : ts.store? slot = some s) (s' : Store) (other : Nat) (lexeme : String) :
    (ts.put slot s').find? other lexeme =
      if other = slot then s'.registry.find? lexeme else ts.find? other lexeme := by
  by_cases heq : other = slot
  · rw [if_pos heq, heq, find?_of_store? (store?_put hs s')]
  · rw [if_neg heq, find?, find?, put, List.getElem?_set_ne (Ne.symm heq)]

lemma exists_store?_of_lt (hlt : slot < ts.registries.length) : ∃ s, ts.store? slot = some s :=
  ⟨_, by rw [store?, List.getElem?_eq_getElem hlt, Option.map_some]⟩

lemma exists_store?_of_find? {x : SymbolRef} (h : ts.find? slot lexeme = some x) :
    ∃ s, ts.store? slot = some s ∧ s.registry.find? lexeme = some x := by
  obtain ⟨r, hr, hx⟩ := Option.bind_eq_some_iff.1 h
  exact ⟨⟨r, ts.fresh⟩, store?_eq_some.2 ⟨hr, rfl⟩, hx⟩

lemma length_put (ts : Tables) (slot : Nat) (s : Store) :
    (ts.put slot s).registries.length = ts.registries.length := by
  simp [put]

lemma store?_add (ts : Tables) : ts.add.store? ts.registries.length = some ⟨{}, ts.fresh⟩ := by
  simp [store?, add]

lemma find?_add (ts : Tables) (slot : Nat) (lexeme : String) :
    ts.add.find? slot lexeme = ts.find? slot lexeme := by
  rw [find?, find?, add, List.getElem?_append]
  by_cases hlt : slot < ts.registries.length
  · rw [if_pos hlt]
  · rw [if_neg hlt, List.getElem?_eq_none (Nat.le_of_not_lt hlt)]
    cases slot - ts.registries.length <;> rfl

/-! ### Growth -/

lemma grows_put (hs : ts.store? slot = some s) (h : s.Grows s') : ts.Grows (ts.put slot s') := by
  induction h with
  | refl => rw [put_self hs]
  | @tail s₁ s₂ _ hstep ih =>
    have hmake := Step.make (store?_put hs s₁) hstep
    rw [put_put] at hmake
    exact ih.tail hmake

lemma Step.find?_eq (h : ts.Step ts') (hx : ts.find? slot lexeme = some x) :
    ts'.find? slot lexeme = some x := by
  cases h with
  | add => rwa [find?_add]
  | @make other s s' hs hstep =>
    rw [find?_put hs]
    by_cases heq : slot = other
    · rw [heq, find?_of_store? hs] at hx
      rw [if_pos heq]
      exact hstep.find?_eq hx
    · rwa [if_neg heq]

/-- What is under a lexeme once stays there. -/
theorem Grows.find?_eq (h : ts.Grows ts') (hx : ts.find? slot lexeme = some x) :
    ts'.find? slot lexeme = some x := by
  induction h with
  | refl              => exact hx
  | tail _ hstep ih => exact hstep.find?_eq ih

lemma Step.length_le (h : ts.Step ts') : ts.registries.length ≤ ts'.registries.length := by
  cases h with
  | add      => simp [Tables.add]
  | make _ _ => exact Nat.le_of_eq (length_put _ _ _).symm

lemma Grows.length_le (h : ts.Grows ts') : ts.registries.length ≤ ts'.registries.length := by
  induction h with
  | refl              => exact Nat.le_refl _
  | tail _ hstep ih => exact Nat.le_trans ih hstep.length_le

/-! ### Soundness -/

/-- Each object is in one place only, and that is the place for its lexeme. -/
structure Sound (ts : Tables) : Prop where
  nodup : ∀ r ∈ ts.registries, (r.entries.map (·.1)).Nodup
  keyed : ∀ {slot lexeme x}, ts.find? slot lexeme = some x → x.symbol.lexeme = lexeme
  kind : ∀ {slot lexeme x}, ts.find? slot lexeme = some x → x.symbol.kind ≠ .bogus
  below : ∀ {slot lexeme x}, ts.find? slot lexeme = some x → x.address < ts.fresh
  apart : ∀ {slot slot' lexeme lexeme' x y}, ts.find? slot lexeme = some x →
    ts.find? slot' lexeme' = some y → x.address = y.address → slot = slot' ∧ lexeme = lexeme'

lemma sound_empty : Sound {} where
  nodup := by simp
  keyed h := by cases h
  kind h := by cases h
  below h := by cases h
  apart h := by cases h

namespace Sound

lemma add (h : ts.Sound) : ts.add.Sound where
  nodup := by
    intro r hr
    rcases List.mem_append.1 hr with hr | hr
    · exact h.nodup r hr
    · rw [List.mem_singleton.1 hr]
      exact List.nodup_nil
  keyed hx := h.keyed (find?_add ts _ _ ▸ hx)
  kind hx := h.kind (find?_add ts _ _ ▸ hx)
  below hx := h.below (find?_add ts _ _ ▸ hx)
  apart hx hy := h.apart (find?_add ts _ _ ▸ hx) (find?_add ts _ _ ▸ hy)

/-- What is found once an object was made was there, or is the new object. -/
lemma find?_make {kind : Kind} (hs : ts.store? slot = some s)
    (habsent : s.registry.find? lexeme = none)
    (hx : (ts.put slot (s.register lexeme kind).2).find? other lexeme' = some x) :
    ts.find? other lexeme' = some x ∨
      other = slot ∧ lexeme' = lexeme ∧ x = ⟨s.fresh, ⟨lexeme, kind⟩⟩ := by
  rw [find?_put hs] at hx
  by_cases hslot : other = slot
  · rw [if_pos hslot] at hx
    by_cases hlexeme : lexeme' = lexeme
    · rw [hlexeme] at hx
      have hself := Registry.find?_insert_self habsent ⟨s.fresh, ⟨lexeme, kind⟩⟩
      exact Or.inr ⟨hslot, hlexeme, Option.some.inj (hx.symm.trans hself)⟩
    · have hother := Registry.find?_insert_of_ne habsent hlexeme ⟨s.fresh, ⟨lexeme, kind⟩⟩
      rw [hslot, find?_of_store? hs]
      exact Or.inl (hother.symm.trans hx)
  · rw [if_neg hslot] at hx
    exact Or.inl hx

lemma make {kind : Kind} (h : ts.Sound) (hs : ts.store? slot = some s)
    (habsent : s.registry.find? lexeme = none) (hkind : kind ≠ .bogus) :
    (ts.put slot (s.register lexeme kind).2).Sound where
  nodup := by
    intro r hr
    rcases List.mem_or_eq_of_mem_set hr with hr | rfl
    · exact h.nodup r hr
    · have hold := h.nodup s.registry (List.mem_of_getElem? (store?_eq_some.1 hs).1)
      exact (Store.Step.register habsent hkind).nodup_keys hold
  keyed hx := by
    rcases find?_make hs habsent hx with hx | ⟨-, rfl, rfl⟩
    · exact h.keyed hx
    · rfl
  kind hx := by
    rcases find?_make hs habsent hx with hx | ⟨-, -, rfl⟩
    · exact h.kind hx
    · exact hkind
  below hx := by
    have hfresh := (store?_eq_some.1 hs).2
    rcases find?_make hs habsent hx with hx | ⟨-, -, rfl⟩
    · exact Nat.lt_succ_of_lt (hfresh ▸ h.below hx)
    · exact Nat.lt_succ_self _
  apart hx hy haddress := by
    have hfresh := (store?_eq_some.1 hs).2
    rcases find?_make hs habsent hx with hx | ⟨hslot, hlexeme, rfl⟩ <;>
      rcases find?_make hs habsent hy with hy | ⟨hslot', hlexeme', rfl⟩
    · exact h.apart hx hy haddress
    -- no object that was there has the address of the new one
    · exact absurd (h.below hx) (by simp [haddress, hfresh])
    · exact absurd (h.below hy) (by simp [← haddress, hfresh])
    · exact ⟨hslot.trans hslot'.symm, hlexeme.trans hlexeme'.symm⟩

lemma step (h : ts.Sound) (hstep : ts.Step ts') : ts'.Sound := by
  cases hstep with
  | add => exact h.add
  | make hs hmake =>
    cases hmake with
    | register habsent hkind => exact h.make hs habsent hkind

/-- What stands in a registry is found there. -/
lemma find?_of_mem (h : ts.Sound) {r : Registry} (hr : ts.registries[slot]? = some r)
    {entry : String × SymbolRef} (hentry : entry ∈ r.entries) :
    ts.find? slot entry.1 = some entry.2 := by
  have hnodup := h.nodup r (List.mem_of_getElem? hr)
  rw [find?, hr]
  exact (lookup_iff_mem hnodup entry.1 entry.2).2 hentry

lemma keyed_of_store? (h : ts.Sound) (hs : ts.store? slot = some s) : s.registry.Keyed := by
  intro entry hentry
  exact h.keyed (h.find?_of_mem (store?_eq_some.1 hs).1 hentry)

/-- Growth keeps what is sound. -/
theorem grows (h : ts.Sound) (hgrows : ts.Grows ts') : ts'.Sound := by
  induction hgrows with
  | refl              => exact h
  | tail _ hstep ih => exact ih.step hstep

end Sound

end Tables

lemma Store.Hands.grows {s s' : Store} {answer : Except Error (Option TokenRef)}
    (h : s.Hands answer s') : s.Grows s' := by
  cases h with
  | ending           => exact .refl
  | failure _        => exact .refl
  | @token lexeme kind x _ span _ hintern =>
    have hgrows := s.grows_intern lexeme kind
    rwa [hintern] at hgrows

namespace Heap

variable {h h' : Heap} {slot : Nat} {s : Store} {b : BoundMachine}

/-! ### Slots -/

lemma lexer?_eq_some {i : Nat} : h.lexer? i = some b ↔ h.lexers[i]? = some (some b) := by
  rw [lexer?, Option.join_eq_some_iff]

/-- A new slot comes last. -/
lemma lexer?_append (h : Heap) (b? : Option BoundMachine) (i : Nat) :
    { h with lexers := h.lexers ++ [b?] }.lexer? i =
      if i = h.lexers.length then b? else h.lexer? i := by
  by_cases heq : i = h.lexers.length
  · simp [lexer?, heq]
  · rw [if_neg heq, lexer?, lexer?, List.getElem?_append]
    by_cases hlt : i < h.lexers.length
    · rw [if_pos hlt]
    · rw [if_neg hlt, List.getElem?_eq_none (Nat.le_of_not_lt hlt), List.getElem?_eq_none]
      simp
      omega

/-- A new slot is not one that is taken. -/
lemma lexer?_append_of_some {i : Nat} (hb : h.lexer? i = some b) (b? : Option BoundMachine) :
    { h with lexers := h.lexers ++ [b?] }.lexer? i = some b := by
  obtain ⟨hlt, -⟩ := List.getElem?_eq_some_iff.1 (lexer?_eq_some.1 hb)
  rw [lexer?_append, if_neg (Nat.ne_of_lt hlt), hb]

lemma lexer?_setLexer {i : Nat} (hb : h.lexer? i = some b) (b' : BoundMachine) (j : Nat) :
    (h.setLexer i b').lexer? j = if i = j then some b' else h.lexer? j := by
  obtain ⟨hlt, -⟩ := List.getElem?_eq_some_iff.1 (lexer?_eq_some.1 hb)
  rw [lexer?, setLexer, List.getElem?_set]
  by_cases heq : i = j
  · rw [if_pos heq, if_pos heq, if_pos hlt, Option.join_some]
  · rw [if_neg heq, if_neg heq, lexer?]

lemma setLexer_self {i : Nat} (hb : h.lexer? i = some b) : h.setLexer i b = h := by
  obtain ⟨hlt, hget⟩ := List.getElem?_eq_some_iff.1 (lexer?_eq_some.1 hb)
  rw [setLexer, ← hget, List.set_getElem_self]

/-! ### What an action does -/

lemma withStore_of_some (hs : h.tables.store? slot = some s) (use : Store → Report × Heap) :
    h.withStore slot use = use s := by
  rw [withStore, hs]

lemma withStore_cases (h : Heap) (slot : Nat) (use : Store → Report × Heap) :
    (∃ s, h.tables.store? slot = some s ∧ h.withStore slot use = use s) ∨
      h.tables.store? slot = none ∧ h.withStore slot use = (.noSuchSlot, h) := by
  cases hs : h.tables.store? slot with
  | some s => exact Or.inl ⟨s, rfl, withStore_of_some hs use⟩
  | none   => exact Or.inr ⟨rfl, by rw [withStore, hs]⟩

lemma withLexer_of_some (hb : h.lexer? slot = some b) (hs : h.tables.store? b.table = some s)
    (use : BoundMachine → Store → Report × Heap) : h.withLexer slot use = use b s := by
  rw [withLexer, hb]
  exact withStore_of_some hs _

lemma withLexer_cases (h : Heap) (slot : Nat) (use : BoundMachine → Store → Report × Heap) :
    (∃ b s, h.lexer? slot = some b ∧ h.tables.store? b.table = some s ∧
        h.withLexer slot use = use b s) ∨ h.withLexer slot use = (.noSuchSlot, h) := by
  rw [withLexer]
  cases hb : h.lexer? slot with
  | none   => exact Or.inr rfl
  | some b =>
    rcases h.withStore_cases b.table (use b) with ⟨s, hs, heq⟩ | ⟨-, heq⟩
    · exact Or.inl ⟨b, s, rfl, hs, heq⟩
    · exact Or.inr heq

/-- The turn of a machine on a registry, with nothing recorded before. -/
def turnOf (b : BoundMachine) (s : Store) : Scene.Turn := Scene.turn ⟨b.machine, s, []⟩

/-- What comes of an action. -/
inductive Effect (h : Heap) : Action → Report → Heap → Prop where
  | absent (action : Action) : Effect h action .noSuchSlot h
  | newTable :
      Effect h .newTable (.table h.tables.registries.length) { h with tables := h.tables.add }
  | newSeeded {s : Store} (order : SeedOrder)
      (hs : h.tables.add.store? h.tables.registries.length = some s) :
      Effect h (.newSeeded order)
        (.seeded h.tables.registries.length (s.seed order).registry.size)
        { h with tables := h.tables.add.put h.tables.registries.length (s.seed order) }
  | seed {slot : Nat} {s : Store} (order : SeedOrder) (hs : h.tables.store? slot = some s) :
      Effect h (.seed slot order) (.seeded slot (s.seed order).registry.size)
        (h.put slot (s.seed order))
  | intern {slot : Nat} {s : Store} (lexeme : String) (kind : Kind)
      (hs : h.tables.store? slot = some s) :
      Effect h (.intern slot lexeme kind) (.symbol slot (s.intern lexeme kind).1)
        (h.put slot (s.intern lexeme kind).2)
  | lookup {slot : Nat} {s : Store} (lexeme : String) (hs : h.tables.store? slot = some s) :
      Effect h (.lookup slot lexeme) (.symbol slot (s.registry.find? lexeme)) h
  | contains {slot : Nat} {s : Store} (lexeme : String) (hs : h.tables.store? slot = some s) :
      Effect h (.contains slot lexeme) (.contains (s.registry.contains lexeme)) h
  | size {slot : Nat} {s : Store} (hs : h.tables.store? slot = some s) :
      Effect h (.size slot) (.size s.registry.size) h
  | failed {slot : Nat} {s : Store} {opening : Opening} {e : Error}
      (hs : h.tables.store? slot = some s)
      (he : (opening.readIn h.directory).bind Machine.new = .error e) :
      Effect h (.newLexer slot opening) (.failed e) { h with lexers := h.lexers ++ [none] }
  | lexer {slot : Nat} {s : Store} {opening : Opening} {m : Machine}
      (hs : h.tables.store? slot = some s)
      (hm : (opening.readIn h.directory).bind Machine.new = .ok m) :
      Effect h (.newLexer slot opening) (.lexer h.lexers.length)
        { h with lexers := h.lexers ++ [some ⟨slot, m⟩] }
  | next {i : Nat} {b : BoundMachine} {s : Store} (hb : h.lexer? i = some b)
      (hs : h.tables.store? b.table = some s) :
      Effect h (.next i) (.next i b.table (turnOf b s).answer (turnOf b s).scene.events)
        ((h.put b.table (turnOf b s).scene.store).setLexer i
          ⟨b.table, (turnOf b s).scene.machine⟩)
  | close {i : Nat} {b : BoundMachine} (hb : h.lexer? i = some b) :
      Effect h (.close i) (.closed i b.machine.closing)
        (h.setLexer i ⟨b.table, b.machine.close⟩)

lemma put_self (hs : h.tables.store? slot = some s) : h.put slot s = h := by
  rw [put, Tables.put_self hs]

/-- Asking tells what is there and changes nothing. -/
lemma intern_bogus (hs : h.tables.store? slot = some s) (lexeme : String) :
    h.intern slot lexeme .bogus = (.symbol slot (s.registry.find? lexeme), h) := by
  have hlookup : s.intern lexeme .bogus = (s.registry.find? lexeme, s) := s.lookup_eq lexeme
  rw [intern, withStore_of_some hs, hlookup]
  exact congrArg (Prod.mk _) (put_self hs)

lemma perform_next {i : Nat} (hb : h.lexer? i = some b) (hs : h.tables.store? b.table = some s) :
    h.perform (.next i) =
      (.next i b.table (turnOf b s).answer (turnOf b s).scene.events,
        (h.put b.table (turnOf b s).scene.store).setLexer i
          ⟨b.table, (turnOf b s).scene.machine⟩) := by
  rw [perform, withLexer_of_some hb hs]
  rfl

lemma perform_seed (hs : h.tables.store? slot = some s) (order : SeedOrder) :
    h.perform (.seed slot order) =
      (.seeded slot (s.seed order).registry.size, h.put slot (s.seed order)) := by
  rw [perform, seed, withStore_of_some hs]

lemma perform_intern (hs : h.tables.store? slot = some s) (lexeme : String)
    (kind : Kind) :
    h.perform (.intern slot lexeme kind) =
      (.symbol slot (s.intern lexeme kind).1, h.put slot (s.intern lexeme kind).2) := by
  rw [perform, intern, withStore_of_some hs]

lemma perform_size (hs : h.tables.store? slot = some s) :
    h.perform (.size slot) = (.size s.registry.size, h) := by
  rw [perform, withStore_of_some hs]

lemma perform_newSeeded (h : Heap) (order : SeedOrder) :
    h.perform (.newSeeded order) =
      (.seeded h.tables.registries.length (Store.seed ⟨{}, h.tables.fresh⟩ order).registry.size,
        { h with
          tables := h.tables.add.put h.tables.registries.length
            (Store.seed ⟨{}, h.tables.fresh⟩ order) }) := by
  rw [perform, seed, withStore_of_some (h := { h with tables := h.tables.add }) h.tables.store?_add]
  rfl

lemma effect_seed (h : Heap) (slot : Nat) (order : SeedOrder) :
    h.Effect (.seed slot order) (h.seed slot order).1 (h.seed slot order).2 := by
  rcases h.withStore_cases slot _ with ⟨s, hs, heq⟩ | ⟨-, heq⟩ <;> rw [seed, heq]
  · exact .seed order hs
  · exact .absent _

/-- An action has one of these effects. -/
theorem effect_perform (h : Heap) (action : Action) :
    h.Effect action (h.perform action).1 (h.perform action).2 := by
  cases action with
  | newTable => exact .newTable
  | newSeeded order =>
    rw [perform_newSeeded]
    exact .newSeeded order h.tables.store?_add
  | seed slot order => exact h.effect_seed slot order
  | intern slot lexeme kind =>
    rcases h.withStore_cases slot _ with ⟨s, hs, heq⟩ | ⟨-, heq⟩ <;> rw [perform, intern, heq]
    · exact .intern lexeme kind hs
    · exact .absent _
  | lookup slot lexeme =>
    rw [perform]
    cases hs : h.tables.store? slot with
    | some s => rw [intern_bogus hs]; exact .lookup lexeme hs
    | none   => rw [intern, withStore, hs]; exact .absent _
  | contains slot lexeme =>
    rcases h.withStore_cases slot _ with ⟨s, hs, heq⟩ | ⟨-, heq⟩ <;> rw [perform, heq]
    · exact .contains lexeme hs
    · exact .absent _
  | size slot =>
    rcases h.withStore_cases slot _ with ⟨s, hs, heq⟩ | ⟨-, heq⟩ <;> rw [perform, heq]
    · exact .size hs
    · exact .absent _
  | newLexer slot opening =>
    rcases h.withStore_cases slot _ with ⟨s, hs, heq⟩ | ⟨-, heq⟩ <;> rw [perform, heq]
    · cases hm : (opening.readIn h.directory).bind Machine.new with
      | ok m    => exact .lexer hs hm
      | error e => exact .failed hs hm
    · exact .absent _
  | next i =>
    rcases h.withLexer_cases i _ with ⟨b, s, hb, hs, heq⟩ | heq <;> rw [perform, heq]
    · exact .next hb hs
    · exact .absent _
  | close i =>
    rcases h.withLexer_cases i _ with ⟨b, s, hb, hs, heq⟩ | heq <;> rw [perform, heq]
    · exact .close hb
    · exact .absent _

/-! ### What every action keeps -/

/-- The registries are in order, and every machine follows a lexer on one of them. -/
structure Sound (h : Heap) : Prop where
  tables : h.tables.Sound
  bound : ∀ {i b}, h.lexer? i = some b → b.table < h.tables.registries.length
  tracks : ∀ {i b}, h.lexer? i = some b → ∃ l, b.machine.Tracks l

lemma sound_start (d : Directory) : (start d).Sound where
  tables := Tables.sound_empty
  bound := by simp [start, lexer?]
  tracks := by simp [start, lexer?]

namespace Sound

variable {i : Nat}

/-- A machine takes its turn as a lexer takes a step. -/
lemma mirrors (h' : h.Sound) (hb : h.lexer? i = some b) (hs : h.tables.store? b.table = some s) :
    ∃ l, b.machine.Tracks l ∧
      (Scene.mk b.machine s []).Mirrors (turnOf b s) (l.next s.registry.erase) := by
  obtain ⟨l, htracks⟩ := h'.tracks hb
  exact ⟨l, htracks, Scene.turn_mirrors htracks (h'.tables.keyed_of_store? hs)⟩

/-- The registry of a machine is there. -/
lemma exists_store (h' : h.Sound) (hb : h.lexer? i = some b) :
    ∃ s, h.tables.store? b.table = some s :=
  Tables.exists_store?_of_lt (h'.bound hb)

end Sound

variable {action : Action} {report : Report}

/-- An action makes the registries grow. -/
theorem Effect.grows (heffect : h.Effect action report h') (hsound : h.Sound) :
    h.tables.Grows h'.tables := by
  cases heffect with
  | absent | lookup | contains | size | failed | lexer | close => exact .refl
  | newTable => exact .single .add
  | newSeeded order hs =>
    exact (Relation.ReflTransGen.single .add).trans (Tables.grows_put hs (Store.grows_seed _ order))
  | seed order hs         => exact Tables.grows_put hs (Store.grows_seed _ order)
  | intern lexeme kind hs => exact Tables.grows_put hs (Store.grows_intern _ lexeme kind)
  | next hb hs =>
    obtain ⟨l, -, hmirrors⟩ := hsound.mirrors hb hs
    exact Tables.grows_put hs hmirrors.store.grows

/-- A machine is made on the reader that an opening gives. -/
lemma exists_new_eq {d : Directory} {opening : Opening} {m : Machine}
    (hm : (opening.readIn d).bind Machine.new = .ok m) : ∃ r, Machine.new r = .ok m := by
  cases hr : opening.readIn d with
  | error e => rw [hr] at hm; cases hm
  | ok r    => rw [hr] at hm; exact ⟨r, hm⟩

/-- A new machine follows a lexer. -/
lemma exists_tracks_of_new {r : Reader} {m : Machine} (hm : Machine.new r = .ok m) :
    ∃ l, m.Tracks l := by
  rcases Machine.new_cases r with ⟨m', l, hnew, -, htracks⟩ | ⟨hnew, -⟩
  · cases hnew.symm.trans hm
    exact ⟨l, htracks⟩
  · cases hnew.symm.trans hm

/-- The machines after an action: those that were there, the one that took a turn or was closed in
its new state, and a new one. -/
theorem Effect.of_lexer? (heffect : h.Effect action report h') (hsound : h.Sound) {i : Nat}
    {b : BoundMachine} (hb : h'.lexer? i = some b) :
    b.table < h'.tables.registries.length ∧ ∃ l, b.machine.Tracks l := by
  have hlength := (heffect.grows hsound).length_le
  have hold : h.lexer? i = some b →
      b.table < h'.tables.registries.length ∧ ∃ l, b.machine.Tracks l :=
    fun hb => ⟨Nat.lt_of_lt_of_le (hsound.bound hb) hlength, hsound.tracks hb⟩
  cases heffect with
  | absent | newTable | newSeeded | seed | intern | lookup | contains | size => exact hold hb
  | failed hs he =>
    rw [lexer?_append] at hb
    split at hb
    · cases hb
    · exact hold hb
  | lexer hs hm =>
    rw [lexer?_append] at hb
    split at hb
    · obtain ⟨hlt, -⟩ := List.getElem?_eq_some_iff.1 (Tables.store?_eq_some.1 hs).1
      obtain ⟨r, hnew⟩ := exists_new_eq hm
      obtain rfl := Option.some.inj hb
      exact ⟨hlt, exists_tracks_of_new hnew⟩
    · exact hold hb
  | next hc hs =>
    rw [lexer?_setLexer (h := h.put _ _) hc] at hb
    split at hb
    · obtain ⟨l, -, hmirrors⟩ := hsound.mirrors hc hs
      have hbound := hsound.bound hc
      obtain rfl := Option.some.inj hb
      exact ⟨Nat.lt_of_lt_of_le hbound hlength, _, hmirrors.machine⟩
    · exact hold hb
  | close hc =>
    rw [lexer?_setLexer hc] at hb
    split at hb
    · obtain ⟨l, htracks⟩ := hsound.tracks hc
      have hbound := hsound.bound hc
      obtain rfl := Option.some.inj hb
      exact ⟨hbound, _, Machine.tracks_close htracks.file_eq⟩
    · exact hold hb

/-- An action keeps what is sound. -/
theorem Effect.sound (heffect : h.Effect action report h') (hsound : h.Sound) : h'.Sound where
  tables := hsound.tables.grows (heffect.grows hsound)
  bound hb := (heffect.of_lexer? hsound hb).1
  tracks hb := (heffect.of_lexer? hsound hb).2

/-! ### Runs -/

lemma run_cons (h : Heap) (action : Action) (rest : List Action) :
    h.run (action :: rest) =
      ((h.perform action).1 :: ((h.perform action).2.run rest).1,
        ((h.perform action).2.run rest).2) := rfl

lemma run_append (h : Heap) (before after : List Action) :
    h.run (before ++ after) =
      ((h.run before).1 ++ ((h.run before).2.run after).1, ((h.run before).2.run after).2) := by
  induction before generalizing h with
  | nil => rfl
  | cons action before ih => rw [List.cons_append, run_cons, ih, run_cons]; rfl

lemma run_concat (h : Heap) (actions : List Action) (action : Action) :
    h.run (actions ++ [action]) =
      ((h.run actions).1 ++ [((h.run actions).2.perform action).1],
        ((h.run actions).2.perform action).2) := h.run_append actions [action]

theorem Sound.run (hsound : h.Sound) (actions : List Action) : (h.run actions).2.Sound := by
  induction actions generalizing h with
  | nil                    => exact hsound
  | cons action actions ih => exact ih ((h.effect_perform action).sound hsound)

/-- A run makes the registries grow. -/
theorem Sound.grows_run (hsound : h.Sound) (actions : List Action) :
    h.tables.Grows (h.run actions).2.tables := by
  induction actions generalizing h with
  | nil => exact .refl
  | cons action actions ih =>
    have heffect := h.effect_perform action
    exact (heffect.grows hsound).trans (ih (heffect.sound hsound))

end Heap

end Lexis
