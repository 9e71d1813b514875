import Mathlib.Data.Finset.Card
import Mathlib.Data.List.Nodup
import Lexis.Proofs.Heap
import Lexis.Proofs.Search

/-!
# Interning

What a run hands out (`Report.handed`) is found under its lexeme from then on, and what its actions
register (`Heap.registered`) are exactly the lexemes that are found after it. Each action does to
the registries what it should (`Heap.Lawful`): a lexeme that is known gives its object and changes
nothing, a new one gets an object of its own and all else stays as it was (`Tables.Receives`).
Together this says what interning is good for (`Heap.interns_of_run`): an object stands for a lexeme
in a registry, and there is no other one for it.
-/

namespace Lexis

/-- The objects that are handed out, each with the slot of its registry. -/
def Report.handed : Report → List (Nat × SymbolRef)
  | .symbol slot (some x)         => [(slot, x)]
  | .next _ slot (.ok (some t)) _ => [(slot, t.symbol)]
  | _                             => []

/-- The lexemes that an action registers if this comes of it, each with the slot of its registry:
the vocabulary when it is declared, a lexeme that is interned with a kind of its own, and a word or
numeral that a lexer gives out. -/
def Action.registers : Action → Report → List (Nat × String)
  | .newSeeded _, .seeded slot _          => Vocabulary.fixed.map fun word => (slot, word.1)
  | .seed slot _, .seeded _ _             => Vocabulary.fixed.map fun word => (slot, word.1)
  | .intern slot lexeme kind, .symbol _ _ => if kind = .bogus then [] else [(slot, lexeme)]
  | .next _, .next _ slot (.ok (some t)) _ =>
    if t.symbol.symbol.kind.isOpen then [(slot, t.symbol.symbol.lexeme)] else []
  | _, _                                  => []

/-- The lexemes that actions register if this comes of them. -/
def Heap.registered (actions : List Action) (reports : List Report) : List (Nat × String) :=
  (actions.zip reports).flatMap fun step => step.1.registers step.2

/-- Whether an action makes a registry. -/
def Action.makesTable : Action → Bool
  | .newTable | .newSeeded _ => true
  | _                        => false

namespace Store

variable {s s' : Store} {lexeme other : String} {kind : Kind} {x : SymbolRef}

/-- What interning hands out is there. -/
lemma find?_of_intern (h : s.intern lexeme kind = (some x, s')) :
    s'.registry.find? lexeme = some x := by
  rcases s.intern_cases lexeme kind with ⟨y, hy, heq⟩ | ⟨-, -, heq⟩ | ⟨habsent, -, heq⟩
  · cases heq.symm.trans h
    exact hy
  · cases heq.symm.trans h
  · cases heq.symm.trans h
    exact Registry.find?_insert_self habsent _

/-- Interning with a kind of its own registers the lexeme, and no other. -/
lemma isSome_intern (s : Store) (lexeme other : String) (kind : Kind) :
    ((s.intern lexeme kind).2.registry.find? other).isSome = true ↔
      (s.registry.find? other).isSome = true ∨ kind ≠ .bogus ∧ other = lexeme := by
  rcases s.intern_cases lexeme kind with ⟨x, hx, heq⟩ | ⟨-, hkind, heq⟩ | ⟨habsent, hkind, heq⟩
  · rw [heq, or_iff_left_of_imp]
    rintro ⟨-, rfl⟩
    simp [hx]
  · simp [heq, ← hkind]
  · rw [heq, register]
    by_cases hother : other = lexeme
    · simp [hother, hkind, Registry.find?_insert_self habsent]
    · simp [hother, Registry.find?_insert_of_ne habsent hother]

lemma isSome_seed (s : Store) (order : SeedOrder) (lexeme : String) :
    ((s.seed order).registry.find? lexeme).isSome = true ↔
      (s.registry.find? lexeme).isSome = true ∨ lexeme ∈ Vocabulary.fixed.map (·.1) := by
  have hsymbol := congrArg Option.isSome (s.symbol_seed order lexeme)
  have hkind : (Vocabulary.reserved.kind? lexeme).or (Vocabulary.marks.kind? lexeme) =
      Vocabulary.fixed.lookup lexeme := List.lookup_append.symm
  rw [symbol?, Option.isSome_map, Option.isSome_or, symbol?, Option.isSome_map, Option.isSome_map,
    hkind] at hsymbol
  rw [hsymbol, Bool.or_eq_true, isSome_lookup]

/-! ### What a search for a token registers -/

lemma Hands.exists_find? {t : TokenRef} (h : s.Hands (.ok (some t)) s') :
    ∃ lexeme, s'.registry.find? lexeme = some t.symbol := by
  cases h with
  | token _ _ hintern => exact ⟨_, find?_of_intern hintern⟩

/-- A search leaves the store as it was, or it registers the word or numeral that it gives out. -/
lemma Leaves.cases_register {answer : Except Error (Option TokenRef)} (h : s.Leaves answer s') :
    (s' = s ∧ ∀ t, answer = .ok (some t) → ∃ lexeme, s.registry.find? lexeme = some t.symbol) ∨
      ∃ lexeme kind span, s.registry.find? lexeme = none ∧
        (kind = .identifier ∨ kind = .literal (Numeral.classify lexeme.toList)) ∧
        answer = .ok (some ⟨(s.register lexeme kind).1, span⟩) ∧
        s' = (s.register lexeme kind).2 := by
  cases h with
  | same hfound => exact Or.inl ⟨rfl, hfound⟩
  | @added lexeme kind span habsent hkind =>
    refine Or.inr ⟨lexeme, kind, span, habsent, hkind, rfl, ?_⟩
    rw [register, Registry.insert_of_absent habsent]

lemma Leaves.isSome_iff {answer : Except Error (Option TokenRef)} (h : s.Leaves answer s')
    (hkeyed : s.registry.Keyed) (other : String) :
    (s'.registry.find? other).isSome = true ↔
      (s.registry.find? other).isSome = true ∨ ∃ t, answer = .ok (some t) ∧
        t.symbol.symbol.kind.isOpen = true ∧ t.symbol.symbol.lexeme = other := by
  rcases h.cases_register with ⟨rfl, hfound⟩ | ⟨lexeme, kind, span, habsent, hkind, rfl, rfl⟩
  · rw [or_iff_left_of_imp]
    rintro ⟨t, hanswer, -, rfl⟩
    obtain ⟨lexeme, hfind⟩ := hfound t hanswer
    rw [hkeyed.lexeme_eq hfind, hfind]
    rfl
  · have hopen : kind.isOpen = true := by rcases hkind with rfl | rfl <;> rfl
    by_cases hother : other = lexeme
    · simp [register, hother, hopen, Registry.find?_insert_self habsent]
    · simp [register, Registry.find?_insert_of_ne habsent hother, Ne.symm hother]

end Store

/-! ### One object more -/

namespace Tables

variable {ts : Tables} {slot : Nat} {s s' : Store} {lexeme : String}

/-- A registry has one object more. It is new, it is found under its lexeme, and all else is found
as before. -/
structure Receives (ts : Tables) (slot : Nat) (x : SymbolRef) (ts' : Tables) : Prop where
  absent : ts.find? slot x.symbol.lexeme = none
  fresh : ∀ other lexeme y, ts.find? other lexeme = some y → y.address ≠ x.address
  find?_eq : ∀ other lexeme, ts'.find? other lexeme =
    if other = slot ∧ lexeme = x.symbol.lexeme then some x else ts.find? other lexeme
  length_eq : ts'.registries.length = ts.registries.length

/-- A registry has the vocabulary besides what was in it, and the others are as before. -/
structure Learns (ts : Tables) (slot : Nat) (ts' : Tables) : Prop where
  known : ∀ lexeme x, ts.find? slot lexeme = some x → ts'.find? slot lexeme = some x
  symbol : ∀ lexeme, (ts'.find? slot lexeme).map (·.symbol) =
    ((ts.find? slot lexeme).map (·.symbol)).or
      (((Vocabulary.reserved.kind? lexeme).or (Vocabulary.marks.kind? lexeme)).map
        fun kind => ⟨lexeme, kind⟩)
  others : ∀ other ≠ slot, ∀ lexeme, ts'.find? other lexeme = ts.find? other lexeme

lemma Sound.receives_register (h : ts.Sound) (hs : ts.store? slot = some s)
    (habsent : s.registry.find? lexeme = none) (kind : Kind) :
    ts.Receives slot (s.register lexeme kind).1 (ts.put slot (s.register lexeme kind).2) where
  absent := (find?_of_store? hs lexeme).trans habsent
  fresh other lexeme' y hy := by
    have hbelow := h.below hy
    rw [(store?_eq_some.1 hs).2] at hbelow
    exact Nat.ne_of_lt hbelow
  find?_eq other lexeme' := by
    rw [find?_put hs, Store.register]
    by_cases hslot : other = slot
    · by_cases hlexeme : lexeme' = lexeme
      · rw [if_pos hslot, if_pos ⟨hslot, hlexeme⟩, hlexeme, Registry.find?_insert_self habsent]
      · rw [if_pos hslot, if_neg fun h => hlexeme h.2, Registry.find?_insert_of_ne habsent hlexeme,
          hslot, find?_of_store? hs]
    · rw [if_neg hslot, if_neg fun h => hslot h.1]
  length_eq := length_put ts slot _

lemma learns_seed (hs : ts.store? slot = some s) (order : SeedOrder) :
    ts.Learns slot (ts.put slot (s.seed order)) where
  known lexeme x hx := (grows_put hs (s.grows_seed order)).find?_eq hx
  symbol lexeme := by
    rw [find?_put hs, if_pos rfl, find?_of_store? hs]
    exact s.symbol_seed order lexeme
  others other hne lexeme := by rw [find?_put hs, if_neg hne]

/-- A search for a token changes nothing, or its registry receives what is given out. -/
lemma Sound.put_cases (h : ts.Sound) (hs : ts.store? slot = some s)
    {answer : Except Error (Option TokenRef)} (hleaves : s.Leaves answer s') :
    (ts.put slot s' = ts ∧ ∀ t, answer = .ok (some t) →
        ts.find? slot t.symbol.symbol.lexeme = some t.symbol) ∨
      ∃ t, answer = .ok (some t) ∧ ts.Receives slot t.symbol (ts.put slot s') ∧
        (t.symbol.symbol.kind = .identifier ∨
          t.symbol.symbol.kind = .literal (Numeral.classify t.symbol.symbol.lexeme.toList)) := by
  rcases hleaves.cases_register with
    ⟨rfl, hfound⟩ | ⟨lexeme, kind, span, habsent, hkind, hanswer, rfl⟩
  · refine Or.inl ⟨put_self hs, ?_⟩
    intro t ht
    obtain ⟨lexeme, hfind⟩ := hfound t ht
    rw [find?_of_store? hs, (h.keyed_of_store? hs).lexeme_eq hfind, hfind]
  · exact Or.inr ⟨_, hanswer, h.receives_register hs habsent kind, hkind⟩

lemma Learns.of_add {ts' : Tables} (h : ts.add.Learns slot ts') : ts.Learns slot ts' where
  known lexeme x hx := h.known lexeme x (by rwa [find?_add])
  symbol lexeme := by rw [h.symbol, find?_add]
  others other hne lexeme := by rw [h.others other hne, find?_add]

lemma isSome_put (hs : ts.store? slot = some s) {p : Prop}
    (hstore : (s'.registry.find? lexeme).isSome = true ↔
      (s.registry.find? lexeme).isSome = true ∨ p) (other : Nat) :
    ((ts.put slot s').find? other lexeme).isSome = true ↔
      (ts.find? other lexeme).isSome = true ∨ other = slot ∧ p := by
  rw [find?_put hs]
  by_cases heq : other = slot
  · rw [if_pos heq, heq, find?_of_store? hs, hstore, and_iff_right rfl]
  · rw [if_neg heq, or_iff_left fun hp => heq hp.1]

end Tables

/-! ### Reports -/

section Reports

variable {slot other i : Nat} {lexeme lexeme' : String} {kind : Kind} {x : SymbolRef}
  {answer : Except Error (Option TokenRef)} {events : List Event}

lemma Report.mem_handed_symbol {found : Option SymbolRef} :
    (slot, x) ∈ (symbol other found).handed ↔ other = slot ∧ found = some x := by
  cases found <;> simp [handed, @eq_comm _ slot, @eq_comm _ x]

lemma Report.mem_handed_next :
    (slot, x) ∈ (next i other answer events).handed ↔
      other = slot ∧ ∃ t, answer = .ok (some t) ∧ t.symbol = x := by
  rcases answer with e | (_ | t) <;> simp [handed, @eq_comm _ slot, @eq_comm _ x]

namespace Action

lemma mem_map_fixed :
    (slot, lexeme) ∈ Vocabulary.fixed.map (fun word => (other, word.1)) ↔
      slot = other ∧ lexeme ∈ Vocabulary.fixed.map (·.1) := by
  simp [@eq_comm _ slot, and_comm]

lemma registers_noSuchSlot (action : Action) : action.registers .noSuchSlot = [] := by
  cases action <;> rfl

lemma mem_registers_intern {found : Option SymbolRef} :
    (slot, lexeme) ∈ (intern other lexeme' kind).registers (.symbol other found) ↔
      slot = other ∧ kind ≠ .bogus ∧ lexeme = lexeme' := by
  by_cases hkind : kind = .bogus <;> simp [registers, hkind]

lemma mem_registers_next :
    (slot, lexeme) ∈ (next i).registers (.next i other answer events) ↔
      slot = other ∧ ∃ t, answer = .ok (some t) ∧ t.symbol.symbol.kind.isOpen = true ∧
        t.symbol.symbol.lexeme = lexeme := by
  rcases answer with e | (_ | t)
  · simp [registers]
  · simp [registers]
  · by_cases hopen : t.symbol.symbol.kind.isOpen = true <;>
      simp [registers, hopen, @eq_comm _ lexeme]

end Action

end Reports

namespace Heap

variable {h h' : Heap} {action : Action} {report : Report} {slot : Nat}

/-! ### One action -/

/-- What an action hands out is under its own lexeme then. -/
theorem Effect.find?_of_handed (heffect : h.Effect action report h') (hsound : h.Sound)
    {x : SymbolRef} (hx : (slot, x) ∈ report.handed) :
    h'.tables.find? slot x.symbol.lexeme = some x := by
  have hsound' := (heffect.sound hsound).tables
  suffices hfind : ∃ lexeme, h'.tables.find? slot lexeme = some x by
    obtain ⟨lexeme, hfind⟩ := hfind
    rwa [hsound'.keyed hfind]
  cases heffect with
  | absent | newTable | newSeeded | seed | contains | size | failed | lexer | close => cases hx
  | @intern other s lexeme kind hs =>
    obtain ⟨rfl, hfound⟩ := Report.mem_handed_symbol.1 hx
    refine ⟨lexeme, ?_⟩
    rw [put, Tables.find?_put hs, if_pos rfl]
    exact Store.find?_of_intern (Prod.ext hfound rfl)
  | lookup lexeme hs =>
    obtain ⟨rfl, hfound⟩ := Report.mem_handed_symbol.1 hx
    exact ⟨lexeme, (Tables.find?_of_store? hs lexeme).trans hfound⟩
  | next hb hs =>
    obtain ⟨rfl, t, hanswer, rfl⟩ := Report.mem_handed_next.1 hx
    obtain ⟨l, -, hmirrors⟩ := hsound.mirrors hb hs
    obtain ⟨lexeme, hfind⟩ := (hanswer ▸ hmirrors.store).exists_find?
    refine ⟨lexeme, ?_⟩
    rw [setLexer, put, Tables.find?_put hs, if_pos rfl]
    exact hfind

/-- An action registers what it says, and nothing else. -/
theorem Effect.isSome_iff (heffect : h.Effect action report h') (hsound : h.Sound) (slot : Nat)
    (lexeme : String) :
    (h'.tables.find? slot lexeme).isSome = true ↔
      (h.tables.find? slot lexeme).isSome = true ∨
        (slot, lexeme) ∈ action.registers report := by
  cases heffect with
  | absent => simp [Action.registers_noSuchSlot]
  | lookup | contains | size | failed | lexer | close => simp [Action.registers, setLexer]
  | newTable => simp [Action.registers, Tables.find?_add]
  | newSeeded order hs =>
    rw [Action.registers, Action.mem_map_fixed, ← Tables.find?_add h.tables]
    exact Tables.isSome_put hs (Store.isSome_seed _ order lexeme) slot
  | seed order hs =>
    rw [Action.registers, Action.mem_map_fixed]
    exact Tables.isSome_put hs (Store.isSome_seed _ order lexeme) slot
  | intern other kind hs =>
    rw [Action.mem_registers_intern]
    exact Tables.isSome_put hs (Store.isSome_intern _ other lexeme kind) slot
  | @next i b s hb hs =>
    have hkeyed := hsound.tables.keyed_of_store? hs
    rw [Action.mem_registers_next]
    exact Tables.isSome_put hs
      ((Scene.leaves_turn ⟨b.machine, s, []⟩).isSome_iff hkeyed lexeme) slot

/-- Other actions do not make registries. -/
lemma Effect.length_eq (heffect : h.Effect action report h') (hmakes : action.makesTable = false) :
    h'.tables.registries.length = h.tables.registries.length := by
  cases heffect with
  | absent | lookup | contains | size | failed | lexer | close => rfl
  | newTable | newSeeded => cases hmakes
  | seed | intern | next => exact Tables.length_put _ _ _

lemma length_perform (h : Heap) (action : Action) :
    (h.perform action).2.tables.registries.length =
      h.tables.registries.length + if action.makesTable then 1 else 0 := by
  cases hmakes : action.makesTable with
  | false => exact (h.effect_perform action).length_eq hmakes
  | true =>
    cases action with
    | newTable => simp [perform, Tables.add]
    | newSeeded order =>
      rw [perform_newSeeded, Tables.length_put]
      simp [Tables.add]
    | _ => cases hmakes

/-! ### Runs -/

/-- What a run hands out is under its own lexeme after it. -/
theorem Sound.find?_of_handed (hsound : h.Sound) {actions : List Action} {x : SymbolRef}
    (hx : (slot, x) ∈ (h.run actions).1.flatMap Report.handed) :
    (h.run actions).2.tables.find? slot x.symbol.lexeme = some x := by
  induction actions generalizing h with
  | nil => cases hx
  | cons action actions ih =>
    have heffect := h.effect_perform action
    have hsound' := heffect.sound hsound
    rw [run_cons, List.flatMap_cons, List.mem_append] at hx
    rcases hx with hx | hx
    · exact (hsound'.grows_run actions).find?_eq (heffect.find?_of_handed hsound hx)
    · exact ih hsound' hx

/-- What is found after a run was found before it or registered by it. -/
theorem Sound.isSome_iff (hsound : h.Sound) (actions : List Action) (slot : Nat)
    (lexeme : String) :
    ((h.run actions).2.tables.find? slot lexeme).isSome = true ↔
      (h.tables.find? slot lexeme).isSome = true ∨
        (slot, lexeme) ∈ registered actions (h.run actions).1 := by
  induction actions generalizing h with
  | nil => simp [Heap.run, registered]
  | cons action actions ih =>
    have heffect := h.effect_perform action
    rw [run_cons, registered, List.zip_cons_cons, List.flatMap_cons, List.mem_append,
      ih (heffect.sound hsound), heffect.isSome_iff hsound, or_assoc, registered]

/-- At first there is nothing to find, so all that is found was registered. -/
lemma isSome_start (d : Directory) (actions : List Action) (slot : Nat) (lexeme : String) :
    (((start d).run actions).2.tables.find? slot lexeme).isSome = true ↔
      (slot, lexeme) ∈ registered actions ((start d).run actions).1 := by
  rw [(sound_start d).isSome_iff, or_iff_right (by simp [start, Tables.find?])]

lemma length_run (h : Heap) (actions : List Action) :
    (h.run actions).2.tables.registries.length =
      h.tables.registries.length + actions.countP Action.makesTable := by
  induction actions generalizing h with
  | nil => rfl
  | cons action actions ih =>
    rw [run_cons, ih, length_perform, List.countP_cons, Nat.add_assoc, Nat.add_comm (ite _ _ _)]

/-- The size of a registry is the number of lexemes that were registered in it. -/
theorem size_run (d : Directory) (actions : List Action) {r : Registry}
    (hr : ((start d).run actions).2.tables.registries[slot]? = some r) :
    r.size =
      ((registered actions ((start d).run actions).1).filter (·.1 == slot)).toFinset.card := by
  have hsound := (sound_start d).run actions
  have hnodup := hsound.tables.nodup r (List.mem_of_getElem? hr)
  have hkeys : ((r.entries.map (·.1)).map (Prod.mk slot)).toFinset =
      ((registered actions ((start d).run actions).1).filter (·.1 == slot)).toFinset := by
    ext ⟨other, lexeme⟩
    have hfind : ((start d).run actions).2.tables.find? slot lexeme = r.find? lexeme := by
      rw [Tables.find?, hr]
      rfl
    have hiff := isSome_start d actions slot lexeme
    rw [hfind, Registry.find?, isSome_lookup] at hiff
    rw [List.mem_toFinset, List.mem_toFinset, List.mem_map, List.mem_filter, beq_iff_eq]
    constructor
    · rintro ⟨_, hmem, hpair⟩
      obtain ⟨rfl, rfl⟩ := Prod.mk.inj hpair
      exact ⟨hiff.1 hmem, rfl⟩
    · rintro ⟨hmem, rfl⟩
      exact ⟨lexeme, hiff.2 hmem, rfl⟩
  have hpairs := hnodup.map (Prod.mk_right_injective slot)
  rw [← hkeys, List.toFinset_card_of_nodup hpairs, List.length_map, List.length_map, Registry.size]

/-! ### What the actions do -/

/-- What the actions do to the registries. -/
structure Lawful (h : Heap) : Prop where
  /-- A new registry is empty, and comes behind the others. -/
  newTable : ∃ ts, h.perform .newTable =
      (.table h.tables.registries.length, { h with tables := ts }) ∧
    ts.registries.length = h.tables.registries.length + 1 ∧
    (∀ slot lexeme, ts.find? slot lexeme = h.tables.find? slot lexeme) ∧
    ∀ lexeme, ts.find? h.tables.registries.length lexeme = none
  /-- A new registry can be made with the vocabulary, in whatever order. -/
  newSeeded : ∀ order, ∃ ts size, h.perform (.newSeeded order) =
      (.seeded h.tables.registries.length size, { h with tables := ts }) ∧
    ts.registries.length = h.tables.registries.length + 1 ∧
    h.tables.Learns h.tables.registries.length ts ∧
    Heap.perform { h with tables := ts } (.size h.tables.registries.length) =
      (.size size, { h with tables := ts })
  /-- Seeding finds what was there, and what the vocabulary says otherwise, in whatever order. Once
  more it changes nothing. -/
  seed : ∀ slot < h.tables.registries.length, ∀ order, ∃ ts size, h.perform (.seed slot order) =
      (.seeded slot size, { h with tables := ts }) ∧
    ts.registries.length = h.tables.registries.length ∧ h.tables.Learns slot ts ∧
    Heap.perform { h with tables := ts } (.size slot) = (.size size, { h with tables := ts }) ∧
    ∀ order', Heap.perform { h with tables := ts } (.seed slot order') =
      (.seeded slot size, { h with tables := ts })
  /-- A lexeme that is there gives its object, whatever kind is asked for, and changes nothing. -/
  intern_known : ∀ slot lexeme x, h.tables.find? slot lexeme = some x → ∀ kind,
    h.perform (.intern slot lexeme kind) = (.symbol slot (some x), h)
  /-- A lexeme that is not there gets a new object of the kind that is asked for. -/
  intern_new : ∀ slot < h.tables.registries.length, ∀ lexeme,
    h.tables.find? slot lexeme = none → ∀ kind : Kind, kind ≠ .bogus →
      ∃ x ts, x.symbol = ⟨lexeme, kind⟩ ∧ h.tables.Receives slot x ts ∧
        h.perform (.intern slot lexeme kind) = (.symbol slot (some x), { h with tables := ts })
  /-- Asking changes nothing, and finds an object if there is one. -/
  asks : ∀ slot < h.tables.registries.length, ∀ lexeme,
    h.perform (.lookup slot lexeme) = (.symbol slot (h.tables.find? slot lexeme), h) ∧
      h.perform (.intern slot lexeme .bogus) =
        (.symbol slot (h.tables.find? slot lexeme), h) ∧
      h.perform (.contains slot lexeme) =
        (.contains (h.tables.find? slot lexeme).isSome, h)
  /-- A search for a token finds its object, or it is a word or a numeral that gets a new one. -/
  next : ∀ i b, h.lexer? i = some b → ∃ answer events m ts,
    h.perform (.next i) = (.next i b.table answer events,
      { h with tables := ts, lexers := h.lexers.set i (some ⟨b.table, m⟩) }) ∧
    ((ts = h.tables ∧ ∀ t, answer = .ok (some t) →
        h.tables.find? b.table t.symbol.symbol.lexeme = some t.symbol) ∨
      ∃ t, answer = .ok (some t) ∧ h.tables.Receives b.table t.symbol ts ∧
        (t.symbol.symbol.kind = .identifier ∨
          t.symbol.symbol.kind = .literal (Numeral.classify t.symbol.symbol.lexeme.toList)))
  /-- A new lexer works on the registry that it was made for, if its text can be had. -/
  newLexer : ∀ slot < h.tables.registries.length, ∀ opening,
    (∃ m, h.perform (.newLexer slot opening) =
      (.lexer h.lexers.length, { h with lexers := h.lexers ++ [some ⟨slot, m⟩] })) ∨
    ∃ e, h.perform (.newLexer slot opening) =
      (.failed e, { h with lexers := h.lexers ++ [none] })
  close : ∀ i b, h.lexer? i = some b → ∃ events m, h.perform (.close i) =
    (.closed i events, { h with lexers := h.lexers.set i (some ⟨b.table, m⟩) })

/-- On sound registries all actions do so. -/
theorem Sound.lawful (hsound : h.Sound) : h.Lawful where
  newTable := by
    refine ⟨h.tables.add, rfl, by simp [Tables.add], h.tables.find?_add, ?_⟩
    intro lexeme
    rw [Tables.find?_add, Tables.find?, List.getElem?_eq_none (Nat.le_refl _)]
    rfl
  newSeeded order := by
    have hs := h.tables.store?_add
    refine ⟨_, _, h.perform_newSeeded order, ?_, ?_, ?_⟩
    · rw [Tables.length_put]
      simp [Tables.add]
    · exact (Tables.learns_seed hs order).of_add
    · exact perform_size (Tables.store?_put hs _)
  seed slot hlt order := by
    obtain ⟨s, hs⟩ := Tables.exists_store?_of_lt hlt
    have hs' := Tables.store?_put hs (s.seed order)
    refine ⟨_, _, perform_seed hs order, Tables.length_put _ _ _, Tables.learns_seed hs order,
      perform_size hs', ?_⟩
    intro order'
    rw [perform_seed hs', Store.seed_seed, put_self hs']
  intern_known slot lexeme x hx kind := by
    obtain ⟨s, hs, hx⟩ := Tables.exists_store?_of_find? hx
    rw [perform_intern hs, Store.intern_of_found hx, put_self hs]
  intern_new slot hlt lexeme habsent kind hkind := by
    obtain ⟨s, hs⟩ := Tables.exists_store?_of_lt hlt
    rw [Tables.find?_of_store? hs] at habsent
    refine ⟨_, _, rfl, hsound.tables.receives_register hs habsent kind, ?_⟩
    rw [perform_intern hs, Store.intern_of_absent habsent hkind, put]
  asks slot hlt lexeme := by
    obtain ⟨s, hs⟩ := Tables.exists_store?_of_lt hlt
    rw [Tables.find?_of_store? hs]
    refine ⟨intern_bogus hs lexeme, intern_bogus hs lexeme, ?_⟩
    rw [perform, withStore_of_some hs, Registry.contains]
  next i b hb := by
    obtain ⟨s, hs⟩ := hsound.exists_store hb
    have hleaves : s.Leaves (turnOf b s).answer (turnOf b s).scene.store :=
      Scene.leaves_turn ⟨b.machine, s, []⟩
    exact ⟨_, _, _, _, perform_next hb hs, hsound.tables.put_cases hs hleaves⟩
  newLexer slot hlt opening := by
    obtain ⟨s, hs⟩ := Tables.exists_store?_of_lt hlt
    rw [perform, withStore_of_some hs]
    cases (opening.readIn h.directory).bind Machine.new with
    | ok m    => exact Or.inl ⟨m, rfl⟩
    | error e => exact Or.inr ⟨e, rfl⟩
  close i b hb := by
    obtain ⟨s, hs⟩ := hsound.exists_store hb
    refine ⟨b.machine.closing, b.machine.close, ?_⟩
    rw [perform, withLexer_of_some hb hs]
    rfl

/-- What the registries are like after actions with these reports. -/
structure Interns (actions : List Action) (reports : List Report) (h : Heap) : Prop where
  /-- There is a registry for each action that makes one. -/
  length : h.tables.registries.length = actions.countP Action.makesTable
  /-- Every object is under its own lexeme, and none is of the kind of nothing. -/
  keyed : ∀ r ∈ h.tables.registries, ∀ entry ∈ r.entries,
    entry.2.symbol.lexeme = entry.1 ∧ entry.2.symbol.kind ≠ .bogus
  /-- Objects in different places are different. -/
  apart : ∀ slot slot' lexeme lexeme' x y, h.tables.find? slot lexeme = some x →
    h.tables.find? slot' lexeme' = some y → x.address = y.address →
      slot = slot' ∧ lexeme = lexeme'
  /-- An object stays under its lexeme, whatever is done later. -/
  stays : ∀ (more : List Action) (slot : Nat) (lexeme : String) (x : SymbolRef),
    h.tables.find? slot lexeme = some x →
      (h.run more).2.tables.find? slot lexeme = some x
  /-- The objects that were handed out are the same for a lexeme in a registry, and for nothing
  else. -/
  same : ∀ a ∈ reports.flatMap Report.handed, ∀ b ∈ reports.flatMap Report.handed,
    (a.2.address = b.2.address ↔ a.1 = b.1 ∧ a.2.symbol.lexeme = b.2.symbol.lexeme) ∧
      (a.2.address = b.2.address → a.2 = b.2)
  /-- There is an object for every lexeme that was registered, and for no other. -/
  found : ∀ slot lexeme, (h.tables.find? slot lexeme).isSome = true ↔
    (slot, lexeme) ∈ registered actions reports
  /-- The size of a registry is the number of lexemes that were registered in it. -/
  size : ∀ slot < h.tables.registries.length, h.perform (.size slot) =
    (.size ((registered actions reports).filter (·.1 == slot)).toFinset.card, h)
  /-- What can be done next is done lawfully. -/
  lawful : h.Lawful

/-- After every run the registries are as `Interns` says. -/
theorem interns_of_run (d : Directory) (actions : List Action) :
    Interns actions ((start d).run actions).1 ((start d).run actions).2 := by
  have hsound := (sound_start d).run actions
  constructor
  case length => rw [length_run, start, List.length_nil, Nat.zero_add]
  case keyed =>
    intro r hr entry hentry
    obtain ⟨slot, hslot⟩ := List.mem_iff_getElem?.1 hr
    have hfind := hsound.tables.find?_of_mem hslot hentry
    exact ⟨hsound.tables.keyed hfind, hsound.tables.kind hfind⟩
  case apart =>
    intro slot slot' lexeme lexeme' x y hx hy
    exact hsound.tables.apart hx hy
  case stays =>
    intro more slot lexeme x hx
    exact (hsound.grows_run more).find?_eq hx
  case same =>
    rintro ⟨slot, x⟩ hx ⟨slot', y⟩ hy
    have hfind := (sound_start d).find?_of_handed hx
    have hfind' := (sound_start d).find?_of_handed hy
    have heq : slot = slot' ∧ x.symbol.lexeme = y.symbol.lexeme → x = y := by
      rintro ⟨rfl, hlexeme⟩
      rw [hlexeme, hfind'] at hfind
      exact (Option.some.inj hfind).symm
    have hplace := hsound.tables.apart hfind hfind'
    exact ⟨⟨hplace, fun h => congrArg _ (heq h)⟩, fun h => heq (hplace h)⟩
  case found => exact isSome_start d actions
  case size =>
    intro slot hlt
    obtain ⟨s, hs⟩ := Tables.exists_store?_of_lt hlt
    rw [perform_size hs, size_run d actions (Tables.store?_eq_some.1 hs).1]
  case lawful => exact hsound.lawful

/-- A lexeme has its own object in each registry, though lexers go over the same text on both. -/
theorem interns_of_run_shared :
    let actions : List Action :=
      [.newSeeded .listed, .newTable, .intern 1 "x" .comment, .newLexer 0 (.text "x 1" none),
        .newLexer 1 (.text "x 1" none), .next 0, .next 1, .next 0, .next 1,
        .intern 0 "x" .identifier, .lookup 1 "if", .seed 1 .listed, .lookup 1 "if"]
    let run := (start {}).run actions
    Interns actions run.1 run.2 ∧
      run.1.flatMap Report.handed =
        [(1, ⟨30, "x", .comment⟩), (0, ⟨31, "x", .identifier⟩), (1, ⟨30, "x", .comment⟩),
          (0, ⟨32, "1", .literal .integer⟩), (1, ⟨33, "1", .literal .integer⟩),
          (0, ⟨31, "x", .identifier⟩), (1, ⟨39, "if", .keyword .ifWord⟩)] ∧
      run.2.tables.registries.map Registry.size = [32, 32] := by
  intro actions run
  refine ⟨interns_of_run {} actions, ?_⟩
  decide +kernel

end Heap

end Lexis
