import Mathlib.Data.List.Forall2
import Mathlib.Data.List.Nodup
import Lexis.Proofs.Interning
import Lexis.Proofs.Session

/-!
# Sessions show heaps

A session keeps symbol tables and lexers where a heap keeps registries and machines. It does the
same command by command (`Session.Shows.perform`), and so in a run (`Session.Shows.performAll`): the
tables are the registries without their addresses, the machines track the lexers, and a reply is a
report in which each object has a number in place of its address.

A session tells symbols apart by their places in the tables. These belong to the addresses
(`Tables.Sound.at_iff`), so an object has the number of another one if and only if it has its
address (`SymbolRef.number_eq_iff`).
-/

namespace Lexis

/-! ### Places of objects -/

/-- The symbol of a lexeme has the place in the table that its object has in the registry. -/
lemma Registry.getElem?_index {r : Registry} {lexeme : String} {x : SymbolRef} (h : r.Keyed)
    (hx : r.find? lexeme = some x) : r.entries[r.erase.index lexeme]? = some (lexeme, x) := by
  obtain ⟨entries⟩ := r
  induction entries with
  | nil => cases hx
  | cons entry entries ih =>
    obtain ⟨key, y⟩ := entry
    obtain ⟨hkey, hkeys⟩ := List.forall_mem_cons.1 h
    simp only [find?, erase, SymbolTable.index, List.map_cons, List.findIdx_cons,
      List.lookup_cons] at hx hkey ih ⊢
    by_cases heq : key = lexeme
    · have hbeq : (lexeme == key) = true := by simpa using heq.symm
      have hbeq' : (y.symbol.lexeme == lexeme) = true := by simpa [hkey] using heq
      rw [hbeq] at hx
      rw [hbeq']
      simpa [heq] using hx
    · have hbeq : (lexeme == key) = false := by simpa using Ne.symm heq
      have hbeq' : (y.symbol.lexeme == lexeme) = false := by simpa [hkey] using heq
      rw [hbeq] at hx
      rw [hbeq']
      exact ih hkeys hx

namespace Tables

variable {ts ts' : Tables} {slot : Nat} {s : Store} {r : Registry} {lexeme : String} {x : SymbolRef}

/-- An object of the given address is at a place. -/
def At (ts : Tables) (place : Identity) (address : Nat) : Prop :=
  ∃ r entry, ts.registries[place.table]? = some r ∧ r.entries[place.index]? = some entry ∧
    entry.2.address = address

/-- A registry only ever grows at its end. -/
lemma Step.exists_isPrefix (h : ts.Step ts') (hr : ts.registries[slot]? = some r) :
    ∃ r', ts'.registries[slot]? = some r' ∧ r.entries <+: r'.entries := by
  obtain ⟨hlt, -⟩ := List.getElem?_eq_some_iff.1 hr
  cases h with
  | add =>
    exact ⟨r, (List.getElem?_append_left hlt).trans hr, List.prefix_rfl⟩
  | @make other s s' hs hstep =>
    rw [put, List.getElem?_set]
    by_cases heq : other = slot
    · obtain rfl : s.registry = r := by
        rw [heq] at hs
        exact Option.some.inj ((store?_eq_some.1 hs).1.symm.trans hr)
      rw [if_pos heq, heq, if_pos hlt]
      refine ⟨_, rfl, ?_⟩
      cases hstep with
      | register habsent _ =>
        rw [Store.register, Registry.insert_of_absent habsent]
        exact List.prefix_append _ _
    · rw [if_neg heq]
      exact ⟨r, hr, List.prefix_rfl⟩

lemma Step.at (h : ts.Step ts') {place : Identity} {address : Nat} (hat : ts.At place address) :
    ts'.At place address := by
  obtain ⟨r, entry, hr, hentry, haddress⟩ := hat
  obtain ⟨r', hr', tail, htail⟩ := h.exists_isPrefix hr
  obtain ⟨hlt, -⟩ := List.getElem?_eq_some_iff.1 hentry
  refine ⟨r', entry, hr', ?_, haddress⟩
  rw [← htail, List.getElem?_append_left hlt, hentry]

/-- An object stays at its place. -/
theorem Grows.at (h : ts.Grows ts') {place : Identity} {address : Nat}
    (hat : ts.At place address) : ts'.At place address := by
  induction h with
  | refl              => exact hat
  | tail _ hstep ih => exact hstep.at ih

/-- Places and addresses belong together. -/
theorem Sound.at_iff (h : ts.Sound) {place place' : Identity} {address address' : Nat}
    (hat : ts.At place address) (hat' : ts.At place' address') :
    place = place' ↔ address = address' := by
  obtain ⟨r, entry, hr, hentry, rfl⟩ := hat
  obtain ⟨r', entry', hr', hentry', rfl⟩ := hat'
  constructor
  · rintro rfl
    obtain rfl := Option.some.inj (hr.symm.trans hr')
    obtain rfl := Option.some.inj (hentry.symm.trans hentry')
    rfl
  · intro haddress
    have hfind := h.find?_of_mem hr (List.mem_of_getElem? hentry)
    have hfind' := h.find?_of_mem hr' (List.mem_of_getElem? hentry')
    obtain ⟨htable, hkey⟩ := h.apart hfind hfind' haddress
    rw [htable] at hr
    obtain rfl := Option.some.inj (hr.symm.trans hr')
    have hnodup := h.nodup r (List.mem_of_getElem? hr)
    obtain ⟨hlt, -⟩ := List.getElem?_eq_some_iff.1 hentry
    have hindex : place.index = place'.index := by
      refine (List.getElem?_inj (by simpa using hlt) hnodup).1 ?_
      rw [List.getElem?_map, List.getElem?_map, hentry, hentry', Option.map_some, Option.map_some,
        hkey]
    cases place
    cases place'
    simp_all

/-- An object that is found is at the place of its symbol. -/
lemma at_of_find? (hs : ts.store? slot = some s) (hkeyed : s.registry.Keyed)
    (hx : s.registry.find? lexeme = some x) :
    ts.At ⟨slot, s.registry.erase.index lexeme⟩ x.address :=
  ⟨_, _, (store?_eq_some.1 hs).1, Registry.getElem?_index hkeyed hx, rfl⟩

end Tables

/-! ### What is shown -/

/-- The number of an object among those shown so far, and those shown then. -/
def SymbolRef.number (x : SymbolRef) (shown : List Nat) : Nat × List Nat :=
  let place := shown.findIdx (· == x.address)
  (place, if place < shown.length then shown else shown ++ [x.address])

namespace SymbolRef

variable {shown shown' : List Nat} {x y : SymbolRef}

lemma isPrefix_number (x : SymbolRef) (shown : List Nat) : shown <+: (x.number shown).2 := by
  rw [number]
  dsimp only
  split
  · exact List.prefix_rfl
  · exact List.prefix_append _ _

lemma getElem?_number (x : SymbolRef) (shown : List Nat) :
    (x.number shown).2[(x.number shown).1]? = some x.address := by
  rw [number]
  dsimp only
  split
  · next hlt =>
    have hfound := List.findIdx_getElem (w := hlt)
    rw [List.getElem?_eq_getElem hlt, eq_of_beq hfound]
  · next hle =>
    have hlength := Nat.le_antisymm List.findIdx_le_length (Nat.le_of_not_lt hle)
    rw [hlength, List.getElem?_concat_length]

lemma nodup_number (x : SymbolRef) (h : shown.Nodup) : (x.number shown).2.Nodup := by
  rw [number]
  dsimp only
  split
  · exact h
  · next hle =>
    have habsent : x.address ∉ shown := by simpa [List.findIdx_lt_length] using hle
    exact h.append (List.nodup_singleton _) (List.disjoint_singleton.2 habsent)

/-- Once an object was shown, its number is that of the objects with its address. -/
theorem number_eq_iff (hnodup : shown'.Nodup) (h : (x.number shown).2 <+: shown') :
    (y.number shown').1 = (x.number shown).1 ↔ y.address = x.address := by
  obtain ⟨hlt, hx⟩ := List.getElem?_eq_some_iff.1 (x.getElem?_number shown)
  have hget := List.prefix_iff_getElem?.1 h _ hlt
  rw [hx] at hget
  obtain ⟨hlt', hx'⟩ := List.getElem?_eq_some_iff.1 hget
  constructor
  · intro heq
    have hy := y.getElem?_number shown'
    rw [heq, List.prefix_iff_getElem?.1 (y.isPrefix_number shown') _ hlt', hx'] at hy
    exact (Option.some.inj hy).symm
  · intro heq
    have hindex := hnodup.idxOf_getElem _ hlt'
    rwa [hx', ← heq] at hindex

end SymbolRef

/-- A lexer is kept as a machine that follows it, on the same table. -/
inductive Alike : Option (Option BoundLexer) → Option (Option BoundMachine) → Prop where
  | outside : Alike none none
  | empty : Alike (some none) (some none)
  | taken {table : Nat} {l : Lexer} {m : Machine} (h : m.Tracks l) :
      Alike (some (some ⟨table, l⟩)) (some (some ⟨table, m⟩))

/-- A session has what a heap has, and has shown the objects of these addresses. -/
structure Session.Shows (s : Session) (h : Heap) (shown : List Nat) : Prop where
  directory : s.directory = h.directory
  tables : s.tables = h.tables.registries.map Registry.erase
  slots : s.lexers.length = h.lexers.length
  lexers : ∀ i : Nat, Alike s.lexers[i]? h.lexers[i]?
  nodup : shown.Nodup
  shown : List.Forall₂ h.tables.At s.shown shown

/-- The size of a registry and the state of a machine on it, as far as they are shown. -/
inductive Heap.HasStatus (h : Heap) (i : Nat) : Status → Prop where
  | intro {b : BoundMachine} {r : Registry} (hb : h.lexer? i = some b)
      (hr : h.tables.registries[b.table]? = some r) : HasStatus h i ⟨b.machine.ended, r.size⟩

/-- A report as a session gives it: objects have numbers in place of addresses. -/
inductive Heap.ShownAs (h : Heap) (shown : List Nat) : Report → Reply → List Nat → Prop where
  | noSuchSlot : ShownAs h shown .noSuchSlot .noSuchSlot shown
  | table (slot : Nat) : ShownAs h shown (.table slot) (.table slot) shown
  | newSeeded (slot size : Nat) : ShownAs h shown (.seeded slot size) (.table slot) shown
  | seeded (slot size : Nat) : ShownAs h shown (.seeded slot size) (.seeded size) shown
  | missing {slot : Nat} {r : Registry} (hr : h.tables.registries[slot]? = some r) :
      ShownAs h shown (.symbol slot none) (.symbol none r.size) shown
  | symbol {slot : Nat} {r : Registry} (x : SymbolRef)
      (hr : h.tables.registries[slot]? = some r) :
      ShownAs h shown (.symbol slot (some x))
        (.symbol (some ⟨(x.number shown).1, x.symbol⟩) r.size) (x.number shown).2
  | contains (answer : Bool) : ShownAs h shown (.contains answer) (.contains answer) shown
  | size (n : Nat) : ShownAs h shown (.size n) (.size n) shown
  | failed (e : Error) : ShownAs h shown (.failed e) (.failed e) shown
  | lexer {i : Nat} {status : Status} (hstatus : h.HasStatus i status) :
      ShownAs h shown (.lexer i) (.lexer i status) shown
  | error {i : Nat} {status : Status} (table : Nat) (e : Error) (events : List Event)
      (hstatus : h.HasStatus i status) :
      ShownAs h shown (.next i table (.error e) events) (.next (.error e) status) shown
  | ending {i : Nat} {status : Status} (table : Nat) (events : List Event)
      (hstatus : h.HasStatus i status) :
      ShownAs h shown (.next i table (.ok none) events) (.next (.ok none) status) shown
  | token {i : Nat} {status : Status} (table : Nat) (t : TokenRef) (events : List Event)
      (hstatus : h.HasStatus i status) :
      ShownAs h shown (.next i table (.ok (some t)) events)
        (.next (.ok (some ⟨(t.symbol.number shown).1, t.token⟩)) status)
        (t.symbol.number shown).2
  | closed {i : Nat} {status : Status} (events : List Event) (hstatus : h.HasStatus i status) :
      ShownAs h shown (.closed i events) (.closed status) shown

/-- The reports of actions as a session gives them, one after the other. -/
inductive Heap.ShownAll : Heap → List Nat → List Action → List Reply → Prop where
  | nil {h : Heap} {shown : List Nat} : ShownAll h shown [] []
  | cons {h : Heap} {shown shown' : List Nat} {action : Action} {reply : Reply}
      {actions : List Action} {replies : List Reply}
      (hfirst : (h.perform action).2.ShownAs shown (h.perform action).1 reply shown')
      (hrest : ShownAll (h.perform action).2 shown' actions replies) :
      ShownAll h shown (action :: actions) (reply :: replies)

/-- A session answers what a heap reports, and has what the heap has then. -/
def Session.Answers (result : Reply × Session) (h : Heap) (shown : List Nat) (report : Report) :
    Prop :=
  ∃ shown', h.ShownAs shown report result.1 shown' ∧ result.2.Shows h shown'

namespace Session

variable {s : Session} {h : Heap} {shown : List Nat} {slot : Nat} {store store' : Store}

lemma findIdx_shown {ts : Tables} (hsound : ts.Sound) {places : List Identity}
    (hshown : List.Forall₂ ts.At places shown) {place : Identity} {address : Nat}
    (hat : ts.At place address) :
    places.findIdx (· == place) = shown.findIdx (· == address) := by
  induction hshown with
  | nil => rfl
  | @cons place' address' places addresses hat' _ ih =>
    have hbeq : (place' == place) = (address' == address) := by
      rw [Bool.eq_iff_iff, beq_iff_eq, beq_iff_eq]
      exact hsound.at_iff hat' hat
    rw [List.findIdx_cons, List.findIdx_cons, hbeq, ih]

/-- A symbol has the number of its object. -/
lemma Shows.number (hshows : s.Shows h shown) (hsound : h.tables.Sound)
    (hs : h.tables.store? slot = some store) {lexeme : String} {x : SymbolRef}
    (hx : store.registry.find? lexeme = some x) :
    (s.number slot store.registry.erase x.symbol).1 = (x.number shown).1 ∧
      (s.number slot store.registry.erase x.symbol).2.Shows h (x.number shown).2 := by
  have hkeyed := hsound.keyed_of_store? hs
  have hat := Tables.at_of_find? hs hkeyed hx
  -- the symbol has the place among the symbols shown that its object has among the addresses
  have hplace := findIdx_shown hsound hshows.shown hat
  have hlength := hshows.shown.length_eq
  have hnodup := x.nodup_number hshows.nodup
  rw [SymbolRef.number] at hnodup ⊢
  rw [Session.number, hkeyed.lexeme_eq hx, hplace, hlength]
  refine ⟨rfl, ?_⟩
  dsimp only at hnodup ⊢
  by_cases hlt : shown.findIdx (· == x.address) < shown.length
  · rw [if_pos hlt, if_pos hlt]
    exact hshows
  · rw [if_neg hlt] at hnodup
    rw [if_neg hlt, if_neg hlt]
    exact ⟨hshows.directory, hshows.tables, hshows.slots, hshows.lexers, hnodup,
      List.rel_append hshows.shown (.cons hat .nil)⟩

/-! ### Slots -/

lemma Shows.table (hshows : s.Shows h shown) (slot : Nat) :
    s.tables[slot]? = (h.tables.store? slot).map (·.registry.erase) := by
  rw [hshows.tables, List.getElem?_map, Tables.store?, Option.map_map]
  rfl

lemma size_erase (r : Registry) : r.erase.size = r.size := by
  simp [Registry.erase, SymbolTable.size, Registry.size]

lemma hasStatus_of_tracks {i table : Nat} {l : Lexer} {m : Machine}
    (hb : h.lexer? i = some ⟨table, m⟩) (hs : h.tables.store? table = some store)
    (htracks : m.Tracks l) : h.HasStatus i ⟨l.ended, store.registry.erase.size⟩ := by
  rw [← htracks.ended_eq, size_erase]
  exact .intro hb (Tables.store?_eq_some.1 hs).1

/-- What is done with a table is done with its registry. -/
lemma Shows.withTable (hshows : s.Shows h shown) {use : SymbolTable → Reply × Session}
    {use' : Store → Report × Heap}
    (huse : ∀ store, h.tables.store? slot = some store →
      Answers (use store.registry.erase) (use' store).2 shown (use' store).1) :
    Answers (s.withTable slot use) (h.withStore slot use').2 shown (h.withStore slot use').1 := by
  have htable := hshows.table slot
  cases hs : h.tables.store? slot with
  | some store =>
    rw [hs] at htable
    rw [withTable_of_some htable, Heap.withStore_of_some hs]
    exact huse store hs
  | none =>
    rw [hs] at htable
    rw [Session.withTable, htable, Heap.withStore, hs]
    exact ⟨shown, .noSuchSlot, hshows⟩

/-- What is done with a lexer is done with its machine. -/
lemma Shows.withLexer {i : Nat} (hshows : s.Shows h shown)
    {use : BoundLexer → SymbolTable → Reply × Session}
    {use' : BoundMachine → Store → Report × Heap}
    (huse : ∀ table l m store, s.lexers[i]? = some (some ⟨table, l⟩) →
      h.lexer? i = some ⟨table, m⟩ → m.Tracks l → h.tables.store? table = some store →
      Answers (use ⟨table, l⟩ store.registry.erase) (use' ⟨table, m⟩ store).2 shown
        (use' ⟨table, m⟩ store).1) :
    Answers (s.withLexer i use) (h.withLexer i use').2 shown (h.withLexer i use').1 := by
  rw [Session.withLexer, Heap.withLexer, Heap.lexer?]
  have halike := hshows.lexers i
  generalize hl : s.lexers[i]? = l? at halike
  generalize hm : h.lexers[i]? = m? at halike
  cases halike with
  | outside => exact ⟨shown, .noSuchSlot, hshows⟩
  | empty   => exact ⟨shown, .noSuchSlot, hshows⟩
  | @taken table l m htracks =>
    have hlexer : h.lexer? i = some ⟨table, m⟩ := Heap.lexer?_eq_some.2 hm
    exact hshows.withTable fun store hs => huse table l m store hl hlexer htracks hs

lemma Shows.put (hshows : s.Shows h shown) (hs : h.tables.store? slot = some store)
    (hgrows : store.Grows store') :
    (s.setTable slot store'.registry.erase).Shows (h.put slot store') shown where
  directory := hshows.directory
  tables := by rw [setTable, hshows.tables, Heap.put, Tables.put, List.map_set]
  slots := hshows.slots
  lexers := hshows.lexers
  shown := hshows.shown.imp fun _ _ hat => (Tables.grows_put hs hgrows).at hat
  nodup := hshows.nodup

lemma Shows.addTable (hshows : s.Shows h shown) :
    { s with tables := s.tables ++ [SymbolTable.empty] }.Shows { h with tables := h.tables.add }
      shown where
  directory := hshows.directory
  tables := by rw [hshows.tables, Tables.add, List.map_append]; rfl
  slots := hshows.slots
  lexers := hshows.lexers
  shown := hshows.shown.imp fun _ _ hat => Tables.Step.add.at hat
  nodup := hshows.nodup

lemma Shows.setLexer {i table : Nat} {l : Lexer} {m m' : Machine} (hshows : s.Shows h shown)
    (hb : h.lexer? i = some ⟨table, m⟩) (htracks : m'.Tracks l) :
    (s.setLexer i ⟨table, l⟩).Shows (h.setLexer i ⟨table, m'⟩) shown where
  directory := hshows.directory
  tables := hshows.tables
  slots := by simpa [Session.setLexer, Heap.setLexer] using hshows.slots
  lexers := by
    intro j
    obtain ⟨hlt, -⟩ := List.getElem?_eq_some_iff.1 (Heap.lexer?_eq_some.1 hb)
    rw [Session.setLexer, Heap.setLexer, List.getElem?_set, List.getElem?_set, hshows.slots]
    by_cases heq : i = j
    · rw [if_pos heq, if_pos heq, if_pos hlt, if_pos hlt]
      exact .taken htracks
    · rw [if_neg heq, if_neg heq]
      exact hshows.lexers j
  shown := hshows.shown
  nodup := hshows.nodup

lemma Shows.setReader (hshows : s.Shows h shown) (reader : Nat) (r? : Option Reader) :
    (s.setReader reader r?).Shows h shown :=
  ⟨hshows.directory, hshows.tables, hshows.slots, hshows.lexers, hshows.nodup, hshows.shown⟩

/-! ### New lexers -/

/-- A lexer is made where a machine is. -/
lemma bind_new_cases (r? : Except Error Reader) :
    (∃ m l, r?.bind Machine.new = .ok m ∧ r?.bind Lexer.ofReader = .ok l ∧ m.Tracks l) ∨
      ∃ e, r?.bind Machine.new = .error e ∧ r?.bind Lexer.ofReader = .error e := by
  cases r? with
  | error e => exact Or.inr ⟨e, rfl, rfl⟩
  | ok r =>
    rcases Machine.new_cases r with hnew | hnew
    · exact Or.inl hnew
    · exact Or.inr ⟨_, hnew⟩

lemma alike_append {b? : Option BoundLexer} {c? : Option BoundMachine}
    (hshows : s.Shows h shown) (halike : Alike (some b?) (some c?)) (i : Nat) :
    Alike (s.lexers ++ [b?])[i]? (h.lexers ++ [c?])[i]? := by
  rw [List.getElem?_append, List.getElem?_append, hshows.slots]
  by_cases hlt : i < h.lexers.length
  · rw [if_pos hlt, if_pos hlt]
    exact hshows.lexers i
  · rw [if_neg hlt, if_neg hlt]
    cases hindex : i - h.lexers.length with
    | zero   => exact halike
    | succ _ => exact .outside

lemma Shows.appendLexer {b? : Option BoundLexer} {c? : Option BoundMachine}
    (hshows : s.Shows h shown) (halike : Alike (some b?) (some c?)) :
    { s with lexers := s.lexers ++ [b?] }.Shows { h with lexers := h.lexers ++ [c?] } shown where
  directory := hshows.directory
  tables := hshows.tables
  slots := by rw [List.length_append, List.length_append, hshows.slots]; rfl
  lexers := alike_append hshows halike
  shown := hshows.shown
  nodup := hshows.nodup

/-- A lexer is put on a table as a machine is put on a registry. -/
lemma Shows.newLexer {s' : Session} (hshows : s.Shows h shown) (hshows' : s'.Shows h shown)
    (opening : Opening) {use : SymbolTable → Reply × Session}
    (huse : ∀ t, use t =
      s'.addLexer slot t ((opening.readIn h.directory).bind Lexer.ofReader)) :
    Answers (s.withTable slot use) (h.perform (.newLexer slot opening)).2 shown
      (h.perform (.newLexer slot opening)).1 := by
  rw [Heap.perform]
  refine hshows.withTable fun store hs => ?_
  rw [huse]
  rcases bind_new_cases (opening.readIn h.directory) with ⟨m, l, hm, hl, htracks⟩ | ⟨e, he, he'⟩
  · have hlast : { h with lexers := h.lexers ++ [some (BoundMachine.mk slot m)] }.lexer?
        h.lexers.length = some ⟨slot, m⟩ := by rw [Heap.lexer?_append, if_pos rfl]
    rw [hm, hl, Session.addLexer, hshows'.slots]
    exact ⟨shown, .lexer (hasStatus_of_tracks hlast hs htracks),
      hshows'.appendLexer (.taken htracks)⟩
  · rw [he, he']
    exact ⟨shown, .failed e, hshows'.appendLexer .empty⟩

/-! ### Answers -/

/-- The answer to a request for a symbol. -/
lemma Shows.reportSymbol (hshows : s.Shows h shown) (hsound : h.tables.Sound)
    (hs : h.tables.store? slot = some store) {found : Option SymbolRef}
    (hfound : ∀ x ∈ found, ∃ lexeme, store.registry.find? lexeme = some x) :
    Answers (s.reportSymbol slot store.registry.erase (found.map (·.symbol))) h shown
      (.symbol slot found) := by
  have hr := (Tables.store?_eq_some.1 hs).1
  cases found with
  | none =>
    rw [Option.map_none, Session.reportSymbol, size_erase]
    exact ⟨shown, .missing hr, hshows⟩
  | some x =>
    obtain ⟨lexeme, hx⟩ := hfound x rfl
    obtain ⟨hnumber, hshows'⟩ := hshows.number hsound hs hx
    have hreply : h.ShownAs shown (.symbol slot (some x)) _ _ := .symbol x hr
    rw [← hnumber, ← size_erase] at hreply
    exact ⟨_, hreply, hshows'⟩

/-- The answer of a lexer. -/
lemma Shows.reportStep {i : Nat} {before : Store} {answer : Except Error (Option TokenRef)}
    {events : List Event} {step : Step} (hshows : s.Shows h shown) (hsound : h.tables.Sound)
    (hs : h.tables.store? slot = some store) (hhands : before.Hands answer store)
    (hanswer : answer.map (·.map TokenRef.token) = step.answer)
    (htable : store.registry.erase = step.table)
    (hstatus : h.HasStatus i ⟨step.lexer.ended, step.table.size⟩) :
    Answers (s.reportStep slot step) h shown (.next i slot answer events) := by
  rcases answer with e | (_ | t)
  · rw [Session.reportStep, ← hanswer]
    exact ⟨shown, .error slot e events hstatus, hshows⟩
  · rw [Session.reportStep, ← hanswer]
    exact ⟨shown, .ending slot events hstatus, hshows⟩
  · obtain ⟨lexeme, hx⟩ := hhands.exists_find?
    obtain ⟨hnumber, hshows'⟩ := hshows.number hsound hs hx
    have hreply : h.ShownAs shown (.next i slot (.ok (some t)) events) _ _ :=
      .token slot t events hstatus
    rw [← hnumber, ← htable] at hreply
    rw [Session.reportStep, ← hanswer, ← htable]
    exact ⟨_, hreply, hshows'⟩

/-! ### Commands -/

/-- A command that is one action on tables and lexers, and that action. -/
inductive Matches (s : Session) : Command → Action → Prop where
  | newTable : Matches s .newTable .newTable
  | newSeeded : Matches s .newSeeded (.newSeeded .listed)
  | seed (slot : Nat) : Matches s (.seed slot) (.seed slot .listed)
  | intern (slot : Nat) (lexeme : String) (kind : Kind) :
      Matches s (.intern slot lexeme kind) (.intern slot lexeme kind)
  | lookup (slot : Nat) (lexeme : String) : Matches s (.lookup slot lexeme) (.lookup slot lexeme)
  | contains (slot : Nat) (lexeme : String) :
      Matches s (.contains slot lexeme) (.contains slot lexeme)
  | size (slot : Nat) : Matches s (.size slot) (.size slot)
  | newLexer (slot : Nat) (source : String) (file? : Option String) :
      Matches s (.newLexer slot source file?) (.newLexer slot (.text source file?))
  | openLexer (slot : Nat) (path : String) :
      Matches s (.openLexer slot path) (.newLexer slot (.path path))
  | lexerOfReader (slot : Nat) {reader : Nat} {r : Reader}
      (hr : s.readers[reader]? = some (some r)) :
      Matches s (.lexerOfReader slot reader) (.newLexer slot (.reader r))
  | next (i : Nat) : Matches s (.next i) (.next i)
  | close (i : Nat) : Matches s (.closeLexer i) (.close i)

lemma Shows.newSeeded (hshows : s.Shows h shown) :
    Answers (s.perform .newSeeded) (h.perform (.newSeeded .listed)).2 shown
      (h.perform (.newSeeded .listed)).1 := by
  have hslot : s.tables.length = h.tables.registries.length := by
    rw [hshows.tables, List.length_map]
  have hs : h.tables.add.store? s.tables.length = some ⟨{}, h.tables.fresh⟩ := by
    simp [Tables.store?, Tables.add, hslot]
  have hseeded := hshows.addTable.put hs (Store.grows_seed _ .listed)
  have hset : { s with tables := s.tables ++ [SymbolTable.empty] }.setTable s.tables.length
      SymbolTable.seeded = { s with tables := s.tables ++ [SymbolTable.seeded] } := by
    simp [setTable]
  rw [Store.erase_seed (Store.keyed_empty h.tables.fresh)] at hseeded
  rw [Heap.perform, Heap.seed, ← hslot,
    Heap.withStore_of_some (h := { h with tables := h.tables.add }) hs, Session.perform,
    Session.addTable, ← hset]
  exact ⟨shown, .newSeeded _ _, hseeded⟩

/-- A lexer takes a step as a machine takes a turn. -/
lemma Shows.next {i table : Nat} {m : Machine} (hshows : s.Shows h shown)
    (hsound : h.tables.Sound) (hb : h.lexer? i = some ⟨table, m⟩)
    (hs : h.tables.store? table = some store) {turn : Scene.Turn} {step : Step}
    (hmirrors : (Scene.mk m store []).Mirrors turn step) :
    Answers (((s.setLexer i ⟨table, step.lexer⟩).setTable table step.table).reportStep table step)
      ((h.put table turn.scene.store).setLexer i ⟨table, turn.scene.machine⟩) shown
      (.next i table turn.answer turn.scene.events) := by
  have hgrows := hmirrors.store.grows
  have hshows' := (hshows.put hs hgrows).setLexer hb hmirrors.machine
  have hs' := Tables.store?_put hs turn.scene.store
  have hb' : ((h.put table turn.scene.store).setLexer i ⟨table, turn.scene.machine⟩).lexer? i =
      some ⟨table, turn.scene.machine⟩ := by
    rw [Heap.lexer?_setLexer (h := h.put _ _) hb, if_pos rfl]
  have hstatus := hasStatus_of_tracks hb' hs' hmirrors.machine
  rw [hmirrors.table] at hshows' hstatus
  exact Shows.reportStep hshows' (hsound.grows (Tables.grows_put hs hgrows)) hs' hmirrors.store
    hmirrors.answer hmirrors.table hstatus

/-- A session answers a command as a heap reports the action that it is. -/
theorem Shows.perform {command : Command} {action : Action} (hshows : s.Shows h shown)
    (hsound : h.Sound) (hmatches : s.Matches command action) :
    Answers (s.perform command) (h.perform action).2 shown (h.perform action).1 := by
  cases hmatches with
  | newTable =>
    have hslot : s.tables.length = h.tables.registries.length := by
      rw [hshows.tables, List.length_map]
    rw [Session.perform, Session.addTable, hslot]
    exact ⟨shown, .table _, hshows.addTable⟩
  | newSeeded => exact hshows.newSeeded
  | seed slot =>
    refine hshows.withTable fun store hs => ?_
    have hkeyed := hsound.tables.keyed_of_store? hs
    rw [← Store.erase_seed hkeyed, size_erase]
    exact ⟨shown, .seeded _ _, hshows.put hs (store.grows_seed .listed)⟩
  | intern slot lexeme kind =>
    refine hshows.withTable fun store hs => ?_
    have hkeyed := hsound.tables.keyed_of_store? hs
    have hgrows := store.grows_intern lexeme kind
    rw [← Store.erase_intern hkeyed]
    refine (hshows.put hs hgrows).reportSymbol
      (hsound.tables.grows (Tables.grows_put hs hgrows)) (Tables.store?_put hs _) ?_
    intro x hx
    exact ⟨lexeme, Store.find?_of_intern (Prod.ext hx rfl)⟩
  | lookup slot lexeme =>
    rw [Session.perform, Heap.perform, Heap.intern]
    refine hshows.withTable fun store hs => ?_
    have hlookup : store.intern lexeme .bogus = (store.registry.find? lexeme, store) :=
      store.lookup_eq lexeme
    have hkeyed := hsound.tables.keyed_of_store? hs
    rw [hlookup, Registry.lookup_erase hkeyed]
    dsimp only
    rw [Heap.put_self hs]
    exact hshows.reportSymbol hsound.tables hs fun x hx => ⟨lexeme, hx⟩
  | contains slot lexeme =>
    refine hshows.withTable fun store hs => ?_
    have hkeyed := hsound.tables.keyed_of_store? hs
    rw [SymbolTable.contains, Registry.lookup_erase hkeyed, Option.isSome_map]
    exact ⟨shown, .contains _, hshows⟩
  | size slot =>
    refine hshows.withTable fun store hs => ?_
    rw [size_erase]
    exact ⟨shown, .size _, hshows⟩
  | newLexer slot source file? =>
    exact hshows.newLexer hshows (.text source file?) fun _ => rfl
  | openLexer slot path =>
    refine hshows.newLexer hshows (.path path) fun t => ?_
    rw [← hshows.directory]
    rfl
  | @lexerOfReader slot reader r hr =>
    refine hshows.newLexer (hshows.setReader reader none) (.reader r) fun t => ?_
    rw [withReader_of_some hr]
    rfl
  | next i =>
    refine hshows.withLexer fun table l m store hl hb htracks hs => ?_
    have hkeyed := hsound.tables.keyed_of_store? hs
    exact hshows.next hsound.tables hb hs (Scene.turn_mirrors htracks hkeyed)
  | close i =>
    refine hshows.withLexer fun table l m store hl hb htracks hs => ?_
    have htracks' := Machine.tracks_close htracks.file_eq
    have hb' : (h.setLexer i ⟨table, m.close⟩).lexer? i = some ⟨table, m.close⟩ := by
      rw [Heap.lexer?_setLexer hb, if_pos rfl]
    exact ⟨shown, .closed m.closing (hasStatus_of_tracks hb' hs htracks'),
      hshows.setLexer hb htracks'⟩

/-! ### Runs -/

/-- Commands and the actions that they are, each for the session that it is given to. -/
inductive MatchesAll : Session → List Command → List Action → Prop where
  | nil (s : Session) : MatchesAll s [] []
  | cons {s : Session} {command : Command} {action : Action} {commands : List Command}
      {actions : List Action} (h : s.Matches command action)
      (hrest : MatchesAll (s.perform command).2 commands actions) :
      MatchesAll s (command :: commands) (action :: actions)

theorem shows_start (d : Directory) : Shows { directory := d } (Heap.start d) [] where
  directory := rfl
  tables := rfl
  slots := rfl
  lexers _ := .outside
  shown := .nil
  nodup := List.nodup_nil

/-- A session answers commands as a heap reports the actions that they are. -/
theorem Shows.performAll {s : Session} {h : Heap} {shown : List Nat} {commands : List Command}
    {actions : List Action} (hshows : s.Shows h shown) (hsound : h.Sound)
    (hmatches : MatchesAll s commands actions) :
    h.ShownAll shown actions (s.performAll commands).1 ∧
      ∃ shown', (s.performAll commands).2.Shows (h.run actions).2 shown' := by
  induction hmatches generalizing h shown with
  | nil s => exact ⟨.nil, shown, hshows⟩
  | @cons s command action commands actions hmatches _ ih =>
    obtain ⟨shown', hreply, hshows'⟩ := hshows.perform hsound hmatches
    obtain ⟨hreplies, hend⟩ := ih hshows' ((h.effect_perform action).sound hsound)
    exact ⟨.cons hreply hreplies, hend⟩

/-- So it does from the start. -/
theorem performAll_start (d : Directory) {commands : List Command} {actions : List Action}
    (hmatches : MatchesAll { directory := d } commands actions) :
    (Heap.start d).ShownAll [] actions (performAll { directory := d } commands).1 ∧
      ∃ shown, (performAll { directory := d } commands).2.Shows
        ((Heap.start d).run actions).2 shown :=
  (shows_start d).performAll (Heap.sound_start d) hmatches

end Session

end Lexis
