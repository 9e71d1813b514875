import Mathlib.Logic.Relation
import Mathlib.Tactic.Lemma
import Lexis.Registry

/-!
# Registries and symbol tables

A registry is *keyed* if the object under each lexeme is a symbol of that lexeme. What is found in
such a registry is found in the table that remains without the addresses (`Registry.lookup_erase`),
and interning does the same to both (`Store.erase_intern`).

All that ever happens to a registry is that an object is made for a lexeme that has none
(`Store.Step`). Seeding finds for each lexeme what was there before, and what the vocabulary says
otherwise (`Store.symbol_seed`); the order does not show in what is found, and a second seeding
changes nothing (`Store.seed_seed`).
-/

namespace Lexis

/-- Where no key stands twice, every entry is found under its key. -/
lemma lookup_iff_mem {α : Type} {entries : List (String × α)} (h : (entries.map (·.1)).Nodup)
    (key : String) (a : α) : entries.lookup key = some a ↔ (key, a) ∈ entries := by
  rw [List.lookup_eq_some_iff]
  constructor
  · rintro ⟨before, after, rfl, -⟩
    simp
  · intro hmem
    obtain ⟨before, after, rfl⟩ := List.append_of_mem hmem
    refine ⟨before, after, rfl, ?_⟩
    intro entry hentry
    rw [List.map_append, List.map_cons, List.nodup_append] at h
    have hne := h.2.2 entry.1 (List.mem_map_of_mem hentry) key List.mem_cons_self
    simpa using Ne.symm hne

lemma isSome_lookup {α : Type} (entries : List (String × α)) (key : String) :
    (entries.lookup key).isSome = true ↔ key ∈ entries.map (·.1) := by
  rw [List.lookup_isSome_iff, List.mem_map]
  exact exists_congr fun entry => and_congr_right fun _ => beq_iff_eq.trans eq_comm

lemma Vocabulary.kind?_cons (word : String × Kind) (words : Vocabulary) (spelling : String) :
    kind? (word :: words) spelling =
      if spelling = word.1 then some word.2 else words.kind? spelling := by
  rw [kind?, List.lookup_cons]
  by_cases heq : spelling = word.1
  · simp [heq]
  · have hbeq : (spelling == word.1) = false := by simpa using heq
    simp [heq, hbeq, kind?]

namespace Registry

/-- Under each lexeme is a symbol of that lexeme. -/
def Keyed (r : Registry) : Prop := ∀ entry ∈ r.entries, entry.2.symbol.lexeme = entry.1

variable {r : Registry} {lexeme : String} {x : SymbolRef}

lemma Keyed.lexeme_eq (h : r.Keyed) (hx : r.find? lexeme = some x) : x.symbol.lexeme = lexeme :=
  h _ (mem_of_find? hx)

lemma Keyed.insert (h : r.Keyed) (hnone : r.find? lexeme = none) (hx : x.symbol.lexeme = lexeme) :
    (r.insert lexeme x).Keyed := by
  rw [insert_of_absent hnone]
  exact List.forall_mem_append.2 ⟨h, by simpa using hx⟩

/-- The table that remains without addresses has the same symbols under the same lexemes. -/
theorem lookup_erase (h : r.Keyed) (lexeme : String) :
    r.erase.lookup lexeme = (r.find? lexeme).map (·.symbol) := by
  obtain ⟨entries⟩ := r
  induction entries with
  | nil => rfl
  | cons entry entries ih =>
    obtain ⟨key, x⟩ := entry
    obtain ⟨hentry, hentries⟩ := List.forall_mem_cons.1 h
    have hrest := ih hentries
    simp only [erase, find?, SymbolTable.lookup, List.map_cons, List.lookup_cons,
      List.find?_cons] at hrest hentry ⊢
    by_cases heq : key = lexeme
    · simp [hentry, heq]
    · have hbeq : (lexeme == key) = false := by simpa using Ne.symm heq
      have hbeq' : (key == lexeme) = false := by simpa using heq
      simp [hentry, hbeq, hbeq', hrest]

end Registry

namespace Store

variable {s : Store}

/-- What interning can do: find an object, find none for the kind of nothing, or make one. -/
lemma intern_cases (s : Store) (lexeme : String) (kind : Kind) :
    (∃ x, s.registry.find? lexeme = some x ∧ s.intern lexeme kind = (some x, s)) ∨
      (s.registry.find? lexeme = none ∧ kind = .bogus ∧ s.intern lexeme kind = (none, s)) ∨
      (s.registry.find? lexeme = none ∧ kind ≠ .bogus ∧
        s.intern lexeme kind = (some (s.register lexeme kind).1, (s.register lexeme kind).2)) := by
  cases hfind : s.registry.find? lexeme with
  | some x => exact Or.inl ⟨x, rfl, intern_of_found hfind kind⟩
  | none =>
    by_cases hkind : kind = .bogus
    · exact Or.inr (Or.inl ⟨rfl, hkind, by simp [intern, hfind, hkind]⟩)
    · exact Or.inr (Or.inr ⟨rfl, hkind, intern_of_absent hfind hkind⟩)

lemma keyed_empty (fresh : Nat) : (Store.mk {} fresh).registry.Keyed := by
  simp [Registry.Keyed]

lemma keyed_intern (h : s.registry.Keyed) (lexeme : String) (kind : Kind) :
    (s.intern lexeme kind).2.registry.Keyed := by
  rcases s.intern_cases lexeme kind with ⟨x, -, heq⟩ | ⟨-, -, heq⟩ | ⟨hnone, -, heq⟩
  · rwa [heq]
  · rwa [heq]
  · rw [heq]
    exact h.insert hnone rfl

/-- Without addresses, interning an object is interning a symbol. -/
theorem erase_intern (h : s.registry.Keyed) (lexeme : String) (kind : Kind) :
    ((s.intern lexeme kind).1.map (·.symbol), (s.intern lexeme kind).2.registry.erase) =
      s.registry.erase.intern lexeme kind := by
  have hlookup := Registry.lookup_erase h lexeme
  rcases s.intern_cases lexeme kind with ⟨x, hx, heq⟩ | ⟨hnone, hkind, heq⟩ | ⟨hnone, hkind, heq⟩
  · rw [hx] at hlookup
    rw [heq, SymbolTable.intern, SymbolTable.enter_of_lookup hlookup, hlookup]
    split <;> rfl
  · rw [hnone] at hlookup
    rw [heq, SymbolTable.intern, if_pos hkind, hlookup, Option.map_none]
  · rw [hnone] at hlookup
    rw [heq, SymbolTable.intern, if_neg hkind, SymbolTable.enter_of_absent hlookup, register,
      Registry.insert_of_absent hnone]
    simp [Registry.erase]

/-- Without addresses, what is interned with a kind of its own is entered. -/
lemma enter_erase {lexeme : String} {kind : Kind} {x : SymbolRef} {s' : Store}
    (h : s.registry.Keyed) (hkind : kind ≠ .bogus) (hintern : s.intern lexeme kind = (some x, s')) :
    s.registry.erase.enter lexeme kind = (x.symbol, s'.registry.erase) := by
  have herase := s.erase_intern h lexeme kind
  rw [hintern, SymbolTable.intern, if_neg hkind] at herase
  obtain ⟨hsymbol, htable⟩ := Prod.mk.inj herase
  exact Prod.ext (Option.some.inj hsymbol).symm htable.symm

/-- Interning with a kind of its own never comes back with nothing. -/
lemma exists_intern (s : Store) (lexeme : String) {kind : Kind} (hkind : kind ≠ .bogus) :
    ∃ x s', s.intern lexeme kind = (some x, s') := by
  rcases s.intern_cases lexeme kind with ⟨x, -, heq⟩ | ⟨-, hbogus, -⟩ | ⟨-, -, heq⟩
  · exact ⟨x, s, heq⟩
  · exact absurd hbogus hkind
  · exact ⟨_, _, heq⟩

lemma keyed_declare (h : s.registry.Keyed) (lexeme : String) {kind : Kind} (hkind : kind ≠ .bogus) :
    (s.declare lexeme kind).registry.Keyed := by
  rw [declare_eq s lexeme hkind]
  exact keyed_intern h lexeme kind

lemma keyed_declareAll {words : Vocabulary} (hkinds : ∀ word ∈ words, word.2 ≠ .bogus)
    (h : s.registry.Keyed) : (s.declareAll words).registry.Keyed := by
  induction words generalizing s with
  | nil => exact h
  | cons word words ih =>
    obtain ⟨hkind, hkinds⟩ := List.forall_mem_cons.1 hkinds
    exact ih hkinds (keyed_declare h word.1 hkind)

/-- Without addresses, declaring words is entering them. -/
lemma erase_declareAll {words : Vocabulary} (hkinds : ∀ word ∈ words, word.2 ≠ .bogus)
    (h : s.registry.Keyed) :
    (s.declareAll words).registry.erase = s.registry.erase.enterAll words := by
  induction words generalizing s with
  | nil => rfl
  | cons word words ih =>
    obtain ⟨hkind, hkinds⟩ := List.forall_mem_cons.1 hkinds
    obtain ⟨x, s', hintern⟩ := s.exists_intern word.1 hkind
    have hdeclare : s.declare word.1 word.2 = s' := by rw [declare_eq s word.1 hkind, hintern]
    have henter : (s.registry.erase.enter word.1 word.2).2 = s'.registry.erase := by
      rw [enter_erase h hkind hintern]
    have hkeyed : s'.registry.Keyed := hdeclare ▸ keyed_declare h word.1 hkind
    rw [show s.declareAll (word :: words) = (s.declare word.1 word.2).declareAll words from rfl,
      hdeclare, ih hkinds hkeyed, ← henter]
    rfl

/-! ### Growth -/

/-- An object is made for a lexeme that has none. -/
inductive Step (s : Store) : Store → Prop where
  | register {lexeme : String} {kind : Kind} (habsent : s.registry.find? lexeme = none)
      (hkind : kind ≠ .bogus) : Step s (s.register lexeme kind).2

/-- Objects are made, one after the other. -/
abbrev Grows : Store → Store → Prop := Relation.ReflTransGen Step

lemma grows_intern (s : Store) (lexeme : String) (kind : Kind) :
    s.Grows (s.intern lexeme kind).2 := by
  rcases s.intern_cases lexeme kind with ⟨x, -, heq⟩ | ⟨-, -, heq⟩ | ⟨habsent, hkind, heq⟩
  · rw [heq]
  · rw [heq]
  · rw [heq]
    exact .single (.register habsent hkind)

lemma grows_declareAll {words : Vocabulary} (hkinds : ∀ word ∈ words, word.2 ≠ .bogus)
    (s : Store) : s.Grows (s.declareAll words) := by
  induction words generalizing s with
  | nil => exact .refl
  | cons word words ih =>
    obtain ⟨hkind, hkinds⟩ := List.forall_mem_cons.1 hkinds
    have hfirst := s.grows_intern word.1 word.2
    rw [← declare_eq s word.1 hkind] at hfirst
    exact hfirst.trans (ih hkinds _)

lemma Step.find?_eq {s' : Store} {lexeme : String} {x : SymbolRef} (h : s.Step s')
    (hx : s.registry.find? lexeme = some x) : s'.registry.find? lexeme = some x := by
  cases h with
  | @register other kind habsent hkind =>
    have hne : lexeme ≠ other := by
      rintro rfl
      simp [habsent] at hx
    exact (Registry.find?_insert_of_ne habsent hne _).trans hx

/-- A new object does not go under a lexeme that had one. -/
lemma Step.nodup_keys {s' : Store} (h : s.Step s')
    (hnodup : (s.registry.entries.map (·.1)).Nodup) :
    (s'.registry.entries.map (·.1)).Nodup := by
  cases h with
  | register habsent _ =>
    have hnew := Registry.fst_ne_of_find? habsent
    rw [Store.register, Registry.insert_of_absent habsent, List.map_append, List.nodup_append]
    refine ⟨hnodup, by simp, ?_⟩
    simpa using hnew

lemma Grows.nodup_keys {s' : Store} (h : s.Grows s')
    (hnodup : (s.registry.entries.map (·.1)).Nodup) :
    (s'.registry.entries.map (·.1)).Nodup := by
  induction h with
  | refl              => exact hnodup
  | tail _ hstep ih => exact hstep.nodup_keys ih

/-! ### Seeding -/

/-- The symbol under a lexeme, without its address. -/
def symbol? (s : Store) (lexeme : String) : Option Symbol :=
  (s.registry.find? lexeme).map (·.symbol)

lemma symbol_declare (s : Store) (word : String × Kind) (lexeme : String) :
    (s.declare word.1 word.2).symbol? lexeme =
      (s.symbol? lexeme).or (if lexeme = word.1 then some ⟨word.1, word.2⟩ else none) := by
  cases hfind : s.registry.find? word.1 with
  | some x =>
    have hdeclare : s.declare word.1 word.2 = s := by simp [declare, Registry.contains, hfind]
    rw [hdeclare]
    by_cases heq : lexeme = word.1
    · simp [symbol?, heq, hfind]
    · simp [heq]
  | none =>
    have hdeclare : s.declare word.1 word.2 = (s.register word.1 word.2).2 := by
      simp [declare, Registry.contains, hfind]
    rw [hdeclare, symbol?, register]
    by_cases heq : lexeme = word.1
    · simp [symbol?, heq, hfind, Registry.find?_insert_self hfind]
    · simp [symbol?, heq, Registry.find?_insert_of_ne hfind heq]

/-- What was there goes before what is declared. -/
lemma symbol_declareAll (s : Store) (words : Vocabulary) (lexeme : String) :
    (s.declareAll words).symbol? lexeme =
      (s.symbol? lexeme).or ((words.kind? lexeme).map fun kind => ⟨lexeme, kind⟩) := by
  induction words generalizing s with
  | nil => simp [declareAll, Vocabulary.kind?]
  | cons word words ih =>
    have hrest := ih (s.declare word.1 word.2)
    rw [symbol_declare] at hrest
    rw [show s.declareAll (word :: words) = (s.declare word.1 word.2).declareAll words from rfl,
      hrest, Option.or_assoc, Vocabulary.kind?_cons]
    by_cases heq : lexeme = word.1 <;> simp [heq]

lemma declareAll_of_contains {words : Vocabulary}
    (h : ∀ word ∈ words, s.registry.contains word.1 = true) : s.declareAll words = s := by
  induction words with
  | nil => rfl
  | cons word words ih =>
    obtain ⟨hword, hwords⟩ := List.forall_mem_cons.1 h
    have hdeclare : s.declare word.1 word.2 = s := by rw [declare, if_pos hword]
    rw [show s.declareAll (word :: words) = (s.declare word.1 word.2).declareAll words from rfl,
      hdeclare, ih hwords]

end Store

/-- The order of words that are all different does not show in what they stand for. -/
lemma Vocabulary.kind?_perm {words words' : Vocabulary} (h : words.Perm words')
    (hnodup : (words'.map (·.1)).Nodup) (spelling : String) :
    words.kind? spelling = words'.kind? spelling := by
  have hnodup' := (h.map (·.1)).nodup_iff.2 hnodup
  apply Option.ext
  intro kind
  rw [kind?, kind?, lookup_iff_mem hnodup', lookup_iff_mem hnodup, h.mem_iff]

namespace SeedOrder

lemma kind?_words (order : SeedOrder) (spelling : String) :
    order.words.kind? spelling =
      (Vocabulary.reserved.kind? spelling).or (Vocabulary.marks.kind? spelling) := by
  have hnodup := Vocabulary.nodup_spellings
  rw [Vocabulary.fixed, List.map_append, List.nodup_append] at hnodup
  rw [← Vocabulary.kind?_perm order.reserved_perm hnodup.1,
    ← Vocabulary.kind?_perm order.marks_perm hnodup.2.1]
  exact List.lookup_append

lemma words_perm (order : SeedOrder) : order.words.Perm Vocabulary.fixed :=
  order.reserved_perm.append order.marks_perm

lemma kind_ne_bogus (order : SeedOrder) : ∀ word ∈ order.words, word.2 ≠ .bogus := by
  have hfixed : ∀ word ∈ Vocabulary.fixed, word.2 ≠ .bogus := by decide
  intro word hword
  exact hfixed word (order.words_perm.mem_iff.1 hword)

end SeedOrder

namespace Store

/-- Without addresses, seeding in the order in which the vocabulary is written down is seeding. -/
theorem erase_seed {s : Store} (h : s.registry.Keyed) :
    (s.seed .listed).registry.erase = s.registry.erase.seed :=
  erase_declareAll SeedOrder.listed.kind_ne_bogus h

lemma grows_seed (s : Store) (order : SeedOrder) : s.Grows (s.seed order) :=
  grows_declareAll order.kind_ne_bogus s

/-- Seeding finds what was there, and what the vocabulary says otherwise. -/
theorem symbol_seed (s : Store) (order : SeedOrder) (lexeme : String) :
    (s.seed order).symbol? lexeme =
      (s.symbol? lexeme).or (((Vocabulary.reserved.kind? lexeme).or
        (Vocabulary.marks.kind? lexeme)).map fun kind => ⟨lexeme, kind⟩) := by
  rw [seed, symbol_declareAll, order.kind?_words]

/-- A second seeding changes nothing, in whatever order. -/
theorem seed_seed (s : Store) (order order' : SeedOrder) :
    (s.seed order).seed order' = s.seed order := by
  apply declareAll_of_contains
  intro word hword
  have hnodup := (order'.words_perm.map (·.1)).nodup_iff.2 Vocabulary.nodup_spellings
  have hkind : order'.words.kind? word.1 = some word.2 := (lookup_iff_mem hnodup _ _).2 hword
  have hfound := s.symbol_seed order word.1
  rw [← order'.kind?_words, hkind] at hfound
  have hsome : ((s.seed order).symbol? word.1).isSome = true := by simp [hfound]
  simpa [Registry.contains, symbol?] using hsome

end Store

end Lexis
