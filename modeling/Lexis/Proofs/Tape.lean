import Lexis.Proofs.Line
import Lexis.Tape

/-!
# What readers hand out

What a reader has handed out so far is the beginning of its text, and the places it knows are those
of the last character and of the next one (`Reader.HasRead`). Every call keeps this so. A tape,
which moves its counters late and has 32 bits for them, replies what the reader replies that it
stands for (`Tape.reader_run`), and it has room for all counts if the text has fewer than
`UInt32.size` characters (`Tape.exists_run`). From both follows what a tape shows and replies after
any calls (`Tape.run_exact`).
-/

namespace Lexis

/-! ### Readers -/

/-- The place of the last character of a text that was read; zero if there is none. -/
def Location.ofLast (text : List Char) : Location :=
  if text = [] then ⟨0, 0⟩ else after text.dropLast

namespace Location

@[simp] lemma ofLast_concat (text : List Char) (c : Char) : ofLast (text ++ [c]) = after text := by
  simp [ofLast]

lemma ofLast_of_isPrefix {done text : List Char} (h : done <+: text) :
    ofLast done = if done.length = 0 then ⟨0, 0⟩ else after (text.take (done.length - 1)) := by
  obtain ⟨rest, rfl⟩ := h
  rw [List.take_append_of_le_length (Nat.sub_le _ _), ← List.dropLast_eq_take, ofLast]
  simp

/-- A place behind a text is counted with no more than the characters of that text. -/
lemma after_le (text : List Char) :
    (after text).line ≤ text.length + 1 ∧ (after text).column ≤ text.length := by
  have hsplit := congrArg List.length (Text.closedLines_append_openLine text)
  rw [List.length_append] at hsplit
  constructor
  · exact Nat.succ_le_succ List.count_le_length
  · simp only [after]
    omega

end Location

namespace Reader

/-- What a reader has handed out of a text, and where that ends. -/
structure HasRead (r : Reader) (text done : List Char) : Prop where
  isPrefix : done <+: text
  rest_eq : r.closed = false → text = done ++ r.rest
  last_eq : r.last = Location.ofLast done
  upcoming_eq : r.upcoming = Location.after done

variable {r : Reader} {text done : List Char}

lemma hasRead_ofSource (source : String) (file? : Option String) :
    (ofSource source file?).HasRead source.toList [] :=
  ⟨List.nil_prefix, fun _ => rfl, rfl, rfl⟩

/-- The reader behind the next character. -/
def behind (r : Reader) (c : Char) (rest : List Char) : Reader :=
  { r with rest := rest, last := r.upcoming, upcoming := r.upcoming.next c }

lemma call_read_of_closed (h : r.closed = true) :
    r.call .read = (.read (.error r.closedError), r) := by
  simp [Reader.call, read_of_closed h]

lemma call_read_of_nil (hopen : r.closed = false) (hrest : r.rest = []) :
    r.call .read = (.read (.ok none), r) := by
  simp [Reader.call, read, hopen, hrest]

lemma call_read_of_cons {c : Char} {rest : List Char} (hopen : r.closed = false)
    (hrest : r.rest = c :: rest) : r.call .read = (.read (.ok (some c)), r.behind c rest) := by
  simp [Reader.call, read, hopen, hrest, behind]

/-- Reading gives an error, nothing, or a character that it takes off. -/
lemma call_read_cases (r : Reader) :
    r.call .read = (.read (.error r.closedError), r) ∨ r.call .read = (.read (.ok none), r) ∨
      ∃ c rest, r.closed = false ∧ r.rest = c :: rest ∧
        r.call .read = (.read (.ok (some c)), r.behind c rest) := by
  cases hclosed : r.closed with
  | true => exact Or.inl (call_read_of_closed hclosed)
  | false =>
    cases hrest : r.rest with
    | nil         => exact Or.inr (Or.inl (call_read_of_nil hclosed hrest))
    | cons c rest => exact Or.inr (Or.inr ⟨c, rest, rfl, rfl, call_read_of_cons hclosed hrest⟩)

/-- What is handed out stands behind what was handed out before. -/
lemma HasRead.call (h : r.HasRead text done) (call : Call) :
    (r.call call).2.HasRead text (done ++ (r.call call).1.chars) := by
  cases call with
  | peek => simpa [Reader.call, Reply.chars] using h
  | close =>
    have hchars : (r.call .close).1.chars = [] := rfl
    rw [hchars, List.append_nil]
    exact ⟨h.isPrefix, by simp [Reader.call, close], h.last_eq, h.upcoming_eq⟩
  | read =>
    rcases r.call_read_cases with heq | heq | ⟨c, rest, hopen, hrest, heq⟩
    · simpa [heq, Reply.chars] using h
    · simpa [heq, Reply.chars] using h
    · have htext := h.rest_eq hopen
      rw [hrest, List.append_cons] at htext
      rw [heq, Reply.chars, behind]
      refine ⟨⟨rest, htext.symm⟩, fun _ => htext, ?_, ?_⟩
      · rw [Location.ofLast_concat]
        exact h.upcoming_eq
      · rw [h.upcoming_eq]
        exact Location.advance_after done [c]

lemma HasRead.run (h : r.HasRead text done) (calls : List Call) :
    (r.run calls).2.HasRead text (done ++ (r.run calls).1.flatMap Reply.chars) := by
  induction calls generalizing r done with
  | nil => simpa [Reader.run] using h
  | cons call calls ih =>
    have hrest := ih (h.call call)
    rwa [List.append_assoc, ← List.flatMap_cons] at hrest

lemma file_call (r : Reader) (call : Call) : (r.call call).2.file = r.file := by
  cases call with
  | peek  => rfl
  | close => rfl
  | read  => rcases r.call_read_cases with heq | heq | ⟨c, rest, -, -, heq⟩ <;> simp [heq, behind]

lemma file_run (r : Reader) (calls : List Call) : (r.run calls).2.file = r.file := by
  induction calls generalizing r with
  | nil => rfl
  | cons call calls ih => rw [Reader.run, ih, file_call]

lemma closed_call (r : Reader) (call : Call) :
    (r.call call).2.closed = (r.closed || (Call.close == call)) := by
  cases call with
  | peek  => simp [Reader.call]
  | close => simp [Reader.call, close]
  | read =>
    rcases r.call_read_cases with heq | heq | ⟨c, rest, -, -, heq⟩ <;>
      simp [heq, behind]

lemma closed_run (r : Reader) (calls : List Call) :
    (r.run calls).2.closed = (r.closed || calls.contains .close) := by
  induction calls generalizing r with
  | nil => simp [Reader.run]
  | cons call calls ih =>
    rw [Reader.run, ih, closed_call, List.contains_cons, Bool.or_assoc]

end Reader

namespace Tape

variable {t t' : Tape}

lemma reader_ofSource (source : String) (file? : Option String) :
    (ofSource source file?).reader = Reader.ofSource source file? := rfl

/-- A counter that is moved shows one more. -/
lemma toNat_increment {n m : UInt32} (h : increment? n = some m) : m.toNat = n.toNat + 1 := by
  unfold increment? at h
  split at h
  · next hlt =>
    obtain rfl := Option.some.inj h
    rw [UInt32.toNat_add]
    exact Nat.mod_eq_of_lt hlt
  · cases h

/-- Moving the counters leads to the place that the reader has for the next character. -/
lemma upcoming_of_count {counters : UInt32 × UInt32} (h : t.count? = some counters) :
    t.reader.upcoming = ⟨counters.1.toNat, counters.2.toNat⟩ := by
  unfold count? at h
  split at h
  · next hstarts =>
    obtain ⟨line, hline, rfl⟩ := Option.map_eq_some_iff.1 h
    simp [reader, hstarts, toNat_increment hline]
  · next hstarts =>
    obtain ⟨column, hcolumn, rfl⟩ := Option.map_eq_some_iff.1 h
    simp [reader, hstarts, toNat_increment hcolumn]

lemma rest_of_getElem? {c : Char} (hopen : t.closed = false) (hc : t.text[t.cursor]? = some c) :
    t.reader.rest = c :: t.text.drop (t.cursor + 1) := by
  obtain ⟨hlt, rfl⟩ := List.getElem?_eq_some_iff.1 hc
  simp [reader, hopen]

/-- The reader behind a character is that of the tape with the cursor and the counters moved. -/
lemma reader_behind {c : Char} {counters : UInt32 × UInt32} (hopen : t.closed = false)
    (h : t.count? = some counters) :
    t.reader.behind c (t.text.drop (t.cursor + 1)) = (t.behind c counters).reader := by
  rw [Reader.behind, upcoming_of_count h, behind]
  by_cases hc : c = '\n' <;> simp [Location.next, reader, hopen, hc]

/-- A tape reads what its reader reads. -/
lemma reader_read {answer : Except Error (Option Char)} (h : t.read = some (answer, t')) :
    t.reader.call .read = (.read answer, t'.reader) := by
  unfold read at h
  split at h
  · next hclosed =>
    obtain ⟨rfl, rfl⟩ := Prod.mk.inj (Option.some.inj h)
    exact Reader.call_read_of_closed hclosed
  · next hopen =>
    rw [Bool.not_eq_true] at hopen
    split at h
    · next hnone =>
      obtain ⟨rfl, rfl⟩ := Prod.mk.inj (Option.some.inj h)
      rw [List.getElem?_eq_none_iff] at hnone
      exact Reader.call_read_of_nil hopen (by simp [reader, hopen, hnone])
    · next c hc =>
      obtain ⟨counters, hcounters, heq⟩ := Option.map_eq_some_iff.1 h
      obtain ⟨rfl, rfl⟩ := Prod.mk.inj heq
      rw [← reader_behind hopen hcounters]
      exact Reader.call_read_of_cons hopen (rest_of_getElem? hopen hc)

lemma reader_peek (t : Tape) : t.reader.peek = t.peek := by
  cases hclosed : t.closed <;> simp [peek, reader, Reader.peek, hclosed]

lemma reader_close (t : Tape) : t.close.reader = t.reader.close := by
  cases hclosed : t.closed <;> simp [close, reader, Reader.close, hclosed]

lemma reader_call {call : Reader.Call} {reply : Reader.Reply} (h : t.call call = some (reply, t')) :
    t.reader.call call = (reply, t'.reader) := by
  cases call with
  | read =>
    obtain ⟨⟨answer, t₁⟩, hread, heq⟩ := Option.map_eq_some_iff.1 h
    obtain ⟨rfl, rfl⟩ := Prod.mk.inj heq
    exact reader_read hread
  | peek =>
    obtain ⟨rfl, rfl⟩ := Prod.mk.inj (Option.some.inj h)
    rw [Reader.call, reader_peek]
  | close =>
    obtain ⟨rfl, rfl⟩ := Prod.mk.inj (Option.some.inj h)
    rw [Reader.call, reader_close]

/-- A tape replies what its reader replies. -/
theorem reader_run {calls : List Reader.Call} {replies : List Reader.Reply}
    (h : t.run calls = some (replies, t')) : t.reader.run calls = (replies, t'.reader) := by
  induction calls generalizing t replies with
  | nil =>
    obtain ⟨rfl, rfl⟩ := Prod.mk.inj (Option.some.inj h)
    rfl
  | cons call calls ih =>
    obtain ⟨first, hfirst, h⟩ := Option.bind_eq_some_iff.1 h
    obtain ⟨others, hothers, heq⟩ := Option.map_eq_some_iff.1 h
    obtain ⟨rfl, rfl⟩ := Prod.mk.inj heq
    rw [Reader.run, reader_call hfirst, ih hothers]

/-! ### Counters -/

lemma exists_increment {n : UInt32} (h : n.toNat + 1 < UInt32.size) :
    ∃ m, increment? n = some m := ⟨n + 1, if_pos h⟩

/-- Counters can be moved where the next place has 32 bits. -/
lemma exists_count (hline : t.reader.upcoming.line < UInt32.size)
    (hcolumn : t.reader.upcoming.column < UInt32.size) : ∃ counters, t.count? = some counters := by
  cases hstarts : t.startsLine with
  | true =>
    obtain ⟨line, hmoved⟩ := exists_increment (n := t.line) (by simpa [reader, hstarts] using hline)
    exact ⟨_, by rw [count?, hstarts, if_pos rfl, hmoved]; rfl⟩
  | false =>
    obtain ⟨column, hmoved⟩ :=
      exists_increment (n := t.column) (by simpa [reader, hstarts] using hcolumn)
    exact ⟨_, by rw [count?, hstarts, if_neg Bool.false_ne_true, hmoved]; rfl⟩

lemma call_read {answer : Except Error (Option Char)} (h : t.read = some (answer, t')) :
    t.call .read = some (.read answer, t') := by
  rw [call, h]
  rfl

lemma read_of_closed (h : t.closed = true) : t.read = some (.error t.closedError, t) := by
  simp [read, h]

lemma read_of_none (hopen : t.closed = false) (hnone : t.text[t.cursor]? = none) :
    t.read = some (.ok none, t) := by
  simp [read, hopen, hnone]

/-- Where a character is left, the place behind those that were read is within bounds, so the
counters can be moved. -/
lemma exists_read_of_some {text done : List Char} {c : Char} (h : t.reader.HasRead text done)
    (hlength : text.length < UInt32.size) (hopen : t.closed = false)
    (hc : t.text[t.cursor]? = some c) : ∃ t', t.read = some (.ok (some c), t') := by
  have htext := congrArg List.length (h.rest_eq hopen)
  rw [rest_of_getElem? hopen hc, List.length_append, List.length_cons] at htext
  obtain ⟨hline, hcolumn⟩ := Location.after_le done
  rw [← h.upcoming_eq] at hline hcolumn
  obtain ⟨counters, hcounters⟩ := exists_count (t := t) (by omega) (by omega)
  exact ⟨t.behind c counters, by simp [read, hopen, hc, hcounters]⟩

/-- A tape has a reply as long as its text has fewer characters than there are numbers of 32
bits. -/
lemma exists_call {text done : List Char} (h : t.reader.HasRead text done)
    (hlength : text.length < UInt32.size) (call : Reader.Call) :
    ∃ reply t', t.call call = some (reply, t') := by
  cases call with
  | peek  => exact ⟨_, _, rfl⟩
  | close => exact ⟨_, _, rfl⟩
  | read =>
    cases hclosed : t.closed with
    | true => exact ⟨_, _, call_read (read_of_closed hclosed)⟩
    | false =>
      cases hc : t.text[t.cursor]? with
      | none => exact ⟨_, _, call_read (read_of_none hclosed hc)⟩
      | some c =>
        obtain ⟨t', hread⟩ := exists_read_of_some h hlength hclosed hc
        exact ⟨_, t', call_read hread⟩

lemma exists_run {text done : List Char} (h : t.reader.HasRead text done)
    (hlength : text.length < UInt32.size) (calls : List Reader.Call) :
    ∃ replies t', t.run calls = some (replies, t') := by
  induction calls generalizing t done with
  | nil => exact ⟨_, _, rfl⟩
  | cons call calls ih =>
    obtain ⟨reply, t₁, hcall⟩ := exists_call h hlength call
    have h₁ := h.call call
    rw [reader_call hcall] at h₁
    obtain ⟨replies, t', hrun⟩ := ih h₁
    exact ⟨reply :: replies, t', by rw [run, hcall, Option.bind_some, hrun]; rfl⟩

/-! ### Exactness -/

/-- What a tape shows when it has handed out the first `k` characters of a text, and what it replies
to the next call. -/
structure Exact (t : Tape) (text : List Char) (k : Nat) : Prop where
  line_eq : t.line.toNat = if k = 0 then 0 else 1 + (text.take (k - 1)).count '\n'
  column_eq : t.column.toNat = if k = 0 then 0 else (Text.openLine (text.take (k - 1))).length
  peek_eq : t.call .peek = some (.peek (if t.closed then none else text[k]?), t)
  read_next : t.closed = false → ∀ c, text[k]? = some c →
    ∃ t', t.call .read = some (.read (.ok (some c)), t')
  read_end : t.closed = false → text[k]? = none → t.call .read = some (.read (.ok none), t)
  read_closed : t.closed = true → t.call .read =
    some (.read (.error ⟨.sourceClosed, ⟨⟨t.line.toNat, t.column.toNat⟩, t.file⟩⟩), t)
  close_closed : t.closed = true → t.call .close = some (.closed, t)

/-- The character at the cursor is the one behind those that were handed out. -/
lemma getElem?_cursor {text done : List Char} (h : t.reader.HasRead text done)
    (hopen : t.closed = false) : t.text[t.cursor]? = text[done.length]? := by
  conv_rhs => rw [h.rest_eq hopen, List.getElem?_append_right (Nat.le_refl _), Nat.sub_self]
  simp [reader, hopen]

lemma exact_of_hasRead {text done : List Char} (h : t.reader.HasRead text done)
    (hlength : text.length < UInt32.size) : t.Exact text done.length := by
  have hlast : ⟨t.line.toNat, t.column.toNat⟩ = Location.ofLast done := h.last_eq
  rw [Location.ofLast_of_isPrefix h.isPrefix] at hlast
  refine ⟨?_, ?_, ?_, ?_, ?_, ?_, ?_⟩
  · have hline := congrArg Location.line hlast
    rw [apply_ite Location.line] at hline
    simpa [Location.after, Nat.add_comm] using hline
  · have hcolumn := congrArg Location.column hlast
    rwa [apply_ite Location.column] at hcolumn
  · cases hclosed : t.closed with
    | true  => simp [call, peek, hclosed]
    | false => simpa [call, peek, hclosed] using getElem?_cursor h hclosed
  · intro hopen c hc
    rw [← getElem?_cursor h hopen] at hc
    obtain ⟨t', hread⟩ := exists_read_of_some h hlength hopen hc
    exact ⟨t', call_read hread⟩
  · intro hopen hnone
    rw [← getElem?_cursor h hopen] at hnone
    exact call_read (read_of_none hopen hnone)
  · intro hclosed
    exact call_read (read_of_closed hclosed)
  · intro hclosed
    rw [call, close, if_pos hclosed]

/-- A text is handed out once, in order and with exact places. Whatever calls are made on a tape,
and on the reader that it stands for, their replies are the same, and the counters of the tape have
room. The characters among the replies are the beginning of the text, the counters tell where the
last of them stands, and the next reading gives the character behind it. That character is what a
look ahead shows. At the end of the text and on a closed tape nothing moves any more. -/
theorem run_exact {source : String} (hlength : source.length < UInt32.size)
    (file? : Option String) (calls : List Reader.Call) :
    ∃ replies t, (ofSource source file?).run calls = some (replies, t) ∧
      (Reader.ofSource source file?).run calls = (replies, t.reader) ∧
      t.file = file?.getD defaultFile ∧ t.closed = calls.contains .close ∧
      replies.flatMap Reader.Reply.chars <+: source.toList ∧
      t.Exact source.toList (replies.flatMap Reader.Reply.chars).length := by
  have hlength' : source.toList.length < UInt32.size := by
    rwa [String.length_toList]
  have hstart := Reader.hasRead_ofSource source file?
  rw [← reader_ofSource] at hstart
  obtain ⟨replies, t, hrun⟩ := exists_run hstart hlength' calls
  have hreader := reader_run hrun
  have hread := hstart.run calls
  have hclosed := Reader.closed_run (ofSource source file?).reader calls
  have hfile := Reader.file_run (ofSource source file?).reader calls
  rw [hreader] at hread hclosed hfile
  rw [List.nil_append] at hread
  refine ⟨replies, t, hrun, hreader, hfile, ?_, hread.isPrefix, exact_of_hasRead hread hlength'⟩
  exact hclosed

/-- A blank line, a look ahead, and reading on when the text was given up in the middle. -/
theorem run_exact_blankLine :
    "a\n\nb".length < UInt32.size ∧ ∃ t,
      (ofSource "a\n\nb" none).run [.read, .read, .read, .peek, .close, .close, .read] =
        some ([.read (.ok (some 'a')), .read (.ok (some '\n')), .read (.ok (some '\n')),
          .peek (some 'b'), .closed, .closed,
          .read (.error ⟨.sourceClosed, ⟨⟨2, 0⟩, "shell"⟩⟩)], t) ∧
      t.line.toNat = 2 ∧ t.column.toNat = 0 ∧ t.call .peek = some (.peek none, t) ∧
      t.call .close = some (.closed, t) := by
  have hlength : "a\n\nb".length < UInt32.size := by decide
  obtain ⟨replies, t, hrun, -, -, hclosed, -, hexact⟩ := run_exact hlength none
    [.read, .read, .read, .peek, .close, .close, .read]
  have heval : (ofSource "a\n\nb" none).run [.read, .read, .read, .peek, .close, .close, .read] =
      some ([.read (.ok (some 'a')), .read (.ok (some '\n')), .read (.ok (some '\n')),
        .peek (some 'b'), .closed, .closed,
        .read (.error ⟨.sourceClosed, ⟨⟨2, 0⟩, "shell"⟩⟩)],
        ⟨[], 3, "shell", 2, 0, true, true⟩) := rfl
  obtain ⟨rfl, rfl⟩ := Prod.mk.inj (Option.some.inj (hrun.symm.trans heval))
  exact ⟨hlength, _, heval, hexact.line_eq, hexact.column_eq, hexact.peek_eq,
    hexact.close_closed hclosed⟩

end Tape

end Lexis
