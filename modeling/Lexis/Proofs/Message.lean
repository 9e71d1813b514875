import Lexis.Directory
import Lexis.Proofs.Line
import Lexis.Proofs.Quoted

/-!
# Messages tell errors apart

A message is read from both ends. From the front, its first character tells the sort of fault, and
what is quoted behind it tells its own end. From the back, line and column are the digits behind the
last two colons, whatever stands in the name of the file. A reason is not quoted, and neither is the
file behind it; the two can be divided only because the file is the path that was quoted in front
(`Error.NamesPath`), which is how the error of opening a source is made
(`Reader.namesPath_of_openIn`).
-/

namespace Lexis

open Character

/-! ### Positions -/

/-- Where there is no other `c` than the first character, nothing is in front of it. -/
lemma eq_nil_of_cons_eq_append {c : Char} {between ds es : List Char} (hds : c ∉ ds)
    (h : c :: ds = between ++ c :: es) : between = [] ∧ ds = es := by
  cases between with
  | nil => exact ⟨rfl, (List.cons.inj h).2⟩
  | cons d between =>
    have htail : ds = between ++ c :: es := (List.cons.inj h).2
    exact absurd (htail ▸ List.mem_append_right _ List.mem_cons_self) hds

/-- What is behind the last `c` in a text, and what is in front of it, are told by the text. -/
lemma eq_of_append_cons_eq {c : Char} {xs ys ds es : List Char} (hds : c ∉ ds) (hes : c ∉ es)
    (h : xs ++ c :: ds = ys ++ c :: es) : xs = ys ∧ ds = es := by
  rcases List.append_eq_append_iff.1 h with ⟨between, rfl, heq⟩ | ⟨between, rfl, heq⟩
  · obtain ⟨rfl, rfl⟩ := eq_nil_of_cons_eq_append hds heq
    exact ⟨(List.append_nil xs).symm, rfl⟩
  · obtain ⟨rfl, rfl⟩ := eq_nil_of_cons_eq_append hes heq
    exact ⟨List.append_nil ys, rfl⟩

lemma eq_of_toList_repr_eq {n n' : Nat} (h : n.repr.toList = n'.repr.toList) : n = n' := by
  have hnumbers := congrArg (Nat.ofDigitChars 10 · 0) h
  simpa using hnumbers

namespace Position

lemma toList_text (p : Position) :
    p.text.toList =
      p.file.toList ++ ':' :: (p.line.repr.toList ++ ':' :: p.column.repr.toList) := by
  simp [text, -Nat.toList_repr]

/-- A position at the end of a text tells its line and column, and where it would begin. -/
lemma eq_of_append_text {p p' : Position} {front front' : List Char}
    (h : front ++ p.text.toList = front' ++ p'.text.toList) :
    front ++ p.file.toList = front' ++ p'.file.toList ∧ p.toLocation = p'.toLocation := by
  have hcolon (n : Nat) : ':' ∉ n.repr.toList := Text.notMem_repr (by decide) n
  have hreassoc (q : Position) (before : List Char) : before ++ q.text.toList =
      (before ++ q.file.toList ++ ':' :: q.line.repr.toList) ++ ':' :: q.column.repr.toList := by
    simp [toList_text, -Nat.toList_repr]
  rw [hreassoc, hreassoc] at h
  obtain ⟨hfront, hcolumn⟩ := eq_of_append_cons_eq (hcolon _) (hcolon _) h
  obtain ⟨hfile, hline⟩ := eq_of_append_cons_eq (hcolon _) (hcolon _) hfront
  refine ⟨hfile, ?_⟩
  rw [Location.mk.injEq]
  exact ⟨eq_of_toList_repr_eq hline, eq_of_toList_repr_eq hcolumn⟩

lemma eq_of_parts {p p' : Position} (hfile : p.file = p'.file)
    (hplace : p.toLocation = p'.toLocation) : p = p' := by
  obtain ⟨place, file⟩ := p
  obtain ⟨place', file'⟩ := p'
  simp_all

/-- Where nothing differs in front, positions are told by their texts. -/
lemma eq_of_text {p p' : Position} {front : List Char}
    (h : front ++ p.text.toList = front ++ p'.text.toList) : p = p' := by
  obtain ⟨hfile, hplace⟩ := eq_of_append_text h
  exact eq_of_parts (String.toList_inj.1 (List.append_cancel_left hfile)) hplace

end Position

/-! ### Messages -/

/-- The cause in words, for any notion of which characters can be seen. -/
def Fault.messageBy (visible : Char → Bool) : Fault → String
  | illegalLexeme lexeme          => "illegal character: " ++ Text.quoteBy visible lexeme
  | sourceClosed                  => "source read after it was closed"
  | sourceUnavailable path reason =>
    "could not read " ++ Text.quoteBy visible path ++ ": " ++ reason

namespace Fault

lemma messageBy_isVisible (fault : Fault) : fault.messageBy isVisible = fault.message := by
  cases fault with
  | illegalLexeme lexeme =>
    show "illegal character: " ++ Text.quoteBy isVisible lexeme =
      "illegal character: " ++ Text.quote lexeme
    rw [Text.quoteBy_isVisible]
  | sourceClosed => rfl
  | sourceUnavailable path reason =>
    show "could not read " ++ Text.quoteBy isVisible path ++ ": " ++ reason =
      "could not read " ++ Text.quote path ++ ": " ++ reason
    rw [Text.quoteBy_isVisible]

lemma toList_illegal (visible : Char → Bool) (lexeme : String) :
    ((illegalLexeme lexeme).messageBy visible).toList =
      "illegal character: ".toList ++ (Text.quoteBy visible lexeme).toList :=
  String.toList_append

lemma toList_closed (visible : Char → Bool) :
    (sourceClosed.messageBy visible).toList = "source read after it was closed".toList :=
  rfl

lemma toList_unavailable (visible : Char → Bool) (path reason : String) :
    ((sourceUnavailable path reason).messageBy visible).toList =
      "could not read ".toList ++ ((Text.quoteBy visible path).toList ++
        (": ".toList ++ reason.toList)) := by
  show ("could not read " ++ Text.quoteBy visible path ++ ": " ++ reason).toList = _
  rw [String.toList_append, String.toList_append, String.toList_append, List.append_assoc,
    List.append_assoc]

/-- The character that the message of a fault begins with. -/
def initial : Fault → Char
  | illegalLexeme _       => 'i'
  | sourceClosed          => 's'
  | sourceUnavailable _ _ => 'c'

lemma head?_toList_messageBy (visible : Char → Bool) (fault : Fault) (rest : List Char) :
    ((fault.messageBy visible).toList ++ rest).head? = some fault.initial := by
  cases fault with
  | illegalLexeme lexeme => rw [toList_illegal]; simp [initial]
  | sourceClosed => rw [toList_closed]; simp [initial]
  | sourceUnavailable path reason => rw [toList_unavailable]; simp [initial]

end Fault

namespace Error

/-- The cause in words and the position, for any notion of which characters can be seen. -/
def messageBy (visible : Char → Bool) (e : Error) : String :=
  e.fault.messageBy visible ++ " at " ++ e.position.text

lemma messageBy_isVisible (e : Error) : e.messageBy isVisible = e.message := by
  rw [messageBy, e.fault.messageBy_isVisible]
  rfl

/-- A source that could not be read is reported under its own path. -/
def NamesPath (e : Error) : Prop :=
  ∀ path reason, e.fault = .sourceUnavailable path reason → e.position.file = path

end Error

/-- Opening a source reports it under its own path. -/
lemma Reader.namesPath_of_openIn {d : Directory} {path : String} {e : Error}
    (h : Reader.openIn d path = .error e) : e.NamesPath := by
  unfold Reader.openIn at h
  split at h
  · cases h
  · next u _ =>
    obtain rfl := Except.error.inj h
    intro path' reason hfault
    obtain ⟨rfl, -⟩ := Fault.sourceUnavailable.inj hfault
    rfl

namespace Error

variable {visible : Char → Bool} {e e' : Error} {lexeme lexeme' path path' reason reason' : String}

lemma toList_messageBy (visible : Char → Bool) (e : Error) : (e.messageBy visible).toList =
    (e.fault.messageBy visible).toList ++ (" at ".toList ++ e.position.text.toList) := by
  rw [messageBy, String.toList_append, String.toList_append, List.append_assoc]

/-- Equal messages are equal in every character of cause and position. -/
lemma toList_eq_of_messageBy (h : e.messageBy visible = e'.messageBy visible) :
    (e.fault.messageBy visible).toList ++ (" at ".toList ++ e.position.text.toList) =
      (e'.fault.messageBy visible).toList ++ (" at ".toList ++ e'.position.text.toList) := by
  rw [← toList_messageBy, h, toList_messageBy]

/-- Equal messages are of one sort. -/
lemma initial_eq_of_messageBy (h : e.messageBy visible = e'.messageBy visible) :
    e.fault.initial = e'.fault.initial := by
  have hhead := congrArg List.head? (toList_eq_of_messageBy h)
  rw [Fault.head?_toList_messageBy, Fault.head?_toList_messageBy] at hhead
  exact Option.some.inj hhead

lemma eq_of_illegal (hfault : e.fault = .illegalLexeme lexeme)
    (hfault' : e'.fault = .illegalLexeme lexeme')
    (h : e.messageBy visible = e'.messageBy visible) :
    lexeme = lexeme' ∧ e.position = e'.position := by
  have hchars := toList_eq_of_messageBy h
  rw [hfault, hfault', Fault.toList_illegal, Fault.toList_illegal, List.append_assoc,
    List.append_assoc] at hchars
  obtain ⟨hlexeme, hposition⟩ := Text.eq_of_quoteBy_append (List.append_cancel_left hchars)
  exact ⟨hlexeme, Position.eq_of_text hposition⟩

lemma eq_of_closed (hfault : e.fault = .sourceClosed) (hfault' : e'.fault = .sourceClosed)
    (h : e.messageBy visible = e'.messageBy visible) : e.position = e'.position := by
  have hchars := toList_eq_of_messageBy h
  rw [hfault, hfault'] at hchars
  exact Position.eq_of_text (List.append_cancel_left hchars)

/-- With the path known, the reason ends where the file begins. -/
lemma eq_of_unavailable (hfault : e.fault = .sourceUnavailable path reason)
    (hfault' : e'.fault = .sourceUnavailable path' reason')
    (hpath : e.position.file = path) (hpath' : e'.position.file = path')
    (h : e.messageBy visible = e'.messageBy visible) :
    path = path' ∧ reason = reason' ∧ e.position = e'.position := by
  have hchars := toList_eq_of_messageBy h
  rw [hfault, hfault', Fault.toList_unavailable, Fault.toList_unavailable] at hchars
  simp only [List.append_assoc] at hchars
  obtain ⟨hquoted, hrest⟩ := Text.eq_of_quoteBy_append (List.append_cancel_left hchars)
  have htail : (reason.toList ++ " at ".toList) ++ e.position.text.toList =
      (reason'.toList ++ " at ".toList) ++ e'.position.text.toList := by
    rw [List.append_assoc, List.append_assoc]
    exact List.append_cancel_left hrest
  obtain ⟨hfront, hplace⟩ := Position.eq_of_append_text htail
  rw [hpath, hpath', hquoted] at hfront
  have hreason : reason.toList = reason'.toList :=
    List.append_cancel_right (List.append_cancel_right hfront)
  exact ⟨hquoted, String.toList_inj.1 hreason,
    Position.eq_of_parts (hpath.trans (hquoted.trans hpath'.symm)) hplace⟩

lemma eq_of_fields (hfault : e.fault = e'.fault) (hposition : e.position = e'.position) :
    e = e' := by
  obtain ⟨fault, position⟩ := e
  obtain ⟨fault', position'⟩ := e'
  simp_all

/-- Errors of opening and of scanning are told by their messages. -/
lemma eq_of_messageBy (hnames : e.NamesPath) (hnames' : e'.NamesPath)
    (h : e.messageBy visible = e'.messageBy visible) : e = e' := by
  have hinitial := initial_eq_of_messageBy h
  -- the six mixed pairs begin with different characters
  cases hfault : e.fault <;> cases hfault' : e'.fault <;> rw [hfault, hfault'] at hinitial
  case illegalLexeme.illegalLexeme =>
    obtain ⟨rfl, hposition⟩ := eq_of_illegal hfault hfault' h
    exact eq_of_fields (hfault.trans hfault'.symm) hposition
  case sourceClosed.sourceClosed =>
    exact eq_of_fields (hfault.trans hfault'.symm) (eq_of_closed hfault hfault' h)
  case sourceUnavailable.sourceUnavailable =>
    obtain ⟨rfl, rfl, hposition⟩ := eq_of_unavailable hfault hfault' (hnames _ _ hfault)
      (hnames' _ _ hfault') h
    exact eq_of_fields (hfault.trans hfault'.symm) hposition
  all_goals simp [Fault.initial] at hinitial

/-- A message tells its error, whatever stands in names, reasons and lexemes, and whichever
characters are taken to be visible; the error of a source that cannot be opened names its path. -/
theorem eq_of_message_eq :
    (∀ e : Error, e.messageBy isVisible = e.message) ∧
    (∀ (d : Directory) (path : String) (e : Error), Reader.openIn d path = .error e → e.NamesPath) ∧
    ∀ (visible : Char → Bool) (e e' : Error), e.NamesPath → e'.NamesPath →
      e.messageBy visible = e'.messageBy visible → e = e' := by
  refine ⟨messageBy_isVisible, ?_, ?_⟩
  · intro d path e h
    exact Reader.namesPath_of_openIn h
  · intro visible e e' hnames hnames' h
    exact eq_of_messageBy hnames hnames' h

/-- A folder and a reason that reads like one are one error, under a path that reads like the rest
of a message. -/
theorem eq_of_message_eq_folder :
    let e := Unreadable.isFolder.error "a\": b at c:1:2"
    let e' := (Unreadable.other "Is a directory (os error 21)").error "a\": b at c:1:2"
    Reader.openIn ⟨[("a\": b at c:1:2", .folder)]⟩ "a\": b at c:1:2" = .error e ∧
      e.messageBy isVisible = e'.messageBy isVisible ∧ e = e' := by
  intro e e'
  have hopen : Reader.openIn ⟨[("a\": b at c:1:2", .folder)]⟩ "a\": b at c:1:2" = .error e := by
    decide +kernel
  have hmessage : e.messageBy isVisible = e'.messageBy isVisible := rfl
  have hnames : e.NamesPath := eq_of_message_eq.2.1 _ _ _ hopen
  have hnames' : e'.NamesPath := by
    intro path reason hfault
    exact (Fault.sourceUnavailable.inj hfault).1
  exact ⟨hopen, hmessage, eq_of_message_eq.2.2 isVisible e e' hnames hnames' hmessage⟩

/-- With another file than the path, the same words can be divided in two ways. -/
example : (⟨.sourceUnavailable "p" "r", ⟨⟨1, 0⟩, "f at g"⟩⟩ : Error).message =
    (⟨.sourceUnavailable "p" "r at f", ⟨⟨1, 0⟩, "g"⟩⟩ : Error).message := by
  decide +kernel

end Error

end Lexis
