import Mathlib.Data.List.Basic

/-! Texts of words, double-quoted strings and marks of one character, read a character
at a time. Blanks part words; a quoted string has everything up to the next quote. -/
namespace Crabnet.Tokens

inductive Token where
  | word (letters : List Char)
  | quoted (letters : List Char)
  | mark (c : Char)
  deriving DecidableEq

structure Scanner where
  tokens : List Token
  pending : List Char
  inQuote : Bool

def Scanner.closed (s : Scanner) : List Token := if s.pending = [] then s.tokens else s.tokens ++ [.word s.pending]

def Scanner.start (past : List Token) : Scanner := ⟨past, [], false⟩

section
variable (isMark isBlank : Char → Bool)

def advance (s : Scanner) (c : Char) : Scanner :=
  if s.inQuote then
    if c = '"' then ⟨s.tokens ++ [.quoted s.pending], [], false⟩ else {s with pending := s.pending ++ [c]}
  else if c = '"' then ⟨s.closed, [], true⟩
  else if isMark c then ⟨s.closed ++ [.mark c], [], false⟩
  else if isBlank c then ⟨s.closed, [], false⟩
  else {s with pending := s.pending ++ [c]}

def tokenize (text : List Char) : Option (List Token) :=
  let last := text.foldl (advance isMark isBlank) (.start [])
  if last.inQuote then none else some last.closed

-- The statements of a text, each with the mark that ends it.
def statements (ending : Char) (text : List Char) : Option (List (List Token)) :=
  (tokenize isMark isBlank text).bind fun tokens =>
    let parts := tokens.splitOn (.mark ending)
    if parts.getLast? = some [] then some parts.dropLast else none

/-! Spelling: a text that adds exactly these tokens wherever a token may begin. -/

def Spells (text : List Char) (tokens : List Token) : Prop :=
  ∀ past, let last := text.foldl (advance isMark isBlank) (.start past)
    last.inQuote = false ∧ last.closed = past ++ tokens

end

variable {isMark isBlank : Char → Bool}

structure Letter (isMark isBlank : Char → Bool) (c : Char) : Prop where
  quote : c ≠ '"'
  mark : isMark c = false
  blank : isBlank c = false

theorem lettersRun {letters : List Char} (plain : ∀ c ∈ letters, Letter isMark isBlank c) (past : List Token)
    (pending : List Char) :
    letters.foldl (advance isMark isBlank) ⟨past, pending, false⟩ = ⟨past, pending ++ letters, false⟩ := by
  induction letters generalizing pending with
  | nil => simp
  | cons c rest ih =>
    have letter := plain c List.mem_cons_self
    have next := ih (fun other member => plain other (List.mem_cons_of_mem c member)) (pending ++ [c])
    rw [List.foldl_cons]
    simpa [advance, letter.quote, letter.mark, letter.blank] using next

theorem quoteRun {letters : List Char} (unquoted : '"' ∉ letters) (past : List Token) (pending : List Char) :
    letters.foldl (advance isMark isBlank) ⟨past, pending, true⟩ = ⟨past, pending ++ letters, true⟩ := by
  induction letters generalizing pending with
  | nil => simp
  | cons c rest ih =>
    obtain ⟨first, later⟩ := not_or.mp fun either => unquoted (List.mem_cons.mpr either)
    have next := ih later (pending ++ [c])
    rw [List.foldl_cons]
    simpa [advance, Ne.symm first] using next

theorem spellsNothing : Spells isMark isBlank [] [] := by
  intro past
  simp [Scanner.start, Scanner.closed]

theorem spellsWord {letters : List Char} (some_ : letters ≠ []) (plain : ∀ c ∈ letters, Letter isMark isBlank c) :
    Spells isMark isBlank letters [.word letters] := by
  intro past
  rw [Scanner.start, lettersRun plain]
  simp [Scanner.closed, some_]

theorem spellsQuoted {letters : List Char} (unquoted : '"' ∉ letters) :
    Spells isMark isBlank ('"' :: (letters ++ ['"'])) [.quoted letters] := by
  intro past
  rw [List.foldl_cons, List.foldl_append]
  have opened : advance isMark isBlank (.start past) '"' = ⟨past, [], true⟩ := by
    simp [advance, Scanner.start, Scanner.closed]
  rw [opened, quoteRun unquoted]
  simp [advance, Scanner.closed]

theorem spellsBlank {blank : Char} (blanks : isBlank blank = true) (unmarked : isMark blank = false) (other : blank ≠ '"')
    {text text' : List Char} {tokens tokens' : List Token} (first : Spells isMark isBlank text tokens)
    (second : Spells isMark isBlank text' tokens') :
    Spells isMark isBlank (text ++ blank :: text') (tokens ++ tokens') := by
  intro past
  obtain ⟨unquoted, closed⟩ := first past
  have parted : advance isMark isBlank (text.foldl (advance isMark isBlank) (.start past)) blank = .start (past ++ tokens) := by
    simp only [advance, unquoted, Bool.false_eq_true, if_false, if_neg other, unmarked, blanks, if_true, closed]
    rfl
  rw [List.foldl_append, List.foldl_cons, parted, ← List.append_assoc]
  exact second (past ++ tokens)

theorem spellsMark {mark : Char} (marks : isMark mark = true) (other : mark ≠ '"') {text text' : List Char}
    {tokens tokens' : List Token} (first : Spells isMark isBlank text tokens) (second : Spells isMark isBlank text' tokens') :
    Spells isMark isBlank (text ++ mark :: text') (tokens ++ .mark mark :: tokens') := by
  intro past
  obtain ⟨unquoted, closed⟩ := first past
  have parted : advance isMark isBlank (text.foldl (advance isMark isBlank) (.start past)) mark =
      .start (past ++ tokens ++ [.mark mark]) := by
    simp only [advance, unquoted, Bool.false_eq_true, if_false, if_neg other, marks, if_true, closed]
    rfl
  have rest := second (past ++ tokens ++ [.mark mark])
  rw [List.foldl_append, List.foldl_cons, parted]
  simpa using rest

/-! Statements. -/

theorem partsEnded {ending : Token} {parts : List (List Token)} (unended : ∀ part ∈ parts, ending ∉ part) :
    ((parts.map (· ++ [ending])).flatten).splitOn ending = parts ++ [[]] := by
  induction parts with
  | nil => simp
  | cons part rest ih =>
    have later := ih fun other member => unended other (List.mem_cons_of_mem part member)
    have here := unended part List.mem_cons_self
    rw [List.map_cons, List.flatten_cons, List.append_assoc, List.singleton_append,
      List.splitOn_append_cons_self_of_not_mem here, later, List.cons_append]

theorem statementsSpelled {ending : Char} {text : List Char} {parts : List (List Token)}
    (spells : Spells isMark isBlank text (parts.map (· ++ [.mark ending])).flatten)
    (unended : ∀ part ∈ parts, .mark ending ∉ part) : statements isMark isBlank ending text = some parts := by
  obtain ⟨unquoted, closed⟩ := spells []
  simp [statements, tokenize, unquoted, closed, partsEnded unended]

end Crabnet.Tokens
