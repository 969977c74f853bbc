import RemoteGateway.Proofs.Shell.Plain

/-!
# How the shell reads an assignment

A command that is only a word with a name, an equals sign and a value gives the **variable** of
that name the text that the value stands for. When the equals sign ends the word and parentheses
follow it, the variable gets the list of the words in them, which blanks or the ends of lines
keep apart.

`assignments?` reads assignments, a line each, from the beginning of some tokens and leaves what
stands behind them. A line `Assigns` when it is read as one assignment whatever comes after it;
with quoted values every line of the two forms does (`assigns_quote`, `assigns_list`).
-/

namespace RemoteGateway.Shell

/-- What a variable is given. -/
inductive Content where
  | text (value : String)
  | list (values : List String)
  deriving DecidableEq

/-! ### Reading -/

/-- The characters of the names of variables. -/
def isNameChar (c : Char) : Bool :=
  c.isAlphanum || c == '_'

/-- The name that a word begins with, up to the equals sign behind it, and what follows that. -/
def target? : List Piece → Option (List Char × List Piece)
  | .plain c :: pieces =>
    if c = '=' then some ([], pieces)
    else if isNameChar c then (target? pieces).map fun (name, value) => (c :: name, value)
    else none
  | _ => none

/-- The text that a value stands for. A tilde that is not quoted may be replaced, wherever in the
value it stands. -/
def text? (value : List Piece) : Option String :=
  if .plain '~' ∈ value then none else literal? value

/-- The texts of a list up to the parenthesis that ends it, and what stands behind that. -/
def listed? : List Token → Option (List String × List Token)
  | [] => none
  | .gap :: tokens => listed? tokens
  | .word pieces :: tokens =>
    (literal? pieces).bind fun text =>
      (listed? tokens).map fun (texts, rest) => (text :: texts, rest)
  | .mark c :: tokens =>
    if c = ')' then some ([], tokens)
    else if c = '\n' then listed? tokens
    else none

/-- The tokens behind the end of a line. -/
def afterLine? : List Token → Option (List Token)
  | .mark c :: tokens => if c = '\n' then some tokens else none
  | _ => none

/-- What a variable is given by the pieces behind the equals sign and the tokens behind their
word, and the tokens behind the line. -/
def content? (value : List Piece) (tokens : List Token) : Option (Content × List Token) :=
  if value = [] ∧ tokens.head? = some (.mark '(') then
    (listed? tokens.tail).bind fun (texts, rest) =>
      (afterLine? rest).map fun later => (.list texts, later)
  else
    (text? value).bind fun text =>
      (afterLine? tokens).map fun later => (.text text, later)

/-- The assignment that a line is, and what stands behind the line. A name does not begin with a
digit. -/
def assignment? : List Token → Option ((String × Content) × List Token)
  | .word pieces :: tokens =>
    (target? pieces).bind fun (name, value) =>
      if name.head?.any (!·.isDigit) then
        (content? value tokens).map fun (content, later) => ((String.ofList name, content), later)
      else none
  | _ => none

/-- Some assignments, and what stands behind their lines. -/
def assignments? : Nat → List Token → Option (List (String × Content) × List Token)
  | 0, tokens => some ([], tokens)
  | count + 1, tokens =>
    (assignment? tokens).bind fun (first, rest) =>
      (assignments? count rest).map fun (later, rest) => (first :: later, rest)

/-! ### Names -/

/-- A text that can be the name of a variable. -/
def IsName (name : String) : Prop :=
  (∀ c ∈ name.toList, isNameChar c) ∧ name.toList.head?.any (!·.isDigit)

instance (name : String) : Decidable (IsName name) :=
  decidable_of_iff (name.toList.all isNameChar ∧ name.toList.head?.any (!·.isDigit))
    (and_congr_left fun _ => List.all_eq_true)

/-- Nothing is special about the characters of names. -/
theorem not_isActive_of_isNameChar {c : Char} (h : isNameChar c) :
    isActive c = false ∧ c ≠ '#' ∧ c ≠ '~' ∧ c ≠ '=' := by
  refine ⟨?_, ?_, ?_, ?_⟩
  · by_contra hactive
    simp only [Bool.not_eq_false, isActive, isGap, isMark, isPattern, isLead, Bool.or_eq_true,
      beq_iff_eq, List.contains_eq_mem, decide_eq_true_eq, List.mem_cons, List.not_mem_nil,
      or_false] at hactive
    rcases hactive with
      (((rfl | rfl) | rfl | rfl | rfl | rfl | rfl | rfl | rfl | rfl) | rfl | rfl | rfl) |
        rfl | rfl | rfl | rfl | rfl <;> exact absurd h (by decide)
  all_goals
    rintro rfl
    exact absurd h (by decide)

theorem areInert_name {name : String} (h : IsName name) : AreInert (name.toList ++ ['=']) := by
  refine ⟨fun c hc => ?_, fun c hc => ?_⟩
  · rcases List.mem_append.mp hc with hc | hc
    · exact (not_isActive_of_isNameChar (h.1 c hc)).1
    · rw [List.mem_singleton.mp hc]
      decide
  · rcases List.mem_append.mp (List.mem_of_mem_head? hc) with hc | hc
    · obtain ⟨-, hcomment, htilde, -⟩ := not_isActive_of_isNameChar (h.1 c hc)
      exact ⟨hcomment, htilde⟩
    · rw [List.mem_singleton.mp hc]
      decide

/-- A name with an equals sign behind it begins a word. -/
theorem run_name {name : String} (h : IsName name) :
    Scan.start.run (name.toList ++ ['=']) =
      ([], .inside [] (some ((name.toList ++ ['=']).map .plain))) :=
  Scan.run_start_of_areInert (List.concat_ne_nil '=' name.toList) (areInert_name h)

theorem target?_append {name : List Char} (h : ∀ c ∈ name, isNameChar c) (value : List Piece) :
    target? ((name ++ ['=']).map .plain ++ value) = some (name, value) := by
  induction name with
  | nil => rfl
  | cons c name ih =>
    have hc : isNameChar c := h c List.mem_cons_self
    have hname := ih fun d hd => h d (List.mem_cons_of_mem c hd)
    rw [List.cons_append, List.map_cons, List.cons_append, target?,
      if_neg (not_isActive_of_isNameChar hc).2.2.2, if_pos hc, hname, Option.map_some]

/-- What stands behind a name decides what its variable is given. -/
theorem assignment?_word {name : String} (h : IsName name) {value : List Piece}
    {tokens rest : List Token} {content : Content}
    (hcontent : content? value tokens = some (content, rest)) :
    assignment? (.word ((name.toList ++ ['=']).map .plain ++ value) :: tokens) =
      some ((name, content), rest) := by
  rw [assignment?, target?_append h.1, Option.bind_some]
  dsimp only
  rw [if_pos h.2, hcontent, Option.map_some, String.ofList_toList]

/-! ### Lines that assign -/

/-- A line is read as one assignment, whatever comes behind it. -/
def Assigns (line : String) (assigned : String × Content) : Prop :=
  ∃ tokens, Scan.start.run (line ++ "\n").toList = (tokens, Scan.start) ∧
    ∀ rest, assignment? (tokens ++ rest) = some (assigned, rest)

/-- A text that is read as a value behind whatever stands in front of it is the value that a
variable gets. -/
theorem assigns_of_run {name value text : String} {pieces : List Piece} (h : IsName name)
    (hrun : ∀ word, (Scan.inside [] (some word)).run text.toList =
      ([], .inside [] (some (word ++ pieces))))
    (hvalue : text? pieces = some value) :
    Assigns (name ++ "=" ++ text) (name, .text value) := by
  refine ⟨[.word ((name.toList ++ ['=']).map .plain ++ pieces), .mark '\n'], ?_, fun rest => ?_⟩
  · have hequals : (name ++ "=").toList = name.toList ++ ['='] := String.toList_append
    rw [String.toList_append, String.toList_append, hequals, List.append_assoc,
      Scan.run_append_of_run (run_name h), Scan.run_append_of_run (hrun _)]
    rfl
  · refine assignment?_word h ?_
    have hmark : ¬ (pieces = [] ∧ (Token.mark '\n' :: rest).head? = some (.mark '(')) := by
      rintro ⟨-, hparenthesis⟩
      cases hparenthesis
    rw [content?]
    exact (if_neg hmark).trans (congrArg (Option.bind · _) hvalue)

/-- **A variable gets a quoted text as it is.** -/
theorem assigns_quote {name : String} (h : IsName name) (value : String) :
    Assigns (name ++ "=" ++ quote value) (name, .text value) := by
  have hquoted : Piece.plain '~' ∉ value.toList.map Piece.quoted := by
    intro hmem
    obtain ⟨c, -, hc⟩ := List.mem_map.mp hmem
    cases hc
  refine assigns_of_run h (fun word => Scan.run_quote (some word) value) ?_
  rw [text?, if_neg hquoted, literal?_quoted]

/-- A list is read up to the parenthesis that ends it. -/
theorem exists_listed? {values texts : List String} (h : List.Forall₂ IsWordOf values texts) :
    ∃ tokens, Scan.start.run (" ".intercalate texts ++ ")").toList = (tokens, Scan.start) ∧
      ∀ rest, listed? (tokens ++ rest) = some (values, rest) := by
  induction h with
  | nil => exact ⟨[.mark ')'], rfl, fun rest => rfl⟩
  | @cons value text values texts hfirst hlater ih =>
    obtain ⟨pieces, hrun, hliteral⟩ := hfirst
    have hlisted : ∀ tokens, listed? (.word pieces :: tokens) =
        (listed? tokens).map fun (texts, rest) => (value :: texts, rest) := by
      intro tokens
      rw [listed?, hliteral, Option.bind_some]
    cases texts with
    | nil =>
      cases hlater
      refine ⟨[.word pieces, .mark ')'], ?_, fun rest => hlisted (.mark ')' :: rest)⟩
      rw [String.intercalate_singleton, String.toList_append, Scan.run_append_of_run hrun]
      rfl
    | cons next texts =>
      obtain ⟨tokens, htokens, hrest⟩ := ih
      refine ⟨.word pieces :: .gap :: tokens, ?_, fun rest => ?_⟩
      · have hblank : Scan.start.run (text.toList ++ " ".toList) =
            ([.word pieces, .gap], Scan.start) := by
          rw [Scan.run_append_of_run hrun]
          rfl
        rw [String.intercalate_cons_cons, String.append_assoc, String.toList_append,
          String.toList_append, Scan.run_append, hblank, htokens]
        rfl
      · have hgap : listed? (.gap :: (tokens ++ rest)) = some (values, rest) := hrest rest
        rw [List.cons_append, List.cons_append, hlisted, hgap, Option.map_some]

/-- **A variable gets the list of the words in parentheses.** -/
theorem assigns_list {name : String} (h : IsName name) {values texts : List String}
    (hwords : List.Forall₂ IsWordOf values texts) :
    Assigns (name ++ "=(" ++ (" ".intercalate texts ++ ")")) (name, .list values) := by
  obtain ⟨tokens, htokens, hlisted⟩ := exists_listed? hwords
  refine ⟨.word ((name.toList ++ ['=']).map .plain) :: .mark '(' :: (tokens ++ [.mark '\n']), ?_,
    fun rest => ?_⟩
  · have hopen : (name ++ "=(").toList = name.toList ++ ['='] ++ ['('] := by
      rw [List.append_assoc]
      exact String.toList_append
    have hname : Scan.start.run (name ++ "=(").toList =
        ([.word ((name.toList ++ ['=']).map .plain), .mark '('], Scan.start) := by
      rw [hopen, Scan.run_append_of_run (run_name h)]
      rfl
    rw [String.toList_append, String.toList_append, List.append_assoc, Scan.run_append, hname,
      Scan.run_append, htokens]
    rfl
  · have hcontent : content? [] (.mark '(' :: (tokens ++ [.mark '\n'] ++ rest)) =
        some (.list values, rest) := by
      rw [content?, if_pos ⟨rfl, rfl⟩, List.tail_cons, List.append_assoc, hlisted, Option.bind_some]
      rfl
    have hassignment := assignment?_word h hcontent
    rw [List.append_nil] at hassignment
    exact hassignment

/-- **Lines that assign are read one after the other.** -/
theorem exists_assignments? {lines : List String} {assigned : List (String × Content)}
    (h : List.Forall₂ Assigns lines assigned) :
    ∃ tokens,
      Scan.start.run (String.join (lines.map (· ++ "\n"))).toList = (tokens, Scan.start) ∧
      ∀ rest, assignments? assigned.length (tokens ++ rest) = some (assigned, rest) := by
  induction h with
  | nil => exact ⟨[], rfl, fun rest => rfl⟩
  | @cons line first lines assigned hline _ ih =>
    obtain ⟨tokens, htokens, hfirst⟩ := hline
    obtain ⟨later, hlater, hassigned⟩ := ih
    refine ⟨tokens ++ later, ?_, fun rest => ?_⟩
    · rw [List.map_cons, String.join_cons, String.toList_append, Scan.run_append, htokens, hlater]
    · rw [List.length_cons, assignments?, List.append_assoc, hfirst, Option.bind_some]
      dsimp only
      rw [hassigned, Option.map_some]

end RemoteGateway.Shell
