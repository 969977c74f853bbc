import Mathlib.Tactic.SplitIfs
import RemoteGateway.Proxy.Configuration

/-!
# Reading a configuration of the proxy

The proxy reads its configuration character by character. Words are separated by white space,
a semicolon ends a simple directive, braces enclose the body of a block, and a hash in front of
a directive makes the rest of the line a comment. `Reader` is where such a reading stands, and
`read` the configuration that a text turns out to be. Quotes, variables and escapes are left in
their words, so names and paths are what they are written as.

A configuration that is written out is read back as its `clauses`, provided that no name or
argument contains a mark that ends a directive (`read_write`). The proof follows the lines of the
text: a reader that stands in front of a directive has read it whole after its last line break
(`run_lines`).
-/

namespace RemoteGateway.Proxy

/-- A directive as it is read: its words, and the body if it is a block. -/
inductive Clause where
  | simple (words : List String)
  | block (words : List String) (body : List Clause)

/-! ### Words -/

/-- White space between words. -/
def isSeparator (c : Char) : Bool :=
  c == ' ' || c == '\t' || c == '\r' || c == '\n'

/-- A mark that ends a directive, or opens or closes a body. -/
def isMark (c : Char) : Bool :=
  c == ';' || c == '\x7b' || c == '\x7d'

/-- The words of a text. -/
def wordsOf (text : List Char) : List String :=
  ((text.splitOnP isSeparator).filter fun word => !word.isEmpty).map String.ofList

/-- A word that has been read, if there is one. -/
def wordIfAny (word : List Char) : List String :=
  if word = [] then [] else [String.ofList word]

section

variable {word text more : List Char}

/-- A text without separators is one word at most. -/
theorem wordsOf_eq (h : ∀ c ∈ word, isSeparator c = false) : wordsOf word = wordIfAny word := by
  rw [wordsOf, List.splitOnP_eq_singleton h, wordIfAny]
  cases word with
  | nil => rfl
  | cons c word => rfl

/-- Words are counted apart on both sides of a separator. -/
theorem wordsOf_append_separator {separator : Char} (h : isSeparator separator = true) :
    wordsOf (text ++ separator :: more) = wordsOf text ++ wordsOf more := by
  rw [wordsOf, List.splitOnP_append_cons _ _ h, List.filter_append, List.map_append]
  rfl

theorem wordsOf_separators {gap : List Char} (h : ∀ c ∈ gap, isSeparator c = true) :
    wordsOf (gap ++ text) = wordsOf text := by
  induction gap with
  | nil => rfl
  | cons c gap ih =>
    obtain ⟨hc, hgap⟩ := List.forall_mem_cons.mp h
    rw [List.cons_append, ← ih hgap]
    exact (wordsOf_append_separator hc : wordsOf ([] ++ c :: (gap ++ text)) = _)

end

/-! ### The reader -/

/-- Where the reading of a configuration stands. -/
structure Reader where
  /-- For each block that is open: what was read before it, and its words. -/
  outer : List (List Clause × List String)
  /-- What was read of the innermost block. -/
  done : List Clause
  /-- The words of the current directive that are complete. -/
  words : List String
  /-- The characters of the current word. -/
  word : List Char
  comment : Bool

namespace Reader

/-- A reader in front of a directive. -/
def between (outer : List (List Clause × List String)) (done : List Clause) : Reader :=
  ⟨outer, done, [], [], false⟩

/-- All words of the current directive. -/
def current (reader : Reader) : List String :=
  reader.words ++ wordIfAny reader.word

/-- Reads a character. A directive without words ends the reading, and so does a brace that
closes no block or interrupts a directive. -/
def step (reader : Reader) (c : Char) : Option Reader :=
  if reader.comment then some { reader with comment := c != '\n' }
  else if c = ';' then
    if reader.current = [] then none
    else some (between reader.outer (reader.done ++ [.simple reader.current]))
  else if c = '\x7b' then
    if reader.current = [] then none
    else some (between ((reader.done, reader.current) :: reader.outer) [])
  else if c = '\x7d' then
    match reader.outer with
    | [] => none
    | (before, header) :: outer =>
      if reader.current = [] then some (between outer (before ++ [.block header reader.done]))
      else none
  else if isSeparator c then some { reader with words := reader.current, word := [] }
  else if c = '#' ∧ reader.current = [] then some { reader with comment := true }
  else some { reader with word := reader.word ++ [c] }

/-- Reads a text. -/
def run (reader : Reader) : List Char → Option Reader
  | [] => some reader
  | c :: text => (reader.step c).bind fun next => next.run text

end Reader

/-- The configuration that a text writes, if it is complete. -/
def read (text : String) : Option (List Clause) :=
  match (Reader.between [] []).run text.toList with
  | some reader =>
    if reader.outer.isEmpty ∧ reader.current = [] then some reader.done else none
  | none => none

/-- A text is read as a configuration with a property. -/
def ReadsAs (text : String) (property : List Clause → Prop) : Prop :=
  ∃ configuration, read text = some configuration ∧ property configuration

/-- A text is read as one configuration only. -/
theorem ReadsAs.and {text : String} {property other : List Clause → Prop}
    (h : ReadsAs text property) (h' : ReadsAs text other) :
    ReadsAs text fun configuration => property configuration ∧ other configuration := by
  obtain ⟨configuration, hread, hproperty⟩ := h
  obtain ⟨same, hsame, hother⟩ := h'
  rw [hread] at hsame
  rw [← Option.some.inj hsame] at hother
  exact ⟨configuration, hread, hproperty, hother⟩

/-! ### Reading a directive -/

namespace Reader

variable {reader : Reader} {c : Char} {text : List Char}
  {outer : List (List Clause × List String)} {done : List Clause}

theorem run_append (reader : Reader) (text more : List Char) :
    reader.run (text ++ more) = (reader.run text).bind fun next => next.run more := by
  induction text generalizing reader with
  | nil => rfl
  | cons c text ih =>
    rw [List.cons_append, run, run]
    cases reader.step c with
    | none => rfl
    | some next => exact ih next

theorem step_separator (hcomment : reader.comment = false) (hmark : isMark c = false)
    (hseparator : isSeparator c = true) :
    reader.step c = some { reader with words := reader.current, word := [] } := by
  simp only [isMark, Bool.or_eq_false_iff, beq_eq_false_iff_ne] at hmark
  rw [step, hcomment, if_neg Bool.false_ne_true, if_neg hmark.1.1, if_neg hmark.1.2,
    if_neg hmark.2, if_pos hseparator]

theorem step_word (hcomment : reader.comment = false) (hmark : isMark c = false)
    (hseparator : isSeparator c = false) (hstart : c ≠ '#' ∨ reader.current ≠ []) :
    reader.step c = some { reader with word := reader.word ++ [c] } := by
  simp only [isMark, Bool.or_eq_false_iff, beq_eq_false_iff_ne] at hmark
  have hhash : ¬ (c = '#' ∧ reader.current = []) := by
    rintro ⟨hc, hcurrent⟩
    exact hstart.elim (fun h => h hc) fun h => h hcurrent
  rw [step, hcomment, if_neg Bool.false_ne_true, if_neg hmark.1.1, if_neg hmark.1.2,
    if_neg hmark.2, if_neg (Bool.eq_false_iff.mp hseparator), if_neg hhash]

/-- Separators in front of a directive are passed over. -/
theorem run_separators (h : ∀ c ∈ text, isSeparator c = true) :
    (between outer done).run text = some (between outer done) := by
  induction text with
  | nil => rfl
  | cons c text ih =>
    obtain ⟨hc, htext⟩ := List.forall_mem_cons.mp h
    have hmark : isMark c = false := by
      simp only [isSeparator, Bool.or_eq_true, beq_iff_eq] at hc
      rcases hc with ((rfl | rfl) | rfl) | rfl <;> rfl
    rw [run, step_separator rfl hmark hc]
    exact ih htext

/-- A reader in the middle of a directive, of which it has read some words. -/
structure Within (outer : List (List Clause × List String)) (done : List Clause)
    (words : List String) (reader : Reader) : Prop where
  outer_eq : reader.outer = outer
  done_eq : reader.done = done
  comment_eq : reader.comment = false
  current_eq : reader.current = words

/-- The words of the text that a directive goes on with are added to those before. The current
word may go on, so it is put in front of the text. -/
theorem run_words (reader : Reader) (hcomment : reader.comment = false)
    (hcurrent : reader.current ≠ []) (hword : ∀ c ∈ reader.word, isSeparator c = false)
    (htext : ∀ c ∈ text, isMark c = false) :
    ∃ last, reader.run text = some last ∧
      Within reader.outer reader.done (reader.words ++ wordsOf (reader.word ++ text)) last := by
  induction text generalizing reader with
  | nil =>
    refine ⟨reader, rfl, rfl, rfl, hcomment, ?_⟩
    rw [List.append_nil, wordsOf_eq hword, current]
  | cons c text ih =>
    obtain ⟨hc, htext⟩ := List.forall_mem_cons.mp htext
    -- A separator completes the current word, and any other character goes on with it.
    by_cases hseparator : isSeparator c = true
    · have hnext : ({ reader with words := reader.current, word := [] } : Reader).current =
          reader.current := List.append_nil _
      obtain ⟨last, hrun, hlast⟩ := ih { reader with words := reader.current, word := [] }
        hcomment (by rw [hnext]; exact hcurrent) (fun _ hmem => absurd hmem List.not_mem_nil) htext
      refine ⟨last, ?_, ?_⟩
      · rw [run, step_separator hcomment hc hseparator]
        exact hrun
      · rw [wordsOf_append_separator hseparator, wordsOf_eq hword, ← List.append_assoc]
        exact hlast
    · have hsep : isSeparator c = false := Bool.eq_false_iff.mpr hseparator
      have hnext : ({ reader with word := reader.word ++ [c] } : Reader).current ≠ [] := by
        rw [current, wordIfAny, if_neg (by simp)]
        simp
      have hword' : ∀ d ∈ reader.word ++ [c], isSeparator d = false := by
        intro d hd
        rcases List.mem_append.mp hd with hd | hd
        · exact hword d hd
        · rw [List.mem_singleton.mp hd]
          exact hsep
      obtain ⟨last, hrun, hlast⟩ := ih { reader with word := reader.word ++ [c] } hcomment hnext
        hword' htext
      refine ⟨last, ?_, ?_⟩
      · rw [run, step_word hcomment hc hsep (.inr hcurrent)]
        exact hrun
      · rw [List.append_cons]
        exact hlast

/-- A directive is read as its words, up to the mark that ends it. -/
theorem run_directive {first : Char} (hmark : ∀ c ∈ first :: text, isMark c = false)
    (hfirst : isSeparator first = false) (hhash : first ≠ '#') :
    ∃ last, (between outer done).run (first :: text) = some last ∧
      Within outer done (wordsOf (first :: text)) last := by
  obtain ⟨hc, htext⟩ := List.forall_mem_cons.mp hmark
  have hword : ∀ c ∈ [first], isSeparator c = false := by
    intro c hmem
    rw [List.mem_singleton.mp hmem]
    exact hfirst
  obtain ⟨last, hrun, hlast⟩ := run_words ⟨outer, done, [], [first], false⟩ rfl
    (List.cons_ne_nil _ _) hword htext
  refine ⟨last, ?_, hlast⟩
  rw [run, step_word rfl hc hfirst (.inl hhash)]
  exact hrun

/-- A semicolon ends a directive. -/
theorem Within.semicolon {words : List String} (h : Within outer done words reader)
    (hwords : words ≠ []) :
    reader.step ';' = some (between outer (done ++ [.simple words])) := by
  obtain ⟨rfl, rfl, hcomment, rfl⟩ := h
  rw [step, hcomment, if_neg Bool.false_ne_true, if_pos rfl, if_neg hwords]

/-- A brace opens the body of a block. -/
theorem Within.opening {words : List String} (h : Within outer done words reader)
    (hwords : words ≠ []) :
    reader.step '\x7b' = some (between ((done, words) :: outer) []) := by
  obtain ⟨rfl, rfl, hcomment, rfl⟩ := h
  have hsemicolon : ¬ '\x7b' = ';' := by decide
  rw [step, hcomment, if_neg Bool.false_ne_true, if_neg hsemicolon, if_pos rfl, if_neg hwords]

/-- The rest of the line is passed over behind a hash. -/
theorem run_comment (h : '\n' ∉ text) :
    (between outer done).run ('#' :: (text ++ ['\n'])) = some (between outer done) := by
  have hrest : (Reader.mk outer done [] [] true).run (text ++ ['\n']) =
      some (between outer done) := by
    induction text with
    | nil => rfl
    | cons c text ih =>
      rw [List.mem_cons, not_or] at h
      obtain ⟨hc, htext⟩ := h
      have hstep : (Reader.mk outer done [] [] true).step c =
          some (Reader.mk outer done [] [] true) := by
        rw [step, if_pos rfl]
        simp [Ne.symm hc]
      rw [List.cons_append, run, hstep]
      exact ih htext
  exact hrest

end Reader

/-! ### Reading what was written -/

namespace Directive

/-- The words in front of the body of a block. -/
def headerWords (name : String) : Option String → List String
  | none => [name]
  | some arguments => name :: wordsOf arguments.toList

mutual

/-- What a directive is read as. -/
def clauses : Directive → List Clause
  | blank => []
  | comment _ => []
  | simple name _ arguments => [.simple (name :: wordsOf arguments.toList)]
  | block name arguments body => [.block (headerWords name arguments) (clausesAll body)]

/-- What a sequence of directives is read as. -/
def clausesAll : List Directive → List Clause
  | [] => []
  | directive :: rest => directive.clauses ++ clausesAll rest

end

/-- A name is one word, and no comment. -/
def isName (name : String) : Bool :=
  !name.toList.isEmpty && name.toList.all fun c => !isSeparator c && !isMark c && c != '#'

/-- No mark ends a directive inside the text. -/
def isPlain (text : String) : Bool :=
  text.toList.all fun c => !isMark c

mutual

/-- A directive whose names and arguments are read as they are written. -/
def isReadable : Directive → Bool
  | blank => true
  | comment text => !text.toList.contains '\n'
  | simple name gap arguments => isName name && gap != 0 && isPlain arguments
  | block name arguments body => isName name && arguments.all isPlain && isReadableAll body

/-- A sequence of such directives. -/
def isReadableAll : List Directive → Bool
  | [] => true
  | directive :: rest => directive.isReadable && isReadableAll rest

end

/-- The text of some lines. -/
def textOf (lines : List String) : List Char :=
  lines.flatMap fun line => line.toList ++ ['\n']

theorem textOf_append (lines more : List String) :
    textOf (lines ++ more) = textOf lines ++ textOf more :=
  List.flatMap_append

theorem textOf_cons (line : String) (lines : List String) :
    textOf (line :: lines) = line.toList ++ '\n' :: textOf lines := by
  rw [textOf, List.flatMap_cons, List.append_assoc]
  rfl

theorem toList_write (directives : List Directive) :
    (write directives).toList = textOf (linesAll 0 directives) := by
  have hline : (fun line : String => (line ++ "\n").toList) = fun line => line.toList ++ ['\n'] :=
    funext fun line => String.toList_append
  rw [write, String.toList_join, List.flatMap_map, textOf]
  exact congrArg (fun f => (linesAll 0 directives).flatMap f) hline

theorem isSeparator_of_mem_indentation {level : Nat} {c : Char}
    (h : c ∈ (indentation level).toList) : isSeparator c = true := by
  rw [indentation, String.toList_ofList] at h
  rw [List.eq_of_mem_replicate h]
  rfl

section

variable {name arguments : String}

theorem mem_of_isName (h : isName name = true) {c : Char} (hc : c ∈ name.toList) :
    isSeparator c = false ∧ isMark c = false ∧ c ≠ '#' := by
  rw [isName, Bool.and_eq_true, List.all_eq_true] at h
  simpa [and_assoc] using h.2 c hc

theorem toList_ne_nil_of_isName (h : isName name = true) : name.toList ≠ [] := by
  rw [isName, Bool.and_eq_true] at h
  simpa using h.1

theorem not_isMark_of_isPlain (h : isPlain arguments = true) {c : Char}
    (hc : c ∈ arguments.toList) : isMark c = false := by
  rw [isPlain, List.all_eq_true] at h
  simpa using h c hc

/-- A name is a word of its own. -/
theorem wordsOf_name (h : isName name = true) : wordsOf name.toList = [name] := by
  rw [wordsOf_eq fun c hc => (mem_of_isName h hc).1, wordIfAny,
    if_neg (toList_ne_nil_of_isName h), String.ofList_toList]

/-- The spaces behind a name belong to no word. -/
theorem wordsOf_gap (h : isName name = true) {gap : Nat} (hgap : gap ≠ 0) (text : List Char) :
    wordsOf (name.toList ++ (List.replicate gap ' ' ++ text)) = name :: wordsOf text := by
  obtain ⟨gap, rfl⟩ := Nat.exists_eq_succ_of_ne_zero hgap
  have hspace : ∀ c ∈ List.replicate gap ' ', isSeparator c = true := by
    intro c hc
    rw [List.eq_of_mem_replicate hc]
    rfl
  rw [List.replicate_succ, List.cons_append, wordsOf_append_separator rfl, wordsOf_name h,
    wordsOf_separators hspace]
  rfl

theorem headerWords_ne_nil (name : String) (arguments : Option String) :
    headerWords name arguments ≠ [] := by
  cases arguments with
  | none => exact List.cons_ne_nil _ _
  | some arguments => exact List.cons_ne_nil _ _

/-- In front of the brace that opens a block stand the words of its header. -/
theorem exists_header {arguments : Option String} (h : isName name = true)
    (harguments : arguments.all isPlain = true) :
    ∃ text, (∀ c ∈ text, isMark c = false) ∧
      (header name arguments).toList ++ [' '] = name.toList ++ text ∧
      wordsOf (name.toList ++ text) = headerWords name arguments := by
  cases arguments with
  | none =>
    refine ⟨[' '], fun c hc => ?_, rfl, ?_⟩
    · rw [List.mem_singleton.mp hc]
      rfl
    · rw [wordsOf_append_separator rfl, wordsOf_name h]
      rfl
  | some arguments =>
    refine ⟨' ' :: (arguments.toList ++ [' ']), fun c hc => ?_, ?_, ?_⟩
    · simp only [List.mem_cons, List.mem_append, List.not_mem_nil, or_false] at hc
      rcases hc with rfl | hc | rfl
      · rfl
      · exact not_isMark_of_isPlain harguments hc
      · rfl
    · simp only [header, String.toList_append, List.append_assoc]
      rfl
    · rw [wordsOf_append_separator rfl, wordsOf_name h, wordsOf_append_separator rfl]
      exact congrArg (name :: ·) (List.append_nil _)

/-- The reader has seen the words of a directive when it gets to the mark behind them. -/
theorem run_header (level : Nat) (h : isName name = true) {text : List Char}
    (htext : ∀ c ∈ text, isMark c = false) (outer : List (List Clause × List String))
    (done : List Clause) :
    ∃ last, (Reader.between outer done).run
        ((indentation level).toList ++ (name.toList ++ text)) = some last ∧
      Reader.Within outer done (wordsOf (name.toList ++ text)) last := by
  rw [Reader.run_append, Reader.run_separators fun _ => isSeparator_of_mem_indentation]
  have hname := toList_ne_nil_of_isName h
  have hchars := fun c => mem_of_isName (c := c) h
  cases hlist : name.toList with
  | nil => exact absurd hlist hname
  | cons first rest =>
    rw [hlist] at hchars
    obtain ⟨hseparator, -, hhash⟩ := hchars first List.mem_cons_self
    refine Reader.run_directive (fun c hc => ?_) hseparator hhash
    have hc : c ∈ (first :: rest) ++ text := hc
    rcases List.mem_append.mp hc with hc | hc
    · exact (hchars c hc).2.1
    · exact htext c hc

end

/-- A block is read whole when its body is. -/
theorem run_block (level : Nat) {name : String} {arguments : Option String}
    {body : List Directive} {inner : List Clause} (hname : isName name = true)
    (harguments : arguments.all isPlain = true)
    (hbody : ∀ outer done, (Reader.between outer done).run (textOf (linesAll (level + 1) body)) =
      some (Reader.between outer (done ++ inner)))
    (outer : List (List Clause × List String)) (done : List Clause) :
    (Reader.between outer done).run (textOf ((block name arguments body).lines level)) =
      some (Reader.between outer (done ++ [.block (headerWords name arguments) inner])) := by
  obtain ⟨text, htext, hheader, hwords⟩ := exists_header hname harguments
  obtain ⟨last, hrun, hlast⟩ := run_header level hname htext outer done
  rw [hwords] at hlast
  have hlines : textOf ((block name arguments body).lines level) =
      ((indentation level).toList ++ (name.toList ++ text)) ++ '\x7b' :: (['\n'] ++
        (textOf (linesAll (level + 1) body) ++
          ((indentation level).toList ++ ['\x7d', '\n']))) := by
    rw [← hheader, lines, textOf_cons, textOf_append, textOf_cons]
    simp only [String.toList_append, List.append_assoc]
    rfl
  have hbreak : ∀ c ∈ ['\n'], isSeparator c = true := by
    intro c hc
    rw [List.mem_singleton.mp hc]
    rfl
  -- Header, opening brace, body and closing brace are read one after the other.
  rw [hlines, Reader.run_append, hrun, Option.bind_some, Reader.run,
    hlast.opening (headerWords_ne_nil name arguments), Option.bind_some, Reader.run_append,
    Reader.run_separators hbreak, Option.bind_some, Reader.run_append, hbody, Option.bind_some,
    Reader.run_append, Reader.run_separators fun _ => isSeparator_of_mem_indentation]
  rfl

mutual

/-- **A directive is read whole** when its last line is. -/
theorem run_lines (level : Nat) (directive : Directive) (h : directive.isReadable = true)
    (outer : List (List Clause × List String)) (done : List Clause) :
    (Reader.between outer done).run (textOf (directive.lines level)) =
      some (Reader.between outer (done ++ directive.clauses)) := by
  cases directive with
  | blank =>
    rw [clauses, List.append_nil]
    rfl
  | comment text =>
    have htext : '\n' ∉ ' ' :: text.toList := by
      rw [isReadable] at h
      simpa using h
    rw [lines, textOf_cons, clauses, List.append_nil, String.toList_append, String.toList_append,
      List.append_assoc, List.append_assoc, Reader.run_append,
      Reader.run_separators fun _ => isSeparator_of_mem_indentation]
    change (Reader.between outer done).run ('#' :: (' ' :: text.toList ++ ['\n'])) = _
    exact Reader.run_comment htext
  | simple name gap arguments =>
    simp only [isReadable, Bool.and_eq_true] at h
    obtain ⟨⟨hname, hgap⟩, harguments⟩ := h
    have hplain : ∀ c ∈ List.replicate gap ' ' ++ arguments.toList, isMark c = false := by
      intro c hc
      rcases List.mem_append.mp hc with hc | hc
      · rw [List.eq_of_mem_replicate hc]
        rfl
      · exact not_isMark_of_isPlain harguments hc
    obtain ⟨last, hrun, hlast⟩ := run_header level hname hplain outer done
    rw [wordsOf_gap hname (by simpa using hgap)] at hlast
    have htext : textOf ((simple name gap arguments).lines level) =
        ((indentation level).toList ++
          (name.toList ++ (List.replicate gap ' ' ++ arguments.toList))) ++ [';', '\n'] := by
      rw [lines, textOf_cons]
      simp only [String.toList_append, String.toList_ofList, List.append_assoc]
      rfl
    rw [htext, Reader.run_append, hrun, Option.bind_some, Reader.run,
      hlast.semicolon (List.cons_ne_nil _ _), clauses]
    rfl
  | block name arguments body =>
    simp only [isReadable, Bool.and_eq_true] at h
    obtain ⟨⟨hname, harguments⟩, hbody⟩ := h
    exact run_block level hname harguments (run_linesAll (level + 1) body hbody) outer done

theorem run_linesAll (level : Nat) (directives : List Directive)
    (h : isReadableAll directives = true) (outer : List (List Clause × List String))
    (done : List Clause) :
    (Reader.between outer done).run (textOf (linesAll level directives)) =
      some (Reader.between outer (done ++ clausesAll directives)) := by
  cases directives with
  | nil =>
    rw [clausesAll, List.append_nil]
    rfl
  | cons directive rest =>
    rw [isReadableAll, Bool.and_eq_true] at h
    rw [linesAll, textOf_append, Reader.run_append, run_lines level directive h.1 outer done,
      Option.bind_some, run_linesAll level rest h.2, clausesAll, List.append_assoc]

end

/-- Some directives are read as clauses, wherever they stand. -/
def AreRead (directives : List Directive) (clauses : List Clause) : Prop :=
  ∀ level outer done, (Reader.between outer done).run (textOf (linesAll level directives)) =
    some (Reader.between outer (done ++ clauses))

theorem areRead_of_isReadableAll {directives : List Directive}
    (h : isReadableAll directives = true) : AreRead directives (clausesAll directives) :=
  fun level => run_linesAll level directives h

end Directive

theorem read_of_areRead {directives : List Directive} {clauses : List Clause}
    (h : Directive.AreRead directives clauses) :
    read (Directive.write directives) = some clauses := by
  rw [read, Directive.toList_write, h 0 [] []]
  rfl

/-- **What was written is read back.** -/
theorem read_write {directives : List Directive} (h : Directive.isReadableAll directives = true) :
    read (Directive.write directives) = some (Directive.clausesAll directives) :=
  read_of_areRead (Directive.areRead_of_isReadableAll h)

end RemoteGateway.Proxy
