import Mathlib.Data.List.Forall2
import RemoteGateway.Shell.Word

/-!
# How the shell reads a text

A POSIX shell goes through a text from left to right and cuts it into **words**, the blanks
between them, and the **marks** that end, join, group or redirect commands. A character of a word
stands for itself, either because nothing is special about it or because it is quoted: behind a
backslash, in single quotes, or, unless it is one of a few, in double quotes. What begins with a
dollar sign or stands in backquotes is **replaced** when the command is run, and so is a word with
the characters of patterns in it, or with a tilde in front.

A `Scan` is where a reader stands, `Scan.run` moves it over a text, and `words?` gives the words
of a text that is a single command in which nothing is replaced. `quote` writes every text as one
such word, whatever stands in front of it or behind it (`Scan.run_quote`), and quoted texts are
read back one by one (`words?_quote`).
-/

namespace RemoteGateway.Shell

/-- A piece of a word. -/
inductive Piece where
  /-- A character that stands for itself without being quoted. -/
  | plain (c : Char)
  /-- A character that stands for itself because it is quoted. -/
  | quoted (c : Char)
  /-- Something that the shell puts another text in place of. -/
  | replaced
  deriving DecidableEq

/-- What a text is cut into. -/
inductive Token where
  | word (pieces : List Piece)
  /-- A blank outside of words. -/
  | gap
  /-- A character that ends, joins, groups or redirects commands. -/
  | mark (c : Char)
  deriving DecidableEq

/-! ### Special characters -/

/-- The characters between words. -/
def isGap (c : Char) : Bool :=
  c == ' ' || c == '\t'

/-- The characters that operators consist of, and the end of a line. -/
def isMark (c : Char) : Bool :=
  ['\n', '|', '&', ';', '<', '>', '(', ')'].contains c

/-- The characters that make a word a pattern. -/
def isPattern (c : Char) : Bool :=
  ['*', '?', '['].contains c

/-- The characters that quote, or that something to be replaced begins with. -/
def isLead (c : Char) : Bool :=
  ['\\', '\'', '"', '\x60', '$'].contains c

/-- The characters that are special wherever they stand without quotes. -/
def isActive (c : Char) : Bool :=
  isGap c || isMark c || isPattern c || isLead c

/-! ### Reading -/

/-- What a part of a text is enclosed in. -/
inductive Frame where
  | singleQuotes
  | doubleQuotes
  | backquotes
  /-- The parentheses of a command whose output is put in. -/
  | parentheses
  /-- The braces of a variable whose value is put in. -/
  | braces
  deriving DecidableEq

namespace Frame

/-- The character that ends a frame. -/
def closer : Frame → Char
  | singleQuotes => '\''
  | doubleQuotes => '"'
  | backquotes => '\x60'
  | parentheses => ')'
  | braces => '\x7d'

/-- Whether what is enclosed belongs to the word as it stands. -/
def isQuotes : Frame → Bool
  | singleQuotes | doubleQuotes => true
  | backquotes | parentheses | braces => false

/-- Whether a dollar sign is special in a frame. -/
def substitutes : Frame → Bool
  | doubleQuotes | parentheses | braces => true
  | singleQuotes | backquotes => false

/-- The frame that a character begins in a frame. -/
def opens (frame : Frame) (c : Char) : Option Frame :=
  match frame with
  | singleQuotes | backquotes => none
  | doubleQuotes => if c = '\x60' then some backquotes else none
  | parentheses | braces =>
    if c = '\x60' then some backquotes
    else if c = '\'' then some singleQuotes
    else if c = '"' then some doubleQuotes
    else if c = '(' ∧ frame = parentheses then some parentheses
    else none

end Frame

/-- Where a reader of a text stands: the frames that it is in, innermost first, and the pieces
of the word that has begun. -/
inductive Scan where
  | inside (frames : List Frame) (word : Option (List Piece))
  /-- Behind a backslash. -/
  | escaped (frames : List Frame) (word : Option (List Piece))
  /-- Behind a dollar sign. -/
  | dollar (frames : List Frame) (word : Option (List Piece))
  | comment
  deriving DecidableEq

namespace Scan

/-- Between words, in no frame. -/
def start : Scan :=
  inside [] none

/-- A word with one more piece; if none had begun, it begins. -/
def extend (word : Option (List Piece)) (piece : Piece) : Option (List Piece) :=
  some (word.getD [] ++ [piece])

/-- The word with one more piece, unless that belongs to a text that is to be replaced. -/
def record (frames : List Frame) (word : Option (List Piece)) (piece : Piece) :
    Option (List Piece) :=
  if frames.all Frame.isQuotes then extend word piece else word

/-- The word that is complete, if one had begun. -/
def completed (word : Option (List Piece)) : List Token :=
  word.toList.map .word

/-- Reads a character in no frame. -/
def outside (c : Char) (word : Option (List Piece)) : List Token × Scan :=
  if isGap c then (completed word ++ [.gap], start)
  else if isMark c then (completed word ++ [.mark c], start)
  else if c = '#' ∧ word = none then ([], comment)
  else if c = '\\' then ([], escaped [] word)
  else if c = '\'' then ([], inside [.singleQuotes] (some (word.getD [])))
  else if c = '"' then ([], inside [.doubleQuotes] (some (word.getD [])))
  else if c = '\x60' then ([], inside [.backquotes] (extend word .replaced))
  else if c = '$' then ([], dollar [] (extend word .replaced))
  else if isPattern c ∨ c = '~' ∧ word = none then ([], inside [] (extend word .replaced))
  else ([], inside [] (extend word (.plain c)))

/-- Reads a character in a frame. -/
def within (c : Char) (frame : Frame) (outer : List Frame) (word : Option (List Piece)) : Scan :=
  let frames := frame :: outer
  if c = frame.closer then inside outer word
  else if c = '\\' ∧ frame ≠ .singleQuotes then escaped frames word
  else if c = '$' ∧ frame.substitutes then dollar frames (record frames word .replaced)
  else
    match frame.opens c with
    | some .backquotes => inside (.backquotes :: frames) (record frames word .replaced)
    | some inner => inside (inner :: frames) word
    | none => inside frames (record frames word (.quoted c))

/-- Reads a character in some frames, or in none. -/
def enclosed (c : Char) (frames : List Frame) (word : Option (List Piece)) :
    List Token × Scan :=
  match frames with
  | [] => outside c word
  | frame :: outer => ([], within c frame outer word)

/-- Reads a character behind a backslash. The end of a line vanishes together with the backslash;
in double quotes, the backslash stays in front of what is not special there. -/
def escape (c : Char) (frames : List Frame) (word : Option (List Piece)) : Option (List Piece) :=
  if c = '\n' then word
  else if frames.head? = some .doubleQuotes ∧ c ∉ ['$', '\x60', '"', '\\'] then
    record frames (record frames word (.quoted '\\')) (.quoted c)
  else record frames word (.quoted c)

/-- Reads a character: the tokens that are complete with it, and where the reader stands after
it. -/
def step (c : Char) : Scan → List Token × Scan
  | inside frames word => enclosed c frames word
  | escaped frames word => ([], inside frames (escape c frames word))
  | dollar frames word =>
    if c = '(' then ([], inside (.parentheses :: frames) word)
    else if c = '\x7b' then ([], inside (.braces :: frames) word)
    else enclosed c frames word
  | comment => if c = '\n' then ([.mark '\n'], start) else ([], comment)

/-- Reads a text: the tokens that are complete with it, and where the reader stands after it. -/
def run : Scan → List Char → List Token × Scan
  | scan, [] => ([], scan)
  | scan, c :: rest =>
    let (tokens, next) := scan.step c
    let (later, last) := next.run rest
    (tokens ++ later, last)

/-- The tokens that the end of a text completes; a text cannot end in a frame or behind a
backslash. -/
def finish? : Scan → Option (List Token)
  | inside [] word | dollar [] word => some (completed word)
  | comment => some []
  | inside (_ :: _) _ | dollar (_ :: _) _ | escaped .. => none

/-- The tokens of a text, if it can be read to its end. -/
def tokens? (scan : Scan) (s : List Char) : Option (List Token) :=
  (scan.run s).2.finish?.map ((scan.run s).1 ++ ·)

end Scan

/-- The tokens of a text, if it can be read to its end. -/
def read? (text : String) : Option (List Token) :=
  Scan.start.tokens? text.toList

/-! ### Words -/

/-- The character that a piece stands for. -/
def Piece.char? : Piece → Option Char
  | plain c | quoted c => some c
  | replaced => none

/-- The text that a word stands for, if nothing in it is replaced. -/
def literal? (pieces : List Piece) : Option String :=
  (pieces.mapM Piece.char?).map String.ofList

/-- The words of a single command, if nothing in them is replaced. -/
def wordsOf? : List Token → Option (List String)
  | [] => some []
  | .gap :: tokens => wordsOf? tokens
  | .mark _ :: _ => none
  | .word pieces :: tokens =>
    (literal? pieces).bind fun text => (wordsOf? tokens).map (text :: ·)

/-- The words of a text that is a single command in which nothing is replaced. -/
def words? (text : String) : Option (List String) :=
  (read? text).bind wordsOf?

/-! ### Reading texts one after the other -/

namespace Scan

@[simp] theorem run_nil (scan : Scan) : scan.run [] = ([], scan) := rfl

theorem run_cons (scan : Scan) (c : Char) (rest : List Char) :
    scan.run (c :: rest) =
      ((scan.step c).1 ++ ((scan.step c).2.run rest).1, ((scan.step c).2.run rest).2) := rfl

/-- Behind a text, a reader goes on from where the text left it. -/
theorem run_append (scan : Scan) (s rest : List Char) :
    scan.run (s ++ rest) =
      ((scan.run s).1 ++ ((scan.run s).2.run rest).1, ((scan.run s).2.run rest).2) := by
  induction s generalizing scan with
  | nil => rfl
  | cons c s ih => rw [List.cons_append, run_cons, ih, run_cons, List.append_assoc]

/-- A character that completes nothing only moves the reader. -/
theorem run_cons_of_step {scan next : Scan} {c : Char} (h : scan.step c = ([], next))
    (rest : List Char) : scan.run (c :: rest) = next.run rest := by
  rw [run_cons, h]
  rfl

/-- A text that completes nothing only moves the reader. -/
theorem run_append_of_run {scan next : Scan} {s : List Char} (h : scan.run s = ([], next))
    (rest : List Char) : scan.run (s ++ rest) = next.run rest := by
  rw [run_append, h]
  rfl

/-- The tokens that a text completes come before those of what stands behind it. -/
theorem tokens?_append {scan next : Scan} {s : List Char} {tokens : List Token}
    (h : scan.run s = (tokens, next)) (rest : List Char) :
    scan.tokens? (s ++ rest) = (next.tokens? rest).map (tokens ++ ·) := by
  rw [tokens?, run_append, h, tokens?, Option.map_map]
  simp only [List.append_assoc, Function.comp_def]

theorem tokens?_cons {scan next : Scan} {c : Char} {tokens : List Token}
    (h : scan.step c = (tokens, next)) (rest : List Char) :
    scan.tokens? (c :: rest) = (next.tokens? rest).map (tokens ++ ·) := by
  have hrun : scan.run [c] = (tokens, next) := by
    rw [run_cons, h, run_nil, List.append_nil]
  exact tokens?_append hrun rest

/-- The tokens of a text to its end. -/
theorem tokens?_of_run {scan next : Scan} {s : List Char} {tokens : List Token}
    (h : scan.run s = (tokens, next)) : scan.tokens? s = next.finish?.map (tokens ++ ·) := by
  rw [tokens?, h]

/-! ### Quoted texts -/

/-- In single quotes every character stands for itself but the quote itself, which leaves them
for a moment. -/
theorem run_flatMap_quoteChar (word : List Piece) (s : List Char) :
    (inside [.singleQuotes] (some word)).run (s.flatMap quoteChar) =
      ([], inside [.singleQuotes] (some (word ++ s.map .quoted))) := by
  induction s generalizing word with
  | nil => rw [List.flatMap_nil, run_nil, List.map_nil, List.append_nil]
  | cons c s ih =>
    have hchar : (inside [.singleQuotes] (some word)).run (quoteChar c) =
        ([], inside [.singleQuotes] (some (word ++ [.quoted c]))) := by
      rw [quoteChar]
      split
      · next hc =>
        subst hc
        rfl
      · next hc =>
        have hstep : (inside [.singleQuotes] (some word)).step c =
            ([], inside [.singleQuotes] (some (word ++ [.quoted c]))) := by
          simp [step, enclosed, within, Frame.closer, Frame.substitutes, Frame.opens, record,
            extend, Frame.isQuotes, hc]
        rw [run_cons_of_step hstep, run_nil]
    rw [List.flatMap_cons, run_append_of_run hchar, ih, List.append_assoc]
    rfl

/-- **A quoted text is read as itself**, as a word of its own or behind the beginning of one:
every character is quoted, and the reader is out of the quotes again. -/
theorem run_quote (word : Option (List Piece)) (text : String) :
    (inside [] word).run (quote text).toList =
      ([], inside [] (some (word.getD [] ++ text.toList.map .quoted))) := by
  have hopen : (inside [] word).step '\'' =
      ([], inside [.singleQuotes] (some (word.getD []))) := rfl
  rw [quote, String.toList_ofList, run_cons_of_step hopen,
    run_append_of_run (run_flatMap_quoteChar _ _)]
  rfl

end Scan

/-- A quoted text is one word, all of it quoted. -/
theorem read?_quote (text : String) :
    read? (quote text) = some [.word (text.toList.map .quoted)] := by
  rw [read?, Scan.start, Scan.tokens?_of_run (Scan.run_quote none text)]
  rfl

/-! ### Words with blanks between them -/

/-- A text is read as one word that stands for some value. -/
def IsWordOf (value text : String) : Prop :=
  ∃ pieces, Scan.start.run text.toList = ([], .inside [] (some pieces)) ∧
    literal? pieces = some value

/-- Pieces that stand for characters make a word that stands for the text of these. -/
theorem literal?_map {piece : Char → Piece} (h : ∀ c, (piece c).char? = some c) (s : List Char) :
    literal? (s.map piece) = some (String.ofList s) := by
  have hpieces : (s.map piece).mapM Piece.char? = some s := by
    induction s with
    | nil => rfl
    | cons c s ih => rw [List.map_cons, List.mapM_cons, ih, h]; rfl
  rw [literal?, hpieces, Option.map_some]

theorem literal?_quoted (text : String) : literal? (text.toList.map .quoted) = some text := by
  rw [literal?_map fun _ => rfl, String.ofList_toList]

theorem isWordOf_quote (text : String) : IsWordOf text (quote text) :=
  ⟨_, Scan.run_quote none text, literal?_quoted text⟩

theorem wordsOf?_word {pieces : List Piece} {value : String} (h : literal? pieces = some value)
    (tokens : List Token) :
    wordsOf? (.word pieces :: tokens) = (wordsOf? tokens).map (value :: ·) := by
  rw [wordsOf?, h, Option.bind_some]

namespace IsWordOf

variable {value text : String}

/-- A word is complete at the end of a text. -/
theorem words?_eq (h : IsWordOf value text) : words? text = some [value] := by
  obtain ⟨pieces, hrun, hliteral⟩ := h
  rw [words?, read?, Scan.tokens?_of_run hrun]
  exact wordsOf?_word hliteral []

/-- A word is complete at a blank. -/
theorem words?_append (h : IsWordOf value text) (rest : String) :
    words? (text ++ " " ++ rest) = (words? rest).map (value :: ·) := by
  obtain ⟨pieces, hrun, hliteral⟩ := h
  have hblank :
      Scan.start.run (text.toList ++ " ".toList) = ([.word pieces, .gap], Scan.start) := by
    rw [Scan.run_append_of_run hrun]
    rfl
  have hwords : ∀ tokens, wordsOf? ([.word pieces, .gap] ++ tokens) =
      (wordsOf? tokens).map (value :: ·) := fun tokens => wordsOf?_word hliteral (.gap :: tokens)
  rw [words?, words?, read?, read?, String.toList_append, String.toList_append,
    Scan.tokens?_append hblank]
  cases Scan.start.tokens? rest.toList with
  | none => rfl
  | some tokens => exact hwords tokens

end IsWordOf

/-- **Words with one blank between them are read one by one.** -/
theorem words?_intercalate {values texts : List String}
    (h : List.Forall₂ IsWordOf values texts) : words? (" ".intercalate texts) = some values := by
  induction h with
  | nil => rfl
  | @cons value text values texts hfirst hlater ih =>
    cases texts with
    | nil =>
      cases hlater
      exact hfirst.words?_eq
    | cons next texts =>
      rw [String.intercalate_cons_cons, hfirst.words?_append, ih]
      rfl

/-- **Quoted texts are read back**, whatever they are. -/
theorem words?_quote (values : List String) :
    words? (" ".intercalate (values.map quote)) = some values := by
  refine words?_intercalate ?_
  rw [List.forall₂_map_right_iff, List.forall₂_same]
  exact fun value _ => isWordOf_quote value

end RemoteGateway.Shell
