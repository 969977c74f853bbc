import Mathlib.Tactic.SplitIfs
import RemoteGateway.Proofs.Document.Shape

/-!
# Reading what was written, word by word

Every legible value is written as a text from which its words are read again. The words are
those of `tokens`, and the blanks between them, which the indentation brings, are passed over.
`Reads text tokens` says so of a part of a text that stands in front of any other part that may
follow a value.
-/

namespace RemoteGateway.Document

/-! ### Quoted texts -/

/-- Puts the code point of a character in front of what was read. -/
def prepend (c : Char) (result : List Nat × List Char) : List Nat × List Char :=
  (c.toNat :: result.1, result.2)

theorem readQuoted_short {letter c : Char} (h : unescape? letter = some c) (rest : List Char) :
    readQuoted ('\\' :: letter :: rest) = (readQuoted rest).map (prepend c) := by
  have hletter : letter ≠ 'u' := by
    rintro rfl
    cases h
  rw [readQuoted, if_neg (by decide), if_pos rfl, h]
  · rcases readQuoted rest with _ | result <;> rfl
  · intro _ _ _ _ _ hu
    exact absurd hu hletter

theorem readQuoted_plain {c : Char} (hquote : c ≠ '"') (hbackslash : c ≠ '\\')
    (hcontrol : ¬ c.toNat < 0x20) (rest : List Char) :
    readQuoted (c :: rest) = (readQuoted rest).map (prepend c) := by
  rw [readQuoted.eq_def]
  simp only [if_neg hquote, if_neg hbackslash, if_neg hcontrol]
  rcases readQuoted rest with _ | result <;> rfl

theorem readQuoted_control {c : Char} (h : c.toNat < 0x20) (rest : List Char) :
    readQuoted (['\\', 'u', '0', '0'] ++ hexPair c.toNat ++ rest) =
      (readQuoted rest).map (prepend c) := by
  have hvalue : ∀ n < 0x20,
      hexValue4? '0' '0' (Nat.digitChar (n / 16)) (Nat.digitChar (n % 16)) = some n := by
    decide
  rw [hexPair, List.append_assoc]
  change readQuoted ('\\' :: 'u' :: '0' :: '0' :: Nat.digitChar (c.toNat / 16) ::
    Nat.digitChar (c.toNat % 16) :: rest) = _
  rw [readQuoted, if_neg (by decide), if_pos rfl, hvalue _ h]
  rcases readQuoted rest with _ | result <;> rfl

/-- A character that has been escaped is read again, whatever follows. -/
theorem readQuoted_escape (c : Char) (rest : List Char) :
    readQuoted (escape c ++ rest) = (readQuoted rest).map (prepend c) := by
  rw [escape]
  split_ifs with hquote hbackslash hbackspace hfeed hline hreturn htab hcontrol
  · subst hquote
    exact readQuoted_short rfl rest
  · subst hbackslash
    exact readQuoted_short rfl rest
  · subst hbackspace
    exact readQuoted_short rfl rest
  · subst hfeed
    exact readQuoted_short rfl rest
  · subst hline
    exact readQuoted_short rfl rest
  · subst hreturn
    exact readQuoted_short rfl rest
  · subst htab
    exact readQuoted_short rfl rest
  · exact readQuoted_control hcontrol rest
  · exact readQuoted_plain hquote hbackslash hcontrol rest

/-- A quoted text is read again, up to its closing quote. -/
theorem readQuoted_flatMap_escape (s rest : List Char) :
    readQuoted (s.flatMap escape ++ '"' :: rest) = some (s.map Char.toNat, rest) := by
  induction s with
  | nil => rw [List.flatMap_nil, List.nil_append, readQuoted.eq_def]; rfl
  | cons c s ih =>
    rw [List.flatMap_cons, List.append_assoc, readQuoted_escape, ih]
    rfl

/-- The code points of a text stand for the text itself, because none of them is that of a
surrogate. -/
theorem joinUnits_map_toNat (s : List Char) : joinUnits (s.map Char.toNat) = some s := by
  induction s with
  | nil => rfl
  | cons c s ih =>
    -- A character is never a surrogate, so each unit is taken for itself.
    have hvalid : c.toNat < 0xD800 ∨ 0xDFFF < c.toNat ∧ c.toNat < 0x110000 := c.valid
    have hhigh : ¬ (0xD800 ≤ c.toNat ∧ c.toNat < 0xDC00) := by omega
    have hlow : ¬ (0xDC00 ≤ c.toNat ∧ c.toNat < 0xE000) := by omega
    rw [List.map_cons, joinUnits.eq_def]
    simp only [if_neg hhigh, if_neg hlow]
    rw [ih, Option.map_some, Char.ofNat_toNat]

/-! ### Parts of a text -/

/-- From a part of a text some words are read, whatever follows it with a given property. -/
structure Reads (follows : List Char → Prop) (text : List Char) (tokens : List Token) :
    Prop where
  length_le : tokens.length ≤ text.length
  readAll_eq : ∀ budget rest, follows rest →
    Token.readAll (tokens.length + budget) (text ++ rest) =
      (Token.readAll budget rest).map (tokens ++ ·)

/-- Anything may follow. -/
def Anything (_ : List Char) : Prop := True

/-- Passing over a blank takes no word. -/
theorem readAll_blank {c : Char} (h : Token.isBlank c = true) (budget : Nat)
    (rest : List Char) : Token.readAll budget (c :: rest) = Token.readAll budget rest := by
  rw [Token.readAll.eq_def, Token.readAll.eq_def budget rest]
  simp only [List.dropWhile_cons_of_pos h]

/-- Reading a word takes one word from the budget. -/
theorem readAll_next {c : Char} {text rest : List Char} {token : Token}
    (hblank : Token.isBlank c = false) (h : Token.next? c text = some (token, rest))
    (budget : Nat) :
    Token.readAll (budget + 1) (c :: text) = (Token.readAll budget rest).map (token :: ·) := by
  have hdrop : (c :: text).dropWhile Token.isBlank = c :: text :=
    List.dropWhile_cons_of_neg (by rw [hblank]; exact Bool.false_ne_true)
  rw [Token.readAll.eq_def]
  simp only [hdrop, h, Option.bind_eq_bind, Option.bind_some]
  rcases Token.readAll budget rest with _ | tokens <;> rfl

namespace Reads

variable {follows other : List Char → Prop} {text more : List Char} {tokens later : List Token}

/-- What is read in front of anything is read in front of anything special. -/
theorem mono (h : Reads follows text tokens) (hfollows : ∀ rest, other rest → follows rest) :
    Reads other text tokens :=
  ⟨h.length_le, fun budget rest hrest => h.readAll_eq budget rest (hfollows rest hrest)⟩

/-- Parts are read one after the other. -/
theorem append (h : Reads follows text tokens) (h' : Reads other more later)
    (hfollows : ∀ rest, other rest → follows (more ++ rest)) :
    Reads other (text ++ more) (tokens ++ later) := by
  refine ⟨?_, fun budget rest hrest => ?_⟩
  · rw [List.length_append, List.length_append]
    exact Nat.add_le_add h.length_le h'.length_le
  · rw [List.append_assoc, List.length_append, Nat.add_assoc,
      h.readAll_eq _ _ (hfollows rest hrest), h'.readAll_eq budget rest hrest]
    rcases Token.readAll budget rest with _ | rest
    · rfl
    · simp only [Option.map_some, List.append_assoc]

/-- A blank brings no word. -/
theorem blank {c : Char} (h : Token.isBlank c = true) : Reads Anything [c] [] := by
  refine ⟨Nat.zero_le _, fun budget rest _ => ?_⟩
  rw [List.length_nil, Nat.zero_add, List.singleton_append, readAll_blank h]
  rcases Token.readAll budget rest with _ | rest <;> rfl

/-- A word is read at once. -/
theorem word {c : Char} {token : Token} (hblank : Token.isBlank c = false)
    (h : ∀ rest, follows rest → Token.next? c (text ++ rest) = some (token, rest)) :
    Reads follows (c :: text) [token] := by
  refine ⟨Nat.succ_le_succ (Nat.zero_le _), fun budget rest hrest => ?_⟩
  rw [List.length_singleton, Nat.add_comm, List.cons_append,
    readAll_next hblank (h rest hrest)]
  rfl

/-- A line break and the indentation behind it bring no word. -/
theorem newline (level : Nat) : Reads Anything (newline level) [] := by
  have hspaces : ∀ n, Reads Anything (List.replicate n ' ') [] := by
    intro n
    induction n with
    | zero =>
      refine ⟨Nat.le_refl _, fun budget rest _ => ?_⟩
      rw [List.length_nil, Nat.zero_add, List.replicate_zero, List.nil_append]
      rcases Token.readAll budget rest with _ | rest <;> rfl
    | succ n ih => exact (blank rfl).append ih fun _ _ => trivial
  exact (blank rfl).append (hspaces _) fun _ _ => trivial

/-- A quoted text is one word. -/
theorem quote (s : String) : Reads Anything (quote s) [.text s] := by
  refine word rfl fun rest _ => ?_
  have hread : readQuoted (s.toList.flatMap escape ++ ['"'] ++ rest) =
      some (s.toList.map Char.toNat, rest) := by
    rw [List.append_assoc]
    exact readQuoted_flatMap_escape s.toList rest
  rw [Token.next?, hread]
  simp only [Option.bind_eq_bind, Option.bind_some, joinUnits_map_toNat, String.ofList_toList]
  rfl

end Reads

/-! ### The words of a value -/

namespace Value

mutual

/-- The words of a value. -/
def tokens : Value → List Token
  | null => [.atom null]
  | bool value => [.atom (bool value)]
  | number value => [.atom (number value)]
  | text value => [.text value]
  | list [] => [.openBracket, .closeBracket]
  | list (item :: rest) =>
    .openBracket :: (item.tokens ++ itemTokens rest ++ [.closeBracket])
  | object [] => [.openBrace, .closeBrace]
  | object ((key, value) :: rest) =>
    .openBrace :: ([.text key] ++ [.colon] ++ value.tokens ++ memberTokens rest ++ [.closeBrace])

/-- The words of the items after the first. -/
def itemTokens : List Value → List Token
  | [] => []
  | item :: rest => .comma :: (item.tokens ++ itemTokens rest)

/-- The words of the members after the first. -/
def memberTokens : List (String × Value) → List Token
  | [] => []
  | (key, value) :: rest =>
    .comma :: ([.text key] ++ [.colon] ++ value.tokens ++ memberTokens rest)

end

/-- What stands behind a value inside a list or an object may follow a value. -/
theorem ends_prettyItems (level : Nat) (items : List Value) {rest : List Char} (h : Ends rest) :
    Ends (prettyItems level items ++ rest) := by
  cases items with
  | nil => exact h
  | cons item items =>
    rw [prettyItems]
    exact List.mem_cons_of_mem _ List.mem_cons_self

theorem ends_prettyMembers (level : Nat) (members : Members) {rest : List Char} (h : Ends rest) :
    Ends (prettyMembers level members ++ rest) := by
  cases members with
  | nil => exact h
  | cons member members =>
    rw [prettyMembers]
    exact List.mem_cons_of_mem _ List.mem_cons_self

theorem ends_newline (level : Nat) (rest : List Char) : Ends (newline level ++ rest) :=
  List.mem_cons_of_mem _ (List.mem_cons_of_mem _ (List.mem_singleton_self _))

end Value

namespace Reads

open Value

/-- One of the characters between values is a word in front of anything. -/
theorem mark {c : Char} {token : Token} (hblank : Token.isBlank c = false)
    (h : ∀ rest, Token.next? c rest = some (token, rest)) : Reads Anything [c] [token] :=
  word hblank fun rest _ => h rest

/-- What stands on lines of its own is read behind a line break. -/
theorem onLine {text : List Char} {tokens : List Token} (level : Nat)
    (h : Reads Ends text tokens) : Reads Ends (Document.newline level ++ text) tokens :=
  (newline level).append h fun _ _ => trivial

/-- What stands between the two characters of a container is read inside them. -/
theorem enclose {first last : Char} {opening closing : Token} {text : List Char}
    {tokens : List Token} (level : Nat) (hopening : Reads Anything [first] [opening])
    (hclosing : Reads Anything [last] [closing]) (h : Reads Ends text tokens) :
    Reads Ends (first :: (text ++ Document.newline level ++ [last]))
      (opening :: (tokens ++ [closing])) := by
  have hline : Reads Anything (text ++ Document.newline level) (tokens ++ []) :=
    h.append (newline level) fun rest _ => ends_newline level rest
  rw [List.append_nil] at hline
  have hbody := hline.append hclosing fun _ _ => trivial
  exact (hopening.append hbody fun _ _ => trivial).mono fun _ _ => trivial

/-- A key, the colon behind it, and what follows on the same line. -/
theorem behindKey {text : List Char} {tokens : List Token} (level : Nat) (key : String)
    (h : Reads Ends text tokens) :
    Reads Ends (Document.newline level ++ Document.quote key ++ [':', ' '] ++ text)
      ([.text key] ++ [.colon] ++ tokens) := by
  have hkey : Reads Anything (Document.newline level ++ Document.quote key) [.text key] :=
    (newline level).append (quote key) fun _ _ => trivial
  have hcolon : Reads Anything [':', ' '] [.colon] :=
    (mark rfl fun _ => rfl).append (blank rfl) fun _ _ => trivial
  exact (hkey.append hcolon fun _ _ => trivial).append h fun _ _ => trivial

/-- Something further stands behind a comma. -/
theorem behindComma {text : List Char} {tokens : List Token} (h : Reads Ends text tokens) :
    Reads Ends (',' :: text) (.comma :: tokens) :=
  (mark rfl fun _ => rfl).append h fun _ _ => trivial

theorem nil : Reads Ends [] [] := by
  refine ⟨Nat.le_refl _, fun budget rest _ => ?_⟩
  rw [List.length_nil, Nat.zero_add, List.nil_append]
  rcases Token.readAll budget rest with _ | rest <;> rfl

mutual

/-- **A legible value is read word by word**, on whatever level it is written. -/
theorem pretty (level : Nat) (value : Value) (h : value.IsLegible) :
    Reads Ends (value.pretty level) value.tokens := by
  match value with
  | .null => exact word rfl fun rest _ => rfl
  | .bool true => exact word rfl fun rest _ => rfl
  | .bool false => exact word rfl fun rest _ => rfl
  -- A number is the only value whose end depends on what follows.
  | .number value =>
    obtain ⟨c, text, htext, hblank, hnext⟩ := h
    rw [Value.pretty, htext]
    exact word hblank hnext
  | .text value => exact (quote value).mono fun _ _ => trivial
  | .list [] =>
    have hopening : Reads Anything ['['] [.openBracket] := mark rfl fun _ => rfl
    exact hopening.append (word rfl fun _ _ => rfl) fun _ _ => trivial
  | .list (item :: rest) =>
    rw [IsLegible, AreLegible] at h
    have hitem := onLine (level + 1) (pretty (level + 1) item h.1)
    have hitems := hitem.append (prettyItems (level + 1) rest h.2)
      fun _ hrest => ends_prettyItems (level + 1) rest hrest
    exact enclose level (mark rfl fun _ => rfl) (mark rfl fun _ => rfl) hitems
  | .object [] =>
    have hopening : Reads Anything ['\x7b'] [.openBrace] := mark rfl fun _ => rfl
    exact hopening.append (word rfl fun _ _ => rfl) fun _ _ => trivial
  | .object ((key, value) :: rest) =>
    rw [IsLegible, AreLegibleMembers] at h
    have hmember := behindKey (level + 1) key (pretty (level + 1) value h.2.1)
    have hmembers := hmember.append (prettyMembers (level + 1) rest h.2.2)
      fun _ hrest => ends_prettyMembers (level + 1) rest hrest
    exact enclose level (mark rfl fun _ => rfl) (mark rfl fun _ => rfl) hmembers

theorem prettyItems (level : Nat) (items : List Value) (h : AreLegible items) :
    Reads Ends (Value.prettyItems level items) (itemTokens items) := by
  match items with
  | [] => exact nil
  | item :: rest =>
    rw [AreLegible] at h
    have hitem := onLine level (pretty level item h.1)
    exact behindComma (hitem.append (prettyItems level rest h.2)
      fun _ hrest => ends_prettyItems level rest hrest)

theorem prettyMembers (level : Nat) (members : List (String × Value))
    (h : AreLegibleMembers members) :
    Reads Ends (Value.prettyMembers level members) (memberTokens members) := by
  match members with
  | [] => exact nil
  | (key, value) :: rest =>
    rw [AreLegibleMembers] at h
    have hmember := behindKey level key (pretty level value h.1)
    exact behindComma (hmember.append (prettyMembers level rest h.2)
      fun _ hrest => ends_prettyMembers level rest hrest)

end

end Reads

/-- The words of a document that was written are read from its text and the line break behind
it. -/
theorem ofText?_toText {value : Value} (h : value.IsLegible) :
    Token.ofText? (value.toText ++ "\n") = some value.tokens := by
  have hreads := Reads.pretty 0 value h
  have hlist : (value.toText ++ "\n").toList = value.pretty 0 ++ ['\n'] := by
    rw [Value.toText, String.toList_append, String.toList_ofList]
    rfl
  -- A text has at least as many characters as words, so the budget suffices.
  obtain ⟨budget, hbudget⟩ := Nat.exists_eq_add_of_le hreads.length_le
  have hlength : (value.pretty 0 ++ ['\n']).length = value.tokens.length + (budget + 1) := by
    rw [List.length_append, hbudget]
    rfl
  have hends : Ends ['\n'] := Value.ends_newline 0 []
  rw [Token.ofText?, hlist, hlength, hreads.readAll_eq _ _ hends, readAll_blank rfl]
  exact congrArg some (List.append_nil _)

end RemoteGateway.Document
