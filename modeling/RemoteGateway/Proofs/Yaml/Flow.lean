import Mathlib.Data.List.DropRight
import RemoteGateway.Proofs.Yaml.Lines

/-!
# Scalars on one line

A plain scalar goes on to a colon or a comment that blanks set apart; single quotes end at a quote
that is not doubled; behind a backslash double quotes hold a letter or a code instead of the
character that is meant. A text that the writer puts on one line is read back from its line
whatever comes behind it.
-/

namespace RemoteGateway.Yaml

/-! ### Plain scalars -/

/-- Whether a plain scalar ends in front of a character and what follows it. -/
def endsPlain (c : Char) (rest : List Char) : Bool :=
  (c == ':' && startsBlank rest) || (c == ' ' && rest.head? == some '#')

/-- A line up to the end of its plain scalar, and from there on. -/
def splitPlain : List Char → List Char × List Char
  | [] => ([], [])
  | c :: rest =>
    if endsPlain c rest then ([], c :: rest)
    else
      let (content, after) := splitPlain rest
      (c :: content, after)

/-- The characters that begin something other than a plain scalar. -/
def flowIndicators : List Char :=
  " #,[]\x7b\x7d&*!|>'\"%@\x60".toList

/-- Whether a line begins with a plain scalar. -/
def beginsPlain : List Char → Bool
  | [] => false
  | c :: rest =>
    !flowIndicators.contains c && !((c == '-' || c == '?' || c == ':') && startsBlank rest)

/-- The plain scalar at the beginning of a line, and what is behind it. -/
def plain? (line : List Char) : Option (List Char × List Char) :=
  if beginsPlain line then
    let (content, after) := splitPlain line
    some (content.rdropWhile (· == ' '), after)
  else none

/-! ### Quotes -/

/-- The content of single quotes, behind the first of them, and what is behind the last. -/
def singleQuoted? : List Char → Option (List Char × List Char)
  | [] => none
  | '\'' :: '\'' :: rest =>
    (singleQuoted? rest).map fun (content, after) => ('\'' :: content, after)
  | '\'' :: rest => some ([], rest)
  | c :: rest => (singleQuoted? rest).map fun (content, after) => (c :: content, after)

/-- What a reader of double quotes has begun: nothing, an escape, or a code whose value so far is
known and that has some more digits. -/
inductive Pending where
  | nothing
  | escape
  | code (digits value : Nat)
  deriving DecidableEq

/-- The characters that letters stand for behind a backslash. -/
def namedEscapes : List (Char × Nat) :=
  [('0', 0x00), ('a', 0x07), ('b', 0x08), ('t', 0x09), ('n', 0x0A), ('v', 0x0B), ('f', 0x0C),
    ('r', 0x0D), ('e', 0x1B), (' ', 0x20), ('"', 0x22), ('/', 0x2F), ('\\', 0x5C), ('N', 0x85),
    ('_', 0xA0), ('L', 0x2028), ('P', 0x2029)]

/-- The letters that announce a code, with the number of its digits. -/
def codeLengths : List (Char × Nat) :=
  [('x', 2), ('u', 4), ('U', 8)]

/-- What has been begun behind a character between double quotes, and what the character adds to
the content. -/
def Pending.step? : Pending → Char → Option (Pending × List Char)
  | .nothing, c =>
    if c = '"' then none else if c = '\\' then some (.escape, []) else some (.nothing, [c])
  | .escape, c =>
    match codeLengths.lookup c with
    | some digits => some (.code digits 0, [])
    | none => (namedEscapes.lookup c).map fun code => (.nothing, [Char.ofNat code])
  | .code digits value, c => do
    let digit ← digit? 16 c
    let value := value * 16 + digit
    if 1 < digits then some (.code (digits - 1) value, [])
    else if value.isValidChar then some (.nothing, [Char.ofNat value])
    else none

/-- What has been begun behind some characters, and what they add to the content. -/
def Pending.run? (pending : Pending) : List Char → Option (Pending × List Char)
  | [] => some (pending, [])
  | c :: rest => do
    let (next, content) ← pending.step? c
    let (last, more) ← next.run? rest
    return (last, content ++ more)

/-- The content of double quotes, behind the first of them, and what is behind the last. -/
def doubleQuoted? (pending : Pending) : List Char → Option (List Char × List Char)
  | [] => none
  | c :: rest =>
    if pending = .nothing ∧ c = '"' then some ([], rest)
    else do
      let (next, content) ← pending.step? c
      let (more, after) ← doubleQuoted? next rest
      return (content ++ more, after)

/-! ### Plain scalars are read back -/

section

variable {s after rest : List Char} {c : Char}

theorem holdsIndicator_cons_cons {d : Char} (h : holdsIndicator (c :: d :: s) = false) :
    (d == ':' && startsApart s) = false ∧ (d == '#' && isSeparator c) = false ∧
      holdsIndicator (d :: s) = false := by
  rw [holdsIndicator, Bool.or_eq_false_iff, Bool.or_eq_false_iff] at h
  exact ⟨h.1.1, h.1.2, h.2⟩

theorem startsApart_of_startsBlank (h : startsBlank s = true) : startsApart s = true := by
  cases s with
  | nil => rfl
  | cons c s =>
    rw [beq_iff_eq.mp h]
    rfl

/-- Blanks that follow a text that is not empty follow in the text. -/
theorem startsBlank_append (h : startsApart s = false) : startsBlank (s ++ after) = false := by
  cases s with
  | nil => cases h
  | cons c s =>
    by_contra hblank
    have := startsApart_of_startsBlank (s := c :: s) (eq_true_of_ne_false hblank)
    rw [h] at this
    cases this

/-- A plain scalar does not end before all of it is read. -/
theorem endsPlain_append (hcolon : (c == ':' && startsApart s) = false)
    (hholds : holdsIndicator (c :: s) = false) (hcomment : after.head? ≠ some '#') :
    endsPlain c (s ++ after) = false := by
  rw [endsPlain, Bool.or_eq_false_iff]
  constructor
  · rcases Bool.and_eq_false_iff.mp hcolon with hother | hjoined
    · rw [hother, Bool.false_and]
    · rw [startsBlank_append hjoined, Bool.and_false]
  · cases s with
    | nil =>
      rw [List.nil_append, beq_false_of_ne hcomment, Bool.and_false]
    | cons d s =>
      obtain ⟨-, hhash, -⟩ := holdsIndicator_cons_cons hholds
      rw [List.cons_append, List.head?_cons]
      by_cases hblank : c = ' '
      · rw [hblank, show isSeparator ' ' = true from rfl, Bool.and_true] at hhash
        rw [Option.some_beq_some, hhash, Bool.and_false]
      · rw [beq_false_of_ne hblank, Bool.false_and]

/-- All of a plain scalar is read, up to where it ends. -/
theorem splitPlain_append
    (hcolon : ∀ c rest, s = c :: rest → (c == ':' && startsApart rest) = false)
    (hholds : holdsIndicator s = false) (hafter : splitPlain after = ([], after))
    (hcomment : after.head? ≠ some '#') : splitPlain (s ++ after) = (s, after) := by
  induction s with
  | nil => exact hafter
  | cons c s ih =>
    have hgoes := endsPlain_append (hcolon c s rfl) hholds hcomment
    have hrest : splitPlain (s ++ after) = (s, after) := by
      cases s with
      | nil => exact hafter
      | cons d s =>
        obtain ⟨hnext, -, hholds⟩ := holdsIndicator_cons_cons hholds
        refine ih (fun _ _ heq => ?_) hholds
        cases heq
        exact hnext
    rw [List.cons_append, splitPlain, if_neg (by rw [hgoes]; exact Bool.false_ne_true), hrest]

/-- What begins no plain scalar is an indicator to the writer. -/
theorem not_mem_flowIndicators (h : isIndicator c = false) (hblank : c ≠ ' ') :
    flowIndicators.contains c = false := by
  have hall : ∀ d ∈ flowIndicators, (d == ' ' || isIndicator d) = true :=
    List.all_eq_true.mp (by decide)
  by_contra hcontains
  rw [Bool.not_eq_false, List.contains_iff_mem] at hcontains
  rcases Bool.or_eq_true_iff.mp (hall c hcontains) with heq | hindicator
  · exact hblank (beq_iff_eq.mp heq)
  · rw [h] at hindicator
    cases hindicator

theorem startsIndicated_cons (h : startsIndicated (c :: s) = false) :
    isIndicator c = false ∧ ((c == '?' || c == ':' || c == '-') && startsApart s) = false := by
  rw [startsIndicated.eq_def] at h
  split at h
  · cases h
  · cases h
  · next heq =>
    cases heq
    exact Bool.or_eq_false_iff.mp h
  · next heq => cases heq

theorem of_plainAllowed (h : plainAllowed s = true) :
    (∀ c ∈ s, isSpecial c = false) ∧ s.head? ≠ some ' ' ∧ s.getLast? ≠ some ' ' ∧
      startsIndicated s = false ∧ holdsIndicator s = false := by
  simp only [plainAllowed, Bool.and_eq_true, Bool.not_eq_true', bne_iff_ne, List.any_eq_false,
    Bool.not_eq_true, endsInSpace, decide_eq_false_iff_not] at h
  obtain ⟨⟨⟨⟨⟨hspecial, -⟩, hhead⟩, hlast⟩, hstarts⟩, hholds⟩ := h
  exact ⟨hspecial, hhead, hlast, hstarts, hholds⟩

theorem isBreak_of_plainAllowed (h : plainAllowed s = true) : ∀ c ∈ s, isBreak c = false := by
  simp only [plainAllowed, Bool.and_eq_true, Bool.not_eq_true', List.any_eq_false,
    Bool.not_eq_true] at h
  exact h.1.1.1.1.2

/-- A text that can stand plain begins a plain scalar, in front of anything. -/
theorem beginsPlain_append (hne : s ≠ []) (h : plainAllowed s = true) :
    beginsPlain (s ++ after) = true := by
  obtain ⟨-, hhead, -, hstarts, -⟩ := of_plainAllowed h
  obtain ⟨c, rest, rfl⟩ := List.exists_cons_of_ne_nil hne
  obtain ⟨hindicator, hmark⟩ := startsIndicated_cons hstarts
  rw [List.cons_append, beginsPlain, not_mem_flowIndicators hindicator (by simpa using hhead)]
  rcases Bool.and_eq_false_iff.mp hmark with hother | hjoined
  · simp only [Bool.or_eq_false_iff] at hother
    simp [hother]
  · simp [startsBlank_append hjoined]

/-- A plain scalar that does not end with a blank is read as it stands. -/
theorem plain?_of_splitPlain {line : List Char} (hbegins : beginsPlain line = true)
    (hsplit : splitPlain line = (s, after)) (hlast : s.getLast? ≠ some ' ') :
    plain? line = some (s, after) := by
  have htrim : s.rdropWhile (· == ' ') = s := by
    rw [List.rdropWhile_eq_self_iff]
    intro hne hblank
    rw [List.getLast?_eq_getLast_of_ne_nil hne, beq_iff_eq.mp hblank] at hlast
    exact hlast rfl
  rw [plain?, if_pos hbegins, hsplit]
  exact congrArg (fun content => some (content, after)) htrim

/-- **A text that can stand plain is read back**, in front of whatever ends it. -/
theorem plain?_append (hne : s ≠ []) (h : plainAllowed s = true)
    (hafter : splitPlain after = ([], after)) (hcomment : after.head? ≠ some '#') :
    plain? (s ++ after) = some (s, after) := by
  obtain ⟨-, -, hlast, hstarts, hholds⟩ := of_plainAllowed h
  have hsplit : splitPlain (s ++ after) = (s, after) := by
    refine splitPlain_append (fun c rest heq => ?_) hholds hafter hcomment
    rw [heq] at hstarts
    rcases Bool.and_eq_false_iff.mp (startsIndicated_cons hstarts).2 with hother | hjoined
    · simp only [Bool.or_eq_false_iff] at hother
      rw [hother.1.2, Bool.false_and]
    · rw [hjoined, Bool.and_false]
  exact plain?_of_splitPlain (beginsPlain_append hne h) hsplit hlast

/-! ### Quoted scalars are read back -/

/-- **Single quotes are read back**, in front of whatever is no quote. -/
theorem singleQuoted?_append (hafter : after.head? ≠ some '\'') :
    singleQuoted? (s.flatMap (fun c => if c = '\'' then ['\'', '\''] else [c]) ++
      '\'' :: after) = some (s, after) := by
  induction s with
  | nil =>
    rw [List.flatMap_nil, List.nil_append, singleQuoted?.eq_def]
    split
    · next heq => cases heq
    · next heq =>
      cases heq
      exact absurd rfl hafter
    · next heq => cases heq; rfl
    · next hother heq =>
      cases heq
      exact (hother rfl).elim
  | cons c s ih =>
    rw [List.flatMap_cons, List.append_assoc]
    by_cases hquote : c = '\''
    · rw [if_pos hquote, hquote]
      rw [List.cons_append, List.singleton_append, singleQuoted?, ih]
      rfl
    · rw [if_neg hquote, List.singleton_append, singleQuoted?.eq_def]
      split
      · next heq => cases heq
      · next heq => exact absurd (List.cons.inj heq).1 hquote
      · next heq => exact absurd (List.cons.inj heq).1 hquote
      · next heq =>
        obtain ⟨rfl, rfl⟩ := List.cons.inj heq
        rw [ih]
        rfl

variable {pending next : Pending} {content : List Char}

/-- What is read between double quotes is read in parts. -/
theorem doubleQuoted?_append (h : pending.run? s = some (next, content)) :
    doubleQuoted? pending (s ++ rest) =
      (doubleQuoted? next rest).map fun (more, after) => (content ++ more, after) := by
  induction s generalizing pending content with
  | nil =>
    cases h
    exact Option.map_id'.symm
  | cons c s ih =>
    obtain ⟨⟨begun, first⟩, hstep, h⟩ := Option.bind_eq_some_iff.mp h
    obtain ⟨⟨last, more⟩, hrun, h⟩ := Option.bind_eq_some_iff.mp h
    cases h
    have hinside : ¬ (pending = .nothing ∧ c = '"') := by
      rintro ⟨rfl, rfl⟩
      cases hstep
    rw [List.cons_append, doubleQuoted?, if_neg hinside, hstep]
    change (doubleQuoted? begun (s ++ rest)).bind _ = _
    rw [ih hrun]
    cases doubleQuoted? next rest with
    | none => rfl
    | some read => exact congrArg some (Prod.ext (List.append_assoc _ _ _).symm rfl)

/-- The codes among which all characters are that have to be escaped. -/
def escapedCodes : List Nat :=
  List.range 0xA0 ++ [0x2028, 0x2029, 0xFEFF, 0xFFFE, 0xFFFF]

/-- What has to be said about characters between double quotes can be seen from some codes, and
from characters that are not escaped. -/
theorem escapeChar_induction {motive : Char → Prop}
    (hcodes : ∀ n ∈ escapedCodes, motive (Char.ofNat n))
    (hother : ∀ c, isSpecial c = false → c ≠ '\n' → c ≠ '"' → c ≠ '\\' → escapeChar c = [c] →
      motive c) (c : Char) : motive c := by
  by_cases hcode : c.toNat ∈ escapedCodes
  · rw [← Char.ofNat_toNat c]
    exact hcodes _ hcode
  · have hplain : (isSpecial c || isBreak c || c == '"' || c == '\\') = false := by
      simp only [escapedCodes, List.mem_append, List.mem_range, List.mem_cons,
        List.not_mem_nil] at hcode
      simp only [isSpecial, isBreak, Bool.or_eq_false_iff, beq_eq_false_iff_ne, ne_eq,
        ← Char.toNat_inj, Char.reduceToNat, Bool.and_eq_false_iff, decide_eq_false_iff_not,
        bne_eq_false_iff_eq]
      omega
    have hself : escapeChar c = [c] := by
      rw [escapeChar, if_neg (ne_true_of_eq_false hplain)]
    simp only [Bool.or_eq_false_iff, beq_eq_false_iff_ne] at hplain
    obtain ⟨⟨⟨hspecial, hbreak⟩, hquote⟩, hbackslash⟩ := hplain
    refine hother c hspecial ?_ hquote hbackslash hself
    rintro rfl
    cases hbreak

/-- A character is read back from between double quotes. -/
theorem run?_escapeChar (c : Char) :
    Pending.nothing.run? (escapeChar c) = some (.nothing, [c]) := by
  induction c using escapeChar_induction with
  | hcodes n hn =>
    revert n
    decide +kernel
  | hother c hspecial hline hquote hbackslash hself =>
    rw [hself, Pending.run?, Pending.step?, if_neg hquote, if_neg hbackslash]
    rfl

/-- **Double quotes are read back**, in front of anything. -/
theorem doubleQuoted?_flatMap :
    doubleQuoted? .nothing (s.flatMap escapeChar ++ '"' :: after) = some (s, after) := by
  induction s with
  | nil => rfl
  | cons c s ih =>
    rw [List.flatMap_cons, List.append_assoc, doubleQuoted?_append (run?_escapeChar c), ih]
    rfl

end

end RemoteGateway.Yaml
