import RemoteGateway.Proofs.Yaml.Blocks
import RemoteGateway.Proofs.Yaml.Flow
import RemoteGateway.Proofs.Yaml.Resolving

/-!
# Reading scalars

The first character of a scalar tells in which style it stands. Each style holds the texts that
the writer puts into it, so that every text is read back (`isScalarOf_writeText`), numerals and
booleans as what they are. The texts are those without the separators of lines and of paragraphs,
which older readers take for line feeds.
-/

namespace RemoteGateway.Yaml

/-! ### Scalars and keys -/

/-- Whether at most a comment is left of a line. -/
def isDone (after : List Char) : Bool :=
  startsBlank after && isSkipped after

/-- The scalar, or the empty container, that begins in a line of a container in a column, and the
lines below it. -/
def scalar? (column : Nat) (first : List Char) (later : List (List Char)) :
    Option (Tree × List (List Char)) :=
  match first with
  | '|' :: header => do
    let (content, later) ← literalContent? column header later
    return (.text (String.ofList content), later)
  | '\'' :: rest => do
    let (content, after) ← singleQuoted? rest
    if isDone after then some (.text (String.ofList content), later) else none
  | '"' :: rest => do
    let (content, after) ← doubleQuoted? .nothing rest
    if isDone after then some (.text (String.ofList content), later) else none
  | '\x7b' :: '\x7d' :: after => if isDone after then some (.mapping [], later) else none
  | '[' :: ']' :: after => if isDone after then some (.sequence [], later) else none
  | line => do
    let (content, after) ← plain? line
    if isDone after then some (resolve content, later) else none

/-- Whether a text begins like the mark between two documents. -/
def beginsMark : List Char → Bool
  | '-' :: '-' :: '-' :: _ => true
  | '.' :: '.' :: '.' :: _ => true
  | _ => false

/-- The key at the beginning of a line, a plain scalar that is a text, and what follows its
colon. -/
def key? (line : List Char) : Option (String × List Char) := do
  let (content, after) ← plain? line
  match after with
  | ':' :: first =>
    match resolve content with
    | .text key => if beginsMark content then none else some (key, first)
    | _ => none
  | _ => none

/-! ### Characters -/

/-- Whether a character may stand in a file. Other readers take some of the rest for line feeds,
or refuse them. -/
def isReadable (c : Char) : Bool :=
  let n := c.toNat
  n == 0x0A || (0x20 ≤ n && n ≤ 0x7E) ||
    (0xA0 ≤ n && n != 0x2028 && n != 0x2029 && n != 0xFEFF && n != 0xFFFE && n != 0xFFFF)

/-- A text without the separators of lines and of paragraphs. -/
def HoldsNoSeparator (s : List Char) : Prop :=
  '\u2028' ∉ s ∧ '\u2029' ∉ s

section

variable {s rest : List Char} {c : Char} {column : Nat}

/-- A text without separators and special characters is readable. -/
theorem isReadable_of_isSpecial (h : HoldsNoSeparator s) (hc : c ∈ s)
    (hspecial : isSpecial c = false) : isReadable c = true := by
  have hline : c.toNat ≠ 0x2028 := by
    intro heq
    rw [← Char.ofNat_toNat c, heq] at hc
    exact h.1 hc
  have hparagraph : c.toNat ≠ 0x2029 := by
    intro heq
    rw [← Char.ofNat_toNat c, heq] at hc
    exact h.2 hc
  simp only [isSpecial, Bool.or_eq_false_iff, Bool.and_eq_false_iff, decide_eq_false_iff_not,
    bne_eq_false_iff_eq, beq_eq_false_iff_ne] at hspecial
  simp only [isReadable, Bool.or_eq_true, Bool.and_eq_true, decide_eq_true_eq, beq_iff_eq,
    bne_iff_ne]
  omega

/-- Where there are no separators and special characters, a break is a line feed. -/
theorem eq_newline_of_isBreak (h : HoldsNoSeparator s) (hc : c ∈ s)
    (hspecial : isSpecial c = false) (hbreak : isBreak c = true) : c = '\n' := by
  simp only [isBreak, Bool.or_eq_true, beq_iff_eq] at hbreak
  rcases hbreak with (((rfl | rfl) | rfl) | rfl) | rfl
  · rfl
  · cases hspecial
  · cases hspecial
  · exact absurd hc h.1
  · exact absurd hc h.2

/-! ### Scalars on one line -/

/-- A text is a scalar for a reader: it begins visibly, is neither an item nor an entry, and is
read as a tree in front of what follows. -/
def IsScalarOf (column : Nat) (text rest : List Char) (tree : Tree) : Prop :=
  ∃ first tail, text ++ rest = first ++ '\n' :: tail ∧ '\n' ∉ first ∧
    IsVisible first ∧ isDashed first = false ∧ key? first = none ∧
    scalar? column first (linesOf tail) = some (tree, linesOf rest)

theorem scalar?_eq_plain (h : beginsPlain s = true) (later : List (List Char)) :
    scalar? column s later = (plain? s).bind fun (content, after) =>
      if isDone after then some (resolve content, later) else none := by
  rw [scalar?.eq_def]
  split
  · cases h
  · cases h
  · cases h
  · cases h
  · cases h
  · rfl

theorem beginsPlain_of_plain? {content after : List Char} (h : plain? s = some (content, after)) :
    beginsPlain s = true := by
  rw [plain?] at h
  split at h
  · assumption
  · cases h

theorem isVisible_of_beginsPlain (h : beginsPlain s = true) : IsVisible s := by
  cases s with
  | nil => cases h
  | cons c s =>
    rw [beginsPlain, Bool.and_eq_true, Bool.not_eq_true'] at h
    refine ⟨c, s, rfl, ?_, ?_⟩
    · rintro rfl
      exact Bool.noConfusion h.1
    · rintro rfl
      exact Bool.noConfusion h.1

theorem isDashed_of_beginsPlain (h : beginsPlain s = true) : isDashed s = false := by
  rw [isDashed.eq_def]
  split
  · next rest =>
    rw [beginsPlain, Bool.and_eq_true, Bool.not_eq_true', Bool.not_eq_true'] at h
    exact h.2
  · rfl

/-- A plain scalar that fills its line is read as what it means. -/
theorem isScalarOf_plain (h : plain? s = some (s, [])) (hline : '\n' ∉ s) :
    IsScalarOf column (s ++ ['\n']) rest (resolve s) := by
  have hbegins := beginsPlain_of_plain? h
  refine ⟨s, rest, by simp, hline, isVisible_of_beginsPlain hbegins,
    isDashed_of_beginsPlain hbegins, ?_, ?_⟩
  · rw [key?, h]
    rfl
  · rw [scalar?_eq_plain hbegins, h]
    rfl

/-- A scalar in quotes that fills its line is read as a text. -/
theorem isScalarOf_quoted {quote : Char} {body content : List Char}
    (hquote : quote = '\'' ∨ quote = '"') (hline : '\n' ∉ body)
    (h : ∀ later, scalar? column (quote :: body) later =
      some (.text (String.ofList content), later)) :
    IsScalarOf column (quote :: (body ++ ['\n'])) rest (.text (String.ofList content)) := by
  have hkey : key? (quote :: body) = none := by
    rw [key?, plain?, beginsPlain]
    rcases hquote with rfl | rfl <;> rfl
  refine ⟨quote :: body, rest, by simp, ?_, ⟨quote, body, rfl, ?_, ?_⟩, ?_, hkey, h _⟩
  · rw [List.mem_cons, not_or]
    exact ⟨by rcases hquote with rfl | rfl <;> decide, hline⟩
  · rcases hquote with rfl | rfl <;> decide
  · rcases hquote with rfl | rfl <;> decide
  · rcases hquote with rfl | rfl <;> rfl

theorem singleQuotedBody_eq_flatMap (h : ∀ c ∈ s, isBreak c = false) :
    singleQuotedBody column false s =
      s.flatMap fun c => if c = '\'' then ['\'', '\''] else [c] := by
  induction s with
  | nil => rfl
  | cons c s ih =>
    rw [singleQuotedBody, h c List.mem_cons_self, ih fun d hd => h d (List.mem_cons_of_mem c hd)]
    rfl

/-! ### Texts -/

theorem of_styleOf_plain (h : styleOf s = .plain) :
    '\n' ∉ s ∧ isTyped s = false ∧ plainAllowed s = true := by
  rw [styleOf] at h
  split_ifs at h with hline _ hplain _
  rw [Bool.and_eq_true, Bool.not_eq_true'] at hplain
  exact ⟨by simpa using hline, hplain⟩

theorem of_styleOf_singleQuoted (h : styleOf s = .singleQuoted) :
    '\n' ∉ s ∧ ∀ c ∈ s, isSpecial c = false := by
  rw [styleOf] at h
  split_ifs at h with hline _ _ hallowed
  simp only [singleQuotedAllowed, Bool.and_eq_true, Bool.not_eq_true', List.any_eq_false,
    Bool.not_eq_true] at hallowed
  exact ⟨by simpa using hline, hallowed.1.1⟩

theorem of_styleOf_literal (h : styleOf s = .literal) :
    '\n' ∈ s ∧ ∀ c ∈ s, isSpecial c = false := by
  rw [styleOf] at h
  split_ifs at h with hline hallowed _ _
  simp only [literalAllowed, Bool.and_eq_true, Bool.not_eq_true', List.any_eq_false,
    Bool.not_eq_true] at hallowed
  exact ⟨by simpa using hline, hallowed.1.1⟩

/-- A text in single quotes holds no break. -/
theorem isBreak_of_styleOf_singleQuoted (h : HoldsNoSeparator s)
    (hstyle : styleOf s = .singleQuoted) : ∀ c ∈ s, isBreak c = false := by
  obtain ⟨hline, hspecial⟩ := of_styleOf_singleQuoted hstyle
  intro c hc
  refine eq_false_of_ne_true fun hbreak => hline ?_
  rwa [← eq_newline_of_isBreak h hc (hspecial c hc) hbreak]

/-- A block is closed where it does not end with a line feed. -/
theorem closing_eq (hbreak : ∀ c ∈ s, isBreak c = true → c = '\n') :
    (if s.getLast?.any isBreak then [] else ['\n']) = closing s := by
  rw [closing, endsLine]
  cases hlast : s.getLast? with
  | none => rfl
  | some c =>
    by_cases hc : c = '\n'
    · rw [hc]
      rfl
    · have hchar : isBreak c = false :=
        eq_false_of_ne_true fun hbreaks => hc (hbreak c (List.mem_of_getLast? hlast) hbreaks)
      rw [Option.any_some, hchar, Option.some_beq_some, beq_false_of_ne hc]

theorem mem_literalHints (h : c ∈ literalHints s) : c ∈ ['2', '-', '+'] := by
  rw [literalHints, List.mem_append] at h
  rcases h with h | h
  · split_ifs at h
    · exact List.mem_cons.mpr (.inl (List.mem_singleton.mp h))
    · cases h
  · have hsign : c ∈ ['-', '+'] := by
      repeat' split at h
      all_goals simp_all
    exact List.mem_cons_of_mem _ hsign

theorem not_mem_escapeChar (c : Char) : '\n' ∉ escapeChar c := by
  induction c using escapeChar_induction with
  | hcodes n hn =>
    revert n
    decide +kernel
  | hother c hspecial hline hquote hbackslash hself =>
    rw [hself, List.mem_singleton]
    exact Ne.symm hline

/-- A plain text is read back: the writer has made sure that it means a text. -/
theorem isScalarOf_of_plain (hstyle : styleOf s = .plain) :
    IsScalarOf column (s ++ ['\n']) rest (.text (String.ofList s)) := by
  obtain ⟨hline, htyped, hallowed⟩ := of_styleOf_plain hstyle
  have hne : s ≠ [] := by
    rintro rfl
    cases htyped
  have hplain : plain? (s ++ []) = some (s, []) := plain?_append hne hallowed rfl nofun
  rw [List.append_nil] at hplain
  rw [← resolve_of_isTyped htyped]
  exact isScalarOf_plain hplain hline

/-- A text in single quotes is read back. -/
theorem isScalarOf_of_singleQuoted (h : HoldsNoSeparator s) (hstyle : styleOf s = .singleQuoted) :
    IsScalarOf column ('\'' :: (singleQuotedBody (column + 2) false s ++ ['\'', '\n'])) rest
      (.text (String.ofList s)) := by
  have hbreak := isBreak_of_styleOf_singleQuoted h hstyle
  rw [singleQuotedBody_eq_flatMap hbreak]
  generalize hbody : (s.flatMap fun c => if c = '\'' then ['\'', '\''] else [c]) = body
  have hline : '\n' ∉ body ++ ['\''] := by
    rw [← hbody, List.mem_append, List.mem_flatMap]
    rintro (⟨c, hc, hmem⟩ | hmem)
    · split_ifs at hmem
      · exact absurd hmem (by decide)
      · rw [← List.mem_singleton.mp hmem] at hc
        cases hbreak _ hc
    · exact absurd hmem (by decide)
  have hread : singleQuoted? (body ++ ['\'']) = some (s, []) := by
    rw [← hbody]
    exact singleQuoted?_append nofun
  have hquoted : IsScalarOf column ('\'' :: (body ++ ['\''] ++ ['\n'])) rest
      (.text (String.ofList s)) :=
    isScalarOf_quoted (.inl rfl) hline fun later => by
      rw [scalar?, hread]
      rfl
  rwa [List.append_assoc] at hquoted

/-- A text in double quotes is read back, whatever it holds. -/
theorem isScalarOf_doubleQuoted :
    IsScalarOf column ('"' :: (s.flatMap escapeChar ++ ['"', '\n'])) rest
      (.text (String.ofList s)) := by
  have hline : '\n' ∉ s.flatMap escapeChar ++ ['"'] := by
    rw [List.mem_append, List.mem_flatMap]
    rintro (⟨c, -, hmem⟩ | hmem)
    · exact not_mem_escapeChar c hmem
    · exact absurd hmem (by decide)
  have hquoted : IsScalarOf column ('"' :: (s.flatMap escapeChar ++ ['"'] ++ ['\n'])) rest
      (.text (String.ofList s)) :=
    isScalarOf_quoted (.inr rfl) hline fun later => by
      rw [scalar?, doubleQuoted?_flatMap]
      rfl
  rwa [List.append_assoc] at hquoted

/-- A text that stands as a block is read back, in front of what begins further out. -/
theorem isScalarOf_of_literal (h : HoldsNoSeparator s) (hstyle : styleOf s = .literal)
    (hrest : Stops (column + 1) (linesOf rest)) :
    IsScalarOf column
      ('|' :: (literalHints s ++ '\n' :: literalBody (column + 2) true s ++
        if s.getLast?.any isBreak then [] else ['\n'])) rest (.text (String.ofList s)) := by
  obtain ⟨hline, hspecial⟩ := of_styleOf_literal hstyle
  have hbreak : ∀ c ∈ s, isBreak c = true → c = '\n' := fun c hc =>
    eq_newline_of_isBreak h hc (hspecial c hc)
  have hblock := literalContent?_literalBody hbreak (List.ne_nil_of_mem hline)
    (hrest.mono (Nat.le_succ _))
  refine ⟨'|' :: literalHints s, literalBody (column + 2) true s ++ closing s ++ rest, ?_, ?_,
    ⟨'|', _, rfl, by decide, by decide⟩, rfl, rfl, ?_⟩
  · rw [closing_eq hbreak]
    simp
  · rw [List.mem_cons, not_or]
    exact ⟨by decide, fun hmem => absurd (mem_literalHints hmem) (by decide)⟩
  · rw [scalar?, hblock]
    rfl

/-- **Every text is read back**, whatever it looks like. -/
theorem isScalarOf_writeText (h : HoldsNoSeparator s) (hrest : Stops (column + 1) (linesOf rest)) :
    IsScalarOf column (writeText (column + 2) s) rest (.text (String.ofList s)) := by
  rw [writeText]
  cases hstyle : styleOf s with
  | plain => exact isScalarOf_of_plain hstyle
  | singleQuoted => exact isScalarOf_of_singleQuoted h hstyle
  | doubleQuoted => exact isScalarOf_doubleQuoted
  | literal => exact isScalarOf_of_literal h hstyle hrest

/-! ### Numerals, booleans and empty containers -/

theorem splitPlain_of_isDigit (h : ∀ c ∈ s, c.isDigit = true) : splitPlain s = (s, []) := by
  induction s with
  | nil => rfl
  | cons c s ih =>
    have hc := h c List.mem_cons_self
    have hgoes : endsPlain c s = false := by
      have hcolon : c ≠ ':' := by rintro rfl; cases hc
      have hblank : c ≠ ' ' := by rintro rfl; cases hc
      rw [endsPlain, beq_false_of_ne hcolon, beq_false_of_ne hblank]
      rfl
    rw [splitPlain, if_neg (ne_true_of_eq_false hgoes),
      ih fun d hd => h d (List.mem_cons_of_mem c hd)]

theorem beginsPlain_of_isDigit (h : c.isDigit = true) : beginsPlain (c :: s) = true := by
  have hother : ∀ d ∈ flowIndicators ++ ['-', '?', ':'], (!d.isDigit) = true :=
    List.all_eq_true.mp (by decide)
  have hnot : c ∉ flowIndicators ++ ['-', '?', ':'] := by
    intro hmem
    have hdigit := hother c hmem
    rw [h] at hdigit
    cases hdigit
  rw [List.mem_append, not_or] at hnot
  obtain ⟨hindicator, hmark⟩ := hnot
  simp only [List.mem_cons, List.not_mem_nil, or_false, not_or] at hmark
  rw [beginsPlain, Bool.and_eq_true, Bool.not_eq_true', Bool.not_eq_true']
  refine ⟨eq_false_of_ne_true (mt List.contains_iff_mem.mp hindicator), ?_⟩
  rw [beq_false_of_ne hmark.1, beq_false_of_ne hmark.2.1, beq_false_of_ne hmark.2.2]
  rfl

/-- Digits are a plain scalar. -/
theorem plain?_of_isDigit (hne : s ≠ []) (h : ∀ c ∈ s, c.isDigit = true) :
    plain? s = some (s, []) := by
  have hbegins : beginsPlain s = true := by
    obtain ⟨c, s, rfl⟩ := List.exists_cons_of_ne_nil hne
    exact beginsPlain_of_isDigit (h c List.mem_cons_self)
  refine plain?_of_splitPlain hbegins (splitPlain_of_isDigit h) fun hlast => ?_
  cases h ' ' (List.mem_of_getLast? hlast)

/-- A numeral is read as its number. -/
theorem isScalarOf_toDigits {n : Nat} (h : n < 2 ^ 64) :
    IsScalarOf column (Nat.toDigits 10 n ++ ['\n']) rest (.integer n) := by
  have hdigits : ∀ c ∈ Nat.toDigits 10 n, c.isDigit = true :=
    fun c => Document.isDigit_of_mem_toDigits
  rw [← resolve_toDigits h]
  exact isScalarOf_plain (plain?_of_isDigit Nat.toDigits_ne_nil hdigits) fun hline =>
    absurd (hdigits _ hline) (by decide)

theorem isScalarOf_toString (value : Bool) :
    IsScalarOf column ((toString value).toList ++ ['\n']) rest (.boolean value) := by
  rw [← resolve_toString]
  cases value
  · exact isScalarOf_plain rfl (by decide)
  · exact isScalarOf_plain rfl (by decide)

/-- Empty containers are read as such. -/
theorem isScalarOf_empty :
    IsScalarOf column "\x7b\x7d\n".toList rest (.mapping []) ∧
      IsScalarOf column "[]\n".toList rest (.sequence []) :=
  ⟨⟨"\x7b\x7d".toList, rest, rfl, by decide, ⟨_, _, rfl, by decide, by decide⟩, rfl, rfl, rfl⟩,
    ⟨"[]".toList, rest, rfl, by decide, ⟨_, _, rfl, by decide, by decide⟩, rfl, rfl, rfl⟩⟩

/-! ### Nothing unreadable -/

/-- A text that holds nothing unreadable. -/
def IsReadableText (text : List Char) : Prop :=
  ∀ c ∈ text, isReadable c = true

instance (text : List Char) : Decidable (IsReadableText text) :=
  decidable_of_iff (text.all isReadable = true) List.all_eq_true

theorem IsReadableText.cons (hc : isReadable c = true) (h : IsReadableText s) :
    IsReadableText (c :: s) :=
  List.forall_mem_cons.mpr ⟨hc, h⟩

theorem IsReadableText.append (h : IsReadableText s) (hrest : IsReadableText rest) :
    IsReadableText (s ++ rest) :=
  List.forall_mem_append.mpr ⟨h, hrest⟩

theorem IsReadableText.flatMap {f : Char → List Char} (h : ∀ c ∈ s, IsReadableText (f c)) :
    IsReadableText (s.flatMap f) :=
  List.forall_mem_flatMap.mpr h

theorem mem_literalBody {indent : Nat} {fresh : Bool} (h : c ∈ literalBody indent fresh s) :
    c ∈ s ∨ c = ' ' := by
  induction s generalizing fresh with
  | nil => cases h
  | cons d s ih =>
    have hrest : ∀ fresh, c ∈ literalBody indent fresh s → c ∈ d :: s ∨ c = ' ' :=
      fun fresh hmem => (ih hmem).imp_left (List.mem_cons_of_mem d)
    rw [literalBody] at h
    split at h
    · rcases List.mem_cons.mp h with rfl | h
      · exact .inl List.mem_cons_self
      · exact hrest _ h
    · rcases List.mem_append.mp h with h | h
      · split at h
        · exact .inr (List.eq_of_mem_replicate h)
        · cases h
      · rcases List.mem_cons.mp h with rfl | h
        · exact .inl List.mem_cons_self
        · exact hrest _ h

theorem isReadableText_escapeChar (h : HoldsNoSeparator s) (c : Char) :
    c ∈ s → IsReadableText (escapeChar c) := by
  induction c using escapeChar_induction with
  | hcodes n hn =>
    have hall : ∀ n ∈ escapedCodes, (escapeChar (Char.ofNat n)).all isReadable = true := by
      decide +kernel
    exact fun _ => List.all_eq_true.mp (hall n hn)
  | hother c hspecial hline hquote hbackslash hself =>
    intro hc
    rw [hself]
    exact .cons (isReadable_of_isSpecial h hc hspecial) (by decide)

/-- **The writer writes nothing that cannot be read.** -/
theorem isReadableText_writeText {indent : Nat} (h : HoldsNoSeparator s) :
    IsReadableText (writeText indent s) := by
  have hreads : (∀ c ∈ s, isSpecial c = false) → IsReadableText s :=
    fun hspecial c hc => isReadable_of_isSpecial h hc (hspecial c hc)
  rw [writeText]
  cases hstyle : styleOf s with
  | plain =>
    obtain ⟨-, -, hallowed⟩ := of_styleOf_plain hstyle
    exact .append (hreads (of_plainAllowed hallowed).1) (by decide)
  | singleQuoted =>
    obtain ⟨-, hspecial⟩ := of_styleOf_singleQuoted hstyle
    dsimp only
    rw [singleQuotedBody_eq_flatMap (isBreak_of_styleOf_singleQuoted h hstyle)]
    refine .cons rfl (.append (.flatMap fun c hc => ?_) (by decide))
    split_ifs
    · decide
    · exact .cons (hreads hspecial c hc) (by decide)
  | doubleQuoted =>
    exact .cons rfl (.append (.flatMap (isReadableText_escapeChar h)) (by decide))
  | literal =>
    obtain ⟨-, hspecial⟩ := of_styleOf_literal hstyle
    have hhints : IsReadableText (literalHints s) := fun c hc =>
      (by decide : IsReadableText ['2', '-', '+']) c (mem_literalHints hc)
    have hbody : IsReadableText (literalBody indent true s) := by
      intro c hc
      rcases mem_literalBody hc with hc | rfl
      · exact hreads hspecial c hc
      · rfl
    refine .cons rfl (.append (.append hhints (.cons rfl hbody)) ?_)
    split <;> decide

end

end RemoteGateway.Yaml
