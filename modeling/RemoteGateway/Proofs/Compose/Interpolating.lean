import Mathlib.Tactic.SplitIfs
import RemoteGateway.Compose.Interpolation

/-!
# How a compose file is read

Whoever reads a compose file goes through each text from left to right. Two dollar signs stand
for one. A dollar sign in front of a name, or of anything in braces, is a **reference**: the
environment says what stands in its place, or refuses it. In front of anything else, or at the
end, a dollar sign makes the text unreadable. `pieces?` tells the characters of a text from its
references, and `interpolate` puts in what the environment says.

A text without references means the same in every environment, and `literal?` gives what it
means. The texts without references are exactly those that were escaped, each from what it means
(`literal?_eq_some_iff`): to escape less, more, or twice is to write another text.
-/

namespace RemoteGateway.Compose

/-- A piece of a text. -/
inductive Piece where
  /-- A character that stands for itself. -/
  | char (c : Char)
  /-- A reference: a name, or what stands in braces. -/
  | reference (content : String)
  deriving DecidableEq

/-- The characters that a name begins with. -/
def isNameStart (c : Char) : Bool :=
  c.isAlpha || c == '_'

/-- The characters of a name after the first. -/
def isNamePart (c : Char) : Bool :=
  isNameStart c || c.isDigit

/-! ### Reading -/

/-- Where a reader of a text stands. What it has read of a reference comes last one first. -/
inductive Scan where
  | outside
  /-- Behind a dollar sign. -/
  | dollar
  /-- In a name. -/
  | name (before : List Char)
  /-- In braces, inside which `depth` further references have begun. -/
  | braces (depth : Nat) (before : List Char)

namespace Scan

/-- The reference that has been read. -/
def reference (before : List Char) : Piece :=
  .reference (String.ofList before.reverse)

/-- Reads a character outside of references. -/
def begin (c : Char) : List Piece × Scan :=
  if c = '$' then ([], dollar) else ([.char c], outside)

/-- Reads a character: the pieces that are complete with it, and where the reader stands after
it. -/
def step? (c : Char) : Scan → Option (List Piece × Scan)
  | outside => some (begin c)
  | dollar =>
    if c = '$' then some ([.char '$'], outside)
    else if c = '\x7b' then some ([], braces 0 [])
    else if isNameStart c then some ([], name [c])
    else none
  | name before =>
    if isNamePart c then some ([], name (c :: before))
    else some (reference before :: (begin c).1, (begin c).2)
  | braces depth before =>
    if c = '\x7d' then
      match depth with
      | 0 => some ([reference before], outside)
      | depth + 1 => some ([], braces depth (c :: before))
    else if c = '\x7b' ∧ before.head? = some '$' then some ([], braces (depth + 1) (c :: before))
    else some ([], braces depth (c :: before))

/-- The pieces that the end of a text completes; a text cannot end behind a dollar sign or in
braces. -/
def finish? : Scan → Option (List Piece)
  | outside => some []
  | name before => some [reference before]
  | dollar | braces .. => none

/-- Reads a text to its end. -/
def run? : Scan → List Char → Option (List Piece)
  | scan, [] => scan.finish?
  | scan, c :: rest => do
    let (pieces, scan) ← scan.step? c
    return pieces ++ (← scan.run? rest)

end Scan

/-- The pieces of a text, if it can be read. -/
def pieces? (text : String) : Option (List Piece) :=
  Scan.outside.run? text.toList

/-- What stands for a piece in an environment. -/
def Piece.text? (environment : String → Option String) : Piece → Option String
  | char c => some (String.singleton c)
  | reference content => environment content

/-- What a text means in an environment. -/
def interpolate (environment : String → Option String) (text : String) : Option String :=
  (pieces? text).bind fun pieces => (pieces.mapM (Piece.text? environment)).map String.join

/-- The character that a piece is, unless it is a reference. -/
def Piece.char? : Piece → Option Char
  | char c => some c
  | reference _ => none

/-- What a text without references means; the environment is never asked. -/
def literal? (text : String) : Option String :=
  (pieces? text).bind fun pieces => (pieces.mapM Piece.char?).map String.ofList

/-! ### Escaped texts -/

/-- Escaping leaves a text without dollar signs as it is. -/
theorem escape_eq_self {text : String} (h : '$' ∉ text.toList) : escape text = text := by
  have hchars : ∀ s : List Char, '$' ∉ s → s.flatMap escapeChar = s := by
    intro s hs
    induction s with
    | nil => rfl
    | cons c s ih =>
      rw [List.mem_cons, not_or] at hs
      rw [List.flatMap_cons, escapeChar, if_neg (Ne.symm hs.1), ih hs.2, List.singleton_append]
  rw [escape, hchars _ h, String.ofList_toList]

theorem map_escape_eq_self {texts : List String} (h : ∀ text ∈ texts, '$' ∉ text.toList) :
    texts.map escape = texts :=
  (List.map_congr_left fun text htext => escape_eq_self (h text htext)).trans (List.map_id texts)

theorem escape_append (text more : String) :
    escape (text ++ more) = escape text ++ escape more := by
  rw [← String.toList_inj, String.toList_append]
  simp only [escape, String.toList_ofList, String.toList_append, List.flatMap_append]

namespace Scan

/-- A text is read character by character. -/
theorem run?_cons {scan : Scan} {c : Char} {rest : List Char} {pieces : List Piece} :
    scan.run? (c :: rest) = some pieces ↔
      ∃ first next later, scan.step? c = some (first, next) ∧
        next.run? rest = some later ∧ first ++ later = pieces := by
  rw [run?.eq_def]
  simp only [Option.bind_eq_bind, Option.bind_eq_some_iff, Prod.exists, Option.pure_def,
    Option.some.injEq]
  constructor
  · rintro ⟨first, next, hstep, later, hlater, happend⟩
    exact ⟨first, next, later, hstep, hlater, happend⟩
  · rintro ⟨first, next, later, hstep, hlater, happend⟩
    exact ⟨first, next, hstep, later, hlater, happend⟩

/-- Every text is read as itself once its dollar signs are doubled. -/
theorem run?_flatMap_escapeChar (s : List Char) :
    outside.run? (s.flatMap escapeChar) = some (s.map .char) := by
  induction s with
  | nil => rfl
  | cons c s ih =>
    rw [List.flatMap_cons, escapeChar]
    split
    · next h =>
      subst h
      refine run?_cons.mpr ⟨[], dollar, _, rfl, ?_, rfl⟩
      exact run?_cons.mpr ⟨_, outside, _, rfl, ih, rfl⟩
    · next h =>
      have hstep : outside.step? c = some ([.char c], outside) := by rw [step?, begin, if_neg h]
      exact run?_cons.mpr ⟨_, _, _, hstep, ih, rfl⟩

/-- A reader in the middle of a reference. -/
def InReference (scan : Scan) : Prop :=
  (∃ before, scan = name before) ∨ ∃ depth before, scan = braces depth before

/-- After each character a reference goes on or is complete. -/
theorem InReference.step {scan next : Scan} {c : Char} {first : List Piece}
    (hscan : scan.InReference) (h : scan.step? c = some (first, next)) :
    next.InReference ∨ ∃ content, Piece.reference content ∈ first := by
  rcases hscan with ⟨before, rfl⟩ | ⟨depth, before, rfl⟩
  · rw [step?] at h
    split at h
    · cases h
      exact .inl (.inl ⟨_, rfl⟩)
    · cases h
      exact .inr ⟨_, List.mem_cons_self⟩
  · cases depth <;> simp only [step?] at h <;> split_ifs at h <;> cases h
    · exact .inr ⟨_, List.mem_cons_self⟩
    · exact .inl (.inr ⟨_, _, rfl⟩)
    · exact .inl (.inr ⟨_, _, rfl⟩)
    · exact .inl (.inr ⟨_, _, rfl⟩)
    · exact .inl (.inr ⟨_, _, rfl⟩)
    · exact .inl (.inr ⟨_, _, rfl⟩)

/-- A reader in the middle of a reference finds at least that one. -/
theorem InReference.exists_mem {scan : Scan} {s : List Char} {pieces : List Piece}
    (hscan : scan.InReference) (h : scan.run? s = some pieces) :
    ∃ content, Piece.reference content ∈ pieces := by
  induction s generalizing scan pieces with
  | nil =>
    rcases hscan with ⟨before, rfl⟩ | ⟨depth, before, rfl⟩
    · cases h
      exact ⟨_, List.mem_cons_self⟩
    · cases h
  | cons c rest ih =>
    obtain ⟨first, next, later, hstep, hlater, rfl⟩ := run?_cons.mp h
    rcases hscan.step hstep with hnext | ⟨content, hmem⟩
    · obtain ⟨content, hmem⟩ := ih hnext hlater
      exact ⟨content, List.mem_append_right _ hmem⟩
    · exact ⟨content, List.mem_append_left _ hmem⟩

/-- Behind a dollar sign, only another one is read as a character. -/
theorem step?_dollar {c : Char} {first : List Piece} {next : Scan}
    (h : dollar.step? c = some (first, next)) :
    (c = '$' ∧ first = [.char '$'] ∧ next = outside) ∨ next.InReference := by
  rw [step?] at h
  split_ifs at h with hdollar hbrace hstart
  · cases h
    exact .inl ⟨hdollar, rfl, rfl⟩
  · cases h
    exact .inr (.inr ⟨_, _, rfl⟩)
  · cases h
    exact .inr (.inl ⟨_, rfl⟩)

/-- What is read as nothing but characters is these characters with their dollar signs doubled;
the first of a pair may have been read already. -/
theorem eq_flatMap_escapeChar {t s : List Char} :
    (outside.run? t = some (s.map .char) → t = s.flatMap escapeChar) ∧
      (dollar.run? t = some (s.map .char) → '$' :: t = s.flatMap escapeChar) := by
  induction t generalizing s with
  | nil =>
    refine ⟨fun h => ?_, fun h => by cases h⟩
    have hnil : s.map Piece.char = [] := (Option.some.inj h).symm
    rw [List.map_eq_nil_iff.mp hnil]
    rfl
  | cons c rest ih =>
    constructor
    · intro h
      obtain ⟨first, next, later, hstep, hlater, happend⟩ := run?_cons.mp h
      rw [step?, begin] at hstep
      split at hstep
      · next hc =>
        cases hstep
        subst hc
        subst happend
        exact ih.2 hlater
      · next hc =>
        cases hstep
        obtain ⟨d, s', rfl, hd, rfl⟩ := List.map_eq_cons_iff.mp happend.symm
        cases hd
        rw [List.flatMap_cons, escapeChar, if_neg hc, ← ih.1 hlater]
        rfl
    · intro h
      obtain ⟨first, next, later, hstep, hlater, happend⟩ := run?_cons.mp h
      rcases step?_dollar hstep with ⟨rfl, rfl, rfl⟩ | hnext
      · obtain ⟨d, s', rfl, hd, rfl⟩ := List.map_eq_cons_iff.mp happend.symm
        cases hd
        rw [List.flatMap_cons, escapeChar, if_pos rfl, ← ih.1 hlater]
        rfl
      · -- A reference that has begun cannot vanish again.
        obtain ⟨content, hmem⟩ := hnext.exists_mem hlater
        have hchar : Piece.reference content ∈ s.map Piece.char :=
          happend ▸ List.mem_append_right _ hmem
        obtain ⟨d, -, hd⟩ := List.mem_map.mp hchar
        cases hd

end Scan

/-! ### Texts without references -/

theorem mapM_char?_eq_some_iff {pieces : List Piece} {s : List Char} :
    pieces.mapM Piece.char? = some s ↔ pieces = s.map .char := by
  induction pieces generalizing s with
  | nil =>
    cases s with
    | nil => exact ⟨fun _ => rfl, fun _ => rfl⟩
    | cons c s => exact ⟨fun h => (by cases h), fun h => (by cases h)⟩
  | cons piece pieces ih =>
    cases piece with
    | reference content =>
      refine ⟨fun h => (by cases h), fun h => ?_⟩
      obtain ⟨d, s', -, hd, -⟩ := List.map_eq_cons_iff.mp h.symm
      cases hd
    | char c =>
      rw [List.mapM_cons]
      constructor
      · intro h
        obtain ⟨d, hd, h⟩ := Option.bind_eq_some_iff.mp h
        obtain ⟨later, hlater, h⟩ := Option.bind_eq_some_iff.mp h
        cases hd
        cases h
        rw [ih.mp hlater]
        rfl
      · intro h
        obtain ⟨d, s', rfl, hd, hlater⟩ := List.map_eq_cons_iff.mp h.symm
        cases hd
        rw [ih.mpr hlater.symm]
        rfl

/-- **A text has no references exactly when it was escaped**, and then it means what was
escaped. -/
theorem literal?_eq_some_iff {text value : String} :
    literal? text = some value ↔ text = escape value := by
  rw [literal?, pieces?, Option.bind_eq_some_iff]
  constructor
  · rintro ⟨pieces, hpieces, h⟩
    obtain ⟨s, hs, rfl⟩ := Option.map_eq_some_iff.mp h
    rw [mapM_char?_eq_some_iff] at hs
    subst hs
    rw [escape, String.toList_ofList, ← Scan.eq_flatMap_escapeChar.1 hpieces,
      String.ofList_toList]
  · rintro rfl
    refine ⟨value.toList.map .char, ?_, ?_⟩
    · rw [escape, String.toList_ofList, Scan.run?_flatMap_escapeChar]
    · rw [mapM_char?_eq_some_iff.mpr rfl, Option.map_some, String.ofList_toList]

theorem literal?_escape (value : String) : literal? (escape value) = some value :=
  literal?_eq_some_iff.mpr rfl

/-- What a text without references means, it means in every environment. -/
theorem interpolate_of_literal? {text value : String} (h : literal? text = some value)
    (environment : String → Option String) : interpolate environment text = some value := by
  have htexts : ∀ s : List Char, (s.map Piece.char).mapM (Piece.text? environment) =
      some (s.map String.singleton) := by
    intro s
    induction s with
    | nil => rfl
    | cons c s ih => rw [List.map_cons, List.mapM_cons, ih]; rfl
  have hjoin : String.join (value.toList.map String.singleton) = value := by
    rw [← String.toList_inj, String.toList_join, List.flatMap_map]
    simp only [String.toList_singleton, List.flatMap_singleton']
  have hpieces : pieces? text = some (value.toList.map .char) := by
    rw [literal?_eq_some_iff.mp h, pieces?, escape, String.toList_ofList,
      Scan.run?_flatMap_escapeChar]
  rw [interpolate, hpieces, Option.bind_some, htexts, Option.map_some, hjoin]

theorem interpolate_escape (environment : String → Option String) (value : String) :
    interpolate environment (escape value) = some value :=
  interpolate_of_literal? (literal?_escape value) environment

end RemoteGateway.Compose
