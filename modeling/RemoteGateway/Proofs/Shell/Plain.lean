import Mathlib.Order.Basic
import Mathlib.Tactic.SplitIfs
import RemoteGateway.Proofs.Shell.Reading

/-!
# Texts that need no quotes

A text is **plain** when it is not empty, holds no character that is special without quotes, and
begins with neither a number sign nor a tilde. Plain texts may be written into a command as they
are, and no others may: texts with one blank between them are read back one by one exactly when
each of them is plain (`words?_intercalate_iff`).

That other texts are not read back is a matter of counting. Whoever quotes, escapes or substitutes
spends a character that does not appear in any word, and one that separates words completes at
most one. The words that are read therefore never have more characters than the text has, and
where they have as many, nothing was special (`isPlain_of_weight`).
-/

namespace RemoteGateway.Shell

/-- Characters that stand for themselves at the beginning of a word: none of them is special
without quotes, and the first one begins neither a comment nor the name of a directory. -/
def AreInert (s : List Char) : Prop :=
  (∀ c ∈ s, isActive c = false) ∧ ∀ c ∈ s.head?, c ≠ '#' ∧ c ≠ '~'

-- The tests are spelled out, lest all characters be tried in turn.
instance (s : List Char) : Decidable (AreInert s) :=
  decidable_of_iff
    ((s.all fun c => !isActive c) = true ∧ (s.head?.all fun c => c != '#' && c != '~') = true)
    (by simp [AreInert, List.all_eq_true, Option.all_eq_true])

/-- A text that stands for itself when it is written into a command. -/
def IsPlain (text : String) : Prop :=
  text ≠ "" ∧ AreInert text.toList

instance (text : String) : Decidable (IsPlain text) :=
  inferInstanceAs (Decidable (_ ∧ _))

/-! ### How much is read -/

/-- The number of characters that the pieces of a word stand for. -/
def size (pieces : List Piece) : Nat :=
  (pieces.filterMap Piece.char?).length

/-- The number of characters of a word and of the blank that is needed behind it. -/
def Token.weight : Token → Nat
  | word pieces => size pieces + 1
  | gap | mark _ => 0

/-- The number of characters of all words, and of a blank behind each. -/
def weight : List Token → Nat
  | [] => 0
  | token :: tokens => token.weight + weight tokens

/-- The same number for the texts that words stand for. -/
def lengths : List String → Nat
  | [] => 0
  | text :: texts => text.length + 1 + lengths texts

/-- The number of characters that are still to be added to complete words. -/
def Scan.weight : Scan → Nat
  | inside _ word | dollar _ word => size (word.getD [])
  -- In double quotes a backslash may stay, so it counts as soon as it is read.
  | escaped frames word => size (word.getD []) + if frames = [] then 0 else 1
  | comment => 0

theorem weight_append (tokens more : List Token) :
    weight (tokens ++ more) = weight tokens + weight more := by
  induction tokens with
  | nil => exact (Nat.zero_add _).symm
  | cons token tokens ih => rw [List.cons_append, weight, weight, ih, Nat.add_assoc]

theorem weight_gap (tokens : List Token) : weight (.gap :: tokens) = weight tokens :=
  Nat.zero_add _

theorem size_append (pieces more : List Piece) :
    size (pieces ++ more) = size pieces + size more := by
  rw [size, List.filterMap_append, List.length_append]
  rfl

namespace Scan

theorem size_extend_le (word : Option (List Piece)) (piece : Piece) :
    size ((extend word piece).getD []) ≤ size (word.getD []) + 1 := by
  rw [extend, Option.getD_some, size_append]
  exact Nat.add_le_add_left (List.length_filterMap_le _ [piece]) _

theorem size_extend_replaced (word : Option (List Piece)) :
    size ((extend word .replaced).getD []) = size (word.getD []) := by
  rw [extend, Option.getD_some, size_append]
  rfl

theorem size_record_le (frames : List Frame) (word : Option (List Piece)) (piece : Piece) :
    size ((record frames word piece).getD []) ≤ size (word.getD []) + 1 := by
  rw [record]
  split
  · exact size_extend_le word piece
  · exact Nat.le_succ _

theorem size_record_replaced (frames : List Frame) (word : Option (List Piece)) :
    size ((record frames word .replaced).getD []) = size (word.getD []) := by
  rw [record]
  split
  · exact size_extend_replaced word
  · rfl

theorem weight_completed_le (word : Option (List Piece)) :
    Shell.weight (completed word) ≤ size (word.getD []) + 1 := by
  cases word with
  | none => exact Nat.zero_le _
  | some pieces => exact Nat.le_refl _

theorem weight_outside_le (c : Char) (word : Option (List Piece)) :
    Shell.weight (outside c word).1 + (outside c word).2.weight ≤ size (word.getD []) + 1 := by
  have hreplaced : 0 + size ((extend word .replaced).getD []) ≤ size (word.getD []) + 1 := by
    rw [Nat.zero_add, size_extend_replaced]
    exact Nat.le_succ _
  have hsame : 0 + size (word.getD []) ≤ size (word.getD []) + 1 := by
    rw [Nat.zero_add]
    exact Nat.le_succ _
  rw [outside]
  split_ifs
  · rw [weight_append]
    exact weight_completed_le word
  · rw [weight_append]
    exact weight_completed_le word
  · exact Nat.zero_le _
  · exact hsame
  · exact hsame
  · exact hsame
  · exact hreplaced
  · exact hreplaced
  · exact hreplaced
  · exact (Nat.zero_add _).trans_le (size_extend_le word (.plain c))

theorem weight_within_le (c : Char) (frame : Frame) (outer : List Frame)
    (word : Option (List Piece)) :
    (within c frame outer word).weight ≤ size (word.getD []) + 1 := by
  have hrecord := size_record_le (frame :: outer) word (.quoted c)
  rw [within]
  split_ifs
  · exact Nat.le_succ _
  · exact Nat.le_refl _
  · exact (size_record_replaced _ word).trans_le (Nat.le_succ _)
  · split
    · exact (size_record_replaced _ word).trans_le (Nat.le_succ _)
    · exact Nat.le_succ _
    · exact hrecord

theorem weight_enclosed_le (c : Char) (frames : List Frame) (word : Option (List Piece)) :
    Shell.weight (enclosed c frames word).1 + (enclosed c frames word).2.weight ≤
      size (word.getD []) + 1 := by
  cases frames with
  | nil => exact weight_outside_le c word
  | cons frame outer => exact (Nat.zero_add _).trans_le (weight_within_le c frame outer word)

theorem size_escape_le (c : Char) (frames : List Frame) (word : Option (List Piece)) :
    size ((escape c frames word).getD []) ≤
      size (word.getD []) + (if frames = [] then 0 else 1) + 1 := by
  have hone := size_record_le frames word (.quoted c)
  have hfirst := size_record_le frames word (.quoted '\\')
  have hsecond := size_record_le frames (record frames word (.quoted '\\')) (.quoted c)
  rw [escape]
  split
  · omega
  · split
    · next hquotes =>
      have hframes : frames ≠ [] := by
        rintro rfl
        cases hquotes.1
      rw [if_neg hframes]
      omega
    · omega

/-- **A character that is read adds at most one character** to what was read before it. -/
theorem weight_step_le (c : Char) (scan : Scan) :
    Shell.weight (scan.step c).1 + (scan.step c).2.weight ≤ scan.weight + 1 := by
  cases scan with
  | inside frames word => exact weight_enclosed_le c frames word
  | escaped frames word => exact (Nat.zero_add _).trans_le (size_escape_le c frames word)
  | dollar frames word =>
    rw [step]
    split_ifs
    · exact (Nat.zero_add _).trans_le (Nat.le_succ _)
    · exact (Nat.zero_add _).trans_le (Nat.le_succ _)
    · exact weight_enclosed_le c frames word
  | comment =>
    rw [step]
    split_ifs
    · exact Nat.zero_le _
    · exact Nat.zero_le _

theorem weight_finish?_le {scan : Scan} {tokens : List Token} (h : scan.finish? = some tokens) :
    Shell.weight tokens ≤ scan.weight + 1 := by
  rw [finish?.eq_def] at h
  split at h
  · cases h
    exact weight_completed_le _
  · cases h
    exact weight_completed_le _
  · cases h
    exact Nat.zero_le _
  all_goals cases h

/-- **A text never holds more than its own length**, counting a blank behind each word. -/
theorem weight_tokens?_le {scan : Scan} {s : List Char} {tokens : List Token}
    (h : scan.tokens? s = some tokens) :
    Shell.weight tokens ≤ scan.weight + s.length + 1 := by
  induction s generalizing scan tokens with
  | nil =>
    obtain ⟨last, hlast, rfl⟩ := Option.map_eq_some_iff.mp h
    exact weight_finish?_le hlast
  | cons c s ih =>
    rcases hnext : scan.step c with ⟨first, next⟩
    have hstep : Shell.weight first + next.weight ≤ scan.weight + 1 := by
      have hle := weight_step_le c scan
      rwa [hnext] at hle
    rw [tokens?_cons hnext] at h
    obtain ⟨later, hlater, rfl⟩ := Option.map_eq_some_iff.mp h
    have hrest := ih hlater
    rw [weight_append, List.length_cons]
    omega

end Scan

/-! ### Texts in which nothing is special -/

theorem literal?_plain (s : List Char) : literal? (s.map .plain) = some (String.ofList s) :=
  literal?_map (fun _ => rfl) s

theorem size_plain (s : List Char) : size (s.map .plain) = s.length := by
  rw [size, List.filterMap_map]
  exact congrArg List.length List.filterMap_some

/-- Inert characters stay inert when one is added that is not special, unless it comes first. -/
theorem AreInert.concat {s : List Char} {c : Char} (h : AreInert s) (hactive : isActive c = false)
    (hfirst : s = [] → c ≠ '#' ∧ c ≠ '~') : AreInert (s ++ [c]) := by
  obtain ⟨hinert, hhead⟩ := h
  refine ⟨fun d hd => ?_, fun d hd => ?_⟩
  · rcases List.mem_append.mp hd with hd | hd
    · exact hinert d hd
    · rw [List.mem_singleton.mp hd]
      exact hactive
  · cases s with
    | nil =>
      cases hd
      exact hfirst rfl
    | cons first s => exact hhead d hd

theorem AreInert.of_append {s rest : List Char} (h : AreInert (s ++ rest)) : AreInert s := by
  obtain ⟨hinert, hhead⟩ := h
  refine ⟨fun c hc => hinert c (List.mem_append_left _ hc), fun c hc => hhead c ?_⟩
  rw [List.head?_append, Option.mem_def.mp hc]
  rfl

namespace Scan

/-- The word that has begun when some plain characters were read. -/
def begun (s : List Char) : Option (List Piece) :=
  if s = [] then none else some (s.map .plain)

theorem begun_eq_none {s : List Char} : begun s = none ↔ s = [] := by
  rw [begun]
  split
  · next h => exact ⟨fun _ => h, fun _ => rfl⟩
  · next h => exact ⟨nofun, fun hs => absurd hs h⟩

theorem getD_begun (s : List Char) : (begun s).getD [] = s.map .plain := by
  rw [begun]
  split
  · next h =>
    subst h
    rfl
  · rfl

theorem extend_begun (s : List Char) (c : Char) :
    extend (begun s) (.plain c) = begun (s ++ [c]) := by
  rw [extend, getD_begun, begun, if_neg (List.concat_ne_nil c s), List.map_append]
  rfl

theorem size_begun (s : List Char) : size ((begun s).getD []) = s.length := by
  rw [getD_begun, size_plain]

/-- One more plain character is one more piece of the word. -/
theorem step_of_areInert {s : List Char} {c : Char} (h : AreInert (s ++ [c])) :
    (inside [] (begun s)).step c = ([], inside [] (begun (s ++ [c]))) := by
  obtain ⟨hinert, hhead⟩ := h
  have hactive : isActive c = false := hinert c (List.mem_append_right _ List.mem_cons_self)
  have hfirst : begun s = none → c ≠ '#' ∧ c ≠ '~' := by
    intro hs
    rw [begun_eq_none.mp hs] at hhead
    exact hhead c rfl
  simp only [isActive, Bool.or_eq_false_iff] at hactive
  obtain ⟨⟨⟨hgap, hmark⟩, hpattern⟩, hlead⟩ := hactive
  simp only [isLead, List.contains_eq_mem, List.mem_cons, List.not_mem_nil, or_false,
    decide_eq_false_iff_not, not_or] at hlead
  obtain ⟨hbackslash, hsingle, hdouble, hbackquote, hdollar⟩ := hlead
  have hcomment : ¬ (c = '#' ∧ begun s = none) := fun hc => (hfirst hc.2).1 hc.1
  have htilde : ¬ (c = '~' ∧ begun s = none) := fun hc => (hfirst hc.2).2 hc.1
  rw [← extend_begun]
  simp [step, enclosed, outside, hgap, hmark, hpattern, hbackslash, hsingle, hdouble, hbackquote,
    hdollar, hcomment, htilde]

/-- Any other character ends the word, ends the command, or adds nothing to any word. -/
theorem step_of_not_areInert {s : List Char} {c : Char} (h : AreInert s)
    (hnot : ¬ AreInert (s ++ [c])) :
    (inside [] (begun s)).step c = (completed (begun s) ++ [.gap], start) ∨
      (inside [] (begun s)).step c = (completed (begun s) ++ [.mark c], start) ∨
      ∃ next, (inside [] (begun s)).step c = ([], next) ∧ next.weight ≤ s.length := by
  have hsame : size ((begun s).getD []) ≤ s.length := Nat.le_of_eq (size_begun s)
  have hreplaced : size ((extend (begun s) .replaced).getD []) ≤ s.length := by
    rw [size_extend_replaced]
    exact hsame
  rw [step, enclosed, outside]
  split_ifs with hgap hmark hcomment hbackslash hsingle hdouble hbackquote hdollar hpattern
  · exact .inl rfl
  · exact .inr (.inl rfl)
  · exact .inr (.inr ⟨_, rfl, Nat.zero_le _⟩)
  · exact .inr (.inr ⟨_, rfl, hsame⟩)
  · exact .inr (.inr ⟨_, rfl, hsame⟩)
  · exact .inr (.inr ⟨_, rfl, hsame⟩)
  · exact .inr (.inr ⟨_, rfl, hreplaced⟩)
  · exact .inr (.inr ⟨_, rfl, hreplaced⟩)
  · exact .inr (.inr ⟨_, rfl, hreplaced⟩)
  · -- Nothing is special about the character, so it is one more plain one.
    refine absurd (h.concat ?_ fun hs => ?_) hnot
    · simp [isActive, isLead, hgap, hmark, hbackslash, hsingle, hdouble, hbackquote, hdollar,
        not_or.mp hpattern]
    · have hnone := begun_eq_none.mpr hs
      exact ⟨fun hc => hcomment ⟨hc, hnone⟩, fun hc => hpattern (.inr ⟨hc, hnone⟩)⟩

/-- Plain characters are read as they are. -/
theorem run_of_areInert {s rest : List Char} (h : AreInert (s ++ rest)) :
    (inside [] (begun s)).run rest = ([], inside [] (begun (s ++ rest))) := by
  induction rest generalizing s with
  | nil => rw [run_nil, List.append_nil]
  | cons c rest ih =>
    rw [List.append_cons] at h ⊢
    rw [run_cons_of_step (step_of_areInert h.of_append), ih h]

/-- Plain characters make a word. -/
theorem run_start_of_areInert {s : List Char} (hs : s ≠ []) (h : AreInert s) :
    start.run s = ([], inside [] (some (s.map .plain))) := by
  have hinert : AreInert ([] ++ s) := h
  have hrun := run_of_areInert hinert
  rw [List.nil_append, begun, begun, if_pos rfl, if_neg hs] at hrun
  exact hrun

/-- The word that plain characters make is read as their text. -/
theorem wordsOf?_completed {s : List Char} (h : s ≠ []) (tokens : List Token) :
    wordsOf? (completed (begun s) ++ tokens) = (wordsOf? tokens).map (String.ofList s :: ·) := by
  rw [begun, if_neg h]
  exact wordsOf?_word (literal?_plain s) tokens

/-- A mark is no part of a single command. -/
theorem wordsOf?_mark (s : List Char) (c : Char) (tokens : List Token) :
    wordsOf? (completed (begun s) ++ .mark c :: tokens) = none := by
  by_cases hs : s = []
  · rw [hs]
    rfl
  · rw [wordsOf?_completed hs]
    rfl

theorem weight_completed {s : List Char} (h : s ≠ []) :
    Shell.weight (completed (begun s)) = s.length + 1 := by
  rw [begun, if_neg h]
  exact congrArg (· + 1) (size_plain s)

end Scan

theorem areInert_nil : AreInert [] := by
  decide

theorem isPlain_ofList {s : List Char} (hs : s ≠ []) (h : AreInert s) :
    IsPlain (String.ofList s) := by
  refine ⟨fun hempty => hs ?_, ?_⟩
  · rw [← String.toList_ofList (l := s), hempty]
    rfl
  · rw [String.toList_ofList]
    exact h

/-- **Words that hold all of a text are plain**: when the words have as many characters as the
text they were read from, nothing in it was special. -/
theorem isPlain_of_weight {s rest : List Char} {tokens : List Token} {values : List String}
    (hinert : AreInert s) (h : (Scan.inside [] (Scan.begun s)).tokens? rest = some tokens)
    (hvalues : wordsOf? tokens = some values)
    (hweight : s.length + rest.length + 1 ≤ weight tokens) :
    ∀ value ∈ values, IsPlain value := by
  induction rest generalizing s tokens values with
  | nil =>
    have htokens : tokens = Scan.completed (Scan.begun s) := (Option.some.inj h).symm
    subst htokens
    by_cases hs : s = []
    · subst hs
      cases hweight
    · rw [← List.append_nil (Scan.completed _), Scan.wordsOf?_completed hs] at hvalues
      cases hvalues
      intro value hvalue
      rw [List.mem_singleton.mp hvalue]
      exact isPlain_ofList hs hinert
  | cons c rest ih =>
    rw [List.length_cons] at hweight
    by_cases hc : AreInert (s ++ [c])
    · rw [Scan.tokens?_cons (Scan.step_of_areInert hc)] at h
      obtain ⟨later, hlater, rfl⟩ := Option.map_eq_some_iff.mp h
      refine ih hc hlater hvalues ?_
      rw [List.length_append, List.length_singleton, Nat.add_right_comm s.length]
      exact hweight
    · rcases Scan.step_of_not_areInert hinert hc with hstep | hstep | ⟨next, hstep, hnext⟩
      · rw [Scan.tokens?_cons hstep] at h
        obtain ⟨later, hlater, rfl⟩ := Option.map_eq_some_iff.mp h
        rw [List.append_assoc] at hvalues hweight
        rw [weight_append, List.singleton_append, weight_gap] at hweight
        have hle := Scan.weight_tokens?_le hlater
        change weight later ≤ 0 + rest.length + 1 at hle
        by_cases hs : s = []
        · -- A blank that ends no word is a character too many.
          subst hs
          change 0 + (rest.length + 1) + 1 ≤ 0 + weight later at hweight
          omega
        · rw [Scan.wordsOf?_completed hs] at hvalues
          rw [Scan.weight_completed hs] at hweight
          obtain ⟨others, hothers, rfl⟩ := Option.map_eq_some_iff.mp hvalues
          have hrest : 0 + rest.length + 1 ≤ weight later := by
            omega
          have hplain := ih areInert_nil hlater hothers hrest
          exact List.forall_mem_cons.mpr ⟨isPlain_ofList hs hinert, hplain⟩
      · rw [Scan.tokens?_cons hstep] at h
        obtain ⟨later, hlater, rfl⟩ := Option.map_eq_some_iff.mp h
        rw [List.append_assoc, List.singleton_append, Scan.wordsOf?_mark] at hvalues
        cases hvalues
      · rw [Scan.tokens?_cons hstep] at h
        obtain ⟨later, hlater, rfl⟩ := Option.map_eq_some_iff.mp h
        have hle := Scan.weight_tokens?_le hlater
        rw [List.nil_append] at hweight
        omega

/-! ### Words that are read back -/

theorem size_of_literal? {pieces : List Piece} {text : String} (h : literal? pieces = some text) :
    size pieces = text.length := by
  obtain ⟨s, hs, rfl⟩ := Option.map_eq_some_iff.mp h
  rw [String.length_ofList]
  clear h
  induction pieces generalizing s with
  | nil =>
    cases hs
    rfl
  | cons piece pieces ih =>
    rw [List.mapM_cons] at hs
    obtain ⟨c, hc, hs⟩ := Option.bind_eq_some_iff.mp hs
    obtain ⟨later, hlater, hs⟩ := Option.bind_eq_some_iff.mp hs
    cases hs
    rw [size, List.filterMap_cons_some hc, List.length_cons]
    exact congrArg (· + 1) (ih later hlater)

/-- Words hold the characters of the texts that they are read as. -/
theorem weight_of_wordsOf? {tokens : List Token} {values : List String}
    (h : wordsOf? tokens = some values) :
    weight tokens = lengths values := by
  induction tokens generalizing values with
  | nil =>
    cases h
    rfl
  | cons token tokens ih =>
    cases token with
    | gap => exact (weight_gap tokens).trans (ih h)
    | mark c => cases h
    | word pieces =>
      obtain ⟨text, htext, h⟩ := Option.bind_eq_some_iff.mp h
      obtain ⟨texts, htexts, rfl⟩ := Option.map_eq_some_iff.mp h
      rw [weight, lengths, ih htexts, ← size_of_literal? htext]
      rfl

theorem length_intercalate {values : List String} (h : values ≠ []) :
    (" ".intercalate values).length + 1 = lengths values := by
  induction values with
  | nil => exact absurd rfl h
  | cons value values ih =>
    cases values with
    | nil => rfl
    | cons next values =>
      have hblank : " ".length = 1 := rfl
      rw [String.intercalate_cons_cons, String.length_append, String.length_append, lengths,
        ← ih (List.cons_ne_nil next values), hblank, Nat.add_assoc]

/-- A plain text is a word that stands for itself. -/
theorem isWordOf_of_isPlain {text : String} (h : IsPlain text) : IsWordOf text text := by
  have hne : text.toList ≠ [] := fun hnil => h.1 (String.toList_eq_nil_iff.mp hnil)
  refine ⟨text.toList.map .plain, Scan.run_start_of_areInert hne h.2, ?_⟩
  rw [literal?_plain, String.ofList_toList]

/-- **Texts are read back without quotes exactly when they are plain**, written with one blank
between them. -/
theorem words?_intercalate_iff (values : List String) :
    words? (" ".intercalate values) = some values ↔ ∀ value ∈ values, IsPlain value := by
  constructor
  · intro h
    obtain ⟨tokens, htokens, hvalues⟩ := Option.bind_eq_some_iff.mp h
    by_cases hnil : values = []
    · rw [hnil]
      exact nofun
    · have hall : 0 + (" ".intercalate values).toList.length + 1 = weight tokens := by
        rw [weight_of_wordsOf? hvalues, ← length_intercalate hnil, String.length_toList,
          Nat.zero_add]
      exact isPlain_of_weight areInert_nil htokens hvalues (Nat.le_of_eq hall)
  · intro h
    refine words?_intercalate (List.forall₂_same.mpr fun value hvalue => ?_)
    exact isWordOf_of_isPlain (h value hvalue)

end RemoteGateway.Shell
