import Mathlib.Data.List.TakeDrop
import Mathlib.Tactic.SplitIfs
import RemoteGateway.Yaml.Scalar

/-!
# Lines

Block style is read line by line. Where a line begins tells which container it belongs to, and
blank lines and comments belong to none. A container ends in front of the first line that begins
further out (`Stops`); a sequence below a key in the same column also ends in front of a line of
this column that has no dash (`Ends`).
-/

namespace RemoteGateway.Yaml

/-- The lines of a text. Behind the last line feed there is a line only if there is something. -/
def linesOf : List Char → List (List Char)
  | [] => []
  | c :: rest =>
    if c = '\n' then [] :: linesOf rest
    else
      match linesOf rest with
      | [] => [[c]]
      | line :: later => (c :: line) :: later

/-- The column in which a line begins. -/
def indentOf (line : List Char) : Nat :=
  (line.takeWhile (· == ' ')).length

/-- A line without its indentation. -/
def dropBlanks (line : List Char) : List Char :=
  line.dropWhile (· == ' ')

/-- Whether a line is blank or a comment. -/
def isSkipped (line : List Char) : Bool :=
  match dropBlanks line with
  | [] => true
  | c :: _ => c == '#'

/-- Whether nothing or a blank comes first in a line. -/
def startsBlank : List Char → Bool
  | [] => true
  | c :: _ => c == ' '

/-- Whether the content of a line is an item of a sequence. -/
def isDashed : List Char → Bool
  | '-' :: rest => startsBlank rest
  | _ => false

/-! ### Cutting a text into lines -/

section

variable {line rest s : List Char}

theorem linesOf_cons_of_ne {c : Char} (h : c ≠ '\n') {later : List (List Char)}
    (hlines : linesOf s = line :: later) : linesOf (c :: s) = (c :: line) :: later := by
  rw [linesOf, if_neg h, hlines]

/-- What stands in front of a line feed is a line. -/
theorem linesOf_line (h : '\n' ∉ line) : linesOf (line ++ '\n' :: rest) = line :: linesOf rest := by
  induction line with
  | nil => rw [List.nil_append, linesOf, if_pos rfl]
  | cons c line ih =>
    exact linesOf_cons_of_ne (List.ne_of_not_mem_cons h).symm
      (ih (List.not_mem_of_not_mem_cons h))

/-- A text begins with the beginning of a line. -/
theorem exists_linesOf_append {start : List Char} (hne : start ≠ []) (h : '\n' ∉ start) :
    ∃ more later, linesOf (start ++ rest) = (start ++ more) :: later := by
  induction start with
  | nil => exact absurd rfl hne
  | cons c start ih =>
    have hc : c ≠ '\n' := (List.ne_of_not_mem_cons h).symm
    cases start with
    | nil =>
      rw [List.singleton_append, linesOf, if_neg hc]
      cases linesOf rest with
      | nil => exact ⟨[], [], rfl⟩
      | cons line later => exact ⟨line, later, rfl⟩
    | cons next start =>
      obtain ⟨more, later, hlines⟩ := ih (List.cons_ne_nil _ _) (List.not_mem_of_not_mem_cons h)
      exact ⟨more, later, linesOf_cons_of_ne hc hlines⟩

/-- Whether a text ends with a line feed. -/
def endsLine (s : List Char) : Bool :=
  s.getLast? == some '\n'

/-- Lines joined again make the text, with a line feed at its end in any case. -/
theorem flatMap_linesOf (hne : s ≠ []) :
    (linesOf s).flatMap (· ++ ['\n']) = s ++ if endsLine s then [] else ['\n'] := by
  induction s with
  | nil => exact absurd rfl hne
  | cons c s ih =>
    cases s with
    | nil =>
      rw [linesOf, linesOf, endsLine]
      by_cases hc : c = '\n' <;> simp [hc]
    | cons next s =>
      have hends : endsLine (c :: next :: s) = endsLine (next :: s) := by
        rw [endsLine, endsLine, List.getLast?_cons_cons]
      have ih := ih (List.cons_ne_nil _ _)
      rw [hends, List.cons_append, ← ih, linesOf]
      split_ifs with hc
      · rw [hc]
        rfl
      · cases hlines : linesOf (next :: s) with
        | nil =>
          rw [hlines] at ih
          exact absurd ih.symm (by simp)
        | cons line later => rfl

/-- No line holds a line feed. -/
theorem not_mem_of_mem_linesOf (h : line ∈ linesOf s) : '\n' ∉ line := by
  induction s generalizing line with
  | nil => exact absurd h List.not_mem_nil
  | cons c s ih =>
    rw [linesOf] at h
    split_ifs at h with hc
    · rcases List.mem_cons.mp h with rfl | h
      · exact List.not_mem_nil
      · exact ih h
    · split at h
      · rw [List.mem_singleton.mp h, List.mem_singleton]
        exact Ne.symm hc
      · next first later hlines =>
        rcases List.mem_cons.mp h with rfl | h
        · exact List.not_mem_cons_of_ne_of_not_mem (Ne.symm hc)
            (ih (hlines ▸ List.mem_cons_self))
        · exact ih (hlines ▸ List.mem_cons_of_mem _ h)

end

/-! ### Where lines begin -/

/-- A content that shows where its line begins: it begins with no blank, and is no comment. -/
def IsVisible (content : List Char) : Prop :=
  ∃ c rest, content = c :: rest ∧ c ≠ ' ' ∧ c ≠ '#'

/-- The next line begins in front of a column, if there is a next line. -/
def Stops (column : Nat) (lines : List (List Char)) : Prop :=
  ∀ line ∈ lines.head?, isSkipped line = false ∧ indentOf line < column

/-- The next line begins in front of a column, or in it but without a dash. -/
def Ends (column : Nat) (lines : List (List Char)) : Prop :=
  ∀ line ∈ lines.head?, isSkipped line = false ∧
    (indentOf line < column ∨ indentOf line = column ∧ isDashed (line.drop column) = false)

section

variable {column n : Nat} {content line : List Char} {lines : List (List Char)}

theorem not_mem_spaces : '\n' ∉ spaces n := by
  intro h
  exact absurd (List.eq_of_mem_replicate h) (by decide)

theorem drop_spaces : (spaces n ++ content).drop n = content :=
  List.drop_left' List.length_replicate

theorem dropBlanks_spaces : dropBlanks (spaces n ++ content) = dropBlanks content := by
  rw [dropBlanks, List.dropWhile_append_of_pos]
  · rfl
  · intro c hc
    rw [List.eq_of_mem_replicate hc]
    rfl

theorem isSkipped_spaces : isSkipped (spaces n ++ content) = isSkipped content := by
  rw [isSkipped, dropBlanks_spaces]
  rfl

theorem dropBlanks_of_isVisible (h : IsVisible content) : dropBlanks content = content := by
  obtain ⟨c, rest, rfl, hblank, -⟩ := h
  rw [dropBlanks, List.dropWhile_cons_of_neg (by simpa using hblank)]

theorem isSkipped_of_isVisible (h : IsVisible content) : isSkipped content = false := by
  rw [isSkipped, dropBlanks_of_isVisible h]
  obtain ⟨c, rest, rfl, -, hcomment⟩ := h
  exact beq_false_of_ne hcomment

/-- A line begins behind the blanks in front of its content. -/
theorem indentOf_spaces_cons {c : Char} (hc : c ≠ ' ') : indentOf (spaces n ++ c :: line) = n := by
  rw [indentOf, List.takeWhile_append_of_pos]
  · rw [List.takeWhile_cons_of_neg (by simpa using hc), List.append_nil]
    exact List.length_replicate
  · intro c hc
    rw [List.eq_of_mem_replicate hc]
    rfl

theorem indentOf_spaces (h : IsVisible content) : indentOf (spaces n ++ content) = n := by
  obtain ⟨c, rest, rfl, hblank, -⟩ := h
  exact indentOf_spaces_cons hblank

theorem Stops.mono {more : Nat} (h : Stops column lines) (hle : column ≤ more) :
    Stops more lines := fun line hline =>
  ⟨(h line hline).1, Nat.lt_of_lt_of_le (h line hline).2 hle⟩

theorem Stops.ends (h : Stops column lines) : Ends column lines := fun line hline =>
  ⟨(h line hline).1, .inl (h line hline).2⟩

theorem Ends.stops (h : Ends column lines) : Stops (column + 1) lines := fun line hline =>
  ⟨(h line hline).1, by have := (h line hline).2; omega⟩

/-- Nothing is skipped in front of a line that ends something. -/
theorem Stops.dropWhile (h : Stops column lines) : lines.dropWhile isSkipped = lines := by
  cases lines with
  | nil => rfl
  | cons line lines =>
    have hshown := (h line rfl).1
    rw [List.dropWhile_cons_of_neg (by rw [hshown]; exact Bool.false_ne_true)]

end

end RemoteGateway.Yaml
