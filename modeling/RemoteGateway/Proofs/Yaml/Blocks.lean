import Mathlib.Data.List.DropRight
import RemoteGateway.Proofs.Yaml.Lines

/-!
# Literal blocks

A literal block consists of the lines below its header that are blank or begin far enough in.
How far that is, the header announces or the first line shows; the header also tells what becomes
of the line feeds at the end. What the writer puts into a block is read back by what it announces
(`literalContent?_literalBody`).
-/

namespace RemoteGateway.Yaml

/-! ### Headers -/

/-- What becomes of the line feeds at the end of a block. -/
inductive Chomping where
  /-- There is none. -/
  | strip
  /-- There is one, if there is anything else. -/
  | clip
  /-- All stay. -/
  | keep

/-- What a block keeps of its content. -/
def Chomping.apply (chomping : Chomping) (content : List Char) : List Char :=
  let stripped := content.rdropWhile (· == '\n')
  match chomping with
  | strip => stripped
  | clip => if stripped.isEmpty then [] else stripped ++ ['\n']
  | keep => content

/-- The chomping that a header announces by a sign. -/
def chomping? (c : Char) : Option Chomping :=
  if c = '-' then some .strip else if c = '+' then some .keep else none

/-- The indentation that a header announces by a digit, counted from the column around. -/
def indentation? (c : Char) : Option Nat :=
  if '1' ≤ c ∧ c ≤ '9' then some (c.toNat - '0'.toNat) else none

/-- What a header announces: an indentation, or none, and a chomping. -/
def header? : List Char → Option (Option Nat × Chomping)
  | [] => some (none, .clip)
  | [c] =>
    match chomping? c with
    | some chomping => some (none, chomping)
    | none => (indentation? c).map fun indent => (some indent, .clip)
  | [c, d] =>
    match chomping? c with
    | some chomping => (indentation? d).map fun indent => (some indent, chomping)
    | none => do return (some (← indentation? c), ← chomping? d)
  | _ => none

/-! ### Content -/

/-- Whether a line is blank. -/
def isBlank (line : List Char) : Bool :=
  (dropBlanks line).isEmpty

/-- Whether a line belongs to a block whose content is indented by `indent`. -/
def isInside (indent : Nat) (line : List Char) : Bool :=
  isBlank line || indent ≤ indentOf line

/-- The indentation of the content of a block that stands in a container in a column: without an
announcement it is that of the first line that is not blank. -/
def indentationOf (column : Nat) (announced : Option Nat) (lines : List (List Char)) : Nat :=
  match announced with
  | some indent => column + indent
  | none => max (column + 1) (((lines.dropWhile isBlank).head?.map indentOf).getD 0)

/-- The content of a block behind its header, and the lines below it. -/
def literalContent? (column : Nat) (header : List Char) (lines : List (List Char)) :
    Option (List Char × List (List Char)) := do
  let (announced, chomping) ← header? header
  let indent := indentationOf column announced lines
  let content := (lines.takeWhile (isInside indent)).map (List.drop indent)
  return (chomping.apply (content.flatMap (· ++ ['\n'])), lines.dropWhile (isInside indent))

/-! ### The lines of a block -/

section

variable {column indent : Nat} {s line : List Char} {lines : List (List Char)}

/-- A line as it stands in a block: one that is empty is not indented. -/
def indentLine (indent : Nat) : List Char → List Char
  | [] => []
  | c :: rest => spaces indent ++ c :: rest

/-- The line feed that closes a block, when its content does not end with one. -/
def closing (s : List Char) : List Char :=
  if endsLine s then [] else ['\n']

theorem literalBody_newline {fresh : Bool} :
    literalBody indent fresh ('\n' :: s) = '\n' :: literalBody indent true s := by
  rw [literalBody]
  rfl

theorem literalBody_cons {c : Char} {fresh : Bool} (h : isBreak c = false) :
    literalBody indent fresh (c :: s) =
      (if fresh then spaces indent else []) ++ c :: literalBody indent false s := by
  rw [literalBody, h]
  rfl

/-- A text that is not empty has a first line. -/
theorem exists_linesOf (h : s ≠ []) : ∃ first later, linesOf s = first :: later := by
  refine List.exists_cons_of_ne_nil fun hlines => ?_
  have hjoined := flatMap_linesOf h
  rw [hlines] at hjoined
  exact h (List.append_eq_nil_iff.mp hjoined.symm).1

/-- A block that goes on is closed where it ends. -/
theorem closing_cons {c : Char} (h : s ≠ []) : closing (c :: s) = closing s := by
  obtain ⟨d, s, rfl⟩ := List.exists_cons_of_ne_nil h
  rw [closing, closing, endsLine, endsLine, List.getLast?_cons_cons]

/-- The lines as they stand in a block. -/
def writtenLines (indent : Nat) (lines : List (List Char)) : List Char :=
  lines.flatMap fun line => indentLine indent line ++ ['\n']

theorem writtenLines_cons :
    writtenLines indent (line :: lines) =
      indentLine indent line ++ '\n' :: writtenLines indent lines := by
  rw [writtenLines, List.flatMap_cons, List.append_assoc]
  rfl

/-- A line of a block is indented where it begins. -/
theorem literalBody_fresh {first : List Char} (hbreak : ∀ c ∈ s, isBreak c = true → c = '\n')
    (hlines : linesOf s = first :: lines)
    (h : literalBody indent false s ++ closing s = first ++ '\n' :: writtenLines indent lines) :
    literalBody indent true s ++ closing s = writtenLines indent (first :: lines) := by
  cases s with
  | nil => cases hlines
  | cons c s =>
    by_cases hc : c = '\n'
    · rw [hc, linesOf, if_pos rfl] at hlines
      cases hlines
      rw [hc, literalBody_newline] at h ⊢
      exact h
    · have hchar : isBreak c = false :=
        eq_false_of_ne_true fun hbreaks => hc (hbreak c List.mem_cons_self hbreaks)
      obtain ⟨more, rfl⟩ : ∃ more, first = c :: more := by
        rw [linesOf, if_neg hc] at hlines
        split at hlines <;>
        · cases hlines
          exact ⟨_, rfl⟩
      rw [literalBody_cons hchar, if_neg Bool.false_ne_true, List.nil_append] at h
      rw [literalBody_cons hchar, if_pos rfl, List.append_assoc, h, writtenLines_cons,
        indentLine, List.append_assoc]

/-- The rest of a line of a block, and the lines below it. -/
theorem literalBody_append_closing {first : List Char}
    (hbreak : ∀ c ∈ s, isBreak c = true → c = '\n') (hlines : linesOf s = first :: lines) :
    literalBody indent false s ++ closing s = first ++ '\n' :: writtenLines indent lines := by
  induction s generalizing first lines with
  | nil => cases hlines
  | cons c s ih =>
    have hrest : ∀ c ∈ s, isBreak c = true → c = '\n' := fun d hd =>
      hbreak d (List.mem_cons_of_mem c hd)
    by_cases hc : c = '\n'
    · -- Behind a line feed the rest of the text is a block of its own.
      rw [hc, linesOf, if_pos rfl] at hlines
      cases hlines
      rw [hc, literalBody_newline]
      cases s with
      | nil => rfl
      | cons d s =>
        obtain ⟨first, later, hlines⟩ := exists_linesOf (List.cons_ne_nil d s)
        rw [closing_cons (List.cons_ne_nil d s), List.cons_append,
          literalBody_fresh hrest hlines (ih hrest hlines), hlines]
        rfl
    · have hchar : isBreak c = false :=
        eq_false_of_ne_true fun hbreaks => hc (hbreak c List.mem_cons_self hbreaks)
      rw [literalBody_cons hchar, if_neg Bool.false_ne_true, List.nil_append]
      cases s with
      | nil =>
        rw [linesOf, if_neg hc] at hlines
        cases hlines
        rw [closing, endsLine, List.getLast?_singleton, Option.some_beq_some, beq_false_of_ne hc]
        rfl
      | cons d s =>
        obtain ⟨line, later, hnext⟩ := exists_linesOf (List.cons_ne_nil d s)
        rw [linesOf_cons_of_ne hc hnext] at hlines
        cases hlines
        rw [closing_cons (List.cons_ne_nil d s), List.cons_append, ih hrest hnext]
        rfl

/-- Lines of a block are lines of the file. -/
theorem linesOf_writtenLines {rest : List Char} (h : ∀ line ∈ lines, '\n' ∉ line) :
    linesOf (writtenLines indent lines ++ rest) =
      lines.map (indentLine indent) ++ linesOf rest := by
  induction lines with
  | nil => rfl
  | cons line lines ih =>
    have hline : '\n' ∉ indentLine indent line := by
      cases line with
      | nil => exact List.not_mem_nil
      | cons c line =>
        rw [indentLine, List.mem_append, not_or]
        exact ⟨not_mem_spaces, h _ List.mem_cons_self⟩
    rw [writtenLines_cons, List.append_assoc, List.cons_append, linesOf_line hline,
      ih fun line hmem => h line (List.mem_cons_of_mem _ hmem), List.map_cons, List.cons_append]

/-! ### Which lines a block takes -/

theorem isInside_indentLine : isInside indent (indentLine indent line) = true := by
  cases line with
  | nil => rfl
  | cons c line =>
    have hle : indent ≤ indentOf (spaces indent ++ c :: line) := by
      rw [indentOf, List.takeWhile_append_of_pos, List.length_append, spaces,
        List.length_replicate]
      · exact Nat.le_add_right _ _
      · intro c hc
        rw [List.eq_of_mem_replicate hc]
        rfl
    rw [isInside, indentLine, decide_eq_true hle, Bool.or_true]

theorem drop_indentLine : (indentLine indent line).drop indent = line := by
  cases line with
  | nil => exact List.drop_nil
  | cons c line => exact drop_spaces

theorem not_isInside (hshown : isSkipped line = false) (hindent : indentOf line < indent) :
    isInside indent line = false := by
  have hblank : isBlank line = false := by
    rw [isSkipped] at hshown
    rw [isBlank]
    cases hline : dropBlanks line with
    | nil => rw [hline] at hshown; cases hshown
    | cons c rest => rfl
  rw [isInside, hblank, decide_eq_false (Nat.not_le.mpr hindent)]
  rfl

variable {more : List (List Char)}

/-- A block takes its own lines and no more. -/
theorem span_isInside (content : List (List Char)) (h : Stops indent more) :
    (content.map (indentLine indent) ++ more).takeWhile (isInside indent) =
      content.map (indentLine indent) ∧
    (content.map (indentLine indent) ++ more).dropWhile (isInside indent) = more := by
  have hall : ∀ line ∈ content.map (indentLine indent), isInside indent line = true := by
    intro line hline
    obtain ⟨inner, -, rfl⟩ := List.mem_map.mp hline
    exact isInside_indentLine
  rw [List.takeWhile_append_of_pos hall, List.dropWhile_append_of_pos hall]
  cases more with
  | nil => exact ⟨List.append_nil _, rfl⟩
  | cons line more =>
    have hnot := not_isInside (h line rfl).1 (h line rfl).2
    have hstop : ¬ isInside indent line = true := ne_true_of_eq_false hnot
    rw [List.takeWhile_cons_of_neg hstop, List.dropWhile_cons_of_neg hstop]
    exact ⟨List.append_nil _, rfl⟩

/-! ### Headers of the writer -/

/-- The indentation that a block of the writer announces. -/
def announcedIndentation (s : List Char) : Option Nat :=
  if s.head?.any fun c => c == ' ' || isBreak c then some 2 else none

/-- The indentation of a block is announced where its first line does not show it. -/
theorem indentationOf_announced (hbreak : ∀ c ∈ s, isBreak c = true → c = '\n') (hne : s ≠ []) :
    indentationOf column (announcedIndentation s)
      ((linesOf s).map (indentLine (column + 2)) ++ lines) = column + 2 := by
  rw [announcedIndentation]
  split
  · rfl
  · next hshown =>
    obtain ⟨c, s, rfl⟩ := List.exists_cons_of_ne_nil hne
    rw [List.head?_cons, Option.any_some, Bool.or_eq_true, not_or, beq_iff_eq] at hshown
    have hc : c ≠ '\n' := by
      rintro rfl
      exact hshown.2 rfl
    obtain ⟨more, later, hlines⟩ : ∃ more later, linesOf ([c] ++ s) = ([c] ++ more) :: later :=
      exists_linesOf_append (List.cons_ne_nil _ _) (by simpa using Ne.symm hc)
    have hindent : indentOf (spaces (column + 2) ++ c :: more) = column + 2 :=
      indentOf_spaces_cons hshown.1
    have hblank : ¬ isBlank (spaces (column + 2) ++ c :: more) = true := by
      rw [isBlank, dropBlanks_spaces, dropBlanks,
        List.dropWhile_cons_of_neg (by simpa using hshown.1)]
      exact Bool.false_ne_true
    rw [List.singleton_append] at hlines
    rw [hlines, List.map_cons, List.cons_append, List.singleton_append, indentLine, indentationOf,
      List.dropWhile_cons_of_neg hblank, List.head?_cons, Option.map_some, hindent,
      Option.getD_some]
    exact Nat.max_eq_right (Nat.le_succ _)

/-- What a header announces in front of a chomping. -/
theorem header?_append (sign : List Char) {chomping : Chomping}
    (hplain : header? sign = some (none, chomping))
    (hled : header? ('2' :: sign) = some (some 2, chomping)) (h : literalHints s =
      (if s.head?.any fun c => c == ' ' || isBreak c then ['2'] else []) ++ sign) :
    header? (literalHints s) = some (announcedIndentation s, chomping) := by
  rw [h, announcedIndentation]
  split
  · exact hled
  · exact hplain

/-- A text whose last character is no line feed has none to lose. -/
theorem rdropWhile_concat {c : Char} (hc : c ≠ '\n') :
    (s ++ [c]).rdropWhile (· == '\n') = s ++ [c] :=
  List.rdropWhile_concat_neg _ _ _ (by simpa using hc)

theorem closing_concat {c : Char} : closing (s ++ [c]) = if c = '\n' then [] else ['\n'] := by
  rw [closing, endsLine, List.getLast?_concat, Option.some_beq_some]
  by_cases hc : c = '\n' <;> simp [hc]

/-- **The header tells what is to become of the line feeds at the end.** -/
theorem header?_literalHints (hbreak : ∀ c ∈ s, isBreak c = true → c = '\n') (hne : s ≠ []) :
    ∃ chomping, header? (literalHints s) = some (announcedIndentation s, chomping) ∧
      chomping.apply (s ++ closing s) = s := by
  obtain ⟨start, last, rfl⟩ := (List.eq_nil_or_concat s).resolve_left hne
  rw [List.concat_eq_append] at hbreak ⊢
  rw [closing_concat]
  -- By the last character, and by the one before it where the last is a line feed.
  by_cases hlast : last = '\n'
  · have hfeed : isBreak '\n' = true := rfl
    subst hlast
    rw [if_pos rfl, List.append_nil]
    obtain rfl | ⟨before, previous, rfl⟩ := List.eq_nil_or_concat start
    · exact ⟨.keep, rfl, rfl⟩
    · rw [List.concat_eq_append]
      have hreverse : (before ++ [previous] ++ ['\n']).reverse =
          '\n' :: previous :: before.reverse := by simp
      cases hprevious : isBreak previous with
      | true =>
        refine ⟨.keep, header?_append ['+'] rfl rfl ?_, rfl⟩
        rw [literalHints, hreverse]
        simp [hfeed, hprevious]
      | false =>
        have hother : previous ≠ '\n' := by
          rintro rfl
          cases hprevious
        refine ⟨.clip, header?_append [] rfl rfl ?_, ?_⟩
        · rw [literalHints, hreverse]
          simp [hfeed, hprevious]
        · rw [Chomping.apply, List.rdropWhile_concat_pos _ _ _ rfl, rdropWhile_concat hother]
          simp
  · have hchar : isBreak last = false :=
      eq_false_of_ne_true fun hbreaks => hlast (hbreak last (by simp) hbreaks)
    refine ⟨.strip, header?_append ['-'] rfl rfl ?_, ?_⟩
    · rw [literalHints, List.reverse_concat]
      cases start.reverse <;> simp [hchar]
    · rw [if_neg hlast, Chomping.apply, List.rdropWhile_concat_pos _ _ _ rfl,
        rdropWhile_concat hlast]

/-- **A block is read back from its lines.** -/
theorem literalContent?_literalBody {rest : List Char}
    (hbreak : ∀ c ∈ s, isBreak c = true → c = '\n') (hne : s ≠ [])
    (hrest : Stops (column + 2) (linesOf rest)) :
    literalContent? column (literalHints s)
      (linesOf (literalBody (column + 2) true s ++ closing s ++ rest)) =
        some (s, linesOf rest) := by
  obtain ⟨first, later, hlines⟩ := exists_linesOf hne
  obtain ⟨chomping, hheader, hchomping⟩ := header?_literalHints hbreak hne
  have hbody : literalBody (column + 2) true s ++ closing s =
      writtenLines (column + 2) (linesOf s) := by
    rw [hlines]
    exact literalBody_fresh hbreak hlines (literalBody_append_closing hbreak hlines)
  have hcontent : ((linesOf s).map (indentLine (column + 2))).map (List.drop (column + 2)) =
      linesOf s := by
    rw [List.map_map]
    exact List.map_id'' (fun line => drop_indentLine) _
  obtain ⟨htake, hdrop⟩ := span_isInside (linesOf s) hrest
  rw [hbody, linesOf_writtenLines fun line hline => not_mem_of_mem_linesOf hline,
    literalContent?, hheader]
  change some (chomping.apply _, _) = _
  rw [indentationOf_announced hbreak hne, htake, hdrop, hcontent, flatMap_linesOf hne]
  exact congrArg (fun content => some (content, linesOf rest)) hchomping

end

end RemoteGateway.Yaml
