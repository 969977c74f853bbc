import Mathlib.Data.List.TakeWhile
import RemoteGateway.Proofs.Host.Calling
import RemoteGateway.Proofs.Text.Canonical
import RemoteGateway.Proofs.Text.Decoding
import RemoteGateway.Proofs.Text.Trimming

/-!
# The id of a group

The group that owns the socket of the runtime is looked up in the group database. Of whatever the
program prints, the third field of the first line counts, without the blanks around it, and nothing
is made of a text in which that is no number of 32 bits (`groupId?_eq_some_iff`). An entry of the
database is a text with its own id (`groupId?_entry`). So a lookup gives the id that was printed, or
reports that the group is not configured (`groupId_reports`).
-/

namespace RemoteGateway.Host

/-! ### Lines -/

/-- The first line of a text, without the break behind it: a line feed, with a carriage return in
front of it or without one. -/
inductive FirstLine : List Char → List Char → Prop
  | only {line : List Char} (hline : '\n' ∉ line) : FirstLine line line
  | feed {line : List Char} (rest : List Char) (hline : '\n' ∉ line)
      (hend : line.getLast? ≠ some '\r') : FirstLine (line ++ '\n' :: rest) line
  | returned {line : List Char} (rest : List Char) (hline : '\n' ∉ line) :
      FirstLine (line ++ '\r' :: '\n' :: rest) line

variable {text line field : List Char} {gid : Nat}

theorem takeWhile_line (hline : '\n' ∉ line) (rest : List Char) :
    (line ++ '\n' :: rest).takeWhile (· ≠ '\n') = line := by
  have hall : ∀ c ∈ line, decide (c ≠ '\n') = true := fun c hc =>
    decide_eq_true fun h => hline (h ▸ hc)
  rw [List.takeWhile_append_of_pos hall, List.takeWhile_cons_of_neg (by decide), List.append_nil]

theorem takeWhile_only (hline : '\n' ∉ line) : line.takeWhile (· ≠ '\n') = line :=
  List.takeWhile_eq_self_iff.mpr fun _ hc => decide_eq_true fun h => hline (h ▸ hc)

/-- Up to the line feed stands the first line, and perhaps a carriage return. -/
theorem FirstLine.takeWhile_eq (h : FirstLine text line) :
    text.takeWhile (· ≠ '\n') = line ∨ text.takeWhile (· ≠ '\n') = line ++ ['\r'] := by
  cases h with
  | only hline => exact .inl (takeWhile_only hline)
  | feed rest hline => exact .inl (takeWhile_line hline rest)
  | returned rest hline =>
    have hreturned : '\n' ∉ line ++ ['\r'] := by simpa using hline
    have htake := takeWhile_line hreturned rest
    rw [List.append_assoc] at htake
    exact .inr htake

/-- Every text has a first line. -/
theorem exists_firstLine (text : List Char) : ∃ line, FirstLine text line := by
  by_cases hfeed : '\n' ∈ text
  · obtain ⟨front, rest, rfl, hfront⟩ := List.eq_append_cons_of_mem hfeed
    by_cases hend : front.getLast? = some '\r'
    · obtain ⟨line, rfl⟩ := List.getLast?_eq_some_iff.mp hend
      refine ⟨line, ?_⟩
      rw [List.append_assoc]
      exact .returned rest fun hmem => hfront (List.mem_append_left _ hmem)
    · exact ⟨front, .feed rest hfront hend⟩
  · exact ⟨text, .only hfeed⟩

/-! ### Fields -/

/-- The field at which a rest begins that goes on with further fields or ends. -/
def BeginsField (rest field : List Char) : Prop :=
  ':' ∉ field ∧ (rest = field ∨ ∃ more, rest = field ++ ':' :: more)

/-- The third of the fields into which colons divide a line. -/
def IsThirdField (line field : List Char) : Prop :=
  ∃ name password rest, line = name ++ ':' :: (password ++ ':' :: rest) ∧
    ':' ∉ name ∧ ':' ∉ password ∧ BeginsField rest field

theorem getElem?_splitOn_zero : (text.splitOn ':')[0]? = some field ↔ BeginsField text field := by
  by_cases hcolon : ':' ∈ text
  · obtain ⟨front, rest, rfl, hfront⟩ := List.eq_append_cons_of_mem hcolon
    rw [List.splitOn_append_cons_self_of_not_mem hfront, List.getElem?_cons_zero, Option.some.injEq]
    constructor
    · rintro rfl
      exact ⟨hfront, .inr ⟨rest, rfl⟩⟩
    · rintro ⟨hfield, h | ⟨more, hmore⟩⟩
      · exact absurd (h ▸ hcolon) hfield
      · have hsplit := congrArg (List.splitOn ':') hmore
        rw [List.splitOn_append_cons_self_of_not_mem hfront,
          List.splitOn_append_cons_self_of_not_mem hfield] at hsplit
        exact (List.cons.inj hsplit).1
  · rw [List.splitOn_eq_singleton hcolon, List.getElem?_cons_zero, Option.some.injEq]
    constructor
    · rintro rfl
      exact ⟨hcolon, .inl rfl⟩
    · rintro ⟨-, h | ⟨more, rfl⟩⟩
      · exact h
      · exact absurd (List.mem_append_right _ List.mem_cons_self) hcolon

theorem getElem?_splitOn_succ {index : Nat} :
    (text.splitOn ':')[index + 1]? = some field ↔
      ∃ first rest, text = first ++ ':' :: rest ∧ ':' ∉ first ∧
        (rest.splitOn ':')[index]? = some field := by
  constructor
  · intro h
    by_cases hcolon : ':' ∈ text
    · obtain ⟨first, rest, rfl, hfirst⟩ := List.eq_append_cons_of_mem hcolon
      rw [List.splitOn_append_cons_self_of_not_mem hfirst, List.getElem?_cons_succ] at h
      exact ⟨first, rest, rfl, hfirst, h⟩
    · rw [List.splitOn_eq_singleton hcolon, List.getElem?_cons_succ] at h
      cases h
  · rintro ⟨first, rest, rfl, hfirst, h⟩
    rw [List.splitOn_append_cons_self_of_not_mem hfirst, List.getElem?_cons_succ]
    exact h

/-- **The third piece between colons is the third field.** -/
theorem getElem?_splitOn_two : (line.splitOn ':')[2]? = some field ↔ IsThirdField line field := by
  rw [getElem?_splitOn_succ]
  constructor
  · rintro ⟨name, rest, rfl, hname, h⟩
    obtain ⟨password, rest, rfl, hpassword, h⟩ := getElem?_splitOn_succ.mp h
    exact ⟨name, password, rest, rfl, hname, hpassword, getElem?_splitOn_zero.mp h⟩
  · rintro ⟨name, password, rest, rfl, hname, hpassword, h⟩
    exact ⟨name, _, rfl, hname,
      getElem?_splitOn_succ.mpr ⟨password, rest, rfl, hpassword, getElem?_splitOn_zero.mpr h⟩⟩

/-- A character behind a line is behind its third field or behind a later one. -/
theorem IsThirdField.concat (h : IsThirdField line field) {c : Char} (hc : c ≠ ':') :
    IsThirdField (line ++ [c]) field ∨ IsThirdField (line ++ [c]) (field ++ [c]) := by
  obtain ⟨name, password, rest, rfl, hname, hpassword, hfield, rfl | ⟨more, rfl⟩⟩ := h
  · refine .inr ⟨name, password, rest ++ [c], by simp, hname, hpassword, ?_, .inl rfl⟩
    simpa [hc.symm] using hfield
  · exact .inl ⟨name, password, field ++ ':' :: (more ++ [c]), by simp, hname, hpassword, hfield,
      .inr ⟨_, rfl⟩⟩

/-- What stands behind a colon ends in the last character of the text, unless that is the colon. -/
theorem exists_eq_concat {front rest : List Char} {c : Char}
    (h : line ++ [c] = front ++ ':' :: rest) (hc : c ≠ ':') :
    ∃ more, rest = more ++ [c] ∧ line = front ++ ':' :: more := by
  rcases List.eq_nil_or_concat rest with rfl | ⟨more, last, rfl⟩
  · exact absurd (List.singleton_inj.mp (List.append_inj' h rfl).2) hc
  · rw [List.concat_eq_append, ← List.cons_append, ← List.append_assoc] at h
    obtain ⟨rfl, hlast⟩ := List.append_inj' h rfl
    obtain rfl := List.singleton_inj.mp hlast
    exact ⟨more, List.concat_eq_append, rfl⟩

/-- The third field of a line is found without a character that was put behind the line. -/
theorem IsThirdField.of_concat {c : Char} (h : IsThirdField (line ++ [c]) field) (hc : c ≠ ':') :
    IsThirdField line field ∨ ∃ front, field = front ++ [c] ∧ IsThirdField line front := by
  obtain ⟨name, password, rest, hline, hname, hpassword, hfield, hrest⟩ := h
  obtain ⟨behind, hbehind, rfl⟩ := exists_eq_concat hline hc
  obtain ⟨front, rfl, rfl⟩ := exists_eq_concat hbehind.symm hc
  rcases hrest with rfl | ⟨more, hmore⟩
  · refine .inr ⟨front, rfl, name, password, front, rfl, hname, hpassword, ?_, .inl rfl⟩
    exact fun hmem => hfield (List.mem_append_left _ hmem)
  · obtain ⟨members, -, rfl⟩ := exists_eq_concat hmore hc
    exact .inl ⟨name, password, _, rfl, hname, hpassword, hfield, .inr ⟨members, rfl⟩⟩

/-! ### The id in a text -/

/-- The third field of the first line of a text is a number of 32 bits between blanks. -/
def NamesGroup (text : List Char) (gid : Nat) : Prop :=
  ∃ line field, FirstLine text line ∧ IsThirdField line field ∧
    Text.Writes (Text.trim field) gid ∧ gid ≤ maxGroup

theorem trim_concat (field : List Char) {c : Char} (hc : Text.isBlank c = true) :
    Text.trim (field ++ [c]) = Text.trim field :=
  Text.trimWhere_surrounded field (List.forall_mem_nil _) (List.forall_mem_singleton.mpr hc)

theorem groupId?_eq_some {entry : String} :
    groupId? entry = some gid ↔
      ∃ field, IsThirdField (entry.toList.takeWhile (· ≠ '\n')) field ∧
        Text.Writes (Text.trim field) gid ∧ gid ≤ maxGroup := by
  simp only [groupId?, Option.bind_eq_some_iff, getElem?_splitOn_two, ← Text.readNatural_eq_ok_iff]
  refine exists_congr fun field => and_congr_right fun _ => ?_
  cases Text.readNatural maxGroup (Text.trim field) with
  | error fault => simp [Except.toOption]
  | ok id => simp [Except.toOption]

/-- **A text names a group exactly when its id is read.** -/
theorem groupId?_eq_some_iff {entry : String} :
    groupId? entry = some gid ↔ NamesGroup entry.toList gid := by
  have hreturn : Text.isBlank '\r' = true := by decide
  rw [groupId?_eq_some]
  constructor
  · rintro ⟨field, hfield, hid⟩
    obtain ⟨line, hline⟩ := exists_firstLine entry.toList
    rcases hline.takeWhile_eq with htake | htake
    · exact ⟨line, field, hline, htake ▸ hfield, hid⟩
    -- A carriage return is taken for a blank, if it is looked at.
    · rw [htake] at hfield
      rcases hfield.of_concat (by decide) with hfield | ⟨front, rfl, hfront⟩
      · exact ⟨line, field, hline, hfield, hid⟩
      · rw [trim_concat _ hreturn] at hid
        exact ⟨line, front, hline, hfront, hid⟩
  · rintro ⟨line, field, hline, hfield, hid⟩
    rcases hline.takeWhile_eq with htake | htake
    · exact ⟨field, htake ▸ hfield, hid⟩
    · rw [htake]
      rcases hfield.concat (c := '\r') (by decide) with hfield | hfield
      · exact ⟨field, hfield, hid⟩
      · exact ⟨field ++ ['\r'], hfield, by rwa [trim_concat _ hreturn]⟩

/-! ### Entries of the database -/

/-- No character of a numeral is blank or ends a field or a line. -/
theorem of_mem_numeral {s : List Char} {n : Nat} (h : Text.Writes s n) :
    ∀ c ∈ s, Text.isBlank c = false ∧ c ≠ ':' ∧ c ≠ '\n' := by
  have hdigit : ∀ c : Char, c.isDigit = true →
      Text.isBlank c = false ∧ c ≠ ':' ∧ c ≠ '\n' := by
    intro c hc
    have hrange : 48 ≤ c.toNat ∧ c.toNat ≤ 57 := by
      simpa [Char.isDigit, UInt32.le_iff_toNat_le] using hc
    refine ⟨?_, ?_, ?_⟩
    · simp only [Text.isBlank]
      grind
    · rintro rfl
      exact absurd hc (by decide)
    · rintro rfl
      exact absurd hc (by decide)
  obtain ⟨digits, rfl | rfl, -, hall, -⟩ := h
  · exact fun c hc => hdigit c (hall c hc)
  · intro c hc
    rcases List.mem_cons.mp hc with rfl | hc
    · decide
    · exact hdigit c (hall c hc)

/-- A numeral is left of the blanks around it. -/
theorem trim_numeral {s before after : List Char} {n : Nat} (h : Text.Writes s n)
    (hbefore : ∀ c ∈ before, Text.isBlank c = true) (hafter : ∀ c ∈ after, Text.isBlank c = true) :
    Text.trim (before ++ s ++ after) = s := by
  rw [Text.trim, Text.trimWhere_surrounded s hbefore hafter]
  refine Text.trimWhere_eq_self ⟨fun c hc => ?_, fun c hc => ?_⟩
  · exact (of_mem_numeral h c (List.mem_of_mem_head? hc)).1
  · exact (of_mem_numeral h c (List.mem_of_getLast? hc)).1

/-- An entry of the group database. -/
structure GroupEntry where
  name : List Char
  password : List Char
  /-- How the id is written. -/
  numeral : List Char
  /-- What stands in front of the id and behind it in its field. -/
  padding : List Char × List Char
  /-- The members; they may be missing, together with the colon in front of them. -/
  members : Option (List Char)
  gid : Nat
  name_free : ':' ∉ name ∧ '\n' ∉ name
  password_free : ':' ∉ password ∧ '\n' ∉ password
  padding_blank : ∀ c ∈ padding.1 ++ padding.2, Text.isBlank c = true ∧ c ≠ '\n'
  members_free : ∀ list, members = some list → '\n' ∉ list
  writes : Text.Writes numeral gid
  gid_le : gid ≤ maxGroup

namespace GroupEntry

variable (entry : GroupEntry)

/-- The field of the id. -/
def padded : List Char :=
  entry.padding.1 ++ entry.numeral ++ entry.padding.2

/-- What stands behind the field of the id. -/
def listing : List Char :=
  (entry.members.map (':' :: ·)).getD []

/-- The line of an entry. -/
def printed : List Char :=
  entry.name ++ ':' :: (entry.password ++ ':' :: (entry.padded ++ entry.listing))

theorem of_mem_padded : ∀ c ∈ entry.padded, c ≠ ':' ∧ c ≠ '\n' := by
  have hcolon : Text.isBlank ':' = false := by decide
  intro c hc
  rw [padded, List.append_assoc, List.mem_append, List.mem_append] at hc
  have hblank : c ∈ entry.padding.1 ++ entry.padding.2 → c ≠ ':' ∧ c ≠ '\n' := by
    intro hpad
    obtain ⟨hc, hfeed⟩ := entry.padding_blank c hpad
    refine ⟨?_, hfeed⟩
    rintro rfl
    rw [hcolon] at hc
    cases hc
  rcases hc with hc | hc | hc
  · exact hblank (List.mem_append_left _ hc)
  · exact (of_mem_numeral entry.writes c hc).2
  · exact hblank (List.mem_append_right _ hc)

theorem trim_padded : Text.trim entry.padded = entry.numeral :=
  trim_numeral entry.writes
    (fun c hc => (entry.padding_blank c (List.mem_append_left _ hc)).1)
    (fun c hc => (entry.padding_blank c (List.mem_append_right _ hc)).1)

theorem isThirdField_padded : IsThirdField entry.printed entry.padded := by
  refine ⟨_, _, _, rfl, entry.name_free.1, entry.password_free.1, ?_, ?_⟩
  · exact fun hmem => (entry.of_mem_padded _ hmem).1 rfl
  · rw [listing]
    cases entry.members with
    | none => exact .inl (List.append_nil _)
    | some list => exact .inr ⟨list, rfl⟩

/-- An entry takes one line. -/
theorem not_mem_printed : '\n' ∉ entry.printed := by
  have hlisting : '\n' ∉ entry.listing := by
    rw [listing]
    cases hmembers : entry.members with
    | none => exact List.not_mem_nil
    | some list => simpa using entry.members_free list hmembers
  have hpadded : '\n' ∉ entry.padded := fun hmem => (entry.of_mem_padded _ hmem).2 rfl
  simp [printed, entry.name_free.2, entry.password_free.2, hpadded, hlisting]

end GroupEntry

/-- What follows a line: nothing, or a line break and any further text. -/
inductive EndsLine : List Char → Prop
  | last : EndsLine []
  | feed (rest : List Char) : EndsLine ('\n' :: rest)
  | returned (rest : List Char) : EndsLine ('\r' :: '\n' :: rest)

/-- **The id of the entry is read** with which a text begins, whatever lines follow. -/
theorem groupId?_entry (entry : GroupEntry) {behind : List Char} (hbehind : EndsLine behind) :
    groupId? (String.ofList (entry.printed ++ behind)) = some entry.gid := by
  have hid : Text.Writes (Text.trim entry.padded) entry.gid ∧ entry.gid ≤ maxGroup := by
    rw [entry.trim_padded]
    exact ⟨entry.writes, entry.gid_le⟩
  rw [groupId?_eq_some, String.toList_ofList]
  cases hbehind with
  | last =>
    rw [List.append_nil, takeWhile_only entry.not_mem_printed]
    exact ⟨entry.padded, entry.isThirdField_padded, hid⟩
  | feed rest =>
    rw [takeWhile_line entry.not_mem_printed]
    exact ⟨entry.padded, entry.isThirdField_padded, hid⟩
  | returned rest =>
    have hreturned : '\n' ∉ entry.printed ++ ['\r'] := by simpa using entry.not_mem_printed
    have hline := takeWhile_line hreturned rest
    rw [List.append_assoc, List.singleton_append] at hline
    rw [hline]
    rcases entry.isThirdField_padded.concat (c := '\r') (by decide) with hfield | hfield
    · exact ⟨entry.padded, hfield, hid⟩
    · exact ⟨_, hfield, by rwa [trim_concat _ (by decide)]⟩

/-! ### Looking a group up -/

variable {host : Host} {group : String} {output : ByteArray} {run : Run}

/-- The group database is asked for a group, and some bytes are its answer. -/
def Answers (host : Host) (group : String) (output : ByteArray) : Prop :=
  hasNul (groupCall group) = false ∧
    ∃ response, host.respond (groupCall group) = some response ∧ response.success = true ∧
      response.output = output

/-- A group has the id that the answer of the database names. -/
def Reports (host : Host) (group : String) (gid : Nat) : Prop :=
  ∃ output, host.Answers group output ∧ NamesGroup (Text.decodeLossy output).toList gid

theorem Answers.unique {output' : ByteArray} (h : host.Answers group output)
    (h' : host.Answers group output') : output = output' := by
  obtain ⟨-, response, hrespond, -, rfl⟩ := h
  obtain ⟨-, response', hrespond', -, rfl⟩ := h'
  rw [Option.some.inj (hrespond.symm.trans hrespond')]

/-- What is looked up is read from the answer, if there is one. -/
theorem groupId_of_answers (h : host.Answers group output) (run : Run) :
    (host.groupId group run).1 =
      ((groupId? (Text.decodeLossy output)).elim (.error (.config (.missing "docker.gid")))
        .ok) := by
  obtain ⟨hnul, response, hrespond, hsuccess, rfl⟩ := h
  have hcall : host.call (groupCall group) run =
      (.ok (some response), { run with calls := run.calls ++ [groupCall group] }) := by
    simp [Host.call, hrespond, hnul, Option.filter]
  rw [groupId, ← groupCall, Activity.bind_of_ok hcall, Option.filter_some_pos hsuccess,
    Option.bind_some]
  cases groupId? (Text.decodeLossy response.output) with
  | none => rfl
  | some gid => rfl

theorem groupId_of_no_answer (h : ∀ output, ¬ host.Answers group output) (run : Run) :
    (host.groupId group run).1 = .error (.config (.missing "docker.gid")) := by
  rcases host.call_cases (groupCall group) run with ⟨response, hrespond, hnul, hcall⟩ | hcall
  · have hfailed : response.success = false := Bool.eq_false_iff.mpr fun hsuccess =>
      h response.output ⟨hnul, response, hrespond, hsuccess, rfl⟩
    rw [groupId, ← groupCall, Activity.bind_of_ok hcall, Option.filter_some_neg hfailed]
    rfl
  · rw [groupId, ← groupCall, Activity.bind_of_ok hcall]
    rfl

/-- **A lookup gives the id that is reported, or misses the group.** -/
theorem groupId_cases (host : Host) (group : String) (run : Run) :
    (∃ gid, host.Reports group gid ∧ (host.groupId group run).1 = .ok gid) ∨
      (¬ ∃ gid, host.Reports group gid) ∧
        (host.groupId group run).1 = .error (.config (.missing "docker.gid")) := by
  by_cases hanswers : ∃ output, host.Answers group output
  · obtain ⟨output, houtput⟩ := hanswers
    rw [groupId_of_answers houtput]
    cases hgroup : groupId? (Text.decodeLossy output) with
    | some gid => exact .inl ⟨gid, ⟨output, houtput, groupId?_eq_some_iff.mp hgroup⟩, rfl⟩
    | none =>
      refine .inr ⟨?_, rfl⟩
      rintro ⟨gid, output', houtput', hnames⟩
      rw [houtput'.unique houtput, ← groupId?_eq_some_iff, hgroup] at hnames
      cases hnames
  · rw [not_exists] at hanswers
    exact .inr ⟨fun ⟨_, output, houtput, _⟩ => hanswers output houtput,
      groupId_of_no_answer hanswers run⟩

theorem Reports.unique {gid' : Nat} (h : host.Reports group gid) (h' : host.Reports group gid') :
    gid = gid' := by
  obtain ⟨output, houtput, hnames⟩ := h
  obtain ⟨output', houtput', hnames'⟩ := h'
  rw [houtput'.unique houtput, ← groupId?_eq_some_iff, groupId?_eq_some_iff.mpr hnames] at hnames'
  exact Option.some.inj hnames'

/-- An entry that the database prints is reported, whatever bytes follow behind a line break. -/
theorem reports_of_answers (entry : GroupEntry) {ending : List Char} (rest : ByteArray)
    (hending : ending = ['\n'] ∨ ending = ['\r', '\n'])
    (h : host.Answers group ((String.ofList (entry.printed ++ ending)).toUTF8 ++ rest)) :
    host.Reports group entry.gid := by
  refine ⟨_, h, ?_⟩
  rw [← groupId?_eq_some_iff, Text.decodeLossy_toUTF8_append]
  have hjoin : String.ofList (entry.printed ++ ending) ++ Text.decodeLossy rest =
      String.ofList (entry.printed ++ (ending ++ (Text.decodeLossy rest).toList)) :=
    String.toList_inj.mp (by
      simp only [String.toList_append, String.toList_ofList, List.append_assoc])
  rw [hjoin]
  refine groupId?_entry entry ?_
  rcases hending with rfl | rfl
  · exact .feed _
  · exact .returned _

/-- **The group lookup never guesses.** An entry of the database is read as the id that stands in
it, whatever follows behind its line; a text has an id only if the third field of its first line is
that number; and a lookup gives the id that the database reports, or misses the group. -/
theorem groupId_reports (host : Host) (group : String) (run : Run) :
    (∀ (entry : GroupEntry) (behind : List Char), EndsLine behind →
      groupId? (String.ofList (entry.printed ++ behind)) = some entry.gid) ∧
    (∀ (text : String) (gid : Nat), groupId? text = some gid ↔ NamesGroup text.toList gid) ∧
    (∀ gid, (host.groupId group run).1 = .ok gid ↔ host.Reports group gid) ∧
    (∀ fault, (host.groupId group run).1 = .error fault →
      fault = .config (.missing "docker.gid")) ∧
    ∀ (entry : GroupEntry) (ending : List Char) (rest : ByteArray),
      (ending = ['\n'] ∨ ending = ['\r', '\n']) →
      host.Answers group ((String.ofList (entry.printed ++ ending)).toUTF8 ++ rest) →
      (host.groupId group run).1 = .ok entry.gid := by
  have hiff : ∀ gid, (host.groupId group run).1 = .ok gid ↔ host.Reports group gid := by
    intro gid
    rcases host.groupId_cases group run with ⟨reported, hreported, heq⟩ | ⟨hnone, heq⟩
    · rw [heq, Except.ok.injEq]
      exact ⟨fun h => h ▸ hreported, hreported.unique⟩
    · rw [heq]
      exact ⟨nofun, fun h => absurd ⟨gid, h⟩ hnone⟩
  refine ⟨fun entry behind hbehind => groupId?_entry entry hbehind,
    fun text gid => groupId?_eq_some_iff, hiff, fun fault hfault => ?_,
    fun entry ending rest hending hanswers => ?_⟩
  · rcases host.groupId_cases group run with ⟨reported, -, heq⟩ | ⟨-, heq⟩
    · rw [heq] at hfault
      cases hfault
    · rw [heq] at hfault
      exact (Except.error.inj hfault).symm
  · exact (hiff entry.gid).mpr (reports_of_answers entry rest hending hanswers)

/-- An entry with blanks around the id and without members. -/
def paddedEntry : GroupEntry where
  name := "docker".toList
  password := "x".toList
  numeral := "998".toList
  padding := ([' '], ['\t'])
  members := none
  gid := 998
  name_free := by decide
  password_free := by decide
  padding_blank :=
    List.forall_mem_cons.mpr ⟨by decide, List.forall_mem_singleton.mpr (by decide)⟩
  members_free := nofun
  writes := Text.writes_toDigits 998
  gid_le := by decide

/-- Whatever is called, if there is an answer, it is the same. -/
def answering (output : Option ByteArray) : Host where
  respond _ := output.map fun output => ⟨output, .empty, true⟩
  issuer _ _ := none

/-- The entry is read from a text, from bytes that are no text behind it, and it is not made up. -/
theorem groupId_reports_paddedEntry :
    groupId? "docker:x: 998\t\r\nroot:x:0:" = some 998 ∧
      ((answering (some ("docker:x: 998\t\r\n".toUTF8 ++ ⟨#[0xFF]⟩))).groupId "docker"
        (.start .empty [])).1 = .ok 998 ∧
      ((answering none).groupId "docker" (.start .empty [])).1 =
        .error (.config (.missing "docker.gid")) := by
  have hnul : hasNul (groupCall "docker") = false := by decide
  have hread := groupId_reports (answering (some ("docker:x: 998\t\r\n".toUTF8 ++ ⟨#[0xFF]⟩)))
    "docker" (.start .empty [])
  have hmissed := groupId_reports (answering none) "docker" (.start .empty [])
  refine ⟨hread.1 paddedEntry _ (.returned "root:x:0:".toList), ?_, ?_⟩
  · exact hread.2.2.2.2 paddedEntry ['\r', '\n'] _ (.inr rfl) ⟨hnul, _, rfl, rfl, rfl⟩
  · rcases hresult : ((answering none).groupId "docker" (.start .empty [])).1 with fault | gid
    · rw [hmissed.2.2.2.1 fault hresult]
    · obtain ⟨output, ⟨-, response, hrespond, -⟩, -⟩ := (hmissed.2.2.1 gid).mp hresult
      cases hrespond

end RemoteGateway.Host
