import RemoteGateway.Proofs.Document.Restating
import RemoteGateway.Proofs.Settings.Requirements
import RemoteGateway.Proofs.Text.Canonical

/-!
# Numbers in a document

Three ports and a group are numbers. A document is read past the key of one exactly when the text at
the key writes a number within the bound (`getsPast_iff`), and the settings hold the number that it
writes (`stored_of_ofDocument`). How the number is written does not matter: documents that write the
same numbers otherwise mean the same, or are refused for the same reason (`ofDocument_respelled`).
-/

namespace RemoteGateway

open Document (Value segments)

/-! ### Getting past a key -/

/-- The keys at which a document can be refused, in the order in which they are looked at. -/
def checkedKeys : List String :=
  requirements.map Requirement.key

variable {document first second : Value} {text : String} {n : Nat}

/-- A document is not refused, or at some of the keys only. -/
def FailsOnlyAt (document : Value) (keys : List String) : Prop :=
  ∀ fault, Settings.ofDocument document = .error fault → ∃ key ∈ keys, fault.key? = some key

/-- A document is not refused in front of a key. -/
def GetsTo (document : Value) (key : String) : Prop :=
  FailsOnlyAt document (checkedKeys.dropWhile (· ≠ key))

/-- A document is refused neither in front of a key nor at it. -/
def GetsPast (document : Value) (key : String) : Prop :=
  FailsOnlyAt document (checkedKeys.dropWhile (· ≠ key)).tail

/-- Each key is looked at once. -/
theorem key_ne_of_split {front back : List Requirement} (h : requirements = front ++ back) :
    ∀ early ∈ front.map Requirement.key, ∀ late ∈ back.map Requirement.key, early ≠ late := by
  have hnodup : checkedKeys.Nodup := by decide
  rw [checkedKeys, h, List.map_append] at hnodup
  exact (List.nodup_append.mp hnodup).2.2

/-- The first fault is the one of a requirement, and it names the key of that requirement. -/
theorem exists_of_firstFault? {demanded : List Requirement} {fault : ConfigFault}
    (h : firstFault? demanded document = some fault) :
    ∃ requirement ∈ demanded, fault.key? = some requirement.key := by
  obtain ⟨found, hmem, hfound⟩ := List.exists_of_findSome?_eq_some h
  obtain ⟨requirement, hrequirement, rfl⟩ := List.mem_map.mp hmem
  exact ⟨requirement, hrequirement, requirement.key?_eq hfound⟩

/-- **A document fails only late** when it meets the earlier requirements. -/
theorem failsOnlyAt_iff {front back : List Requirement} (h : requirements = front ++ back) :
    FailsOnlyAt document (back.map Requirement.key) ↔
      ∀ requirement ∈ front, requirement.Met document := by
  have hfirst : Outcome.fault? (Settings.ofDocument document) =
      (firstFault? front document).or (firstFault? back document) := by
    rw [← firstFault?_append, ← h]
    exact enforces_ofDocument document
  rw [← firstFault?_eq_none]
  constructor
  · intro hlate
    by_contra hsome
    obtain ⟨fault, hfault⟩ := Option.ne_none_iff_exists'.mp hsome
    rw [hfault, Option.some_or] at hfirst
    obtain ⟨late, hmem, hkey⟩ := hlate fault (Outcome.fault?_eq_some.mp hfirst)
    obtain ⟨early, hearly, hkey'⟩ := exists_of_firstFault? hfault
    exact key_ne_of_split h _ (List.mem_map_of_mem hearly) _ hmem
      (Option.some.inj (hkey'.symm.trans hkey))
  · intro hnone fault hfault
    rw [hnone, Option.none_or, Outcome.fault?_eq_some.mpr hfault] at hfirst
    obtain ⟨late, hmem, hkey⟩ := exists_of_firstFault? hfirst.symm
    exact ⟨late.key, List.mem_map_of_mem hmem, hkey⟩

/-- From a document that gets to the key of a requirement, it is met when it gets past the key. -/
theorem getsPast_iff_met {before after : List Requirement} {requirement : Requirement}
    (h : requirements = before ++ requirement :: after) :
    GetsPast document requirement.key ↔
      GetsTo document requirement.key ∧ requirement.Met document := by
  have hbefore : ∀ key ∈ before.map Requirement.key, key ≠ requirement.key := fun key hkey =>
    key_ne_of_split h key hkey requirement.key List.mem_cons_self
  have hkeys : checkedKeys.dropWhile (· ≠ requirement.key) =
      (requirement :: after).map Requirement.key := by
    rw [checkedKeys, h, List.map_append,
      List.dropWhile_append_of_pos fun key hkey => decide_eq_true (hbefore key hkey), List.map_cons,
      List.dropWhile_cons_of_neg (by simp)]
  have hsplit : requirements = (before ++ [requirement]) ++ after := by
    rw [h, List.append_assoc, List.singleton_append]
  rw [GetsPast, GetsTo, hkeys, List.map_cons, List.tail_cons, failsOnlyAt_iff hsplit,
    ← List.map_cons, failsOnlyAt_iff h]
  simp only [List.forall_mem_append, List.forall_mem_singleton]

/-! ### The numbers -/

/-- The numbers that the settings are read with. -/
inductive NumberField where
  | databasePort
  | httpPort
  | httpsPort
  | group
  deriving DecidableEq

namespace NumberField

/-- Where the number stands in a document. -/
def key : NumberField → String
  | databasePort => "database.port"
  | httpPort => "nginx.http_port"
  | httpsPort => "nginx.https_port"
  | group => "docker.gid"

/-- The largest number that is accepted. -/
def bound : NumberField → Nat
  | databasePort | httpPort | httpsPort => maxPort
  | group => maxGroup

/-- Where the number stands in the settings; there may be no group. -/
def stored (settings : Settings) : NumberField → Option Nat
  | databasePort => some settings.database.port
  | httpPort => some settings.proxy.httpPort
  | httpsPort => some settings.proxy.httpsPort
  | group => settings.runtime.group

end NumberField

/-- A text writes a number within the bound of a field. -/
def NumberField.Takes (field : NumberField) (text : String) (n : Nat) : Prop :=
  Text.Writes text.toList n ∧ n ≤ field.bound

variable {field : NumberField}

namespace NumberField

/-- What is required of a number. -/
def requirement : NumberField → Requirement
  | databasePort => .reads "database.port" "5432" .port
  | httpPort => .reads "nginx.http_port" "80" .port
  | httpsPort => .reads "nginx.https_port" "443" .port
  | group => .readsIfSet "docker.gid" .group

/-- Each number is looked at in its turn. -/
theorem exists_split (field : NumberField) :
    ∃ before after, requirements = before ++ field.requirement :: after := by
  cases field with
  | databasePort => exact ⟨requirements.take 6, requirements.drop 7, rfl⟩
  | httpPort => exact ⟨requirements.take 11, requirements.drop 12, rfl⟩
  | httpsPort => exact ⟨requirements.take 12, requirements.drop 13, rfl⟩
  | group => exact ⟨requirements.take 5, requirements.drop 6, rfl⟩

theorem key_requirement (field : NumberField) : field.requirement.key = field.key := by
  cases field <;> rfl

/-- A text at the key of a number has to write one within the bound. -/
theorem met_requirement (h : document.getText? field.key = some text) :
    field.requirement.Met document ↔ ∃ n, field.Takes text n := by
  simp only [Takes, ← Text.isNumeral_iff_writes]
  have hdefault : ∀ default, document.getTextD field.key default = text := fun default => by
    rw [Value.getTextD, h, Option.getD_some]
  cases field with
  | databasePort => exact iff_of_eq (congrArg (Grammar.port.Accepts ·) (hdefault "5432"))
  | httpPort => exact iff_of_eq (congrArg (Grammar.port.Accepts ·) (hdefault "80"))
  | httpsPort => exact iff_of_eq (congrArg (Grammar.port.Accepts ·) (hdefault "443"))
  | group =>
    constructor
    · exact fun hmet => hmet text h
    · intro haccepts other hother
      rw [← Option.some.inj (h.symm.trans hother)]
      exact haccepts

end NumberField

/-- **A document is read past the key of a number** when it gets there and the text at the key
writes a number within the bound. -/
theorem getsPast_iff (h : document.getText? field.key = some text) :
    GetsPast document field.key ↔ GetsTo document field.key ∧ ∃ n, field.Takes text n := by
  obtain ⟨before, after, hsplit⟩ := field.exists_split
  rw [← field.met_requirement h, ← field.key_requirement, getsPast_iff_met hsplit]

/-! ### The number in the settings -/

theorem readPort_eq_ok : readPort text = .ok n ↔ Text.Writes text.toList n ∧ n ≤ maxPort := by
  rw [readPort, Outcome.mapError_eq_ok, Text.readNatural_eq_ok_iff]

theorem readGroup_eq_ok : readGroup text = .ok n ↔ Text.Writes text.toList n ∧ n ≤ maxGroup := by
  rw [readGroup, Outcome.mapError_eq_ok, Text.readNatural_eq_ok_iff]

theorem readKey_readPort_eq_ok {key default : String} (h : document.getText? key = some text) :
    readKey document key default readPort = .ok n ↔ Text.Writes text.toList n ∧ n ≤ maxPort := by
  rw [readKey_eq_ok, Value.getTextD, h, Option.getD_some, readPort_eq_ok]

theorem readRuntimeGroup_eq_ok (h : document.getText? "docker.gid" = some text) {id : Option Nat} :
    readRuntimeGroup document = .ok id ↔
      ∃ n, (Text.Writes text.toList n ∧ n ≤ maxGroup) ∧ id = some n := by
  simp only [readRuntimeGroup, h, Outcome.map_eq_ok, Outcome.mapError_eq_ok, readGroup_eq_ok]
  exact exists_congr fun n => and_congr_right fun _ => eq_comm

/-- **The settings hold the number that was written.** -/
theorem stored_of_ofDocument {settings : Settings}
    (hsettings : Settings.ofDocument document = .ok settings)
    (h : document.getText? field.key = some text) :
    ∃ n, field.Takes text n ∧ field.stored settings = some n := by
  have hreads := reads_of_ofDocument hsettings
  cases field with
  | databasePort =>
    obtain ⟨port, password, hport, -, hdatabase⟩ := hreads.database_eq
    exact ⟨port, (readKey_readPort_eq_ok h).mp hport, by rw [NumberField.stored, hdatabase]⟩
  | httpPort => exact ⟨_, (readKey_readPort_eq_ok h).mp hreads.httpPort_eq, rfl⟩
  | httpsPort => exact ⟨_, (readKey_readPort_eq_ok h).mp hreads.httpsPort_eq, rfl⟩
  | group => exact (readRuntimeGroup_eq_ok h).mp hreads.group_eq

theorem stored_of_takes (field : NumberField) {settings : Settings}
    (hsettings : Settings.ofDocument document = .ok settings)
    (h : document.getText? field.key = some text) (htakes : field.Takes text n) :
    field.stored settings = some n := by
  obtain ⟨m, hm, hstored⟩ := stored_of_ofDocument hsettings h
  rw [hstored, hm.1.unique htakes.1]

/-! ### Other numerals -/

/-- Two documents write the same numbers, and have the same texts otherwise. -/
structure Respelled (first second : Value) : Prop where
  others : AgreeOn first second (recognisedKeys.filter fun key => key ∉ numberKeys)
  numbers : ∀ field : NumberField, first.getText? field.key = second.getText? field.key ∨
    ∃ text other n, first.getText? field.key = some text ∧
      second.getText? field.key = some other ∧ field.Takes text n ∧ field.Takes other n

theorem Respelled.readPort_eq {default : String} (h : Respelled first second) (field : NumberField)
    (hport : field.bound = maxPort) :
    readKey first field.key default readPort = readKey second field.key default readPort := by
  rcases h.numbers field with hsame | ⟨text, other, n, hfirst, hsecond, htext, hother⟩
  · exact readKey_congr hsame
  · rw [NumberField.Takes, hport] at htext hother
    rw [(readKey_readPort_eq_ok hfirst).mpr htext, (readKey_readPort_eq_ok hsecond).mpr hother]

theorem Respelled.readRuntimeGroup_eq (h : Respelled first second) :
    readRuntimeGroup first = readRuntimeGroup second := by
  rcases h.numbers .group with hsame | ⟨text, other, n, hfirst, hsecond, htext, hother⟩
  · exact readRuntimeGroup_congr hsame
  · rw [(readRuntimeGroup_eq_ok hfirst).mpr ⟨n, htext, rfl⟩,
      (readRuntimeGroup_eq_ok hsecond).mpr ⟨n, hother, rfl⟩]

/-- **How the numbers are written does not matter.** -/
theorem ofDocument_respelled (h : Respelled first second) :
    Settings.ofDocument first = Settings.ofDocument second :=
  ofDocument_congr_of_readings (h.others.mono (by decide))
    (congrArg (Option.bind · cleanDomain) (h.others "ssl.domain" (by decide)))
    h.readRuntimeGroup_eq (h.readPort_eq .databasePort rfl) (h.readPort_eq .httpPort rfl)
    (h.readPort_eq .httpsPort rfl)

/-! ### Numbers that are stored -/

/-- A scalar that was stored has its text at its key. -/
theorem getText?_store_scalar {scalar : Value} (document : Value) (key : String)
    (h : scalar.scalar? = some text) :
    (document.store scalar (segments key)).getText? key = some text := by
  rw [Value.getText?_eq_textAt?, Value.textAt?, Value.find?_store_self, Option.bind_some, h]

theorem NumberField.key_mem (field : NumberField) : field.key ∈ numberKeys := by
  cases field <;> decide

theorem NumberField.key_recognised (field : NumberField) : field.key ∈ recognisedKeys := by
  cases field <;> decide

theorem NumberField.key_injective : Function.Injective NumberField.key := by
  intro field other
  cases field <;> cases other <;> decide

theorem respelled_store {scalar same : Value} {other : String} (document : Value)
    (hscalar : scalar.scalar? = some text) (hsame : same.scalar? = some other)
    (htext : field.Takes text n) (hother : field.Takes other n) :
    Respelled (document.store scalar (segments field.key))
      (document.store same (segments field.key)) where
  others key hkey := by
    obtain ⟨hmem, hfree⟩ := List.mem_filter.mp hkey
    have hne : key ≠ field.key := by
      rintro rfl
      exact absurd field.key_mem (of_decide_eq_true hfree)
    have hapart := apart_of_recognised field.key_recognised hmem hne.symm
    rw [Document.getText?_store_of_apart document scalar hapart,
      Document.getText?_store_of_apart document same hapart]
  numbers number := by
    by_cases hnumber : number = field
    · subst hnumber
      exact .inr ⟨text, other, n, getText?_store_scalar document _ hscalar,
        getText?_store_scalar document _ hsame, htext, hother⟩
    · have hapart := apart_of_recognised field.key_recognised number.key_recognised
        fun hkey => hnumber (NumberField.key_injective hkey).symm
      exact .inl (by
        rw [Document.getText?_store_of_apart document scalar hapart,
          Document.getText?_store_of_apart document same hapart])

theorem NumberField.Takes.scalar?_text (h : field.Takes text n) :
    (Value.text text).scalar? = some text := by
  have hne : text ≠ "" := by
    rintro rfl
    exact h.1.ne_nil rfl
  rw [Value.scalar?, if_neg hne]

/-- The digits of a number behind any number of zeros, with a sign in front or without one. -/
def numeral (signed : Bool) (zeros n : Nat) : String :=
  String.ofList ((if signed then ['+'] else []) ++ List.replicate zeros '0' ++ Nat.toDigits 10 n)

/-- **The texts that a field takes for a number** differ in the sign and in zeros in front. -/
theorem takes_iff :
    field.Takes text n ↔ n ≤ field.bound ∧ ∃ signed zeros, text = numeral signed zeros n := by
  rw [NumberField.Takes, and_comm, Text.writes_iff]
  refine and_congr_right fun _ => ⟨?_, ?_⟩
  · rintro ⟨sign, zeros, rfl | rfl, htext⟩
    · exact ⟨false, zeros, String.toList_inj.mp (htext.trans String.toList_ofList.symm)⟩
    · exact ⟨true, zeros, String.toList_inj.mp (htext.trans String.toList_ofList.symm)⟩
  · rintro ⟨signed, zeros, rfl⟩
    refine ⟨_, zeros, ?_, String.toList_ofList⟩
    cases signed with
    | false => exact .inl rfl
    | true => exact .inr rfl

/-- **A text that a field takes for a number stands for the number itself.** -/
theorem respelled_number (document : Value) (h : field.Takes text n) :
    Respelled (document.store (.text text) (segments field.key))
      (document.store (.number (.integer n)) (segments field.key)) := by
  have hnumber : (Document.Number.integer n).text.toList = Nat.toDigits 10 n := Nat.toList_repr
  refine respelled_store document h.scalar?_text rfl h ⟨?_, h.2⟩
  rw [hnumber]
  exact Text.writes_toDigits n

end RemoteGateway
