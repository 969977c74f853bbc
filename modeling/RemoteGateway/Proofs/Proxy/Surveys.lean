import RemoteGateway.Proofs.Proxy.Routing

/-!
# Surveys of a configuration

A configuration is surveyed for what it says on all its levels: the arguments of the directives
with a name, the locations, the targets that clients are sent on to, and the paths below which
requests are handed to the application. There are surveys of what is written, where the arguments
of a directive are one text, and of what is read, where they are words. A survey of what is read
finds the words of what is written (`argumentsOfAll_clausesAll`, `locationsOfAll_clausesAll`).
-/

namespace RemoteGateway.Proxy

/-! ### What is read -/

namespace Clause

mutual

/-- The arguments of the simple directives with a name, on all levels. -/
def argumentsOf (wanted : String) : Clause → List (List String)
  | simple [] => []
  | simple (name :: arguments) => if name = wanted then [arguments] else []
  | block _ body => argumentsOfAll wanted body

/-- The arguments of the simple directives with a name in a sequence. -/
def argumentsOfAll (wanted : String) : List Clause → List (List String)
  | [] => []
  | clause :: rest => clause.argumentsOf wanted ++ argumentsOfAll wanted rest

end

mutual

/-- The arguments and the bodies of the locations, on all levels. -/
def locationsOf : Clause → List (List String × List Clause)
  | simple _ => []
  | block words body =>
    (match words with
      | [] => []
      | name :: arguments => if name = "location" then [(arguments, body)] else []) ++
      locationsOfAll body

/-- The arguments and the bodies of the locations in a sequence. -/
def locationsOfAll : List Clause → List (List String × List Clause)
  | [] => []
  | clause :: rest => clause.locationsOf ++ locationsOfAll rest

end

/-- The targets that clients are sent on to with a status. -/
def targetsOf (status : String) (clauses : List Clause) : List (List String) :=
  (argumentsOfAll "return" clauses).filterMap fun
    | [] => none
    | first :: target => if first = status then some target else none

/-- Whether some directives hand requests to the application. -/
def reachesApplication (clauses : List Clause) : Bool :=
  (argumentsOfAll "proxy_pass" clauses).any fun arguments =>
    arguments.any fun target => "http://guacamole_app/".toList.isPrefixOf target.toList

/-- The paths below which requests are handed to the application. -/
def applicationPaths (clauses : List Clause) : List (List String) :=
  ((locationsOfAll clauses).filter fun location => reachesApplication location.2).map Prod.fst

/-- The targets that a client is sent on to from the root. -/
def rootTargets (clauses : List Clause) : List (List String) :=
  ((locationsOfAll clauses).filter fun location => location.1 == ["=", "/"]).flatMap
    fun location => targetsOf "302" location.2

section

variable (first second : List Clause)

theorem argumentsOfAll_append (wanted : String) :
    argumentsOfAll wanted (first ++ second) =
      argumentsOfAll wanted first ++ argumentsOfAll wanted second := by
  induction first with
  | nil => rfl
  | cons clause first ih =>
    rw [List.cons_append, argumentsOfAll, argumentsOfAll, ih, List.append_assoc]

theorem locationsOfAll_append :
    locationsOfAll (first ++ second) = locationsOfAll first ++ locationsOfAll second := by
  induction first with
  | nil => rfl
  | cons clause first ih =>
    rw [List.cons_append, locationsOfAll, locationsOfAll, ih, List.append_assoc]

/-- A survey finds every directive of the sequence itself. -/
theorem mem_argumentsOfAll {name : String} {arguments : List String} {clauses : List Clause}
    (h : .simple (name :: arguments) ∈ clauses) : arguments ∈ argumentsOfAll name clauses := by
  obtain ⟨before, behind, rfl⟩ := List.append_of_mem h
  rw [argumentsOfAll_append, argumentsOfAll, argumentsOf, if_pos rfl]
  exact List.mem_append_right _ (List.mem_append_left _ (List.mem_singleton_self arguments))

/-- A survey goes into every block of the sequence. -/
theorem argumentsOfAll_subset {name : String} {words : List String} {body clauses : List Clause}
    (h : .block words body ∈ clauses) :
    argumentsOfAll name body ⊆ argumentsOfAll name clauses := by
  obtain ⟨before, behind, rfl⟩ := List.append_of_mem h
  rw [argumentsOfAll_append, argumentsOfAll, argumentsOf]
  exact fun _ hmem => List.mem_append_right _ (List.mem_append_left _ hmem)

theorem rootTargets_append :
    rootTargets (first ++ second) = rootTargets first ++ rootTargets second := by
  rw [rootTargets, locationsOfAll_append, List.filter_append, List.flatMap_append]
  rfl

end

end Clause

/-! ### What is written -/

namespace Directive

mutual

/-- The arguments of the simple directives with a name, on all levels. -/
def argumentsOf (wanted : String) : Directive → List String
  | blank => []
  | comment _ => []
  | simple name _ arguments => if name = wanted then [arguments] else []
  | block _ _ body => argumentsOfAll wanted body

/-- The arguments of the simple directives with a name in a sequence. -/
def argumentsOfAll (wanted : String) : List Directive → List String
  | [] => []
  | directive :: rest => directive.argumentsOf wanted ++ argumentsOfAll wanted rest

end

mutual

/-- The arguments and the bodies of the locations, on all levels. -/
def locationsOf : Directive → List (String × List Directive)
  | blank => []
  | comment _ => []
  | simple .. => []
  | block name arguments body =>
    (if name = "location" then [(arguments.getD "", body)] else []) ++ locationsOfAll body

/-- The arguments and the bodies of the locations in a sequence. -/
def locationsOfAll : List Directive → List (String × List Directive)
  | [] => []
  | directive :: rest => directive.locationsOf ++ locationsOfAll rest

end

/-- The targets that clients are sent on to with a status. -/
def targetsOf (status : String) (directives : List Directive) : List String :=
  (argumentsOfAll "return" directives).filterMap fun arguments =>
    (afterPrefix? (status ++ " ").toList arguments.toList).map String.ofList

/-- The paths below which requests are handed to the application. -/
def applicationPaths (directives : List Directive) : List String :=
  ((locationsOfAll directives).filter fun location =>
    Clause.reachesApplication (clausesAll location.2)).map Prod.fst

section

variable (directives rest : List Directive)

theorem argumentsOfAll_eq_flatMap (wanted : String) :
    argumentsOfAll wanted directives = directives.flatMap (argumentsOf wanted) := by
  induction directives with
  | nil => rfl
  | cons directive directives ih => rw [argumentsOfAll, ih, List.flatMap_cons]

theorem locationsOfAll_eq_flatMap :
    locationsOfAll directives = directives.flatMap locationsOf := by
  induction directives with
  | nil => rfl
  | cons directive directives ih => rw [locationsOfAll, ih, List.flatMap_cons]

theorem argumentsOfAll_append (wanted : String) :
    argumentsOfAll wanted (directives ++ rest) =
      argumentsOfAll wanted directives ++ argumentsOfAll wanted rest := by
  simp only [argumentsOfAll_eq_flatMap, List.flatMap_append]

theorem locationsOfAll_append :
    locationsOfAll (directives ++ rest) = locationsOfAll directives ++ locationsOfAll rest := by
  simp only [locationsOfAll_eq_flatMap, List.flatMap_append]

theorem applicationPaths_append :
    applicationPaths (directives ++ rest) =
      applicationPaths directives ++ applicationPaths rest := by
  rw [applicationPaths, locationsOfAll_append, List.filter_append, List.map_append]
  rfl

end

/-! ### Reading what is written -/

mutual

/-- Read directives have the words of the written ones for arguments. -/
theorem argumentsOfAll_clauses (wanted : String) (directive : Directive) :
    Clause.argumentsOfAll wanted directive.clauses =
      (directive.argumentsOf wanted).map fun arguments => wordsOf arguments.toList := by
  cases directive with
  | blank => rfl
  | comment text => rfl
  | simple name gap arguments =>
    rw [clauses, Clause.argumentsOfAll, Clause.argumentsOf, argumentsOf]
    split <;> rfl
  | block name arguments body =>
    rw [clauses, Clause.argumentsOfAll, Clause.argumentsOf, Clause.argumentsOfAll, argumentsOf,
      argumentsOfAll_clausesAll wanted body, List.append_nil]

theorem argumentsOfAll_clausesAll (wanted : String) (directives : List Directive) :
    Clause.argumentsOfAll wanted (clausesAll directives) =
      (argumentsOfAll wanted directives).map fun arguments => wordsOf arguments.toList := by
  cases directives with
  | nil => rfl
  | cons directive rest =>
    rw [clausesAll, Clause.argumentsOfAll_append, argumentsOfAll_clauses wanted directive,
      argumentsOfAll_clausesAll wanted rest, argumentsOfAll, List.map_append]

end

mutual

/-- Read locations have the words of the written ones for arguments. -/
theorem locationsOfAll_clauses (directive : Directive) :
    Clause.locationsOfAll directive.clauses =
      directive.locationsOf.map fun location =>
        (wordsOf location.1.toList, clausesAll location.2) := by
  cases directive with
  | blank => rfl
  | comment text => rfl
  | simple name gap arguments => rfl
  | block name arguments body =>
    have hheader : headerWords name arguments = name :: wordsOf (arguments.getD "").toList := by
      cases arguments with
      | none => rfl
      | some arguments => rfl
    rw [clauses, hheader, Clause.locationsOfAll, Clause.locationsOf, Clause.locationsOfAll,
      locationsOf, locationsOfAll_clausesAll body, List.append_nil, List.map_append]
    split <;> rfl

theorem locationsOfAll_clausesAll (directives : List Directive) :
    Clause.locationsOfAll (clausesAll directives) =
      (locationsOfAll directives).map fun location =>
        (wordsOf location.1.toList, clausesAll location.2) := by
  cases directives with
  | nil => rfl
  | cons directive rest =>
    rw [clausesAll, Clause.locationsOfAll_append, locationsOfAll_clauses directive,
      locationsOfAll_clausesAll rest, locationsOfAll, List.map_append]

end

/-- The paths of the application are read as their words. -/
theorem applicationPaths_clausesAll (directives : List Directive) :
    Clause.applicationPaths (clausesAll directives) =
      (applicationPaths directives).map fun path => wordsOf path.toList := by
  rw [Clause.applicationPaths, locationsOfAll_clausesAll, List.filter_map, List.map_map,
    applicationPaths, List.map_map]
  rfl

end Directive

end RemoteGateway.Proxy
