import RemoteGateway.Proofs.Proxy.Reading

/-!
# How the proxy routes requests

`answer` says what the proxy answers to a request under a configuration that was read. Of the
servers at the address that the request came to, the one that declares the requested host is
taken, and the first one otherwise. A server that sends everything on does so at once. In any
other server the location is taken whose path is exactly the requested one, and otherwise the
one with the longest path that the requested one begins with.

`Leads` follows the redirections that a client is sent on. A name that some server declares is
taken literally; the only variables that are replaced are the requested host and path.
-/

namespace RemoteGateway.Proxy

/-! ### Texts -/

/-- What stands behind the beginning of a text. -/
def afterPrefix? (start text : List Char) : Option (List Char) :=
  if start <+: text then some (text.drop start.length) else none

/-- What stands in front of the ending of a text. -/
def beforeSuffix? (ending text : List Char) : Option (List Char) :=
  if ending <:+ text then some (text.take (text.length - ending.length)) else none

theorem afterPrefix?_append (start rest : List Char) :
    afterPrefix? start (start ++ rest) = some rest := by
  rw [afterPrefix?, if_pos (List.prefix_append start rest), List.drop_left]

/-- What begins a text can be split off. -/
theorem exists_eq_append {start text : String} (h : start.toList <+: text.toList) :
    ∃ rest, text = start ++ rest := by
  obtain ⟨rest, hrest⟩ := h
  refine ⟨String.ofList rest, ?_⟩
  rw [← String.toList_inj, String.toList_append, String.toList_ofList, hrest]

theorem beforeSuffix?_append (rest ending : List Char) :
    beforeSuffix? ending (rest ++ ending) = some rest := by
  rw [beforeSuffix?, if_pos (List.suffix_append rest ending), List.length_append,
    Nat.add_sub_cancel, List.take_left]

/-! ### Requests -/

/-- An address at which requests come in. -/
structure Listener where
  tls : Bool
  ipv6 : Bool
  deriving DecidableEq

/-- The address as a server declares it. -/
def Listener.address (listener : Listener) : String :=
  (if listener.ipv6 then "[::]:" else "") ++ (if listener.tls then "443" else "80")

/-- A request for a path of a host. -/
structure Request where
  listener : Listener
  host : String
  path : String
  deriving DecidableEq

/-- What the proxy answers to a request. -/
inductive Answer where
  | respond (status text : String)
  | redirect (status target : String)
  /-- The answer of a service, which is asked for a path of its own. -/
  | relay (address path : String)
  | file (path : String)
  /-- No location is responsible. -/
  | unmatched
  deriving DecidableEq

def Answer.isRedirect : Answer → Bool
  | redirect .. => true
  | _ => false

/-! ### Parts of a configuration -/

/-- The arguments of the simple directives with a name, in order. -/
def directives (name : String) (clauses : List Clause) : List (List String) :=
  clauses.filterMap fun
    | .simple (word :: arguments) => if word = name then some arguments else none
    | _ => none

/-- The arguments and bodies of the blocks with a name, in order. -/
def blocks (name : String) (clauses : List Clause) : List (List String × List Clause) :=
  clauses.filterMap fun
    | .block (word :: arguments) body => if word = name then some (arguments, body) else none
    | _ => none

/-- The servers of a configuration. -/
def serverBodies (configuration : List Clause) : List (List Clause) :=
  (blocks "server" configuration).map Prod.snd

/-- The names that a server declares. -/
def serverNames (server : List Clause) : List String :=
  (directives "server_name" server).flatten

/-- Whether a server listens at an address. -/
def listensAt (listener : Listener) (server : List Clause) : Bool :=
  (directives "listen" server).any fun arguments => arguments.head? == some listener.address

/-- A location of a server. -/
structure Location where
  /-- Only the path itself is meant, and not what begins with it. -/
  exact : Bool
  path : String
  body : List Clause

/-- The location that a block declares. -/
def Location.ofBlock? : List String × List Clause → Option Location
  | ([path], body) => some ⟨false, path, body⟩
  | ([modifier, path], body) => if modifier = "=" then some ⟨true, path, body⟩ else none
  | _ => none

/-- The locations of a server. -/
def locations (server : List Clause) : List Location :=
  (blocks "location" server).filterMap Location.ofBlock?

/-! ### Choosing a server and a location -/

/-- The server that answers for a host at an address. -/
def selectServer (configuration : List Clause) (listener : Listener) (host : String) :
    Option (List Clause) :=
  let candidates := (serverBodies configuration).filter (listensAt listener)
  (candidates.find? fun server => (serverNames server).contains host).or candidates.head?

/-- A requested path begins with that of a location. -/
def Location.Covers (location : Location) (path : String) : Prop :=
  location.path.toList <+: path.toList

instance (location : Location) (path : String) : Decidable (location.Covers path) :=
  inferInstanceAs (Decidable (_ <+: _))

/-- The location with the longest path that covers the requested one. -/
def longestMatch (path : String) : List Location → Option Location
  | [] => none
  | location :: rest =>
    match longestMatch path rest with
    | none => if location.Covers path then some location else none
    | some other =>
      if location.Covers path ∧ other.path.length < location.path.length then some location
      else some other

/-- The location that is responsible for a path. -/
def selectLocation (path : String) (locations : List Location) : Option Location :=
  (locations.find? fun location => location.exact && location.path == path).or
    (longestMatch path (locations.filter fun location => !location.exact))

/-! ### Answers -/

/-- The statuses that send a client on. -/
def redirections : List String := ["301", "302", "303", "307", "308"]

/-- What a directive answers that returns a status. -/
def answerOfReturn : List String → Answer
  | status :: arguments =>
    let text := String.intercalate " " arguments
    if status ∈ redirections then .redirect status text else .respond status text
  | [] => .unmatched

/-- The address of a service by the name that the configuration gives it. -/
def serviceAddress? (configuration : List Clause) (name : String) : Option String :=
  ((blocks "upstream" configuration).lookup [name]).bind fun body =>
    (directives "server" body).flatten.head?

/-- Hands a request on: what the location covers of the path is replaced by the path of the
target. -/
def relay? (configuration : List Clause) (location : Location) (path target : String) :
    Option Answer := do
  let rest ← afterPrefix? "http://".toList target.toList
  let address ← serviceAddress? configuration (String.ofList (rest.takeWhile (· != '/')))
  let below ← afterPrefix? location.path.toList path.toList
  return .relay address (String.ofList (rest.dropWhile (· != '/') ++ below))

/-- What a location answers. -/
def Location.answer (configuration : List Clause) (location : Location) (path : String) :
    Answer :=
  match (directives "return" location.body).head?, directives "proxy_pass" location.body,
    directives "root" location.body with
  | some arguments, _, _ => answerOfReturn arguments
  | none, [target] :: _, _ => (relay? configuration location path target).getD .unmatched
  | none, _, [root] :: _ => .file (root ++ path)
  | none, _, _ => .unmatched

/-- What the responsible location answers, if there is one. -/
def answerAt (configuration : List Clause) (path : String) : Option Location → Answer
  | some location => location.answer configuration path
  | none => .unmatched

/-- What a server answers. -/
def serverAnswer (configuration server : List Clause) (path : String) : Answer :=
  match directives "return" server with
  | arguments :: _ => answerOfReturn arguments
  | [] => answerAt configuration path (selectLocation path (locations server))

/-- What the proxy answers. -/
def answer (configuration : List Clause) (request : Request) : Answer :=
  match selectServer configuration request.listener request.host with
  | some server => serverAnswer configuration server request.path
  | none => .unmatched

section

variable {configuration server : List Clause} {request : Request}

/-- A server that sends everything on does so whatever the path is. -/
theorem answer_eq_answerOfReturn {arguments : List String}
    (hserver : selectServer configuration request.listener request.host = some server)
    (hreturn : directives "return" server = [arguments]) :
    answer configuration request = answerOfReturn arguments := by
  rw [answer, hserver]
  simp only
  rw [serverAnswer, hreturn]

/-- Any other server leaves the answer to a location. -/
theorem answer_eq_answerAt
    (hserver : selectServer configuration request.listener request.host = some server)
    (hreturn : directives "return" server = []) :
    answer configuration request =
      answerAt configuration request.path (selectLocation request.path (locations server)) := by
  rw [answer, hserver]
  simp only
  rw [serverAnswer, hreturn]

end

/-! ### Following redirections -/

/-- The host that a redirection names. A name that some server declares is taken literally. -/
def namedHost (configuration : List Clause) (request : Request) (name : String) : String :=
  if name ∈ (serverBodies configuration).flatMap serverNames then name
  else if name = "$host" then request.host
  else name

/-- The request that a client makes when it is sent on: to another host over TLS, for the same
path, or to another path. The site is reached at a port that stands behind its names. -/
def Request.follow? (configuration : List Clause) (portSuffix : String) (request : Request)
    (target : String) : Option Request :=
  match afterPrefix? "https://".toList target.toList with
  | some rest => do
    let authority ← beforeSuffix? "$request_uri".toList rest
    let name ← beforeSuffix? portSuffix.toList authority
    return { request with
      listener := { request.listener with tls := true }
      host := namedHost configuration request (String.ofList name) }
  | none => if target.toList.head? = some '/' then some { request with path := target } else none

/-- After a number of redirections, a request is answered with something else. -/
inductive Leads (configuration : List Clause) (portSuffix : String) :
    Nat → Request → Answer → Prop
  | stop {request : Request} (h : (answer configuration request).isRedirect = false) :
      Leads configuration portSuffix 0 request (answer configuration request)
  | follow {request next : Request} {status target : String} {count : Nat} {last : Answer}
      (h : answer configuration request = .redirect status target)
      (hnext : request.follow? configuration portSuffix target = some next)
      (hleads : Leads configuration portSuffix count next last) :
      Leads configuration portSuffix (count + 1) request last

/-! ### The longest match -/

section

variable {path : String} {location other : Location} {candidates : List Location}

theorem longestMatch_some (h : longestMatch path candidates = some location) :
    location ∈ candidates ∧ location.Covers path := by
  induction candidates generalizing location with
  | nil => cases h
  | cons first rest ih =>
    rw [longestMatch] at h
    split at h
    · split_ifs at h with hcovers
      cases h
      exact ⟨List.mem_cons_self, hcovers⟩
    · next other hother =>
      split_ifs at h with hlonger
      · cases h
        exact ⟨List.mem_cons_self, hlonger.1⟩
      · cases h
        obtain ⟨hmem, hcovers⟩ := ih hother
        exact ⟨List.mem_cons_of_mem _ hmem, hcovers⟩

/-- **A location is responsible** when it covers the path and all others that do have shorter
paths. -/
theorem longestMatch_eq (hmem : location ∈ candidates) (hcovers : location.Covers path)
    (hlongest : ∀ other ∈ candidates, other.Covers path →
      other = location ∨ other.path.length < location.path.length) :
    longestMatch path candidates = some location := by
  induction candidates with
  | nil => exact absurd hmem List.not_mem_nil
  | cons first rest ih =>
    obtain ⟨hfirst, hrest⟩ := List.forall_mem_cons.mp hlongest
    rw [longestMatch]
    split
    · next hnone =>
      rcases List.mem_cons.mp hmem with rfl | hmem
      · rw [if_pos hcovers]
      · rw [ih hmem hrest] at hnone
        cases hnone
    · next other hother =>
      obtain ⟨hother_mem, hother_covers⟩ := longestMatch_some hother
      rcases List.mem_cons.mp hmem with rfl | hmem
      -- No other location in the rest is as long as this one.
      · split_ifs with hlonger
        · rfl
        · rcases hrest other hother_mem hother_covers with rfl | hshorter
          · rfl
          · exact absurd ⟨hcovers, hshorter⟩ hlonger
      -- The first location would have to be longer than the longest.
      · rw [ih hmem hrest] at hother
        cases hother
        split_ifs with hlonger
        · rcases hfirst hlonger.1 with rfl | hshorter
          · rfl
          · exact absurd hshorter (Nat.lt_asymm hlonger.2)
        · rfl

/-- Locations that are meant exactly are out of the question for any other path. -/
theorem selectLocation_eq {exacts prefixes : List Location}
    (hexacts : ∀ location ∈ exacts, location.exact = true ∧ location.path ≠ path)
    (hprefixes : ∀ location ∈ prefixes, location.exact = false) :
    selectLocation path (exacts ++ prefixes) = longestMatch path prefixes := by
  have hfind : ((exacts ++ prefixes).find? fun location =>
      location.exact && location.path == path) = none := by
    rw [List.find?_eq_none]
    intro location hmem
    rcases List.mem_append.mp hmem with hmem | hmem
    · simp [(hexacts location hmem).2]
    · simp [hprefixes location hmem]
  have hfilter : ((exacts ++ prefixes).filter fun location => !location.exact) = prefixes := by
    have hnone : (exacts.filter fun location => !location.exact) = [] := by
      rw [List.filter_eq_nil_iff]
      intro location hmem
      simp [(hexacts location hmem).1]
    have hall : (prefixes.filter fun location => !location.exact) = prefixes := by
      rw [List.filter_eq_self]
      intro location hmem
      simp [hprefixes location hmem]
    rw [List.filter_append, hnone, hall, List.nil_append]
  rw [selectLocation, hfind, hfilter, Option.none_or]

end

end RemoteGateway.Proxy
