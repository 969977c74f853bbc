import RemoteGateway.Proofs.Proxy.Routing
import RemoteGateway.Proofs.Proxy.Spelling
import RemoteGateway.Proofs.Site.BasePaths

/-!
# The servers and locations of a virtual host

What the routing looks at in the configuration of a virtual host: where its servers listen, the
names they declare, what they send on, and their locations. The tables are read off the
configuration one server at a time, so the routing of requests never looks at a directive.
-/

namespace RemoteGateway.Proxy

open Directive

namespace Directive

/-- What stands inside a block. -/
def inner : Directive → List Clause
  | block _ _ body => clausesAll body
  | _ => []

theorem clausesAll_append (first second : List Directive) :
    clausesAll (first ++ second) = clausesAll first ++ clausesAll second := by
  induction first with
  | nil => rfl
  | cons directive first ih =>
    rw [List.cons_append, clausesAll, clausesAll, ih, List.append_assoc]

end Directive

/-! ### Parts of a configuration -/

section

variable (name : String) (first second : List Directive)

theorem directives_append :
    directives name (clausesAll (first ++ second)) =
      directives name (clausesAll first) ++ directives name (clausesAll second) := by
  rw [clausesAll_append, directives, List.filterMap_append]
  rfl

theorem blocks_append :
    blocks name (clausesAll (first ++ second)) =
      blocks name (clausesAll first) ++ blocks name (clausesAll second) := by
  rw [clausesAll_append, blocks, List.filterMap_append]
  rfl

end

/-- A part that may be missing contributes nothing if it does not when it is there. -/
theorem whenStated_eq_nil {α : Type} (part : List Directive → List α) {text : Option String}
    {body : String → List Directive} (hnil : part [] = [])
    (hbody : ∀ stated, part (body stated) = []) : part (whenStated text body) = [] := by
  cases text with
  | none => exact hnil
  | some stated =>
    by_cases hempty : stated = ""
    · subst hempty
      exact hnil
    · rw [whenStated_some hempty]
      exact hbody stated

/-- The bodies of the servers that are written, in order. -/
def servers : List Directive → List (List Directive)
  | [] => []
  | .block name _ body :: rest => if name = "server" then body :: servers rest else servers rest
  | _ :: rest => servers rest

/-- The servers that are read are those that were written. -/
theorem serverBodies_clausesAll (directives : List Directive) :
    serverBodies (clausesAll directives) = (servers directives).map clausesAll := by
  induction directives with
  | nil => rfl
  | cons directive rest ih =>
    have hcons : serverBodies (clausesAll (directive :: rest)) =
        serverBodies (clausesAll [directive]) ++ serverBodies (clausesAll rest) := by
      rw [← List.singleton_append, serverBodies, blocks_append, List.map_append]
      rfl
    rw [hcons, ih]
    cases directive with
    | blank => rfl
    | comment text => rfl
    | simple name gap arguments => rfl
    | block name arguments body =>
      -- A block is found by its first word, which is its name.
      have hheader : ∃ words, headerWords name arguments = name :: words := by
        cases arguments with
        | none => exact ⟨_, rfl⟩
        | some arguments => exact ⟨_, rfl⟩
      obtain ⟨words, hwords⟩ := hheader
      rw [servers]
      by_cases hname : name = "server"
      · rw [if_pos hname, clausesAll, clauses, hwords, serverBodies, blocks]
        simp [hname, clausesAll]
      · rw [if_neg hname, clausesAll, clauses, hwords, serverBodies, blocks]
        simp [hname, clausesAll]

/-- Two solid texts with a space between them are two words. -/
theorem wordsOf_pair {word text : String} (hword : IsSolid word) (hword' : word ≠ "")
    (htext : IsSolid text) (htext' : text ≠ "") :
    wordsOf (word ++ " " ++ text).toList = [word, text] := by
  have hlist : (word ++ " " ++ text).toList = word.toList ++ ' ' :: text.toList := by
    rw [String.toList_append, String.toList_append, List.append_assoc]
    rfl
  rw [hlist, wordsOf_append_separator rfl, hword.wordsOf_eq hword', htext.wordsOf_eq htext']
  rfl

theorem basePath_ne_empty (exposure : Site.Exposure) : exposure.basePath ≠ "" := by
  intro hempty
  obtain ⟨rest, hrest⟩ := exposure.exists_toList_basePath
  rw [hempty] at hrest
  cases hrest

/-- A base path is one word. -/
theorem wordsOf_basePath (exposure : Site.Exposure) :
    wordsOf exposure.basePath.toList = [exposure.basePath] :=
  (isSolid_basePath exposure).wordsOf_eq (basePath_ne_empty exposure)

namespace VirtualHost

variable (host : VirtualHost)

/-! ### Servers and services -/

theorem servers_configuration :
    servers host.configuration =
      host.plainBody ::
        (servers (whenStated host.aliasName fun name =>
          [.blank, .block "server" none (host.aliasBody name)]) ++ [host.siteBody]) := by
  rw [configuration]
  rcases host.aliasName with _ | name
  · rfl
  · by_cases h : name = ""
    · subst h
      rfl
    · rw [whenStated_some h]
      rfl

/-- The addresses of the services do not depend on the host. -/
theorem blocks_upstream :
    blocks "upstream" (clausesAll host.configuration) =
      [(["guacamole_app"], [.simple ["server", "guacamole:8080"]]),
        (["session_broker"], [.simple ["server", "session-broker:5000"]])] := by
  have halias : blocks "upstream" (clausesAll (whenStated host.aliasName fun name =>
      [.blank, .block "server" none (host.aliasBody name)])) = [] :=
    whenStated_eq_nil (fun part => blocks "upstream" (clausesAll part)) rfl fun _ => rfl
  rw [configuration, blocks_append, blocks_append, halias]
  rfl

/-! ### Sending on -/

/-- The target to which plain requests, and those for the second name, are sent on. -/
def secureTarget : String :=
  host.origin ++ "$request_uri"

theorem wordsOf_secure (horigin : IsSolid host.origin) :
    wordsOf ("301 " ++ host.secureTarget).toList = ["301", host.secureTarget] := by
  have htarget : host.secureTarget ≠ "" := by
    intro hempty
    have hlist := congrArg String.toList hempty
    rw [secureTarget, String.toList_append] at hlist
    exact List.append_ne_nil_of_right_ne_nil _ (by decide) hlist
  have hstatus : "301 " = "301" ++ " " := rfl
  rw [hstatus]
  exact wordsOf_pair (isSolid_of_all rfl) (by decide) (horigin.append (isSolid_of_all rfl)) htarget

/-- Sending on names one target, and leaves the requested path to the variable behind it. -/
theorem directives_redirectLine (horigin : IsSolid host.origin) :
    directives "return" (clausesAll [host.redirectLine]) =
      [["301", host.origin ++ "$request_uri"]] := by
  change [wordsOf ("301 " ++ host.secureTarget).toList] = _
  rw [host.wordsOf_secure horigin, secureTarget]

/-! ### The server for plain requests -/

theorem directives_plainBody (name : String) :
    directives name (clausesAll host.plainBody) =
      directives name (clausesAll
        [.simple "listen" 1 "80", .simple "listen" 1 "[::]:80",
          .simple "server_name" 1 host.plainNames]) := by
  have hwebroot : directives name (clausesAll (whenStated host.webroot fun webroot =>
      [.blank, .block "location" (some "/.well-known/acme-challenge/")
        [.simple "root" 1 webroot]])) = [] :=
    whenStated_eq_nil (fun part => directives name (clausesAll part)) rfl fun _ => rfl
  rw [plainBody, directives_append, directives_append, hwebroot]
  exact List.append_nil _

/-! ### The server for the application -/

theorem directives_siteBody {name : String}
    (hchain : ∀ chain, directives name (clausesAll (host.staplingLines chain)) = []) :
    directives name (clausesAll host.siteBody) =
      directives name (clausesAll (host.tlsLines host.name)) := by
  have hstapling : directives name (clausesAll (whenStated host.chainPath host.staplingLines)) =
      [] :=
    whenStated_eq_nil (fun part => directives name (clausesAll part)) rfl hchain
  have hroot : directives name (clausesAll host.rootRedirect) = [] := by
    rw [rootRedirect]
    split <;> rfl
  rw [siteBody, directives_append, directives_append, directives_append, directives_append,
    hstapling, hroot]
  exact List.append_nil _

/-- The locations of the server for the application. -/
theorem blocks_siteBody :
    blocks "location" (clausesAll host.siteBody) =
      (["=", "/health"], healthBlock.inner) ::
        (blocks "location" (clausesAll host.rootRedirect) ++
          [([host.exposure.basePath], host.applicationBlock.inner),
            ([Site.brokerPrefix], brokerBlock.inner)]) := by
  have hstapling : blocks "location"
      (clausesAll (whenStated host.chainPath host.staplingLines)) = [] :=
    whenStated_eq_nil (fun part => blocks "location" (clausesAll part)) rfl fun _ => rfl
  have hservices : blocks "location" (clausesAll
      [.blank, host.applicationBlock, .blank, brokerBlock]) =
      [(wordsOf host.exposure.basePath.toList, host.applicationBlock.inner),
        ([Site.brokerPrefix], brokerBlock.inner)] := rfl
  rw [siteBody, blocks_append, blocks_append, blocks_append, blocks_append, hstapling, hservices,
    wordsOf_basePath]
  rfl

theorem wordsOf_root (base : Site.BasePath) :
    wordsOf ("302 " ++ base.text).toList = ["302", base.text] := by
  have hstatus : "302 " = "302" ++ " " := rfl
  rw [hstatus]
  exact wordsOf_pair (isSolid_of_all rfl) (by decide) (isSolid_basePath (.path base))
    base.text_ne_empty

theorem blocks_rootRedirect {base : Site.BasePath} (h : host.exposure = .path base) :
    blocks "location" (clausesAll host.rootRedirect) =
      [(["=", "/"], [.simple ["return", "302", base.text]])] := by
  rw [rootRedirect, h, ← wordsOf_root]
  rfl

theorem blocks_rootRedirect_of_ne (h : ∀ base, host.exposure ≠ .path base) :
    blocks "location" (clausesAll host.rootRedirect) = [] := by
  rw [rootRedirect]
  split
  · next base hpath => exact absurd hpath (h base)
  · rfl
  · rfl

end VirtualHost

end RemoteGateway.Proxy
