import RemoteGateway.Proofs.Document.Integers
import RemoteGateway.Proofs.Proxy.Routing
import RemoteGateway.Proofs.Site.Cores
import RemoteGateway.Settings.Basic

/-!
# The port of a URL

The authority of a URL stands between the two slashes behind its scheme and the next character that
ends it. It may close with a colon and a port; the port of HTTPS is the one that is meant without.

The URL of a site is made of the name of the site, which is not looked at: a port in it counts, and
whatever ends an authority does so in the name, too. Where the name is nothing but a host, the port
of the URL is the one at which the proxy answers (`urlPort?_publicUrl`).
-/

namespace RemoteGateway

open Proxy (afterPrefix? afterPrefix?_append)
open Document (digitsValue)

/-! ### Ports -/

/-- The characters that end the authority of a URL. -/
def endsAuthority (c : Char) : Bool :=
  c == '/' || c == '\\' || c == '?' || c == '#'

/-- The authority of a URL for HTTPS. -/
def authority? (url : String) : Option (List Char) :=
  (afterPrefix? "https://".toList url.toList).map fun rest => rest.takeWhile (!endsAuthority ·)

/-- What stands behind the last colon of a text, or the whole text when it has none. -/
def behindColon (s : List Char) : List Char :=
  (s.reverse.takeWhile (· != ':')).reverse

/-- An authority has no colon behind its host: one in front of an at sign stands in the credentials
of a user, and one in front of a bracket in an address. -/
def EndsInHost (authority : List Char) : Prop :=
  ':' ∈ authority → '@' ∈ behindColon authority ∨ ']' ∈ behindColon authority

instance (authority : List Char) : Decidable (EndsInHost authority) :=
  inferInstanceAs (Decidable (_ → _))

/-- The port that an authority names. -/
def portOf? (authority : List Char) : Option Nat :=
  let port := behindColon authority
  if EndsInHost authority ∨ port = [] then some 443
  else if port.all Char.isDigit then some (digitsValue port)
  else none

/-- The port of a URL for HTTPS. -/
def urlPort? (url : String) : Option Nat :=
  (authority? url).bind portOf?

/-- A name that is put into a URL as its host is nothing but a host there. -/
structure IsPlainHost (name : String) : Prop where
  /-- None of its characters ends the authority. -/
  within : ∀ c ∈ name.toList, endsAuthority c = false
  /-- It names no port. -/
  endsInHost : EndsInHost name.toList

instance (name : String) : Decidable (IsPlainHost name) :=
  decidable_of_iff (name.toList.all (fun c => endsAuthority c == false) = true ∧
      EndsInHost name.toList)
    ⟨fun h => ⟨fun c hc => eq_of_beq (List.all_eq_true.mp h.1 c hc), h.2⟩,
      fun h => ⟨List.all_eq_true.mpr fun c hc => beq_iff_eq.mpr (h.within c hc), h.endsInHost⟩⟩

section

variable {s front rest : List Char}

theorem behindColon_append (hrest : ':' ∉ rest) : behindColon (front ++ ':' :: rest) = rest := by
  have hall : ∀ c ∈ rest.reverse, (c != ':') = true := by
    intro c hc
    rw [bne_iff_ne]
    rintro rfl
    exact hrest (List.mem_reverse.mp hc)
  rw [behindColon, List.reverse_append, List.reverse_cons, List.append_assoc,
    List.takeWhile_append_of_pos hall, List.singleton_append,
    List.takeWhile_cons_of_neg (by decide), List.append_nil, List.reverse_reverse]

/-- What stands behind the scheme is the authority, up to the first character that ends it. -/
theorem authority?_eq {url : String} {c : Char}
    (hurl : url.toList = "https://".toList ++ (s ++ c :: rest))
    (hs : ∀ c ∈ s, endsAuthority c = false) (hc : endsAuthority c = true) :
    authority? url = some s := by
  have hall : ∀ c ∈ s, (!endsAuthority c) = true := by
    intro c hmem
    rw [hs c hmem]
    rfl
  have hnone : (c :: rest).takeWhile (!endsAuthority ·) = [] := by
    rw [List.takeWhile_cons, hc]
    rfl
  rw [authority?, hurl, afterPrefix?_append, Option.map_some,
    List.takeWhile_append_of_pos hall, hnone, List.append_nil]

end

theorem not_isDigit_of_mem {c : Char} (hc : c.isDigit = false) (port : Nat) :
    c ∉ Nat.toDigits 10 port := by
  intro hmem
  rw [Document.isDigit_of_mem_toDigits hmem] at hc
  cases hc

/-- A number behind a colon is the port, whatever stands in front. -/
theorem portOf?_append (name : List Char) (port : Nat) :
    portOf? (name ++ ':' :: Nat.toDigits 10 port) = some port := by
  have hport : behindColon (name ++ ':' :: Nat.toDigits 10 port) = Nat.toDigits 10 port :=
    behindColon_append (not_isDigit_of_mem (by decide) port)
  have hdigits : (Nat.toDigits 10 port).all Char.isDigit = true :=
    List.all_eq_true.mpr fun c => Document.isDigit_of_mem_toDigits
  rw [portOf?, hport, if_neg, if_pos hdigits, Document.digitsValue_toDigits]
  rintro (hhost | hnil)
  · rw [EndsInHost, hport] at hhost
    rcases hhost (List.mem_append_right _ List.mem_cons_self) with hat | hbracket
    · exact not_isDigit_of_mem (by decide) port hat
    · exact not_isDigit_of_mem (by decide) port hbracket
  · exact Nat.toDigits_ne_nil hnil

/-- A plain name and the port of the proxy make an authority with this port. -/
theorem portOf?_portSuffix {name : String} (h : IsPlainHost name) (port : Nat) :
    portOf? (name.toList ++ (Settings.portSuffix port).toList) = some port := by
  rw [Settings.portSuffix]
  split
  · next hstandard =>
    rw [String.toList_empty, List.append_nil, hstandard, portOf?, if_pos (.inl h.endsInHost)]
  · have hsuffix : (":" ++ toString port).toList = ':' :: Nat.toDigits 10 port := by
      rw [String.toList_append, Nat.toString_eq_repr, Nat.toList_repr]
      rfl
    rw [hsuffix, portOf?_append]

/-- A port is a colon and digits, if it is named at all. -/
theorem mem_portSuffix {port : Nat} {c : Char} (h : c ∈ (Settings.portSuffix port).toList) :
    c = ':' ∨ c.isDigit = true := by
  rw [Settings.portSuffix] at h
  split at h
  · cases h
  · rw [String.toList_append, Nat.toString_eq_repr, Nat.toList_repr] at h
    rcases List.mem_append.mp h with h | h
    · exact .inl (List.mem_singleton.mp h)
    · exact .inr (Document.isDigit_of_mem_toDigits h)

theorem endsAuthority_portSuffix (port : Nat) :
    ∀ c ∈ (Settings.portSuffix port).toList, endsAuthority c = false := by
  intro c hc
  rw [Bool.eq_false_iff]
  intro hends
  simp only [endsAuthority, Bool.or_eq_true, beq_iff_eq] at hends
  rcases hends with ((rfl | rfl) | rfl) | rfl
  all_goals exact absurd (mem_portSuffix hc) (by decide)

/-! ### The URL of a site -/

namespace Settings

variable (settings : Settings)

/-- The name under which users reach a site. -/
def siteName : String :=
  (settings.siteNames.map Site.Names.canonical).getD "localhost"

theorem publicUrl_eq :
    settings.publicUrl =
      "https://" ++ settings.siteName ++ portSuffix settings.proxy.httpsPort ++
        settings.proxy.exposure.basePath :=
  rfl

/-- **The URL of a site names the port of the proxy**, if the name of the site is a plain host. -/
theorem urlPort?_publicUrl (h : IsPlainHost settings.siteName) :
    urlPort? settings.publicUrl = some settings.proxy.httpsPort := by
  obtain ⟨rest, hrest⟩ := settings.proxy.exposure.exists_toList_basePath
  have hurl : settings.publicUrl.toList = "https://".toList ++
      ((settings.siteName.toList ++ (portSuffix settings.proxy.httpsPort).toList) ++
        '/' :: rest) := by
    rw [publicUrl_eq, String.toList_append, String.toList_append, String.toList_append, hrest,
      List.append_assoc, List.append_assoc, List.append_assoc]
  have hauthority : ∀ c ∈ settings.siteName.toList ++
      (portSuffix settings.proxy.httpsPort).toList, endsAuthority c = false := by
    intro c hc
    rcases List.mem_append.mp hc with hc | hc
    · exact h.within c hc
    · exact endsAuthority_portSuffix _ c hc
  rw [urlPort?, authority?_eq hurl hauthority rfl, Option.bind_some, portOf?_portSuffix h]

end Settings

end RemoteGateway
