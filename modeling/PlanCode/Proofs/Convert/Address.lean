import PlanCode.Convert.Http
import PlanCode.Proofs.Text.LowerCase

/-!
# Addresses of requests

The address of a request is told by its protocol, its domain, the port that is used and its path. A
port is written when the protocol does not imply it, so that the text of an address tells all four:
they are what lies before `://`, before the first slash or a colon ahead of it, behind that colon,
and from that slash on. Nothing is asked of the path, which may hold all of these signs.

* `requestUrl_eq_text`: an address is written by its parts.
* `read?_text`: and read back from its text.
* `requestUrl_eq_iff`: which requests have one address.
-/
namespace PlanCode

/-- Where a request goes. -/
structure Address where
  protocol : String
  domain : String
  /-- The port that is used, in the digits it is given with; none where neither the request nor its
  protocol tells one. -/
  port : Option String
  /-- Empty, or with a slash in front. -/
  path : String
deriving DecidableEq

namespace Address

/-- The port of a protocol in letters of any case. -/
def impliedPort? (protocol : String) : Option String :=
  if protocol.toLower = "http" then some "80"
  else if protocol.toLower = "https" then some "443"
  else none

/-- The port that is used where one is given, or none is given. -/
def usedPort? (protocol port : String) : Option String :=
  if port = "" then impliedPort? protocol else some port

/-- A path with a slash in front, unless it is empty. -/
def slashed (path : String) : String :=
  if path = "" ∨ path.toList.head? = some '/' then path else "/" ++ path

/-- A port is written unless the protocol implies it. -/
def portText (a : Address) : String :=
  if impliedPort? a.protocol = a.port then "" else ":" ++ a.port.getD ""

def text (a : Address) : String := a.protocol ++ "://" ++ a.domain ++ a.portText ++ a.path

theorem mem_impliedPort? {protocol port : String} (h : port ∈ impliedPort? protocol) :
    port = "80" ∨ port = "443" := by
  unfold impliedPort? at h
  split at h
  · exact Or.inl (Option.some.inj h).symm
  · split at h
    · exact Or.inr (Option.some.inj h).symm
    · cases h

theorem mem_usedPort? {protocol given port : String} (h : port ∈ usedPort? protocol given) :
    port = given ∨ port = "80" ∨ port = "443" := by
  unfold usedPort? at h
  split at h
  · exact Or.inr (mem_impliedPort? h)
  · exact Or.inl (Option.some.inj h).symm

theorem impliedPort?_of_usedPort? {protocol given : String}
    (h : usedPort? protocol given = none) : impliedPort? protocol = none := by
  unfold usedPort? at h
  split at h
  · exact h
  · cases h

theorem slashed_cases (path : String) :
    slashed path = "" ∨ (slashed path).toList.head? = some '/' := by
  unfold slashed
  split
  · assumption
  · exact Or.inr (by simp)

/-! ## Reading -/

/-- The texts before and behind the first place where a separator stands. -/
def cut? (separator : List Char) : List Char → Option (List Char × List Char)
  | [] => none
  | c :: s =>
    if separator.isPrefixOf (c :: s) then some ([], (c :: s).drop separator.length)
    else (cut? separator s).map fun (before, behind) => (c :: before, behind)

def read? (url : String) : Option Address := do
  let (protocol, rest) ← cut? "://".toList url.toList
  let path := String.ofList (rest.dropWhile (· != '/'))
  let protocol := String.ofList protocol
  match Text.splitOnChar ':' (rest.takeWhile (· != '/')) with
  | [domain] => some ⟨protocol, String.ofList domain, impliedPort? protocol, path⟩
  | [domain, port] => some ⟨protocol, String.ofList domain, some (String.ofList port), path⟩
  | _ => none

/-- An address of which only the path may hold the signs that divide an address. -/
structure IsPlain (a : Address) : Prop where
  protocol : ':' ∉ a.protocol.toList
  domain : ∀ c ∈ a.domain.toList, c ≠ ':' ∧ c ≠ '/'
  port : ∀ p ∈ a.port, ∀ c ∈ p.toList, c ≠ ':' ∧ c ≠ '/'
  /-- What the protocol implies is used where nothing else is. -/
  port_eq_none : a.port = none → impliedPort? a.protocol = none
  path : a.path = "" ∨ a.path.toList.head? = some '/'

theorem cut?_append {c : Char} {separator before : List Char} (h : c ∉ before)
    (behind : List Char) :
    cut? (c :: separator) (before ++ (c :: separator ++ behind)) = some (before, behind) := by
  induction before with
  | nil =>
    have hp : (c :: separator).isPrefixOf (c :: (separator ++ behind)) = true := by
      simp [List.isPrefixOf]
    rw [List.nil_append, List.cons_append, cut?, if_pos hp]
    simp
  | cons d before ih =>
    rw [List.mem_cons, not_or] at h
    have hp : (c == d) = false := by simpa using h.1
    rw [List.cons_append, cut?, List.isPrefixOf, hp, Bool.false_and, if_neg (by simp), ih h.2]
    rfl

/-- What lies before the path ends at the first slash. -/
theorem takeWhile_path {authority path : List Char} (ha : ∀ c ∈ authority, c ≠ '/')
    (hp : path = [] ∨ path.head? = some '/') :
    (authority ++ path).takeWhile (· != '/') = authority ∧
      (authority ++ path).dropWhile (· != '/') = path := by
  have hn : ∀ c ∈ authority, (c != '/') = true := fun c hc => bne_iff_ne.2 (ha c hc)
  rw [List.takeWhile_append_of_pos hn, List.dropWhile_append_of_pos hn]
  rcases hp with rfl | hp
  · simp
  · obtain ⟨rest, rfl⟩ := List.head?_eq_some_iff.1 hp
    simp

/-- The port of a plain address is implied and not written, or written behind a colon. -/
theorem portText_cases {a : Address} (h : a.IsPlain) :
    impliedPort? a.protocol = a.port ∧ a.portText.toList = [] ∨
      ∃ p, a.port = some p ∧ a.portText.toList = ':' :: p.toList := by
  unfold portText
  split
  · rename_i hp
    exact Or.inl ⟨hp, rfl⟩
  · rename_i hp
    cases hport : a.port with
    | none => exact absurd ((h.port_eq_none hport).trans hport.symm) hp
    | some p => exact Or.inr ⟨p, rfl, by simp⟩

theorem not_slash_portText {a : Address} (h : a.IsPlain) :
    ∀ c ∈ a.domain.toList ++ a.portText.toList, c ≠ '/' := by
  rw [List.forall_mem_append]
  refine ⟨fun c hc => (h.domain c hc).2, ?_⟩
  obtain ⟨-, ht⟩ | ⟨p, hp, ht⟩ := portText_cases h
  · simp [ht]
  · rw [ht, List.forall_mem_cons]
    exact ⟨by decide, fun c hc => (h.port p hp c hc).2⟩

/-- **Reading.** A plain address is read back from its text. -/
theorem read?_text {a : Address} (h : a.IsPlain) : read? a.text = some a := by
  have htext : a.text.toList = a.protocol.toList ++ (':' :: ['/', '/'] ++
      (a.domain.toList ++ a.portText.toList ++ a.path.toList)) := by simp [text]
  have hpath : a.path.toList = [] ∨ a.path.toList.head? = some '/' :=
    h.path.imp_left fun h => by rw [h]; rfl
  obtain ⟨hauthority, hrest⟩ := takeWhile_path (not_slash_portText h) hpath
  have hcolon : ':' ∉ a.domain.toList := fun hc => (h.domain _ hc).1 rfl
  unfold read?
  rw [htext, show "://".toList = ':' :: ['/', '/'] from rfl, cut?_append h.protocol]
  dsimp only [Option.bind_eq_bind, Option.bind_some]
  rw [hauthority, hrest]
  obtain ⟨hp, ht⟩ | ⟨p, hp, ht⟩ := portText_cases h
  · rw [ht, List.append_nil, Text.splitOnChar_of_not_mem hcolon]
    simp [hp]
  · have hcolon' : ':' ∉ p.toList := fun hc => (h.port p hp _ hc).1 rfl
    rw [ht, Text.splitOnChar_append_cons hcolon, Text.splitOnChar_of_not_mem hcolon']
    simp [← hp]

end Address

/-! ## Requests -/

namespace Element

open PlanCode.Convert

/-- The protocol of a request, `http` where it is blank. -/
def protocol (e : Element) : String :=
  if e.trimmedAt protocolKey = "" then "http" else e.trimmedAt protocolKey

/-- The address of a request. -/
def address (e : Element) : Address where
  protocol := e.protocol
  domain := e.trimmedAt domainKey
  port := Address.usedPort? e.protocol (e.trimmedAt portKey)
  path := Address.slashed (e.trimmedAt pathKey)

/-- A domain is given, and neither it nor the protocol or the port holds a colon or a slash. -/
structure NamesHost (e : Element) : Prop where
  protocol : ':' ∉ (e.trimmedAt protocolKey).toList
  domain_ne : e.trimmedAt domainKey ≠ ""
  domain : ∀ c ∈ (e.trimmedAt domainKey).toList, c ≠ ':' ∧ c ≠ '/'
  port : ∀ c ∈ (e.trimmedAt portKey).toList, c ≠ ':' ∧ c ≠ '/'

end Element

namespace Convert

theorem defaultPort?_eq (protocol : String) :
    defaultPort? protocol = Address.impliedPort? protocol := by
  have hhttp := Text.lower_eq_iff "http" (by simp) protocol
  have hhttps := Text.lower_eq_iff "https" (by simp) protocol
  unfold defaultPort? Address.impliedPort?
  split
  · rename_i h
    rw [if_pos (hhttp.1 h)]
  · rename_i h
    rw [if_neg (by rw [hhttps.1 h]; decide), if_pos (hhttps.1 h)]
  · rename_i hno hno'
    rw [if_neg (mt hhttp.2 hno), if_neg (mt hhttps.2 hno')]

theorem requestUrl_eq_text {e : Element} (h : e.trimmedAt domainKey ≠ "") :
    requestUrl e = e.address.text := by
  have hport : e.address.portText = if e.trimmedAt portKey = "" ||
      defaultPort? e.protocol == some (e.trimmedAt portKey) then ""
      else ":" ++ e.trimmedAt portKey := by
    rw [defaultPort?_eq, Address.portText]
    by_cases hp : e.trimmedAt portKey = ""
    · simp [Element.address, Address.usedPort?, hp]
    · simp [Element.address, Address.usedPort?, hp]
  unfold requestUrl
  dsimp only
  rw [if_neg h, Address.text, hport]
  simp [Element.address, Element.protocol, Address.slashed]

theorem isPlain_address {e : Element} (h : e.NamesHost) : e.address.IsPlain := by
  unfold Element.address
  constructor <;> dsimp only
  case protocol =>
    unfold Element.protocol
    split
    · decide
    · exact h.protocol
  case domain => exact h.domain
  case port =>
    intro p hp
    obtain rfl | rfl | rfl := Address.mem_usedPort? hp
    · exact h.port
    · simp
    · simp
  case port_eq_none => exact Address.impliedPort?_of_usedPort?
  case path => exact Address.slashed_cases _

theorem read?_requestUrl {e : Element} (h : e.NamesHost) :
    Address.read? (requestUrl e) = some e.address := by
  rw [requestUrl_eq_text h.domain_ne]
  exact Address.read?_text (isPlain_address h)

/-- **Addresses.** Two requests that name their hosts have the same text for an address exactly when
protocol, domain, used port and path are the same. These four are read back from the text. -/
theorem requestUrl_eq_iff {a b : Element} (ha : a.NamesHost) (hb : b.NamesHost) :
    (requestUrl a = requestUrl b ↔ a.address = b.address) ∧
      Address.read? (requestUrl a) = some a.address := by
  have hread := read?_requestUrl ha
  refine ⟨⟨fun h => ?_, fun h => ?_⟩, hread⟩
  · rw [h, read?_requestUrl hb] at hread
    exact (Option.some.inj hread).symm
  · rw [requestUrl_eq_text ha.domain_ne, requestUrl_eq_text hb.domain_ne, h]

def requestTo (protocol port path : String) : Element where
  kind := "HTTPSamplerProxy"
  properties := [(protocolKey, .text protocol), (domainKey, .text "example.com"),
    (portKey, .text port), (pathKey, .text path)]

theorem namesHost_requestTo {protocol port path : String}
    (hprotocol : ':' ∉ (Text.trim protocol).toList)
    (hport : ∀ c ∈ (Text.trim port).toList, c ≠ ':' ∧ c ≠ '/') :
    (requestTo protocol port path).NamesHost := by
  have hdomain : (requestTo protocol port path).trimmedAt domainKey = "example.com" := by
    have htrim : Text.trim "example.com" = "example.com" := by decide +kernel
    exact htrim
  refine ⟨hprotocol, ?_, ?_, hport⟩
  · simp [hdomain]
  · simp [hdomain]

/-- An implied port, given or not, under a protocol in capitals, and a path with signs in it. -/
theorem requestUrl_eq_iff_impliedPort :
    (requestTo "HTTPS" " 443" "a:8080//${b}").NamesHost ∧
    (requestTo " HTTPS" "" "/a:8080//${b} ").NamesHost ∧
    requestUrl (requestTo "HTTPS" " 443" "a:8080//${b}") =
      requestUrl (requestTo " HTTPS" "" "/a:8080//${b} ") ∧
    Address.read? (requestUrl (requestTo "HTTPS" " 443" "a:8080//${b}")) =
      some ⟨"HTTPS", "example.com", some "443", "/a:8080//${b}"⟩ := by
  have htrim : Text.trim " 443" = "443" := by decide +kernel
  have hblank : Text.trim "" = "" := by decide +kernel
  have ha : (requestTo "HTTPS" " 443" "a:8080//${b}").NamesHost :=
    namesHost_requestTo (by decide +kernel) (by simp [htrim])
  have hb : (requestTo " HTTPS" "" "/a:8080//${b} ").NamesHost :=
    namesHost_requestTo (by decide +kernel) (by simp [hblank])
  obtain ⟨heq, hread⟩ := requestUrl_eq_iff ha hb
  exact ⟨ha, hb, heq.2 (by decide +kernel), hread.trans (by decide +kernel)⟩

end Convert
end PlanCode
