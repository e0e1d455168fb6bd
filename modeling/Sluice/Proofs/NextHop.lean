import Mathlib.Data.List.TakeWhile
import Sluice.Proofs.AsciiNames
import Sluice.Proofs.Authorities
import Sluice.Proofs.HostFields
import Sluice.Proofs.TunnelRequest

/-
  A destination that one hop writes, read by the next. The text of a destination is a place, which
  is a name or an address, and a port behind a colon. It is taken apart in two ways: the port is cut
  off a target or a `Host` field (`stripPort_text`), and a target that is a URL is read as one
  (`Url.exists_parse`), whose host need not have the text that was written. Each comes back to the
  same host (`httpHead_understands`).
-/

namespace Sluice

open Octets Http

/-! ## The text of a destination -/

/-- A host that is an address or a plain name. -/
def Target.Plain (host : Target) : Prop :=
  ∀ name, host = .domain name → PlainDomain name

/-- A host as it stands in front of a port. -/
def Target.place : Target → List Char
  | .v6 ip => '[' :: (ip.text.toList ++ [']'])
  | .v4 ip => ip.text.toList
  | .domain name => name.toList

theorem Destination.toList_text (d : Destination) :
    d.text.toList = d.host.place ++ ':' :: Digits.ofNat 10 d.port.toNat := by
  obtain ⟨host, port⟩ := d
  cases host with
  | v4 ip =>
    show (ip.text ++ ":" ++ toString port.toNat).toList = _
    simp [Target.place, Digits.ofNat]
  | v6 ip =>
    show ("[" ++ ip.text ++ "]:" ++ toString port.toNat).toList = _
    simp [Target.place, Digits.ofNat]
  | domain name =>
    show (name ++ ":" ++ toString port.toNat).toList = _
    simp [Target.place, Digits.ofNat]

namespace Target

variable {host : Target}

/-- Other places than an IPv6 address in brackets are as plain as names. -/
theorem Plain.place_cases (plain : host.Plain) : (∃ ip, host = .v6 ip) ∨
    host.place = host.text.toList ∧ ∀ c ∈ host.place, c ∈ Idna.nameChars := by
  cases host with
  | v4 ip => exact Or.inr ⟨rfl, Ipv4.forall_text (by decide) (by decide) ip⟩
  | v6 ip => exact Or.inl ⟨ip, rfl⟩
  | domain name => exact Or.inr ⟨rfl, (plain name rfl).plain⟩

/-- The text of a host is read as the host. -/
theorem Plain.parse_text (plain : host.Plain) : parse host.text = host := by
  cases host with
  | v4 ip => exact parse_ipv4 ip
  | v6 ip => exact parse_ipv6_text ip
  | domain name => exact (plain name rfl).parse

/-- The empty text is read as a name, and as no plain one. -/
theorem Plain.ne_empty_of_parse {text : String} (plain : host.Plain) (read : parse text = host) :
    text ≠ "" := by
  rintro rfl
  have nothing : parse "" = .domain "" := by decide
  obtain ⟨c, mem, -⟩ := (plain "" (read.symm.trans nothing)).exists_letter
  exact absurd mem List.not_mem_nil

theorem Plain.visible (plain : host.Plain) (port : UInt16) :
    Visible (Destination.mk host port).text := by
  have visible : ∀ c ∈ Idna.nameChars, isVisible c = true := List.all_eq_true.1 (by decide)
  rw [Visible.destination_iff]
  exact fun name named c mem => visible c ((plain name named).plain c mem)

end Target

theorem colon_not_mem_digits (n : Nat) : ':' ∉ Digits.ofNat 10 n := fun mem =>
  absurd (Digits.isSome_value (by decide : 1 < 10) (by decide) n ':' mem) (by decide)

/-! ## Targets and fields -/

/-- A port is cut off a name. -/
theorem stripPort_name {name digits : List Char} (plain : ∀ c ∈ name, c ∈ Idna.nameChars)
    (one : ':' ∉ digits) : stripPort (name ++ ':' :: digits) = name := by
  have other : ∀ c ∈ Idna.nameChars, c ≠ '[' ∧ (decide (c ≠ ':')) = true :=
    List.all_iff_forall_prop.1 (by decide)
  have cut : (name ++ ':' :: digits).span (· ≠ ':') = (name, ':' :: digits) := by
    rw [List.span_eq_takeWhile_dropWhile,
      List.takeWhile_append_of_pos fun c mem => (other c (plain c mem)).2,
      List.dropWhile_append_of_pos fun c mem => (other c (plain c mem)).2]
    simp
  unfold stripPort
  split
  · next rest front =>
    cases name with
    | nil => cases front
    | cons c name =>
      obtain ⟨rfl, -⟩ := List.cons.inj front
      exact absurd rfl (other '[' (plain '[' List.mem_cons_self)).1
  · rw [cut]
    simp [one]

/-- A port is cut off brackets, and they too. -/
theorem stripPort_brackets {s : List Char} (bare : Bare s) (behind : List Char) :
    stripPort ('[' :: (s ++ ']' :: behind)) = s := by
  show (s ++ ']' :: behind).takeWhile (· ≠ ']') = s
  rw [List.takeWhile_append_of_pos fun c mem => by simpa using (bare c mem).2]
  simp

theorem stripPort_text {d : Destination} (plain : d.host.Plain) :
    stripPort d.text.toList = d.host.text.toList := by
  rw [d.toList_text]
  rcases plain.place_cases with ⟨ip, v6⟩ | ⟨place, chars⟩
  · have cut := stripPort_brackets (bare_ipv6 ip) (':' :: Digits.ofNat 10 d.port.toNat)
    rw [v6]
    simpa [Target.place, Target.text] using cut
  · rw [stripPort_name chars (colon_not_mem_digits _), place]

/-! ## URLs -/

namespace Url

/-- A visible text is clean. -/
theorem clean_visible {s : List Char} (visible : ∀ c ∈ s, isVisible c = true) : clean s = s := by
  refine clean_large fun c mem => ?_
  have := visible c mem
  simp only [isVisible, Bool.and_eq_true, decide_eq_true_eq] at this
  omega

theorem readScheme_http (rest : List Char) :
    readScheme ("http".toList ++ ':' :: rest) = some ("http", rest) :=
  readScheme_letters (by decide) (List.all_eq_true.1 (by decide)) rest

/-! ### The host and the port -/

theorem hostLength_name {name behind : List Char} (plain : ∀ c ∈ name, c ∈ Idna.nameChars) :
    hostLength false (name ++ ':' :: behind) = name.length := by
  have other : ∀ c ∈ Idna.nameChars, c ≠ ':' ∧ c ≠ '[' := List.all_iff_forall_prop.1 (by decide)
  exact hostLength_plain fun c mem => other c (plain c mem)

theorem hostLength_text {d : Destination} (plain : d.host.Plain) :
    hostLength false d.text.toList = d.host.place.length := by
  rw [d.toList_text]
  rcases plain.place_cases with ⟨ip, v6⟩ | ⟨-, chars⟩
  · rw [v6]
    simp [Target.place, hostLength_brackets (bare_ipv6 ip)]
  · exact hostLength_name chars

/-- What `http` says about the rest of a URL. -/
def http : Manner :=
  .special 80

/-- The characters of the texts of destinations. -/
def textChars : List Char :=
  "abcdefghijklmnopqrstuvwxyz0123456789-.:[]".toList

theorem textChars_inside : ∀ c ∈ textChars, isVisible c = true ∧ c ≠ '@' ∧ isSlash c = false ∧
    endsAuthority http c = false :=
  List.all_iff_forall_prop.1 (by decide)

theorem forall_text {d : Destination} (plain : d.host.Plain) :
    ∀ c ∈ d.text.toList, c ∈ textChars := by
  have place : ∀ c ∈ d.host.place, c ∈ textChars := by
    rcases plain.place_cases with ⟨ip, v6⟩ | ⟨-, chars⟩
    · have address : ∀ c ∈ ip.text.toList, c ∈ textChars :=
        Ipv6.forall_text (by decide) (by decide) (by decide) ip
      have close : ∀ c ∈ [']'], c ∈ textChars := List.forall_mem_singleton.2 (by decide)
      rw [v6]
      exact List.forall_mem_cons.2 ⟨by decide, List.forall_mem_append.2 ⟨address, close⟩⟩
    · have names : ∀ c ∈ Idna.nameChars, c ∈ textChars := List.all_iff_forall_prop.1 (by decide)
      exact fun c mem => names c (chars c mem)
  have digits : ∀ c ∈ Digits.ofNat 10 d.port.toNat, c ∈ textChars :=
    Digits.forall_ofNat (by decide) (by decide) _
  rw [d.toList_text]
  exact List.forall_mem_append.2 ⟨place, List.forall_mem_cons.2 ⟨by decide, digits⟩⟩

/-- The host of a place. -/
def Host.ofTarget : Target → Host
  | .v4 ip => .v4 ip
  | .v6 ip => .v6 ip
  | .domain n => .name n

theorem ofDomain_place {host : Target} (plain : host.Plain) :
    Host.ofDomain host.place = .ok (Host.ofTarget host) := by
  cases host with
  | v4 ip => exact Host.ofDomain_ipv4 ip
  | v6 ip => rw [Target.place, Host.ofDomain, Host.bracketed_parse ip.parse_text]; rfl
  | domain name => exact (plain name rfl).ofDomain

theorem hostOf_place {host : Target} (plain : host.Plain) :
    hostOf http host.place = .ok (some (Host.ofTarget host)) := by
  have filled : host.place.isEmpty = false := by
    rcases plain.place_cases with ⟨ip, v6⟩ | ⟨place, -⟩
    · rw [v6]
      rfl
    · rw [place, List.isEmpty_eq_false_iff]
      exact fun empty => plain.ne_empty_of_parse plain.parse_text (String.toList_eq_nil_iff.1 empty)
  rw [hostOf, filled, ofDomain_place plain]
  rfl

/-- What follows the scheme and the slashes. -/
theorem exists_authority {d : Destination} (plain : d.host.Plain) :
    ∃ url, readAuthority "http" http (d.text.toList ++ ['/']) = .ok url ∧
      url.host = some (Host.ofTarget d.host) := by
  have inside (c : Char) (mem : c ∈ d.text.toList) := textChars_inside c (forall_text plain c mem)
  have cut : (d.text.toList ++ ['/']).span (fun c => !endsAuthority http c) =
      (d.text.toList, ['/']) := by
    have stays : ∀ c ∈ d.text.toList, (!endsAuthority http c) = true := by
      intro c mem
      rw [(inside c mem).2.2.2, Bool.not_false]
    rw [List.span_eq_takeWhile_dropWhile, List.takeWhile_append_of_pos stays,
      List.dropWhile_append_of_pos stays]
    simp [endsAuthority]
  have nobody : splitLast '@' d.text.toList = (none, d.text.toList) :=
    splitLast_none fun mem => (inside '@' mem).2.1 rfl
  have split : d.text.toList.take d.host.place.length = d.host.place ∧
      d.text.toList.drop d.host.place.length ++ ['/'] =
        ':' :: (Digits.ofNat 10 d.port.toNat ++ ['/']) := by
    rw [d.toList_text, List.take_left, List.drop_left]
    exact ⟨rfl, rfl⟩
  have read := readPort_ofNat http d.port ['/'] fun _ slash =>
    Option.some.inj slash ▸ rfl
  unfold readAuthority
  rw [cut]
  dsimp only
  rw [nobody]
  dsimp only
  rw [hostLength_text plain, split.1, split.2, hostOf_place plain, read]
  exact ⟨_, rfl, rfl⟩

end Url

/-! ### Whole URLs -/

/-- The URL of what stands at the root of a destination. -/
def Destination.rootUrl (d : Destination) : String :=
  "http://" ++ d.text ++ "/"

theorem Destination.toList_rootUrl (d : Destination) :
    d.rootUrl.toList = "http".toList ++ ':' :: '/' :: '/' :: (d.text.toList ++ ['/']) := by
  simp [rootUrl]

theorem Url.exists_parse {d : Destination} (plain : d.host.Plain) :
    ∃ url, parse d.rootUrl = .ok url ∧ url.host = some (Host.ofTarget d.host) := by
  have inside (c : Char) (mem : c ∈ d.text.toList) := textChars_inside c (forall_text plain c mem)
  have visible : ∀ c ∈ d.rootUrl.toList, isVisible c = true := by
    rw [d.toList_rootUrl]
    refine List.forall_mem_append.2 ⟨List.all_eq_true.1 (by decide), ?_⟩
    simp only [List.forall_mem_cons, List.forall_mem_append]
    exact ⟨by decide, by decide, by decide, fun c mem => (inside c mem).1, by decide, nofun⟩
  have slashes : ('/' :: '/' :: (d.text.toList ++ ['/'])).dropWhile isSlash =
      d.text.toList ++ ['/'] := by
    cases text : d.text.toList with
    | nil => exact absurd (String.toList_eq_nil_iff.1 text) (HttpTunnel.text_ne_empty d)
    | cons c more =>
      rw [text] at inside
      have other := (inside c List.mem_cons_self).2.2.1
      show (c :: (more ++ ['/'])).dropWhile isSlash = _
      exact List.dropWhile_cons_of_neg (by simp [other])
  obtain ⟨url, read, host⟩ := exists_authority plain
  refine ⟨url, ?_, host⟩
  rw [parse, clean_visible visible, d.toList_rootUrl, readScheme_http]
  show readAuthority "http" http (List.dropWhile isSlash _) = .ok url
  rw [slashes, read]

/-- The host of a URL is read as the host that was written, whichever way the URL writes it. -/
theorem Url.parse_unbracketed {host : Target} (plain : host.Plain) :
    Target.parse (String.ofList (unbracketed (Host.ofTarget host).text.toList)) = host := by
  cases host with
  | v4 ip =>
    show Target.parse (String.ofList (unbracketed ip.text.toList)) = _
    rw [(bare_ipv4 ip).unbracketed, String.ofList_toList, Target.parse_ipv4]
  | v6 ip =>
    have brackets : (Host.v6 ip).text.toList = '[' :: (ip.groupText.toList ++ [']']) := by
      show ("[" ++ ip.groupText ++ "]").toList = _
      simp
    rw [Host.ofTarget, brackets, (bare_groupText ip).unbracketed_brackets, String.ofList_toList,
      Target.parse_groupText]
  | domain n =>
    have read := (plain n rfl).parse
    show Target.parse (String.ofList (unbracketed n.toList)) = _
    rw [(plain n rfl).bare.unbracketed, String.ofList_toList, read]

/-! ## The next hop -/

/-- What is found names the host of a destination: with the port it is the destination, whatever
was known of the host before. -/
def Understood (d : Destination) (found : Outcome SniffError (Option String)) : Prop :=
  ∃ name, found = .done (some name) ∧
    ∀ base : Target, (Destination.mk base d.port).withHostname (some name) = d

namespace Http

variable {d : Destination}

/-- A text that is read as the host is a name, and understood. -/
theorem understood_named {s : List Char} (plain : d.host.Plain)
    (read : Target.parse (String.ofList s) = d.host) :
    named s = some (String.ofList s) ∧ Understood d (.done (named s)) := by
  have filled := plain.ne_empty_of_parse read
  have name : named s = some (String.ofList s) := by
    unfold named
    split
    · next empty => exact absurd (congrArg String.ofList (List.isEmpty_iff.1 empty)) filled
    · rfl
  refine ⟨name, String.ofList s, congrArg Outcome.done name, fun base => ?_⟩
  unfold Destination.withHostname
  dsimp only
  split
  · next empty => exact absurd (String.isEmpty_iff.1 empty) filled
  · rw [read]

/-- The target names the host. -/
theorem understood_target {r : Request} {s : List Char} (plain : d.host.Plain)
    (read : Target.parse (String.ofList s) = d.host) (target : hostOfTarget r = .ok (named s)) :
    Understood d (Sniff.hostTold (hostOf r)) := by
  obtain ⟨name, understood⟩ := understood_named plain read
  rw [name] at target understood
  rw [hostOf, target]
  exact understood

theorem parse_stripPort (plain : d.host.Plain) :
    Target.parse (String.ofList (stripPort d.text.toList)) = d.host := by
  rw [stripPort_text plain, String.ofList_toList, plain.parse_text]

theorem hostOfValue_text (plain : d.host.Plain) :
    hostOfValue (ofText d.text) = .ok (named (stripPort d.text.toList)) := by
  have other : ∀ c ∈ Url.textChars, isBlank c = false := List.all_iff_forall_prop.1 (by decide)
  have kept : trimBlanks d.text.toList = d.text.toList := by
    have filled (c : Char) (mem : c ∈ d.text.toList) := other c (Url.forall_text plain c mem)
    rw [trimBlanks, dropWhile_none filled, dropWhile_none fun c mem =>
      filled c (List.mem_reverse.1 mem), List.reverse_reverse]
  have text : Utf8.decode (ofText d.text) = .ok d.text.toList := Utf8.decode_eq_ok.2 rfl
  rw [hostOfValue, text]
  dsimp only
  rw [kept]

theorem hostOfTarget_rootUrl {r : Request} (plain : d.host.Plain) (target : r.target = d.rootUrl)
    (method : r.method ≠ ofText "CONNECT") : hostOfTarget r =
      .ok (named (unbracketed (Url.Host.ofTarget d.host).text.toList)) := by
  have absolute : isAbsolute d.rootUrl.toList = true := by
    rw [d.toList_rootUrl]
    rfl
  obtain ⟨url, read, host⟩ := Url.exists_parse plain
  have shown : url.hostText? = some (Url.Host.ofTarget d.host).text := by
    rw [Url.hostText?, host]
    rfl
  unfold hostOfTarget
  rw [if_neg (by simpa using method), target, absolute, if_pos rfl, hostOfUrl, read]
  dsimp only
  rw [shown]
  rfl

end Http

namespace Sniff

open Http

variable {d : Destination} {r : Request} {client : Replay}

/-- A client whose stream starts with this request for the root of a destination. -/
structure RootAsked (d : Destination) (r : Request) (client : Replay) : Prop where
  legal : r.Legal
  target : r.target = d.rootUrl
  method : r.method ≠ ofText "CONNECT"
  bounded : r.lines.length ≤ maxHead
  arrives : r.lines <+: client.yield

theorem httpHead_written {credentials : Option Credentials} {proxy : Source}
    (plain : d.host.Plain)
    (bounded : (HttpTunnel.written d credentials proxy).length ≤ maxHead)
    (arrives : HttpTunnel.written d credentials proxy <+: client.yield) :
    Understood d (hostFound (httpHead client).1) := by
  have head := HttpTunnel.plain_head (plain.visible d.port) credentials
  have lines : HttpTunnel.written d credentials proxy =
      (HttpTunnel.head d credentials).spaced.lines := by
    rw [HttpTunnel.written_eq, HttpTunnel.ofText_request, Request.lines_spaced]
  rw [lines] at bounded arrives
  rw [httpHead_lines head.legal bounded arrives, head.trimmed]
  exact understood_target plain (parse_stripPort plain) (if_pos rfl)

theorem httpHead_hostField (plain : d.host.Plain) (asked : PathAsked r client)
    (host : (hostValue? r.fields).map trimSpaces = some (ofText d.text)) :
    Understood d (hostFound (httpHead client).1) := by
  obtain ⟨value, field, trimmed⟩ := Option.map_eq_some_iff.1 host
  rw [hostFound_path asked, field, hostOfValue?, ← hostOfValue_trimSpaces, trimmed,
    hostOfValue_text plain]
  exact (understood_named plain (parse_stripPort plain)).2

theorem httpHead_rootUrl (plain : d.host.Plain) (asked : RootAsked d r client) :
    Understood d (hostFound (httpHead client).1) := by
  rw [httpHead_lines asked.legal asked.bounded asked.arrives]
  exact understood_target plain (Url.parse_unbracketed plain)
    (hostOfTarget_rootUrl (r := r.trimmed) plain asked.target asked.method)

/-- The next hop understands where a connection is headed: from a request for a tunnel as it is
written to a proxy, from a `Host` field with the destination's text, and from a URL with it. -/
theorem httpHead_understands (d : Destination) (plain : d.host.Plain) :
    (∀ credentials proxy client,
      (HttpTunnel.written d credentials proxy).length ≤ maxHead →
      HttpTunnel.written d credentials proxy <+: client.yield →
      Understood d (hostFound (httpHead client).1)) ∧
    (∀ r client, PathAsked r client →
      (hostValue? r.fields).map trimSpaces = some (ofText d.text) →
      Understood d (hostFound (httpHead client).1)) ∧
    ∀ r client, RootAsked d r client → Understood d (hostFound (httpHead client).1) :=
  ⟨fun _ _ _ bounded arrives => httpHead_written plain bounded arrives,
    fun _ _ asked host => httpHead_hostField plain asked host,
    fun _ _ asked => httpHead_rootUrl plain asked⟩

/-- A destination by name. -/
def byName : Destination :=
  { host := .domain "x.a-1", port := 443 }

/-- A destination by an address whose texts differ: `::ffff:1.2.3.4` in a field, and in a URL
`::ffff:102:304`. -/
def byAddress : Destination :=
  { host := .v6 ⟨[0, 0, 0, 0, 0, 0xffff, 0x102, 0x304], rfl⟩, port := 80 }

/-- A request for the root of a destination. -/
def rootRequest (d : Destination) : Request :=
  { method := ofText "GET", target := d.rootUrl, minorVersion := 1, fields := [] }

theorem httpHead_understands_both :
    let tunnelled : Replay := { source := [.data (HttpTunnel.written byName none [])] }
    let request := pathRequest [⟨ofText "Host", ofText byName.text⟩]
    Understood byName (hostFound (httpHead tunnelled).1) ∧
    Understood byName (hostFound (httpHead (asking request)).1) ∧
    Understood byAddress (hostFound (httpHead (asking (rootRequest byAddress))).1) := by
  intro tunnelled request
  have plain : byName.host.Plain := by
    rintro name host
    obtain rfl := Target.domain.inj host
    exact ⟨List.all_iff_forall_prop.1 (by decide), by decide +kernel, 'a', by decide +kernel,
      by decide⟩
  have path : PathAsked request (asking request) :=
    ⟨⟨by decide +kernel, by decide, by decide⟩, by decide +kernel, by decide +kernel⟩
  have root : RootAsked byAddress (rootRequest byAddress) (asking (rootRequest byAddress)) :=
    ⟨by decide +kernel, rfl, by decide, by decide +kernel, by decide +kernel⟩
  obtain ⟨written, field, -⟩ := httpHead_understands byName plain
  obtain ⟨-, -, url⟩ := httpHead_understands byAddress nofun
  exact ⟨written none [] tunnelled (by decide +kernel) (by decide +kernel),
    field request _ path (by decide +kernel), url _ _ root⟩

end Sniff

end Sluice
