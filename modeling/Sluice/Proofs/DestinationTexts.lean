import Sluice.Proofs.NextHop

/-
  A destination in the log and in a request is a text, and the text is of that destination only. A
  name that a client sends may hold colons, brackets and digits, so it could try to look like an
  address with a port. But a text that can be read as an address never becomes a name: the place
  where a host stands in the text names the same host again (`Target.Named`), and the port is what
  follows the last colon. So the destination can be read back off its text (`readText_text`).
-/

namespace Sluice

/-! ## Hosts -/

namespace Target

/-- A host whose place in the text of a destination names it. -/
def Named (host : Target) : Prop :=
  parse (String.ofList host.place) = host

theorem named_v4 (ip : Ipv4) : (Target.v4 ip).Named := by
  rw [Named, place, String.ofList_toList]
  exact parse_ipv4 ip

/-- The brackets around an IPv6 address do not count. -/
theorem named_v6 (ip : Ipv6) : (Target.v6 ip).Named := by
  rw [Named, place, parse, String.toList_ofList, (bare_ipv6 ip).unbracketed_brackets, Ip.parse?,
    ip.read_ipv4_text, ip.parse_text]
  rfl

theorem named_ofIp (ip : Ip) : (ofIp ip).Named := by
  cases ip with
  | v4 ip => exact named_v4 ip
  | v6 ip => exact named_v6 ip

/-- A text either is an address or stays as it is, and then it is no address the next time. -/
theorem named_parse (text : String) : (parse text).Named := by
  cases address : Ip.parse? (unbracketed text.toList) with
  | some ip =>
    have read : parse text = ofIp ip := by rw [parse, address]
    rw [read]
    exact named_ofIp ip
  | none =>
    have read : parse text = .domain text := by rw [parse, address]
    rw [read, Named, place, String.ofList_toList, read]

end Target

/-! ## Destinations -/

namespace Destination

/-- The destination of a connection to an address, once its client has asked for these names, one
after the other. -/
def refined (a : SocketAddress) (names : List (Option String)) : Destination :=
  names.foldl withHostname (ofAddress a)

theorem named_withHostname {d : Destination} (named : d.host.Named) (name : Option String) :
    (d.withHostname name).host.Named := by
  cases name with
  | none => exact named
  | some name =>
    rw [withHostname]
    split
    · exact named
    · exact Target.named_parse name

theorem named_refined (a : SocketAddress) (names : List (Option String)) :
    (refined a names).host.Named := by
  induction names using List.reverseRecOn with
  | nil => exact Target.named_ofIp a.ip
  | append_singleton names name ih =>
    rw [refined, List.foldl_append]
    exact named_withHostname ih name

/-- The host and the port that a text writes: the port is what follows the last colon. -/
def readText (text : String) : Target × Nat :=
  let (front, digits) := Url.splitLast ':' text.toList
  (Target.parse (String.ofList (front.getD [])), Digits.toNat 10 digits)

theorem readText_text {d : Destination} (named : d.host.Named) :
    readText d.text = (d.host, d.port.toNat) := by
  have colonless := Url.splitLast_none (colon_not_mem_digits d.port.toNat)
  rw [readText, d.toList_text, Url.splitLast_append, colonless]
  dsimp only [Option.map_none, Option.getD_none, Option.getD_some]
  rw [List.append_nil, named, Digits.toNat_ofNat (by decide) (by decide)]

/-- For every two connections, and whatever names their clients ask for: the texts of their
destinations are the same only if the destinations are, with the same kind of host, the same host
and the same port. -/
theorem refined_text_eq_iff (a b : SocketAddress) (names others : List (Option String)) :
    (refined a names).text = (refined b others).text ↔ refined a names = refined b others := by
  refine ⟨fun same => ?_, congrArg text⟩
  have host_port := congrArg readText same
  rw [readText_text (named_refined a names), readText_text (named_refined b others)] at host_port
  obtain ⟨host, port⟩ := Prod.mk.inj host_port
  have port := UInt16.toNat_inj.1 port
  cases first : refined a names
  cases second : refined b others
  rw [first, second] at host port
  exact congr (congrArg mk host) port

end Destination

end Sluice
