import Sluice.Proxy.HttpTunnel
import Sluice.Proofs.Copying
import Sluice.Proofs.HeadHosts

/-
  What a tunnel through an HTTP proxy asks for. The name that a client gives stands in the request
  as it is. Addresses, ports and credentials can be seen in every character, so the proxy reads one
  request head and nothing more just if the name can (`written_iff`). A name out of a request stays
  on its line, so it spoils the request at worst (`refuses_request`). A name out of a greeting need
  not: one with a line break in it writes fields, and whole requests, of the client's own
  (`written_breaking`).
-/

namespace Sluice

namespace HttpTunnel

open Octets Http

/-! ## The request as a head -/

/-- The field that signs in, if any. -/
def signIn : Option Credentials → List Field
  | none => []
  | some c => [⟨ofText "Proxy-Authorization", ofText "Basic " ++ ofText (basicWord c)⟩]

/-- The head that asks for a tunnel. -/
def head (d : Destination) (credentials : Option Credentials) : Request :=
  { method := ofText "CONNECT"
    target := d.text
    minorVersion := 1
    fields := ⟨ofText "Host", ofText d.text⟩ :: ⟨ofText "Proxy-Connection", ofText "Keep-Alive"⟩ ::
      signIn credentials }

theorem ofText_append (a b : String) : ofText (a ++ b) = ofText a ++ ofText b := by
  rw [ofText, String.toList_append, List.flatMap_append]
  rfl

theorem ofText_request (d : Destination) (credentials : Option Credentials) :
    ofText (request d credentials) = (head d credentials).text := by
  have first : ofText "CONNECT " = ofText "CONNECT" ++ [space] := by decide
  have second : ofText " HTTP/1.1\r\nHost: " =
      space :: (ofText "HTTP/1." ++ 49 :: (lineBreak ++ (ofText "Host" ++ [colon, space]))) := by
    decide
  have third : ofText "\r\nProxy-Connection: Keep-Alive\r\n" = lineBreak ++
      (ofText "Proxy-Connection" ++ colon :: space :: (ofText "Keep-Alive" ++ lineBreak)) := by
    decide
  have last : ofText "\r\n" = lineBreak := by decide
  have fields : ofText (signInField credentials) = (signIn credentials).flatMap Field.text := by
    cases credentials with
    | none => rfl
    | some c =>
      have name : ofText "Proxy-Authorization: Basic " =
          ofText "Proxy-Authorization" ++ colon :: space :: ofText "Basic " := by decide
      show ofText ("Proxy-Authorization: Basic " ++ basicWord c ++ "\r\n") = _
      rw [ofText_append, ofText_append, name, last]
      simp [signIn, Field.text]
  show ofText ("CONNECT " ++ d.text ++ " HTTP/1.1\r\nHost: " ++ d.text ++
    "\r\nProxy-Connection: Keep-Alive\r\n" ++ signInField credentials ++ "\r\n") = _
  simp only [ofText_append, first, second, third, last, fields]
  simp [Request.text, head, Field.text]

theorem request_front (d : Destination) (credentials : Option Credentials) :
    ∃ behind, ofText (request d credentials) =
      ofText "CONNECT" ++ space :: (ofText d.text ++ (ofText " HTTP/1.1" ++ behind)) := by
  have version : ofText " HTTP/1.1" = space :: (ofText "HTTP/1." ++ [49]) := by decide
  refine ⟨lineBreak ++ ((head d credentials).fields.flatMap Field.text ++ lineBreak), ?_⟩
  rw [ofText_request, version]
  simp [Request.text, head]

theorem visible_word (c : Credentials) : Visible (basicWord c) :=
  Visible.ofList (Base64.visible_encode _)

theorem word_ne_empty (c : Credentials) : basicWord c ≠ "" := by
  have pair : ofText s!"{c.username}:{c.password}" ≠ [] := by
    refine Utf8.ofText_ne_nil fun empty => ?_
    have colon : ':' ∈ (s!"{c.username}:{c.password}").toList := by simp [toString]
    rw [empty] at colon
    exact absurd colon List.not_mem_nil
  intro empty
  have := congrArg String.toList empty
  rw [basicWord, String.toList_ofList] at this
  exact Base64.encode_ne_nil pair this

theorem plain_field {name value : Octets} (named : name ≠ [])
    (token : ∀ b ∈ name, isToken b = true) (target : ∀ b ∈ value, isTarget b = true) :
    Field.Plain ⟨name, value⟩ where
  named := named
  name := token
  value b hb := (isText_of_isTarget (target b hb)).1
  front b hb := (isText_of_isTarget (target b (List.mem_of_mem_head? hb))).2
  back b hb := (isText_of_isTarget (target b (List.mem_of_mem_getLast? hb))).2

theorem plain_signIn (credentials : Option Credentials) : ∀ f ∈ signIn credentials, f.Plain := by
  cases credentials with
  | none => exact fun f h => absurd h List.not_mem_nil
  | some c =>
    intro f h
    obtain rfl := List.mem_singleton.1 h
    have word := spelled_visible.octets (visible_word c)
    have named : ofText "Proxy-Authorization" ≠ [] := by decide
    have token : ∀ b ∈ ofText "Proxy-Authorization", isToken b = true :=
      List.all_eq_true.1 (by decide)
    refine ⟨named, token, ?_, ?_, ?_⟩
    · intro b hb
      rcases List.mem_append.1 hb with hb | hb
      · have scheme : ∀ b ∈ ofText "Basic ", isText b = true := List.all_eq_true.1 (by decide)
        exact scheme b hb
      · exact (isText_of_isTarget (word b hb)).1
    · have front : (ofText "Basic " ++ ofText (basicWord c)).head? = some 66 := rfl
      intro b hb
      rw [front] at hb
      obtain rfl := Option.some.inj hb
      decide
    · intro b hb
      have filled := Utf8.ofText_ne_nil (word_ne_empty c)
      rw [List.getLast?_append, Option.or_of_isSome (List.getLast?_isSome.2 filled)] at hb
      exact (isText_of_isTarget (word b (List.mem_of_mem_getLast? hb))).2

theorem text_ne_empty (d : Destination) : d.text ≠ "" := by
  have colon : ':' ∈ d.text.toList := by
    unfold Destination.text
    split <;> simp [toString]
  intro empty
  rw [empty] at colon
  exact absurd colon List.not_mem_nil

theorem method_named : ofText "CONNECT" ≠ [] := by
  decide

theorem method_token : ∀ b ∈ ofText "CONNECT", isToken b = true :=
  List.all_eq_true.1 (by decide)

theorem plain_head {d : Destination} (visible : Visible d.text)
    (credentials : Option Credentials) : (head d credentials).Plain where
  named := method_named
  method := method_token
  aimed := text_ne_empty d
  target := visible
  version := Nat.le_refl 1
  fields f h := by
    rcases List.mem_cons.1 h with rfl | h
    · exact plain_field (by decide) (List.all_eq_true.1 (by decide))
        (spelled_visible.octets visible)
    · rcases List.mem_cons.1 h with rfl | h
      · exact plain_field (by decide) (List.all_eq_true.1 (by decide))
          (List.all_eq_true.1 (by decide))
      · exact plain_signIn credentials f h

/-- A proxy reads the request as it was meant, and nothing behind it, just if every character of
the destination's text can be seen. -/
theorem reads_request_iff (d : Destination) (credentials : Option Credentials) {slots : Nat}
    (room : 3 ≤ slots) :
    (Request.scanner slots).run (ofText (request d credentials)) =
      .ok (some (head d credentials, [])) ↔ Visible d.text := by
  have bounded : (head d credentials).fields.length ≤ slots := by
    cases credentials <;> simp [head, signIn] <;> omega
  rw [ofText_request]
  rw [Scanner.run_eq]
  constructor
  · intro complete
    have target : Utf8.text? ((ofText d.text ++ space :: _).takeWhile isTarget) = some d.text :=
      target_of_complete method_named method_token complete
    rw [ofText, spelled_visible.takeWhile (by decide)] at target
    have text := Utf8.text?_ofText (String.ofList (d.text.toList.takeWhile isVisible))
    rw [ofText, String.toList_ofList, target] at text
    have all : d.text.toList.takeWhile isVisible = d.text.toList :=
      ((congrArg String.toList (Option.some.inj text)).trans String.toList_ofList).symm
    intro ch h
    rw [← all] at h
    exact List.all_eq_true.1 List.all_takeWhile ch h
  · intro visible
    have reads := reads_scanner (plain_head visible credentials) bounded []
    rw [List.append_nil] at reads
    exact reads

/-- A request whose destination stays on its line, but cannot be seen in every character, is no
request to anybody. -/
theorem refuses_request {d : Destination} (inline : ∀ ch ∈ d.text.toList, isInline ch = true)
    (hidden : ¬ Visible d.text) (credentials : Option Credentials) (slots : Nat) :
    Scanner.Refuses (Request.scanner slots) (ofText (request d credentials)) := by
  obtain ⟨behind, request⟩ := request_front d credentials
  obtain ⟨front, ch, more, whole, visible, stop⟩ := Visible.split hidden
  have encode := spelled_visible ch
  rw [if_neg (Bool.eq_false_iff.1 stop)] at encode
  obtain ⟨b, one, other⟩ := encode
  have text : ofText d.text =
      front.flatMap String.utf8EncodeChar ++ b :: more.flatMap String.utf8EncodeChar := by
    rw [ofText, whole, List.flatMap_append, List.flatMap_cons, one]
    rfl
  have line : ∀ x ∈ more.flatMap String.utf8EncodeChar ++ ofText " HTTP/1.1", isText x = true := by
    have version : ∀ x ∈ ofText " HTTP/1.1", isText x = true := List.all_eq_true.1 (by decide)
    have rest : ∀ ch ∈ more, isInline ch = true := fun ch' mem =>
      inline ch' (whole ▸ List.mem_append_right _ (List.mem_cons_of_mem _ mem))
    exact List.forall_mem_append.2 ⟨spelled_inline.octets rest, version⟩
  have long : 8 < (more.flatMap String.utf8EncodeChar ++ ofText " HTTP/1.1").length := by
    have nine : (ofText " HTTP/1.1").length = 9 := by decide
    rw [List.length_append, nine]
    omega
  rw [request, text, List.append_assoc, List.cons_append, ← List.append_assoc (more.flatMap _)]
  exact refuses_scanner method_named method_token (spelled_visible.octets visible) other line long

/-! ## What the proxy receives -/

/-- What a proxy with these answers receives when it is asked for a tunnel. -/
def written (d : Destination) (credentials : Option Credentials) (proxy : Source) : Octets :=
  (establish d credentials { source := proxy }).2.sink.accepted

theorem keeps_readHeadFrom {σ γ : Type} [Readable σ] {view : σ → γ}
    (reads : ∀ room s, view (Readable.read room s).2 = view s) (before : Octets) (left : Nat) :
    Session.Keeps view (readHeadFrom (σ := σ) before left) := by
  induction left generalizing before with
  | zero => exact Session.keeps_fail view _
  | succ left ih =>
    apply Session.keeps_bind (Session.keeps_readOctet reads _)
    intro b
    split
    · exact Session.keeps_pure view _
    · exact ih _

theorem keeps_answer {γ : Type} {view : Transport → γ}
    (reads : ∀ room t, view (Readable.read room t).2 = view t) (d : Destination) :
    Session.Keeps view (do
      match judge d (← readHead) with
      | .ok () => return ()
      | .error f => Session.fail f : Session Transport Fault Unit) := by
  apply Session.keeps_bind (keeps_readHeadFrom reads [] maxResponseHead)
  intro head
  split
  · exact Session.keeps_pure view _
  · exact Session.keeps_fail view _

/-- The request is all that is written. -/
theorem written_eq (d : Destination) (credentials : Option Credentials) (proxy : Source) :
    written d credentials proxy = ofText (request d credentials) := by
  obtain ⟨sink, sent, accepted⟩ : ∃ sink, ({} : Sink).writeAll (ofText (request d credentials)) =
      (.done (), sink) ∧ sink.accepted = [] ++ ofText (request d credentials) :=
    Sink.writeAll_open rfl nofun
  have send : Session.send Fault.notSent (ofText (request d credentials)) { source := proxy } =
      (.done (), { source := proxy, sink }) := by
    rw [Session.send, sent]
    rfl
  have keeps : Session.Keeps (fun t : Transport => t.sink.accepted) _ :=
    keeps_answer (fun _ _ => rfl) d
  rw [List.nil_append] at accepted
  unfold written establish
  rw [Session.bind_done send, ← accepted]
  exact keeps { source := proxy, sink }

/-- Whatever name a client gives, and whatever the proxy answers: the proxy has received one head
that asks for the destination, and nothing else, just if the name is an address, or can be seen in
every character, or there is none. -/
theorem written_iff (a : SocketAddress) (name : Option String) (credentials : Option Credentials)
    (proxy : Source) (slots : Nat) :
    let d := (Destination.ofAddress a).withHostname name
    (Request.scanner (slots + 3)).run (written d credentials proxy) =
        .ok (some (head d credentials, [])) ↔
      ∀ text, d.host = .domain text → Visible text := by
  intro d
  rw [written_eq, reads_request_iff d credentials (Nat.le_add_left 3 slots)]
  exact Visible.destination_iff d

/-- A name that ends the head and goes on. -/
def breaking (target more : String) : String :=
  target ++ " HTTP/1.1\r\n\r\n" ++ more

theorem request_breaking (target more : String) (port : UInt16)
    (credentials : Option Credentials) :
    ∃ rest, ofText (request { host := .domain (breaking target more), port } credentials) =
      Request.text ⟨ofText "CONNECT", target, 1, []⟩ ++ (ofText more ++ rest) := by
  have ends : ofText " HTTP/1.1\r\n\r\n" =
      space :: (ofText "HTTP/1." ++ 49 :: (lineBreak ++ lineBreak)) := by decide
  obtain ⟨behind, front⟩ :=
    request_front { host := .domain (breaking target more), port } credentials
  refine ⟨ofText (":" ++ toString port) ++ (ofText " HTTP/1.1" ++ behind), ?_⟩
  rw [front]
  show ofText "CONNECT" ++ space ::
    (ofText (target ++ " HTTP/1.1\r\n\r\n" ++ more ++ ":" ++ toString port) ++ _) = _
  simp only [ofText_append, ends]
  simp [Request.text]

/-- The proxy then reads a request for what stands in front, and goes on with the name as the next
thing that it is sent. -/
theorem written_breaking (target more : String) (named : target ≠ "") (visible : Visible target)
    (port : UInt16) (credentials : Option Credentials) (proxy : Source) (slots : Nat) :
    ∃ rest, (Request.scanner slots).run
        (written { host := .domain (breaking target more), port } credentials proxy) =
      .ok (some (⟨ofText "CONNECT", target, 1, []⟩, ofText more ++ rest)) := by
  have plain : (⟨ofText "CONNECT", target, 1, []⟩ : Request).Plain :=
    ⟨method_named, method_token, named, visible, Nat.le_refl 1,
      fun f h => absurd h List.not_mem_nil⟩
  obtain ⟨rest, text⟩ := request_breaking target more port credentials
  refine ⟨rest, ?_⟩
  rw [written_eq, text, Scanner.run_eq]
  exact reads_scanner plain (Nat.zero_le slots) _

theorem domain_withHostname {a : SocketAddress} {name : Option String} {text : String}
    (h : ((Destination.ofAddress a).withHostname name).host = .domain text) : name = some text := by
  have address : ∀ ip : Ip, Target.ofIp ip ≠ .domain text := fun ip => by cases ip <;> nofun
  unfold Destination.withHostname at h
  split at h
  · exact absurd h (address a.ip)
  · split at h
    · exact absurd h (address a.ip)
    · unfold Target.parse at h
      split at h
      · exact absurd h (address _)
      · rw [Target.domain.inj h]

theorem inline_withHostname (a : SocketAddress) {name : Option String} (inline : InlineName name) :
    ∀ ch ∈ ((Destination.ofAddress a).withHostname name).text.toList, isInline ch = true := by
  generalize hd : (Destination.ofAddress a).withHostname name = d
  by_cases visible : Visible d.text
  · exact fun ch mem => isInline_of_isVisible (visible ch mem)
  · obtain ⟨text, host⟩ : ∃ text, d.host = .domain text := by
      refine Classical.byContradiction fun none => visible ((Visible.destination_iff d).2 ?_)
      exact fun text host => absurd ⟨text, host⟩ none
    have behind : Visible (":" ++ toString d.port.toNat) := .append (by decide) (.nat _)
    have whole : d.text = text ++ (":" ++ toString d.port.toNat) := by
      rw [← String.append_assoc, Destination.text, host]
      rfl
    rw [whole, String.toList_append]
    refine List.forall_mem_append.2 ⟨inline text ?_, ?_⟩
    · exact domain_withHostname (hd ▸ host)
    · exact fun ch mem => isInline_of_isVisible (behind ch mem)

theorem done_of_map {α : Type} {f : Sniff.Sighting → α} {a : α}
    {outcome : Outcome SniffError Sniff.Sighting} (h : outcome.map f = .done a) :
    ∃ s, outcome = .done s ∧ f s = a := by
  cases outcome with
  | done s => exact ⟨s, rfl, Outcome.done.inj h⟩
  | failed e => simp [Outcome.map] at h
  | pending => simp [Outcome.map] at h

/-- What becomes of the name that a client was seen to give. If it came in a request, the proxy
either reads the one head that was meant or finds fault with it. -/
theorem sniffed_written_iff (r : Replay) (a : SocketAddress) (credentials : Option Credentials)
    (proxy : Source) (slots : Nat) : ∀ s, (Sniff.sniff r).1 = .done s →
    let d := (Destination.ofAddress a).withHostname s.hostname
    let read := (Request.scanner (slots + 3)).run (written d credentials proxy)
    (read = .ok (some (head d credentials, [])) ↔
      ∀ text, d.host = .domain text → Visible text) ∧
    (s.isTls = false →
      read = .ok (some (head d credentials, [])) ∨ ∃ fault, read = .error fault) := by
  intro s seen d read
  refine ⟨written_iff a s.hostname credentials proxy slots, fun plain => ?_⟩
  by_cases visible : Visible d.text
  · exact Or.inl ((written_iff a s.hostname credentials proxy slots).2
      ((Visible.destination_iff d).1 visible))
  · have inline := inline_withHostname a (Sniff.inline_sniff r s seen plain)
    have refused := Scanner.run_refuses (refuses_request inline visible credentials (slots + 3))
    rw [← written_eq d credentials proxy] at refused
    exact Or.inr refused

/-- A client that asks for a host with a blank in its name spoils the request. -/
theorem blank_spoils :
    let client : Replay := { source := [.data (ofText "GET / HTTP/1.1\r\nHost: a b\r\n\r\n")] }
    (Sniff.sniff client).1.map (·.hostname) = .done (some "a b") ∧
      ∃ fault, (Request.scanner 3).run (written { host := .domain "a b", port := 443 } none []) =
        .error fault := by
  intro client
  have seen : (Sniff.sniff client).1.map (fun s => (s.hostname, s.isTls)) =
      .done (some "a b", false) := by
    decide +kernel
  obtain ⟨s, found, both⟩ := done_of_map seen
  obtain ⟨name, plain⟩ := Prod.mk.inj both
  have destination : (Destination.ofAddress (.v4 ⟨10, 0, 0, 1⟩ 443)).withHostname s.hostname =
      { host := .domain "a b", port := 443 } := by
    rw [name]
    decide +kernel
  obtain ⟨iff, spoils⟩ := sniffed_written_iff client (.v4 ⟨10, 0, 0, 1⟩ 443) none [] 0 s found
  rw [destination] at iff spoils
  have hidden : ¬ Visible "a b" := by decide
  refine ⟨?_, (spoils plain).resolve_left fun read => hidden (iff.1 read "a b" rfl)⟩
  rw [found]
  exact congrArg Outcome.done name

/-- A client's greeting that asks for a server by this name, in one record. -/
def greeting (name : String) : Octets :=
  let host := ofText name
  let entry := [Tls.hostNameType] ++ Octets.ofNat 2 host.length ++ host
  let names := Octets.ofNat 2 entry.length ++ entry
  let extensions := [0, 0] ++ Octets.ofNat 2 names.length ++ names
  let body := [3, 3] ++ List.replicate 32 0 ++ [0, 0, 2, 0x13, 1, 1, 0] ++
    Octets.ofNat 2 extensions.length ++ extensions
  let message := [1] ++ Octets.ofNat 3 body.length ++ body
  [Tls.handshakeRecord, 3, 1] ++ Octets.ofNat 2 message.length ++ message

/-- A client that greets by this name. -/
def greeter (name : String) : Replay :=
  { source := [.data (greeting name)] }

/-- A client whose name ends the head gets a request of its own to the proxy. -/
theorem greeter_smuggles :
    ∃ s, (Sniff.sniff (greeter (breaking "a:1" "GET http://b/ HTTP/1.1\r\nX: "))).1 = .done s ∧
      let d := (Destination.ofAddress (.v4 ⟨10, 0, 0, 1⟩ 443)).withHostname s.hostname
      (∃ rest, (Request.scanner 64).run (written d none []) =
        .ok (some (⟨ofText "CONNECT", "a:1", 1, []⟩,
          ofText "GET http://b/ HTTP/1.1\r\nX: " ++ rest))) ∧
      (Request.scanner 64).run (written d none []) ≠ .ok (some (head d none, [])) := by
  have seen : (Sniff.sniff (greeter (breaking "a:1" "GET http://b/ HTTP/1.1\r\nX: "))).1.map
      (·.hostname) = .done (some (breaking "a:1" "GET http://b/ HTTP/1.1\r\nX: ")) := by
    decide +kernel
  obtain ⟨s, seen, name⟩ := done_of_map seen
  have destination : (Destination.ofAddress (.v4 ⟨10, 0, 0, 1⟩ 443)).withHostname s.hostname =
      { host := .domain (breaking "a:1" "GET http://b/ HTTP/1.1\r\nX: "), port := 443 } := by
    rw [name]
    decide +kernel
  obtain ⟨rest, broken⟩ := written_breaking "a:1" "GET http://b/ HTTP/1.1\r\nX: " (by decide)
    (by decide) 443 none [] 64
  refine ⟨s, seen, ?_⟩
  rw [destination]
  refine ⟨⟨rest, broken⟩, fun same => ?_⟩
  rw [broken] at same
  have tail := congrArg Prod.snd (Option.some.inj (Except.ok.inj same))
  have filled : ofText "GET http://b/ HTTP/1.1\r\nX: " ≠ [] := by decide
  exact filled (List.append_eq_nil_iff.1 tail).1

end HttpTunnel

end Sluice
