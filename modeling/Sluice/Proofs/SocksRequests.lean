import Sluice.Proofs.MessageReading
import Sluice.Proofs.SocksConnect

/-
  What a SOCKS5 server makes of all that the client has said. `readClient` is its side of the
  conversation: three messages, each told by the lengths in it. All lengths fit their octets,
  because a proxy URL is refused if its credentials are too long (`short_of_parse`) and a name that
  is too long is never asked for (`says_unsendable`). So the server reads just what was meant
  (`reads_client`), and a conversation that comes to a connection leaves nothing over
  (`connect_understood`).
-/

namespace Sluice

theorem Octets.length_ofText (text : String) : (ofText text).length = text.utf8ByteSize := by
  have octets : (ofText text).toByteArray = text.toByteArray := String.utf8Encode_toList
  rw [String.utf8ByteSize, ← octets, List.size_toByteArray]

/-! ## Credentials -/

/-- Credentials whose lengths take one octet each. -/
def Credentials.Short (c : Credentials) : Prop :=
  (Octets.ofText c.username).length ≤ 255 ∧ (Octets.ofText c.password).length ≤ 255

theorem Credentials.short_of_fits {c : Credentials} (fits : c.fitsSocks5 = true) : c.Short := by
  unfold Short
  rw [Octets.length_ofText, Octets.length_ofText]
  obtain ⟨username, password⟩ := Bool.and_eq_true_iff.1 fits
  exact ⟨of_decide_eq_true username, of_decide_eq_true password⟩

namespace ProxyUrl

theorem ok_of_bind {α β : Type} {reading : Except Fault α} {f : α → Except Fault β} {b : β}
    (h : reading >>= f = .ok b) : ∃ a, reading = .ok a ∧ f a = .ok b := by
  cases reading with
  | error e => cases h
  | ok a => exact ⟨a, rfl, h⟩

/-- The credentials in the URL of a SOCKS5 proxy are short enough to be said. -/
theorem short_of_parse {text : String} {u : ProxyUrl} (parsed : parse text = .ok u)
    (socks : u.scheme = .socks5) : ∀ c ∈ u.credentials, c.Short := by
  unfold parse at parsed
  split at parsed
  · cases parsed
  · unfold ofUrl at parsed
    obtain ⟨scheme, -, parsed⟩ := ok_of_bind parsed
    obtain ⟨host, -, parsed⟩ := ok_of_bind parsed
    obtain ⟨credentials, -, parsed⟩ := ok_of_bind parsed
    split at parsed
    · cases parsed
    · next checked =>
      obtain rfl := Except.ok.inj parsed
      obtain rfl : scheme = .socks5 := socks
      rintro c rfl
      exact Credentials.short_of_fits (by simpa using checked)

/-- A URL with a user name and a password, read. The kernel cannot look for a character in a text,
only in a list. -/
theorem parse_signIn :
    parse "socks5://u:p@h:1" = .ok ⟨.socks5, "h", 1, some ⟨"u", "p"⟩⟩ := by
  have scheme : Url.isSchemeChar = fun c => c.isAlphanum || "+-.".toList.contains c := by
    funext c
    simp [Url.isSchemeChar]
  have userinfo : Url.isEncodedInUserinfo = fun c =>
      Percent.isControl c || " \"<>`#?\x7b\x7d/:;=@[\\]^|".toList.contains c := by
    funext c
    simp [Url.isEncodedInUserinfo]
  have forbidden : Url.Host.isForbidden = fun c =>
      c == '\x00' || "\t\n\r #/:<>?@[\\]^|".toList.contains c := by
    funext c
    simp [Url.Host.isForbidden]
  refine ok_of_toOption ?_
  simp only [parse, Url.parse, Url.clean, Url.readScheme, Url.readRest, Url.readAuthority,
    Url.userinfo, Url.hostOf, Url.Host.ofOpaque, String.contains_char_eq, scheme, userinfo,
    forbidden]
  decide +kernel

end ProxyUrl

namespace Target

/-- The kind of a host and its octets, as they are. -/
def raw : Target → Nat × Octets
  | v4 ip => (1, ip.octets)
  | v6 ip => (4, ip.octets)
  | domain name => (3, Octets.ofText name)

end Target

namespace Socks5

open Session

/-! ## The server's side -/

/-- What a server makes of all that a client has said. -/
structure Understood where
  /-- The ways of signing in that were offered. -/
  methods : Octets
  /-- The user name and the password, if the client was asked for them. -/
  signIn : Option (Octets × Octets)
  command : Nat
  /-- The kind of the host that was asked for, and its octets. -/
  host : Nat × Octets
  port : Nat
  deriving DecidableEq, Repr

section

open Reader

def readGreeting : Reader Octets := do
  require ((← number 1) == 5)
  block 1

def readSignIn : Reader (Octets × Octets) := do
  require ((← number 1) == 1)
  let username ← block 1
  let password ← block 1
  return (username, password)

/-- So many octets, or a name behind its length. -/
def readHost : Reader (Nat × Octets) := do
  let kind ← number 1
  let octets ← match kind with
    | 1 => take 4
    | 3 => block 1
    | 4 => take 16
    | _ => fail
  return (kind, octets)

def readRequest : Reader (Nat × (Nat × Octets) × Nat) := do
  require ((← number 1) == 5)
  let command ← number 1
  require ((← number 1) == 0)
  let host ← readHost
  let port ← number 2
  return (command, host, port)

/-- All messages of a client, read by a server (RFC 1928, RFC 1929) that has chosen this way of
signing in. -/
def readClient (method : UInt8) : Reader Understood := do
  let methods ← readGreeting
  let signIn ← if method = 2 then (do return some (← readSignIn)) else pure none
  let (command, host, port) ← readRequest
  return { methods, signIn, command, host, port }

theorem counted_eq_block (s : Octets) : counted s = Octets.block 1 s := by
  show UInt8.ofNat s.length :: s = [UInt8.ofNat (s.length % 256)] ++ s
  congr 1
  rw [← UInt8.toNat_inj, UInt8.toNat_ofNat', UInt8.toNat_ofNat', Nat.mod_mod]

theorem reads_counted {s : Octets} (short : s.length ≤ 255) : Reads (block 1) (counted s) s := by
  rw [counted_eq_block]
  exact reads_block (Nat.lt_succ_of_le short)

theorem reads_greeting (credentials : Option Credentials) :
    Reads readGreeting (greeting credentials) (methods credentials) := by
  have short : (methods credentials).length ≤ 255 := by
    unfold methods
    split <;> decide
  exact reads_octet (reads_require rfl (reads_counted short))

theorem reads_signIn {c : Credentials} (short : c.Short) :
    Reads readSignIn (signIn c) (Octets.ofText c.username, Octets.ofText c.password) := by
  show Reads readSignIn
    (1 :: (counted (Octets.ofText c.username) ++ counted (Octets.ofText c.password))) _
  refine reads_octet (reads_require rfl ?_)
  exact reads_bind (reads_counted short.1) (reads_map (reads_counted short.2))

theorem reads_host {target : Target} (sendable : target.Sendable) :
    Reads readHost target.spelled target.raw := by
  cases target with
  | v4 ip => exact reads_octet (reads_map (reads_take ip.octets))
  | v6 ip =>
    have front := reads_take ip.octets
    rw [ip.length_octets] at front
    exact reads_octet (reads_map front)
  | domain name => exact reads_octet (reads_map (reads_counted (sendable name rfl).2))

theorem reads_request {target : Target} (sendable : target.Sendable) (port : UInt16) :
    Reads readRequest (asking target port) (1, target.raw, port.toNat) := by
  have number : Reads (Reader.number 2) (Octets.ofNat 2 port.toNat) port.toNat :=
    reads_number port.toNat_lt
  show Reads readRequest (5 :: 1 :: 0 :: (target.spelled ++ Octets.ofNat 2 port.toNat)) _
  refine reads_octet (reads_require rfl (reads_octet (reads_octet (reads_require rfl ?_))))
  exact reads_bind (reads_host sendable) (reads_map number)

/-- What the server makes of all that the client says, if it is let in. -/
def meant (target : Target) (port : UInt16) (credentials : Option Credentials) (method : UInt8) :
    Understood where
  methods := if credentials.isSome then [0, 2] else [0]
  signIn := if method = 2 then
      credentials.map fun c => (Octets.ofText c.username, Octets.ofText c.password)
    else none
  command := 1
  host := target.raw
  port := port.toNat

/-- The server that a client has signed in to reads what the client means. -/
theorem reads_client {target : Target} (sendable : target.Sendable) (port : UInt16)
    {credentials : Option Credentials} (short : ∀ c ∈ credentials, c.Short) {method : UInt8}
    {signs signed : Octets} (signsIn : SignsIn credentials (5 :: method :: signs) signed) :
    Reads (readClient method) (greeting credentials ++ (signed ++ asking target port))
      (meant target port credentials method) := by
  refine reads_bind (reads_greeting credentials) ?_
  cases signsIn with
  | free => exact reads_bind (reads_pure none) (reads_map (reads_request sendable port))
  | password c =>
    have signIn := reads_map (g := some) (reads_signIn (short c rfl))
    exact reads_bind signIn (reads_map (reads_request sendable port))

end

/-! ## Names that cannot be said -/

theorem request_unsendable {target : Target} (unsendable : ¬ target.Sendable) (port : UInt16) :
    ∃ n, request target port = .error (.domainLength n) := by
  cases target with
  | v4 ip => exact absurd nofun unsendable
  | v6 ip => exact absurd nofun unsendable
  | domain name =>
    refine ⟨(Octets.ofText name).length, ?_⟩
    have outside :
        ((Octets.ofText name).isEmpty || decide (255 < (Octets.ofText name).length)) = true := by
      by_contra inside
      rw [Bool.not_eq_true, Bool.or_eq_false_iff, List.isEmpty_eq_false_iff,
        decide_eq_false_iff_not] at inside
      refine unsendable fun name' same => ?_
      obtain rfl := Target.domain.inj same
      exact ⟨List.length_pos_iff.2 inside.1, Nat.not_lt.1 inside.2⟩
    simp only [request, address, outside]
    rfl

/-- With a name that cannot be said nothing happens behind the sign-in. -/
theorem connect_unsendable {target : Target} {port : UInt16} {n : Nat}
    (refused : request target port = .error (.domainLength n)) (credentials : Option Credentials) :
    connect target port credentials = (do
      send .greetingNotSent (greeting credentials)
      signInBy (← readMethod) credentials
      fail (.domainLength n)) := by
  rw [connect, refused]

theorem ends_readMethod : Ends (readMethod (σ := Transport)) := by
  refine ends_bind (ends_readExact _ _) fun octets => ?_
  split
  · split
    · exact ends_pure _
    · exact ends_fail _
  · exact ends_fail _

theorem ends_readGrant : Ends (readGrant (σ := Transport)) := by
  refine ends_bind (ends_readExact _ _) fun octets => ?_
  split
  · split
    · exact ends_fail _
    · split
      · exact ends_fail _
      · exact ends_pure _
  · exact ends_fail _

theorem ends_signInBy (m : UInt8) (credentials : Option Credentials) :
    Ends (signInBy m credentials) := by
  unfold signInBy
  split
  · exact ends_pure _
  · split
    · exact ends_fail _
    · split
      · exact ends_fail _
      · split
        · exact ends_bind (ends_send _ _) fun _ => ends_readGrant
        · exact ends_fail _

theorem keeps_readGrant : Keeps (fun t : Transport => t.sink) readGrant := by
  refine keeps_bind (keeps_readExact keeps_sink _ _) fun octets => ?_
  split
  · split
    · exact keeps_fail _ _
    · split
      · exact keeps_fail _ _
      · exact keeps_pure _ _
  · exact keeps_fail _ _

/-- What is said while signing in is some front of what signs in. -/
theorem says_signInBy (m : UInt8) (credentials : Option Credentials) (t : Transport) :
    ∃ signs signed, SignsIn credentials signs signed ∧ Says t (signInBy m credentials) signed := by
  by_cases asks : m = 2 ∧ ∃ c, credentials = some c
  · obtain ⟨rfl, c, rfl⟩ := asks
    refine ⟨_, _, .password c, ?_⟩
    have both := says_bind (says_send t Fault.signInNotSent (signIn c))
      fun _ t' _ => says_silent t' keeps_readGrant
    rwa [List.append_nil] at both
  · refine ⟨_, _, .free credentials, says_silent t ?_⟩
    cases credentials with
    | some c => exact keeps_signInBy (fun asked => asks ⟨asked, c, rfl⟩) _
    | none =>
      unfold signInBy
      split
      · exact keeps_pure _ _
      · split
        · exact keeps_fail _ _
        · exact keeps_fail _ _

/-- To a server that is asked for a name that cannot be said nothing is said behind the sign-in. -/
theorem says_unsendable {target : Target} (unsendable : ¬ target.Sendable) (port : UInt16)
    (credentials : Option Credentials) (t : Transport) :
    ∃ signed, (∃ signs, SignsIn credentials signs signed) ∧
      Says t (connect target port credentials) (greeting credentials ++ signed) := by
  obtain ⟨n, refused⟩ := request_unsendable unsendable port
  have unsigned : ∃ signed signs, SignsIn credentials signs signed := ⟨_, _, .free credentials⟩
  rw [connect_unsendable refused]
  refine says_bind_some unsigned (says_send t _ _) fun _ t₁ _ => ?_
  refine says_bind_some unsigned (says_silent t₁ keeps_readMethod) fun m t₂ _ => ?_
  obtain ⟨signs, signed, signsIn, first⟩ := says_signInBy m credentials t₂
  have both := says_bind first fun _ t₃ _ =>
    says_silent t₃ (keeps_fail (α := Target × UInt16) _ (Fault.domainLength n))
  rw [List.append_nil] at both
  exact ⟨signed, ⟨signs, signsIn⟩, both⟩

/-- Nobody is connected to a name that cannot be said. -/
theorem gives_unsendable {target : Target} (unsendable : ¬ target.Sendable) (port : UInt16)
    (credentials : Option Credentials) :
    Gives (connect target port credentials) fun _ => False := by
  obtain ⟨n, refused⟩ := request_unsendable unsendable port
  rw [connect_unsendable refused]
  refine gives_bind (gives_all _) fun _ _ => gives_bind (gives_all _) fun _ _ => ?_
  exact gives_bind (gives_all _) fun _ _ => gives_fail _

theorem ends_unsendable {target : Target} (unsendable : ¬ target.Sendable) (port : UInt16)
    (credentials : Option Credentials) : Ends (connect target port credentials) := by
  obtain ⟨n, refused⟩ := request_unsendable unsendable port
  rw [connect_unsendable refused]
  refine ends_bind (ends_send _ _) fun _ => ends_bind ends_readMethod fun m => ?_
  exact ends_bind (ends_signInBy m credentials) fun _ => ends_fail _

/-! ## Whole conversations -/

/-- The client of a parsed URL is understood by the server. Where it is connected, the server has
read from all that was said what was meant, in the way of signing in that it chose itself, and
nothing is left over. With a name that cannot be said the client is never connected, and says
nothing behind the sign-in. -/
theorem connect_understood (target : Target) (port : UInt16) {text : String} {u : ProxyUrl}
    (parsed : ProxyUrl.parse text = .ok u) (socks : u.scheme = .socks5) (t : Transport) :
    (∀ bound t', connect target port u.credentials t = (.done bound, t') →
      target.Sendable ∧ ∃ method said, [5, method] <+: t.source.yield ∧
        (method = 0 ∨ method = 2 ∧ ∃ c, u.credentials = some c) ∧
        t'.sink.accepted = t.sink.accepted ++ said ∧
        readClient method said = some (meant target port u.credentials method, [])) ∧
    (¬ target.Sendable →
      (∀ bound, (connect target port u.credentials t).1 ≠ .done bound) ∧
      (Lively t → ∃ f, (connect target port u.credentials t).1 = .failed f) ∧
      ∃ signs signed said, SignsIn u.credentials signs signed ∧
        said <+: greeting u.credentials ++ signed ∧
        (connect target port u.credentials t).2.sink.accepted = t.sink.accepted ++ said) := by
  refine ⟨fun bound t' done => ?_, fun unsendable => ?_⟩
  · have sendable : target.Sendable := by
      by_contra unsendable
      exact gives_unsendable unsendable port _ t bound (congrArg Prod.fst done)
    obtain ⟨heard, said, grants, passed⟩ := (obeys_connect sendable port u.credentials).sound done
    obtain ⟨signs, signed, reserved, signsIn, -, rfl, rfl⟩ := grants
    obtain ⟨method, rest, rfl⟩ := signsIn.chosen
    have read := reads_client sendable port (ProxyUrl.short_of_parse parsed socks) signsIn
    exact ⟨sendable, method, _, ⟨_, passed.yield.symm⟩, method_of_signsIn signsIn,
      passed.said.accepted, read.whole⟩
  · have never := gives_unsendable unsendable port u.credentials t
    refine ⟨never, fun lively => ?_, ?_⟩
    · have ends := (ends_unsendable unsendable port u.credentials t lively).1
      cases outcome : (connect target port u.credentials t).1 with
      | done bound => exact (never bound outcome).elim
      | failed f => exact ⟨f, rfl⟩
      | pending => exact absurd outcome ends
    · obtain ⟨signed, ⟨signs, signsIn⟩, said, front, took, -⟩ :=
        says_unsendable unsendable port u.credentials t
      exact ⟨signs, signed, said, signsIn, front, took.accepted⟩

/-- With the user name and the password of the URL the server connects the client to a name, and
has read what was meant; it is never asked for the name without an octet. -/
theorem connect_understood_password :
    (∃ bound t', connect (.domain "a") 443 (some ⟨"u", "p"⟩) passwordServer = (.done bound, t') ∧
      ∃ method said, [5, method] <+: passwordServer.source.yield ∧
        (method = 0 ∨ method = 2 ∧ ∃ c, some (⟨"u", "p"⟩ : Credentials) = some c) ∧
        t'.sink.accepted = said ∧
        readClient method said =
          some (meant (.domain "a") 443 (some ⟨"u", "p"⟩) method, [])) ∧
    ∃ f, (connect (.domain "") 443 (some ⟨"u", "p"⟩) passwordServer).1 = .failed f := by
  have parsed := ProxyUrl.parse_signIn
  have connected : (connect (.domain "a") 443 (some ⟨"u", "p"⟩) passwordServer).1 =
      .done (.domain "b", 80) := by
    decide +kernel
  have unsendable : ¬ Target.Sendable (.domain "") := fun sendable =>
    absurd (sendable "" rfl).1 (by decide)
  have lively : Lively passwordServer := ⟨by decide, by decide⟩
  refine ⟨⟨_, _, Prod.ext connected rfl, ?_⟩, ?_⟩
  · exact ((connect_understood (.domain "a") 443 parsed rfl passwordServer).1 _ _
      (Prod.ext connected rfl)).2
  · exact ((connect_understood (.domain "") 443 parsed rfl passwordServer).2 unsendable).2.1 lively

end Socks5

end Sluice
