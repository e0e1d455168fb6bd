import Sluice.Proofs.SocksReplies

/-
  Being granted a connection by a SOCKS5 server. What the server has to say is what its messages
  say, one behind the other, and is told by what it was asked (`obeys_connect`). The credentials
  make a difference only where the server asks for them (`connect_unasked`, `says_unasked`).
-/

namespace Sluice

namespace Socks5

open Session

/-! ## Messages -/

/-- What the server says about signing in, and what is said to it. It chooses no way that was not
offered. -/
inductive SignsIn : Option Credentials → (heard said : Octets) → Prop where
  | free (credentials : Option Credentials) : SignsIn credentials [5, 0] []
  | password (c : Credentials) : SignsIn (some c) [5, 2, 1, 0] (signIn c)

/-- The reply that grants a connection; nobody looks at its third octet. -/
def grant (reserved : UInt8) (bound : Target × UInt16) : Octets :=
  [5, 0, reserved] ++ (bound.1.spelled ++ Octets.ofNat 2 bound.2.toNat)

/-- The request for a connection. -/
def asking (target : Target) (port : UInt16) : Octets :=
  [5, 1, 0] ++ (target.spelled ++ Octets.ofNat 2 port.toNat)

/-- The server grants the connection that it is asked for. -/
def Grants (target : Target) (port : UInt16) (credentials : Option Credentials) :
    Exchange (Target × UInt16) :=
  fun heard said bound => ∃ signs signed reserved, SignsIn credentials signs signed ∧
    bound.1.Short ∧ heard = signs ++ grant reserved bound ∧
    said = greeting credentials ++ (signed ++ asking target port)

/-! ## The conversation -/

theorem signsIn_free {credentials : Option Credentials} {heard said : Octets} :
    SignsIn credentials (5 :: 0 :: heard) said ↔ heard = [] ∧ said = [] := by
  constructor
  · intro h
    cases h
    exact ⟨rfl, rfl⟩
  · rintro ⟨rfl, rfl⟩
    exact .free credentials

theorem signsIn_password {c : Credentials} {heard said : Octets} :
    SignsIn (some c) (5 :: 2 :: heard) said ↔ heard = [1, 0] ∧ said = signIn c := by
  constructor
  · intro h
    cases h
    exact ⟨rfl, rfl⟩
  · rintro ⟨rfl, rfl⟩
    exact .password c

theorem SignsIn.chosen {credentials : Option Credentials} {signs signed : Octets}
    (h : SignsIn credentials signs signed) : ∃ m rest, signs = 5 :: m :: rest := by
  cases h with
  | free => exact ⟨0, [], rfl⟩
  | password c => exact ⟨2, [1, 0], rfl⟩

theorem method_of_signsIn {credentials : Option Credentials} {m : UInt8} {heard said : Octets}
    (h : SignsIn credentials (5 :: m :: heard) said) :
    m = 0 ∨ m = 2 ∧ ∃ c, credentials = some c := by
  cases h with
  | free => exact Or.inl rfl
  | password c => exact Or.inr ⟨rfl, c, rfl⟩

theorem obeys_signInBy (m : UInt8) (credentials : Option Credentials) :
    Obeys (signInBy m credentials)
      (fun heard said _ => SignsIn credentials (5 :: m :: heard) said) fun _ => True := by
  unfold signInBy
  split
  · next isFree =>
    obtain rfl : m = 0 := isFree
    exact (obeys_pure ()).congr fun heard said _ => by rw [signsIn_free]; simp
  · next notFree =>
    split
    · next isNone =>
      refine obeys_fail (fun heard said _ h => ?_) _
      rcases method_of_signsIn h with rfl | ⟨rfl, -⟩
      · exact notFree rfl
      · cases isNone
    · cases credentials with
      | none =>
        refine obeys_fail (fun heard said _ h => ?_) _
        rcases method_of_signsIn h with rfl | ⟨-, c, missing⟩
        · exact notFree rfl
        · cases missing
      | some c =>
        dsimp only
        split
        · next isPassword =>
          obtain rfl : m = 2 := isPassword
          simp only [signsIn_password]
          refine obeys_bind_send _ _ ?_ ?_
          · rintro _ _ _ ⟨-, rfl⟩
            exact List.prefix_rfl
          · exact obeys_readGrant.congr fun heard said _ => by simp
        · next notPassword =>
          refine obeys_fail (fun heard said _ h => ?_) _
          rcases method_of_signsIn h with rfl | ⟨rfl, -⟩
          · exact notFree rfl
          · exact notPassword rfl

theorem request_eq {target : Target} (sendable : target.Sendable) (port : UInt16) :
    request target port = .ok (asking target port) := by
  cases target with
  | v4 ip => rfl
  | v6 ip => rfl
  | domain name =>
    obtain ⟨filled, short⟩ := sendable name rfl
    have inside : ((Octets.ofText name).isEmpty || decide (255 < (Octets.ofText name).length)) =
        false := by
      rw [List.isEmpty_eq_false_iff.2 (List.length_pos_iff.1 filled), decide_eq_false (by omega)]
      rfl
    simp only [request, address, inside]
    rfl

theorem grant_append {code reserved reserved' : UInt8} {host : Target} {port : UInt16}
    {heard : Octets} {bound : Target × UInt16} (short : host.Short) (short' : bound.1.Short)
    (same : [5, code, reserved] ++ (host.spelled ++ Octets.ofNat 2 port.toNat) ++ heard =
      grant reserved' bound) : code = 0 ∧ heard = [] ∧ bound = (host, port) := by
  obtain ⟨rfl, -, tail⟩ : code = 0 ∧ reserved = reserved' ∧
      host.spelled ++ (Octets.ofNat 2 port.toNat ++ heard) =
        bound.1.spelled ++ Octets.ofNat 2 bound.2.toNat := by
    simpa [grant] using same
  obtain ⟨rfl, ports⟩ := spelled_append_inj short short' tail
  have length := congrArg List.length ports
  rw [List.length_append, Octets.length_ofNat, Octets.length_ofNat] at length
  obtain rfl : heard = [] := List.length_eq_zero_iff.1 (by omega)
  rw [List.append_nil, ← ofNat_toNat_eq_iff (Octets.length_ofNat 2 _),
    Octets.toNat_ofNat 2 _ port.toNat_lt, UInt16.ofNat_toNat] at ports
  rw [ports]
  exact ⟨rfl, rfl, rfl⟩

/-- The server is asked, and grants. -/
theorem obeys_ask (target : Target) (port : UInt16) :
    Obeys (do
      send .requestNotSent (asking target port)
      let bound ← readReply
      if bound.code = granted then return (bound.host, bound.port) else fail (.refused bound.code))
      (fun heard said bound => (∃ reserved, heard = grant reserved bound) ∧ bound.1.Short ∧
        said = asking target port) fun _ => True := by
  refine obeys_bind_send _ _ ?_ ?_
  · rintro _ _ _ ⟨-, -, rfl⟩
    exact List.prefix_rfl
  · refine obeys_bind obeys_readReply ?_ ?_
    · rintro _ said bound ⟨⟨reserved, rfl⟩, short, said'⟩
      exact ⟨_, [], ⟨0, bound.1, bound.2⟩, [], said, ⟨⟨reserved, rfl⟩, short, rfl⟩,
        (List.append_nil _).symm, rfl⟩
    · rintro _ _ b ⟨⟨reserved, rfl⟩, short, rfl⟩
      split
      · next grants =>
        obtain ⟨code, host, bound⟩ := b
        obtain rfl : code = 0 := grants
        refine (obeys_pure _).congr fun heard said answer => ?_
        constructor
        · rintro ⟨⟨reserved', same⟩, short', said'⟩
          obtain ⟨-, rfl, rfl⟩ := grant_append short short' same
          exact ⟨rfl, List.append_right_eq_self.1 said', rfl⟩
        · rintro ⟨rfl, rfl, rfl⟩
          exact ⟨⟨reserved, List.append_nil _⟩, short, List.append_nil _⟩
      · next refuses =>
        refine obeys_fail (fun heard said answer h => refuses ?_) _
        obtain ⟨⟨reserved', same⟩, short', -⟩ := h
        exact (grant_append short short' same).1

theorem signsIn_unique {credentials : Option Credentials} {m : UInt8}
    {heard heard' said said' : Octets} (h : SignsIn credentials (5 :: m :: heard) said)
    (h' : SignsIn credentials (5 :: m :: heard') said') : heard = heard' ∧ said = said' := by
  cases h with
  | free =>
    obtain ⟨rfl, rfl⟩ := signsIn_free.1 h'
    exact ⟨rfl, rfl⟩
  | password c =>
    obtain ⟨rfl, rfl⟩ := signsIn_password.1 h'
    exact ⟨rfl, rfl⟩

theorem grants_method {target : Target} {port : UInt16} {credentials : Option Credentials}
    {m : UInt8} {heard said : Octets} {bound : Target × UInt16} :
    Grants target port credentials (5 :: m :: heard) (greeting credentials ++ said) bound ↔
      ∃ rest signed reserved, SignsIn credentials (5 :: m :: rest) signed ∧ bound.1.Short ∧
        heard = rest ++ grant reserved bound ∧ said = signed ++ asking target port := by
  constructor
  · rintro ⟨signs, signed, reserved, signsIn, short, heard', said'⟩
    obtain ⟨m', rest, rfl⟩ := signsIn.chosen
    obtain ⟨rfl, rfl⟩ : m = m' ∧ heard = rest ++ grant reserved bound := by simpa using heard'
    exact ⟨rest, signed, reserved, signsIn, short, rfl, List.append_cancel_left said'⟩
  · rintro ⟨rest, signed, reserved, signsIn, short, rfl, rfl⟩
    exact ⟨_, signed, reserved, signsIn, short, rfl, rfl⟩

/-- The client is granted a connection just where the server says what grants one. -/
theorem obeys_connect {target : Target} (sendable : target.Sendable) (port : UInt16)
    (credentials : Option Credentials) :
    Obeys (connect target port credentials) (Grants target port credentials) fun _ => True := by
  refine obeys_bind_send _ _ ?_ ?_
  · rintro _ _ _ ⟨signs, signed, reserved, -, -, -, rfl⟩
    exact List.prefix_append _ _
  · refine obeys_bind obeys_readMethod ?_ ?_
    · rintro heard said bound ⟨signs, signed, reserved, signsIn, short, same, said'⟩
      cases signsIn with
      | free => exact ⟨_, [], 0, _, said, ⟨rfl, rfl⟩, same, rfl⟩
      | password c => exact ⟨_, [], 2, _, said, ⟨rfl, rfl⟩, same, rfl⟩
    · rintro _ _ m ⟨rfl, rfl⟩
      refine obeys_bind (obeys_signInBy m credentials) ?_ ?_
      · intro heard said bound grants
        obtain ⟨rest, signed, reserved, signsIn, short, rfl, rfl⟩ := grants_method.1 grants
        exact ⟨rest, signed, (), _, _, signsIn, rfl, rfl⟩
      · rintro rest signed _ signsIn
        rw [request_eq sendable]
        refine (obeys_ask target port).congr fun heard said bound => grants_method.trans ?_
        constructor
        · rintro ⟨rest', signed', reserved, signsIn', short, heard', said'⟩
          obtain ⟨rfl, rfl⟩ := signsIn_unique signsIn signsIn'
          exact ⟨⟨reserved, List.append_cancel_left heard'⟩, short, List.append_cancel_left said'⟩
        · rintro ⟨⟨reserved, rfl⟩, short, rfl⟩
          exact ⟨rest, signed, reserved, signsIn, short, rfl, rfl⟩

/-! ## Credentials that nobody asks for -/

/-- A server that does not start like this does not choose the way with a password. -/
theorem method_ne_password {t t₁ t₂ : Transport} {data : Octets} {m : UInt8}
    (unasked : ¬ [5, 2] <+: t.source.yield)
    (sent : send Fault.greetingNotSent data t = (.done (), t₁))
    (read : readMethod t₁ = (.done m, t₂)) : m ≠ 2 := by
  rintro rfl
  have sends : Obeys (send Fault.greetingNotSent data) _ fun _ => True := obeys_send _ _
  obtain ⟨_, _, ⟨rfl, rfl⟩, greeted⟩ := sends.sound sent
  obtain ⟨_, _, ⟨rfl, rfl⟩, chosen⟩ := obeys_readMethod.sound read
  exact unasked ⟨_, (greeted.yield.trans chosen.yield).symm⟩

theorem signInBy_unasked {m : UInt8} (unasked : m ≠ 2) (c c' : Credentials) :
    signInBy m (some c) = signInBy m (some c') := by
  have other : m ≠ passwordSignIn := unasked
  simp only [signInBy, if_neg other]

/-- A server that asks for no credentials makes the same of any. -/
theorem connect_unasked (target : Target) (port : UInt16) {t : Transport}
    (unasked : ¬ [5, 2] <+: t.source.yield) (c c' : Credentials) :
    connect target port (some c) t = connect target port (some c') t := by
  have greet : greeting (some c) = greeting (some c') := rfl
  unfold connect
  rw [greet]
  refine bind_congr fun _ t₁ sent => bind_congr fun m t₂ read => ?_
  rw [signInBy_unasked (method_ne_password unasked sent read) c c']

theorem keeps_sink (room : Nat) (t : Transport) : (Readable.read room t).2.sink = t.sink :=
  rfl

theorem keeps_readMethod : Keeps (fun t : Transport => t.sink) readMethod := by
  refine keeps_bind (keeps_readExact keeps_sink _ _) fun octets => ?_
  split
  · split
    · exact keeps_pure _ _
    · exact keeps_fail _ _
  · exact keeps_fail _ _

theorem keeps_readAddress (type : UInt8) :
    Keeps (fun t : Transport => t.sink) (readAddress type) := by
  unfold readAddress
  split
  · refine keeps_bind (keeps_readExact keeps_sink _ _) fun octets => ?_
    split
    · exact keeps_pure _ _
    · exact keeps_fail _ _
  · split
    · refine keeps_bind (keeps_readExact keeps_sink _ _) fun octets => ?_
      split
      · exact keeps_pure _ _
      · exact keeps_fail _ _
    · split
      · refine keeps_bind (keeps_readNumber keeps_sink _ _) fun length =>
          keeps_bind (keeps_readExact keeps_sink _ _) fun octets => ?_
        split
        · exact keeps_pure _ _
        · exact keeps_fail _ _
      · exact keeps_fail _ _

theorem keeps_readReply : Keeps (fun t : Transport => t.sink) readReply := by
  refine keeps_bind (keeps_readExact keeps_sink _ _) fun octets => ?_
  split
  · split
    · exact keeps_fail _ _
    · exact keeps_bind (keeps_readAddress _) fun _ =>
        keeps_bind (keeps_readNumber keeps_sink _ _) fun _ => keeps_pure _ _
  · exact keeps_fail _ _

theorem keeps_signInBy {m : UInt8} (unasked : m ≠ 2) (credentials : Option Credentials) :
    Keeps (fun t : Transport => t.sink) (signInBy m credentials) := by
  unfold signInBy
  split
  · exact keeps_pure _ _
  · split
    · exact keeps_fail _ _
    · split
      · exact keeps_fail _ _
      · split
        · next isPassword => exact absurd isPassword unasked
        · exact keeps_fail _ _

/-- To a server that asks for no credentials only the greeting and the request are said. -/
theorem says_unasked {target : Target} (sendable : target.Sendable) (port : UInt16)
    (credentials : Option Credentials) {t : Transport} (unasked : ¬ [5, 2] <+: t.source.yield) :
    Says t (connect target port credentials) (greeting credentials ++ asking target port) := by
  have answer : Keeps (fun t : Transport => t.sink) (do
      let bound ← readReply
      if bound.code = granted then return (bound.host, bound.port)
      else fail (.refused bound.code)) := by
    refine keeps_bind keeps_readReply fun bound => ?_
    split
    · exact keeps_pure _ _
    · exact keeps_fail _ _
  refine says_bind (says_send t _ _) fun _ t₁ sent => ?_
  refine says_behind keeps_readMethod fun m t₂ read => ?_
  refine says_behind (keeps_signInBy (method_ne_password unasked sent read) _) fun _ t₃ _ => ?_
  have asks := says_bind (says_send t₃ Fault.requestNotSent (asking target port))
    fun _ t₄ _ => says_silent t₄ answer
  rw [List.append_nil] at asks
  rw [request_eq sendable]
  exact asks

/-- What becomes of a request to connect, whatever the server says and however it arrives. The
client is granted a connection just where the server starts with octets that grant it; it has then
taken these and nothing behind them. If the server breaks off inside them, the client fails. If the
server asks for no credentials, none are said, and it makes no difference which there are. -/
theorem connect_granted_iff (target : Target) (port : UInt16) (credentials : Option Credentials)
    (t : Transport) (sendable : target.Sendable) :
    (∀ bound, (connect target port credentials t).1 = .done bound ↔
      ∃ heard said, Grants target port credentials heard said bound ∧
        heard <+: t.source.yield ∧ t.sink.HasRoom said) ∧
    (∀ bound t', connect target port credentials t = (.done bound, t') →
      ∃ heard said, Grants target port credentials heard said bound ∧
        t.source.unread = heard ++ t'.source.unread ∧
        t'.sink.accepted = t.sink.accepted ++ said) ∧
    (∀ heard said bound, Grants target port credentials heard said bound →
      BreaksOff t.source.yield heard → t.source.ending = .eof → t.sink.HasRoom said →
      ∃ f, (connect target port credentials t).1 = .failed f) ∧
    (¬ [5, 2] <+: t.source.yield →
      (∀ c c', connect target port (some c) t = connect target port (some c') t) ∧
      ∃ said, said <+: greeting credentials ++ asking target port ∧
        (connect target port credentials t).2.sink.accepted = t.sink.accepted ++ said) := by
  have obeys := obeys_connect sendable port credentials
  refine ⟨fun bound => ⟨fun done => ?_, ?_⟩, fun bound t' done => ?_,
    fun heard said bound grants off eof room => ?_, fun unasked => ⟨fun c c' => ?_, ?_⟩⟩
  · obtain ⟨heard, said, grants, passed⟩ := obeys.sound (Prod.ext done rfl)
    exact ⟨heard, said, grants, ⟨_, passed.yield.symm⟩, passed.said.fits⟩
  · rintro ⟨heard, said, grants, front, room⟩
    obtain ⟨t', done, -⟩ := obeys.complete grants front room
    rw [done]
  · obtain ⟨heard, said, grants, passed⟩ := obeys.sound done
    exact ⟨heard, said, grants, passed.unread, passed.said.accepted⟩
  · obtain ⟨f, failed, -⟩ := obeys.breaks grants off eof room
    exact ⟨f, failed⟩
  · exact connect_unasked target port unasked c c'
  · obtain ⟨said, front, took, -⟩ := says_unasked sendable port credentials unasked
    exact ⟨said, front, took.accepted⟩

/-- What a server says that asks for credentials and binds a name. -/
def passwordReply : Octets :=
  [5, 2, 1, 0] ++ grant 7 (.domain "b", 80)

/-- The server, in three reads, with something behind its reply. -/
def passwordServer : Transport :=
  { source := [.data (passwordReply.take 3), .wait, .data (passwordReply.drop 3), .data [11, 0]] }

/-- The server without the last octet of its reply. -/
def tornServer : Transport :=
  { source := [.data passwordReply.dropLast] }

theorem connect_granted_password :
    (connect (.domain "a") 443 (some ⟨"u", "p"⟩) passwordServer).1 = .done (.domain "b", 80) ∧
    ∃ f, (connect (.domain "a") 443 (some ⟨"u", "p"⟩) tornServer).1 = .failed f := by
  have sendable : Target.Sendable (.domain "a") := by
    intro name same
    obtain rfl := Target.domain.inj same
    decide
  have grants : Grants (.domain "a") 443 (some ⟨"u", "p"⟩) passwordReply
      (greeting (some ⟨"u", "p"⟩) ++ (signIn ⟨"u", "p"⟩ ++ asking (.domain "a") 443))
      (.domain "b", 80) := by
    refine ⟨_, _, 7, .password ⟨"u", "p"⟩, ?_, rfl, rfl⟩
    intro name same
    obtain rfl := Target.domain.inj same
    decide
  have front : passwordReply <+: passwordServer.source.yield := by decide
  have off : BreaksOff tornServer.source.yield passwordReply := ⟨by decide, by decide⟩
  have room (said : Octets) : Sink.HasRoom said {} := nofun
  exact ⟨((connect_granted_iff _ 443 _ passwordServer sendable).1 _).2
      ⟨_, _, grants, front, room _⟩,
    (connect_granted_iff _ 443 _ tornServer sendable).2.2.1 _ _ _ grants off rfl (room _)⟩

end Socks5

end Sluice
