import Sluice.Proofs.PlacedHosts
import Sluice.Proxy.Url

/-
  Signing in at a forward proxy. A scheme, a host that stands and a port make a proxy
  (`ProxyUrl.parse_placed`). A user name and a password that stand encoded in its URL do not touch
  its place (`Url.parse_signed`), and come back as they were, whichever digits encode their octets
  (`Percent.Encoded.decode`). What is left to say is whether the protocol can carry them
  (`ProxyUrl.parse_signed_encoded`).
-/

namespace Sluice

open Octets

/-! ## Encodings -/

namespace Percent

/-- A text that stands for octets: letters and digits for themselves, if they like, and any octet
by a per cent sign and its two digits, in either case. -/
inductive Encoded : Octets → List Char → Prop
  | nil : Encoded [] []
  | plain {c : Char} {s : Octets} {cs : List Char} (named : c.isAlphanum = true) :
    Encoded s cs → Encoded (UInt8.ofNat c.toNat :: s) (c :: cs)
  | octet {b : UInt8} {high low : Char} {s : Octets} {cs : List Char}
    (front : Digits.value? 16 high = some (b.toNat / 16))
    (back : Digits.value? 16 low = some (b.toNat % 16)) :
    Encoded s cs → Encoded (b :: s) ('%' :: high :: low :: cs)

/-- A digit is a letter or digit of one octet, and has the same value as an octet. -/
theorem digit_octet {c : Char} {n : Nat} (h : Digits.value? 16 c = some n) :
    c.isAlphanum = true ∧ c.toNat < 128 ∧ hexValue? (UInt8.ofNat c.toNat) = some n := by
  have ascii : c.toNat < 128 := by
    unfold Digits.value? at h
    obtain ⟨digit, -⟩ := Option.filter_eq_some_iff.1 h
    by_contra large
    have outside (d : Char) (small : d.toNat < 128) : ¬ c ≤ d := fun le =>
      large (Nat.lt_of_le_of_lt (UInt32.le_iff_toNat_le.1 le) small)
    simp [outside] at digit
  have every := forall_ascii (P := fun c => (Digits.value? 16 c).isSome → c.isAlphanum = true ∧
    c.toNat < 128 ∧ hexValue? (UInt8.ofNat c.toNat) = Digits.value? 16 c) (by decide +kernel) ascii
  rw [← h]
  exact every (Option.isSome_of_eq_some h)

theorem decode_cons {b : UInt8} (other : b ≠ sign) (rest : Octets) :
    decode (b :: rest) = b :: decode rest := by
  rw [decode]
  exact fun _ _ _ same _ => other same

theorem decode_pair {high low b : UInt8} (pair : pair? high low = some b) (rest : Octets) :
    decode (sign :: high :: low :: rest) = b :: decode rest :=
  (decode.eq_1 high low rest).trans (by rw [pair])

namespace Encoded

variable {s : Octets} {cs : List Char}

theorem settled (h : Encoded s cs) : ∀ c ∈ cs, Url.isSettled c = true := by
  have word {c : Char} (named : c.isAlphanum = true) : Url.isSettled c = true := by
    rw [Url.isSettled, named, Bool.true_or]
  induction h with
  | nil => exact List.forall_mem_nil _
  | plain named _ ih => exact List.forall_mem_cons.2 ⟨word named, ih⟩
  | octet front back _ ih =>
    simp only [List.forall_mem_cons]
    exact ⟨by decide, word (digit_octet front).1, word (digit_octet back).1, ih⟩

/-- What was encoded comes back. -/
theorem decode (h : Encoded s cs) : Percent.decode (ofText (String.ofList cs)) = s := by
  rw [ofText, String.toList_ofList]
  induction h with
  | nil => rfl
  | @plain c s cs named _ ih =>
    have small : c.toNat < 127 :=
      (Url.settled (c := c) (by rw [Url.isSettled, named, Bool.true_or])).2.1
    have other : sign ∉ [c].flatMap String.utf8EncodeChar := by
      refine sign_not_mem fun mem => ?_
      rw [← List.mem_singleton.1 mem] at named
      exact absurd named (by decide)
    rw [List.flatMap_singleton, Utf8.encode_small (Nat.le_of_lt small)] at other
    rw [List.flatMap_cons, Utf8.encode_small (Nat.le_of_lt small), List.singleton_append,
      decode_cons (List.ne_of_not_mem_cons other).symm, ih]
  | @octet b high low s cs front back _ ih =>
    obtain ⟨-, one, highValue⟩ := digit_octet front
    obtain ⟨-, two, lowValue⟩ := digit_octet back
    have octet : UInt8.ofNat (b.toNat / 16 * 16 + b.toNat % 16) = b := by
      rw [Nat.div_add_mod', UInt8.ofNat_toNat]
    have pair : pair? (UInt8.ofNat high.toNat) (UInt8.ofNat low.toNat) = some b := by
      rw [pair?, highValue, lowValue]
      exact congrArg some octet
    have front : ('%' :: high :: low :: cs).flatMap String.utf8EncodeChar =
        sign :: UInt8.ofNat high.toNat :: UInt8.ofNat low.toNat ::
          cs.flatMap String.utf8EncodeChar := by
      simp only [List.flatMap_cons]
      rw [Utf8.encode_small (by omega : high.toNat ≤ 0x7f),
        Utf8.encode_small (by omega : low.toNat ≤ 0x7f)]
      rfl
    rw [front, decode_pair pair, ih]

/-- Letters and digits stand for themselves. -/
theorem word {cs : List Char} (word : ∀ c ∈ cs, c.isAlphanum = true) :
    Encoded (cs.flatMap String.utf8EncodeChar) cs := by
  induction cs with
  | nil => exact .nil
  | cons c cs ih =>
    obtain ⟨named, rest⟩ := List.forall_mem_cons.1 word
    have small : c.toNat < 127 :=
      (Url.settled (c := c) (by rw [Url.isSettled, named, Bool.true_or])).2.1
    rw [List.flatMap_cons, Utf8.encode_small (Nat.le_of_lt small)]
    exact .plain named (ih rest)

theorem ne_empty {meant text : String} (h : Encoded (ofText meant) text.toList)
    (filled : meant ≠ "") : text ≠ "" := by
  rintro rfl
  exact Utf8.ofText_ne_nil filled h.decode.symm

end Encoded

end Percent

/-! ## URLs -/

/-- The schemes that name a protocol. -/
theorem ProxyScheme.of_ofName {name : String} {scheme : ProxyScheme}
    (named : ofName? name = some scheme) :
    name = "http" ∧ scheme = http ∨ (name = "socks5" ∨ name = "socks5h") ∧ scheme = socks5 := by
  unfold ofName? at named
  split at named
  · exact Or.inr ⟨Or.inl rfl, (Option.some.inj named).symm⟩
  · exact Or.inr ⟨Or.inr rfl, (Option.some.inj named).symm⟩
  · exact Or.inl ⟨rfl, (Option.some.inj named).symm⟩
  · cases named

theorem ProxyScheme.ofName_text (scheme : ProxyScheme) : ofName? scheme.text = some scheme := by
  cases scheme <;> rfl

namespace Url

/-- Two slashes are in front of who and where. -/
theorem readRest_slashes {name : String} {scheme : ProxyScheme}
    (named : ProxyScheme.ofName? name = some scheme) {s : List Char}
    (bare : ∀ c ∈ s.head?, isSlash c = false) :
    readRest name ('/' :: '/' :: s) = readAuthority name (Manner.ofScheme name) s := by
  have slashes : ('/' :: '/' :: s).dropWhile isSlash = s := by
    cases s with
    | nil => rfl
    | cons c s =>
      have other := bare c rfl
      show (c :: s).dropWhile isSlash = _
      exact List.dropWhile_cons_of_neg (by simp [other])
  rcases ProxyScheme.of_ofName named with ⟨rfl, -⟩ | ⟨rfl | rfl, -⟩
  · show readAuthority _ _ (('/' :: '/' :: s).dropWhile isSlash) = _
    rw [slashes]
    rfl
  · rfl
  · rfl

section Visible

variable {name : String} (text : String) {scheme : ProxyScheme} {x y : List Char}
  (named : ProxyScheme.ofName? name = some scheme)
  (whole : text.toList = name.toList ++ ':' :: '/' :: '/' :: (x ++ y))
  (visible : ∀ c ∈ x, 32 < c.toNat)

include named whole visible

/-- The URL of a proxy is visible up to who and where. -/
theorem readScheme_visible : readScheme (clean text.toList) =
    some (name, '/' :: '/' :: (x ++ cleanBack y)) := by
  have letters : (∀ c ∈ name.toList, 32 < c.toNat) ∧ ∀ rest,
      readScheme (name.toList ++ ':' :: rest) = some (name, rest) := by
    rcases ProxyScheme.of_ofName named with ⟨rfl, -⟩ | ⟨rfl | rfl, -⟩
    all_goals
      exact ⟨List.all_iff_forall_prop.1 (by decide),
        readScheme_letters (by decide) (List.all_eq_true.1 (by decide))⟩
  have front : ∀ c ∈ name.toList ++ ':' :: '/' :: '/' :: x, 32 < c.toNat := by
    simp only [List.forall_mem_append, List.forall_mem_cons]
    exact ⟨letters.1, by decide, by decide, by decide, visible⟩
  have cleaned : clean text.toList = name.toList ++ ':' :: '/' :: '/' :: (x ++ cleanBack y) := by
    have cut := clean_append (by simp) front y
    simpa [whole] using cut
  rw [cleaned, letters.2]

theorem parse_visible (bare : ∀ c ∈ (x ++ cleanBack y).head?, isSlash c = false) :
    parse text = readAuthority name (Manner.ofScheme name) (x ++ cleanBack y) := by
  rw [parse, readScheme_visible text named whole visible]
  exact readRest_slashes named bare

end Visible

variable {name place username password : String} {scheme : ProxyScheme}

/-- A host and a port, as they stand in a URL: nobody signs in, and no path follows. -/
def IsPlace (place : String) : Prop :=
  ∀ c ∈ place.toList, c ≠ '@' ∧ isSlash c = false

theorem isPlace_placed {place : List Char} (inside : ∀ c ∈ place, IsPlaced c) (port : UInt16) :
    IsPlace (String.ofList (place ++ ':' :: Digits.ofNat 10 port.toNat)) := by
  rw [IsPlace, String.toList_ofList]
  intro c mem
  obtain ⟨-, nobody, stays⟩ := forall_placed inside port c mem
  simp only [enders, List.mem_cons, not_or] at stays
  exact ⟨nobody, by simp [isSlash, stays]⟩

theorem IsPlace.cleaned (h : IsPlace place) :
    ∀ c ∈ cleanBack place.toList, c ≠ '@' ∧ isSlash c = false :=
  fun c mem => h c (mem_of_mem_cleanBack mem)

theorem parse_unsigned (named : ProxyScheme.ofName? name = some scheme) (bare : IsPlace place) :
    parse (name ++ "://" ++ place) = join name ("", "")
      (readWhere (Manner.ofScheme name) (cleanBack place.toList)) := by
  have read := parse_visible (name ++ "://" ++ place) (x := []) (y := place.toList) named
    (by simp) nofun fun c mem => (bare.cleaned c (List.mem_of_mem_head? mem)).2
  rw [read]
  exact readAuthority_unsigned name fun mem => (bare.cleaned '@' mem).1 rfl

/-- A URL with a sign-in in letters, digits and per cent signs. -/
def signed (name username password place : String) : String :=
  name ++ "://" ++ username ++ ":" ++ password ++ "@" ++ place

/-- A settled sign-in is in front of the same place. -/
theorem parse_signed (named : ProxyScheme.ofName? name = some scheme) (bare : IsPlace place)
    (filled : username ≠ "") (one : ∀ c ∈ username.toList, isSettled c = true)
    (two : ∀ c ∈ password.toList, isSettled c = true) :
    parse (signed name username password place) = join name (username, password)
      (readWhere (Manner.ofScheme name) (cleanBack place.toList)) := by
  obtain ⟨c, more, first⟩ := List.exists_cons_of_ne_nil (mt String.toList_eq_nil_iff.1 filled)
  have slashless : isSlash c = false := by
    have other := (settled (one c (by simp [first]))).2.2.1
    simp only [enders, List.mem_cons, not_or] at other
    simp [isSlash, other]
  have visible : ∀ c ∈ username.toList ++ ':' :: password.toList, 32 < c.toNat := by
    simp only [List.forall_mem_append, List.forall_mem_cons]
    exact ⟨fun c mem => (settled (one c mem)).1, by decide, fun c mem => (settled (two c mem)).1⟩
  have inside : Inside (Manner.ofScheme name) (username.toList ++ ':' :: password.toList) := by
    refine List.forall_mem_append.2 ⟨inside_settled _ one, List.forall_mem_cons.2 ⟨?_, ?_⟩⟩
    · exact Bool.eq_false_iff.2 fun ends => absurd (mem_enders ends) (by decide)
    · exact inside_settled _ two
  have colonless : ':' ∉ username.toList := fun mem => (settled (one ':' mem)).2.2.2.1 rfl
  have read := parse_visible (signed name username password place)
    (x := username.toList ++ ':' :: password.toList ++ ['@']) (y := place.toList) named
    (by simp [signed])
    (List.forall_mem_append.2 ⟨visible, List.forall_mem_singleton.2 (by decide)⟩)
    (by simp [first, slashless])
  rw [read, List.append_assoc, List.singleton_append, readAuthority_once name inside (by simp)
      fun mem => (bare.cleaned '@' mem).1 rfl,
    userinfo_cut colonless, encode_settled one, encode_settled two, String.ofList_toList,
    String.ofList_toList]

end Url

/-! ## Forward proxies -/

namespace ProxyUrl

open Url (Stands placed)

/-- The proxy at a URL, whoever signs in. -/
def placeOf (text : String) (url : Url) : Except Fault ProxyUrl := do
  let scheme ← (ProxyScheme.ofName? url.scheme).elim (.error (.scheme url.scheme)) .ok
  let host ← hostText text url
  return { scheme, host, port := url.portOrDefault?.getD scheme.defaultPort }

/-- A proxy to sign in at, if its protocol can carry what to sign in with. -/
def carry (u : ProxyUrl) (credentials : Option Credentials) : Except Fault ProxyUrl :=
  if u.scheme == .socks5 && credentials.any (!·.fitsSocks5) then .error .longCredentials
  else .ok { u with credentials }

theorem ofUrl_eq (text : String) (url : Url) :
    ofUrl text url = placeOf text url >>= fun u => credentialsOf url >>= carry u := by
  unfold ofUrl placeOf
  cases (ProxyScheme.ofName? url.scheme).elim (Except.error (Fault.scheme url.scheme)) .ok with
  | error fault => rfl
  | ok scheme =>
    cases hostText text url with
    | error fault => rfl
    | ok host =>
      cases credentialsOf url with
      | error fault => rfl
      | ok credentials =>
        show (if _ then _ else _) = if _ then _ else _
        split <;> rfl

theorem hostText_eq_ok {text shown : String} {url : Url} : hostText text url = .ok shown ↔
    ∃ host, url.hostText? = some host ∧ host ≠ "" ∧
      shown = String.ofList (unbracketed host.toList) := by
  unfold hostText
  constructor
  · intro read
    split at read
    · cases read
    · next host found =>
      split at read
      · cases read
      · next filled =>
        refine ⟨host, found, fun empty => filled (String.isEmpty_iff.2 empty), ?_⟩
        exact (Except.ok.inj read).symm
  · rintro ⟨host, found, filled, rfl⟩
    rw [found]
    exact if_neg fun empty => filled (String.isEmpty_iff.1 empty)

/-- A place is a scheme that names a protocol and a host that is not empty. -/
theorem placeOf_eq_ok {text : String} {url : Url} {u : ProxyUrl} :
    placeOf text url = .ok u ↔ ∃ scheme host, ProxyScheme.ofName? url.scheme = some scheme ∧
      hostText text url = .ok host ∧
      u = { scheme, host, port := url.portOrDefault?.getD scheme.defaultPort } := by
  unfold placeOf
  constructor
  · intro read
    cases named : ProxyScheme.ofName? url.scheme with
    | none =>
      rw [named] at read
      cases read
    | some scheme =>
      rw [named] at read
      cases found : hostText text url with
      | error fault =>
        rw [found] at read
        cases read
      | ok host =>
        rw [found] at read
        exact ⟨scheme, host, rfl, rfl, (Except.ok.inj read).symm⟩
  · rintro ⟨scheme, host, named, found, rfl⟩
    rw [named, found]
    rfl

/-- What signs in and what was read make no difference to a place. -/
theorem placeOf_congr {text text' : String} {url url' : Url} {u : ProxyUrl}
    (read : placeOf text url = .ok u) (scheme : url'.scheme = url.scheme)
    (host : url'.host = url.host) (port : url'.port = url.port) : placeOf text' url' = .ok u := by
  have ported : url'.portOrDefault? = url.portOrDefault? := by
    rw [Url.portOrDefault?, Url.portOrDefault?, port, scheme]
  have hosted : url'.hostText? = url.hostText? := by
    rw [Url.hostText?, Url.hostText?, host]
  simp only [placeOf_eq_ok, hostText_eq_ok, scheme, hosted, ported] at read ⊢
  exact read

theorem carry_none (u : ProxyUrl) : carry u none = .ok { u with credentials := none } := by
  rw [carry, Option.any_none, Bool.and_false]
  rfl

/-- Only HTTP can carry what is longer than 255 octets. -/
theorem carry_some (u : ProxyUrl) (c : Credentials) : carry u (some c) =
    if u.scheme = .http ∨ c.username.utf8ByteSize ≤ 255 ∧ c.password.utf8ByteSize ≤ 255 then
      .ok { u with credentials := some c }
    else .error .longCredentials := by
  cases scheme : u.scheme with
  | http =>
    rw [carry, scheme, if_pos (Or.inl rfl)]
    rfl
  | socks5 =>
    have fits : c.fitsSocks5 = true ↔
        c.username.utf8ByteSize ≤ 255 ∧ c.password.utf8ByteSize ≤ 255 := by
      rw [Credentials.fitsSocks5, Bool.and_eq_true, decide_eq_true_iff, decide_eq_true_iff]
      rfl
    rw [carry, scheme]
    by_cases small : c.fitsSocks5 = true
    · rw [if_pos (Or.inr (fits.1 small))]
      simp [small]
    · rw [if_neg (not_or.2 ⟨nofun, fun le => small (fits.2 le)⟩)]
      simp [small]

theorem decodePart_eq_ok {part meant : String} :
    decodePart part = .ok meant ↔ Percent.decode (ofText part) = ofText meant := by
  unfold decodePart
  constructor
  · intro read
    split at read
    · next cs decoded =>
      rw [← Except.ok.inj read, ofText, ofText, String.toList_ofList]
      exact Utf8.decode_eq_ok.1 decoded
    · cases read
  · intro back
    have decoded : Utf8.decode (ofText meant) = .ok meant.toList := Utf8.decode_eq_ok.2 rfl
    rw [back, decoded]
    exact congrArg Except.ok String.ofList_toList

/-- An encoded text is read as what was encoded. -/
theorem decodePart_encoded {meant part : String}
    (encoded : Percent.Encoded (ofText meant) part.toList) : decodePart part = .ok meant := by
  have back := encoded.decode
  rw [String.ofList_toList] at back
  exact decodePart_eq_ok.2 back

/-- What is read of a URL: a place, and who signs in there. -/
theorem of_ofUrl {text : String} {url : Url} {u : ProxyUrl} (read : ofUrl text url = .ok u) :
    placeOf text url = .ok { u with credentials := none } ∧
      credentialsOf url = .ok u.credentials := by
  rw [ofUrl_eq] at read
  cases place : placeOf text url with
  | error fault =>
    rw [place] at read
    cases read
  | ok u' =>
    obtain ⟨scheme, host, -, -, rfl⟩ := placeOf_eq_ok.1 place
    cases signIn : credentialsOf url with
    | error fault =>
      rw [place, signIn] at read
      cases read
    | ok credentials =>
      rw [place, signIn] at read
      change carry _ _ = _ at read
      unfold carry at read
      split at read
      · cases read
      · obtain rfl := Except.ok.inj read
        exact ⟨rfl, rfl⟩

theorem of_credentialsOf {url : Url} {c : Credentials} (signs : credentialsOf url = .ok (some c)) :
    decodePart url.username = .ok c.username ∧ decodePart url.password = .ok c.password := by
  unfold credentialsOf at signs
  split at signs
  · cases signs
  · cases one : decodePart url.username with
    | error fault =>
      rw [one] at signs
      cases signs
    | ok username =>
      cases two : decodePart url.password with
      | error fault =>
        rw [one, two] at signs
        cases signs
      | ok password =>
        rw [one, two] at signs
        obtain rfl := Option.some.inj (Except.ok.inj signs)
        exact ⟨rfl, rfl⟩

/-- A URL in which nobody signs in. -/
theorem ofUrl_unsigned {text : String} (url : Url) {u : ProxyUrl} (nobody : url.username = "") :
    ofUrl text url = .ok u ↔ placeOf text url = .ok u := by
  have none : credentialsOf url = .ok none := if_pos (by rw [nobody]; rfl)
  have same : ∀ u', placeOf text url = .ok u' → carry u' .none = .ok u' := by
    intro u' read
    obtain ⟨scheme, host, -, -, rfl⟩ := placeOf_eq_ok.1 read
    exact carry_none _
  rw [ofUrl_eq, none]
  cases read : placeOf text url with
  | error fault => exact Iff.rfl
  | ok u' =>
    show carry u' .none = .ok u ↔ _
    rw [same u' read]

/-- A URL with a user name: the place is the same, and the rest is up to the protocol. -/
theorem ofUrl_signed {text : String} (text' : String) {url : Url} (url' : Url) {u : ProxyUrl}
    {c : Credentials} (read : placeOf text url = .ok u) (scheme : url'.scheme = url.scheme)
    (host : url'.host = url.host) (port : url'.port = url.port)
    (signsIn : credentialsOf url' = .ok (some c)) : ofUrl text' url' = carry u (some c) := by
  rw [ofUrl_eq, placeOf_congr read scheme host port, signsIn]
  rfl

theorem credentialsOf_encoded {url : Url} {username password : String} (filled : username ≠ "")
    (one : Percent.Encoded (ofText username) url.username.toList)
    (two : Percent.Encoded (ofText password) url.password.toList) :
    credentialsOf url = .ok (some { username, password }) := by
  have filled' : url.username.isEmpty = false :=
    Bool.eq_false_iff.2 fun empty => one.ne_empty filled (String.isEmpty_iff.1 empty)
  rw [credentialsOf, filled', decodePart_encoded one, decodePart_encoded two]
  rfl

/-- A scheme, a host and a port make a proxy. -/
theorem parse_placed (name : String) {scheme : ProxyScheme} {place : List Char} {h : Url.Host}
    (named : ProxyScheme.ofName? name = some scheme) (inside : ∀ c ∈ place, Url.IsPlaced c)
    (length : ∀ behind, Url.hostLength false (place ++ ':' :: behind) = place.length)
    (hosted : Url.hostOf (Url.Manner.ofScheme name) place = .ok (some h)) (filled : h.text ≠ "")
    (port : UInt16) :
    parse (name ++ "://" ++ String.ofList (place ++ ':' :: Digits.ofNat 10 port.toNat)) =
      .ok { scheme, host := h.shown, port } := by
  have visible := Url.cleanBack_visible fun c mem => (Url.forall_placed inside port c mem).1
  have unsigned := Url.parse_unsigned named (Url.isPlace_placed inside port)
  rw [String.toList_ofList, visible, Url.readWhere_placed inside length hosted port] at unsigned
  rw [parse, unsigned]
  have folded : Url.portOrDefault? { scheme := name, host := h, port :=
      (if some port = (Url.Manner.ofScheme name).defaultPort? then none else some port) } =
        some port := by
    rw [Url.portOrDefault?]
    split
    · next same => exact same.symm
    · rfl
  refine (ofUrl_unsigned { scheme := name, host := h, port := _ } rfl).2
    (placeOf_eq_ok.2 ⟨scheme, h.shown, named, hostText_eq_ok.2 ⟨h.text, rfl, filled, rfl⟩, ?_⟩)
  rw [folded]
  rfl

theorem text_unsigned {u : ProxyUrl} (nobody : u.credentials = none) :
    u.text = u.scheme.text ++ "://" ++
      String.ofList (placed u.host ++ ':' :: Digits.ofNat 10 u.port.toNat) := by
  have host : (if u.host.toList.contains ':' then s!"[{u.host}]" else u.host).toList =
      placed u.host := by
    unfold placed
    split
    · show ("[" ++ u.host ++ "]").toList = _
      simp
    · rfl
  rw [text, nobody]
  generalize (if u.host.toList.contains ':' then s!"[{u.host}]" else u.host) = shown at host ⊢
  refine String.toList_injective ?_
  show (u.scheme.text ++ "://" ++ "" ++ shown ++ ":" ++ toString u.port.toNat).toList = _
  simp [host, Digits.ofNat]

/-- A proxy whose host stands, and where nobody signs in, is read as itself. -/
theorem parse_of_stands {u : ProxyUrl} (stands : Stands (Url.Manner.ofScheme u.scheme.text) u.host)
    (nobody : u.credentials = none) : parse u.text = .ok u := by
  obtain ⟨⟨h, hosted, filled, shown⟩, inside, length⟩ := stands
  rw [text_unsigned nobody, parse_placed _ u.scheme.ofName_text inside length hosted filled u.port,
    shown]
  cases u
  cases nobody
  rfl

variable {name place username password oneEncoded twoEncoded : String} {scheme : ProxyScheme}
  {u : ProxyUrl}

/-- At a place where nobody has to sign in, an encoded user name and password add what they stand
for. -/
theorem parse_signed_carry (named : ProxyScheme.ofName? name = some scheme)
    (bare : Url.IsPlace place)
    (found : parse (name ++ "://" ++ place) = .ok u) (filled : username ≠ "")
    (one : Percent.Encoded (ofText username) oneEncoded.toList)
    (two : Percent.Encoded (ofText password) twoEncoded.toList) :
    u.scheme = scheme ∧ parse (Url.signed name oneEncoded twoEncoded place) =
      carry u (some { username, password }) := by
  have unsigned := Url.parse_unsigned named bare
  have signed := Url.parse_signed named bare (one.ne_empty filled) one.settled two.settled
  rw [parse, unsigned] at found
  rw [parse, signed]
  generalize Url.readWhere (Url.Manner.ofScheme name) (Url.cleanBack place.toList) = whither
    at found ⊢
  cases whither with
  | error fault => cases found
  | ok whither =>
    obtain ⟨host, port⟩ := whither
    cases host with
    | none =>
      have read := (ofUrl_unsigned { scheme := name, port } rfl).1 found
      obtain ⟨_, _, _, shown, _⟩ := placeOf_eq_ok.1 read
      obtain ⟨_, nowhere, _⟩ := hostText_eq_ok.1 shown
      cases nowhere
    | some host =>
      have read := (ofUrl_unsigned { scheme := name, host, port } rfl).1 found
      let url : Url := ⟨name, oneEncoded, twoEncoded, host, port⟩
      have signsIn : credentialsOf url = .ok (some { username, password }) :=
        credentialsOf_encoded filled one two
      have carried := ofUrl_signed (Url.signed name oneEncoded twoEncoded place) url read rfl rfl
        rfl signsIn
      obtain ⟨scheme', _, named', _, rfl⟩ := placeOf_eq_ok.1 read
      exact ⟨Option.some.inj (named'.symm.trans named), carried⟩

/-- Signing in at a proxy whose host stands. -/
theorem parse_signed_of_stands (stands : Stands (Url.Manner.ofScheme u.scheme.text) u.host)
    (nobody : u.credentials = none) {c : Credentials} {one two : String} (filled : c.username ≠ "")
    (first : Percent.Encoded (ofText c.username) one.toList)
    (second : Percent.Encoded (ofText c.password) two.toList) :
    parse (Url.signed u.scheme.text one two
        (String.ofList (placed u.host ++ ':' :: Digits.ofNat 10 u.port.toNat))) =
      if u.scheme = .http ∨ c.username.utf8ByteSize ≤ 255 ∧ c.password.utf8ByteSize ≤ 255 then
        .ok { u with credentials := some c }
      else .error .longCredentials := by
  have found := parse_of_stands stands nobody
  rw [text_unsigned nobody] at found
  have signed := parse_signed_carry u.scheme.ofName_text (Url.isPlace_placed stands.inside u.port)
    found filled first second
  rw [signed.2, carry_some]

/-- At a place where nobody has to sign in, an encoded user name and password come back as they
were, unless SOCKS5 cannot carry them. -/
theorem parse_signed_encoded (named : ProxyScheme.ofName? name = some scheme)
    (bare : Url.IsPlace place)
    (found : parse (name ++ "://" ++ place) = .ok u) (filled : username ≠ "")
    (one : Percent.Encoded (ofText username) oneEncoded.toList)
    (two : Percent.Encoded (ofText password) twoEncoded.toList) :
    parse (Url.signed name oneEncoded twoEncoded place) =
      if scheme = .http ∨ username.utf8ByteSize ≤ 255 ∧ password.utf8ByteSize ≤ 255 then
        .ok { u with credentials := some { username, password } }
      else .error .longCredentials := by
  obtain ⟨rfl, signed⟩ := parse_signed_carry named bare found filled one two
  rw [signed, carry_some]

/-- An address as a proxy, under any scheme. -/
theorem parse_address (named : ProxyScheme.ofName? name = some scheme) :
    parse (name ++ "://" ++ "10.0.0.1:1081") =
      .ok { scheme, host := "10.0.0.1", port := 1081 } := by
  have address : Ipv4.text ⟨10, 0, 0, 1⟩ = "10.0.0.1" := by decide
  have text : String.ofList (placed "10.0.0.1" ++ ':' :: Digits.ofNat 10 (1081 : UInt16).toNat) =
      "10.0.0.1:1081" := by decide
  obtain ⟨⟨h, hosted, filled, shown⟩, inside, length⟩ :=
    Url.stands_ipv4 (Url.Manner.ofScheme name) ⟨10, 0, 0, 1⟩
  rw [address] at hosted shown inside length
  have read := parse_placed name named inside length hosted filled 1081
  rwa [text, shown] at read

/-- A name and password with signs that would be read as the URL's own, in small digits and large;
and a password of 256 octets, which HTTP carries and SOCKS5 does not. -/
theorem parse_signed_colon :
    let long := String.ofList (List.replicate 256 'a')
    parse (Url.signed "socks5h" "a%3a%C3%A9" "%40b%2f" "10.0.0.1:1081") =
      .ok { scheme := .socks5, host := "10.0.0.1", port := 1081,
            credentials := some { username := "a:é", password := "@b/" } } ∧
    parse (Url.signed "http" "a%3a%C3%A9" long "10.0.0.1:1081") =
      .ok { scheme := .http, host := "10.0.0.1", port := 1081,
            credentials := some { username := "a:é", password := long } } ∧
    parse (Url.signed "socks5" "a%3a%C3%A9" long "10.0.0.1:1081") = .error .longCredentials := by
  intro long
  have one : Percent.Encoded (ofText "a:é") "a%3a%C3%A9".toList :=
    .plain rfl (.octet (by decide) (by decide) (.octet (by decide) (by decide)
      (.octet (by decide) (by decide) .nil)))
  have two : Percent.Encoded (ofText "@b/") "%40b%2f".toList :=
    .octet (by decide) (by decide) (.plain rfl (.octet (by decide) (by decide) .nil))
  have letters (n : Nat) : Percent.Encoded (ofText (String.ofList (List.replicate n 'a')))
      (String.ofList (List.replicate n 'a')).toList := by
    rw [ofText, String.toList_ofList]
    induction n with
    | zero => exact .nil
    | succ n ih => exact .plain rfl ih
  have size : long.utf8ByteSize = 256 := by decide +kernel
  have bare : Url.IsPlace "10.0.0.1:1081" := List.all_iff_forall_prop.1 (by decide)
  refine ⟨?_, ?_, ?_⟩
  · rw [parse_signed_encoded rfl bare (parse_address rfl) (by decide) one two]
    exact if_pos (Or.inr (by decide))
  · rw [parse_signed_encoded rfl bare (parse_address rfl) (by decide) one (letters 256)]
    exact if_pos (Or.inl rfl)
  · rw [parse_signed_encoded rfl bare (parse_address rfl) (by decide) one (letters 256)]
    refine if_neg ?_
    rintro (http | ⟨-, short⟩)
    · cases http
    · exact absurd (size ▸ short) (by decide)

end ProxyUrl

end Sluice
