import Sluice.Proofs.MessageReading
import Sluice.Tls.ClientHello

/-
  Writing a ClientHello, and what is read from it. An extension is read as it was written, whatever
  stands behind it (`Extension.reads_encode`), so a block of them comes back as it was
  (`Extension.ofBlock_flatMap`) and so does the message around it (`Message.reader_encode`). Of the
  extensions the names and the protocols are picked out independently of each other and of the rest
  (`ClientHello.foldlM_add`). With at most one extension of each kind there is nothing to be
  replaced, and the order makes no difference (`ClientHello.ofMessage_encode`).
-/

namespace Sluice.Tls

open Reader

/-! ## Extensions -/

namespace Extension

/-- The types whose content is checked, but the names and the protocols. -/
def checkedTypes : List Nat :=
  [1, 10, 11, 13, 15, 22, 23, 28, 42, 43, 45, 48, 49, 13172, 0xff01, 0xffce]

def type : Extension → Nat
  | serverName _ => 0
  | alpn _ => 16
  | other type _ => type

/-- A name behind its type. -/
def encodeName (entry : UInt8 × Octets) : Octets :=
  entry.1 :: Octets.block 2 entry.2

def content : Extension → Octets
  | serverName names => Octets.block 2 (names.flatMap encodeName)
  | alpn protocols => Octets.block 2 (protocols.flatMap (Octets.block 1))
  | other _ content => content

def encode (e : Extension) : Octets :=
  Octets.ofNat 2 e.type ++ Octets.block 2 e.content

/-- An extension that can be written down. What it holds is arbitrary, unless its type is one whose
content is checked. -/
def Sound : Extension → Prop
  | serverName _ => True
  | alpn protocols => ∀ p ∈ protocols, p.length ≤ 255
  | other type content => type < 65536 ∧ type ≠ 0 ∧ type ≠ 16 ∧
      (isGrease type = true ∨ type ∉ checkedTypes ∨ fits type content = true)

theorem fits_unchecked {type : Nat} (unchecked : type ∉ checkedTypes) (content : Octets) :
    fits type content = true := by
  unfold fits
  split
  · rfl
  · split
    all_goals first | rfl | exact absurd (by decide) unchecked

theorem fits_grease {type : Nat} (grease : isGrease type = true) (content : Octets) :
    fits type content = true := by
  unfold fits
  exact if_pos grease

/-- An entry is no longer than all entries. -/
theorem length_le_flatMap {α : Type} (encode : α → Octets) {xs : List α} {x : α} (member : x ∈ xs) :
    (encode x).length ≤ (xs.flatMap encode).length :=
  (List.sublist_flatten_of_mem (List.mem_map_of_mem member)).length_le

/-- A list of entries behind its length. -/
theorem reads_list {α : Type} {p : Reader α} (adv : Advances p) {encode : α → Octets}
    {xs : List α} (short : (xs.flatMap encode).length < 65536)
    (reads : ∀ x ∈ xs, Reads p (encode x) x) :
    Reads (block 2 >>= fun list => pure (entries p adv list))
      (Octets.block 2 (xs.flatMap encode)) xs := by
  have list : Reads (block 2) (Octets.block 2 (xs.flatMap encode)) (xs.flatMap encode) :=
    reads_block short
  have read := reads_map (g := entries p adv) list
  rwa [entries_flatMap adv reads] at read

theorem reads_nameEntry {entry : UInt8 × Octets} (short : entry.2.length < 65536) :
    Reads nameEntry (encodeName entry) entry := by
  have name : Reads (block 2) (Octets.block 2 entry.2) entry.2 := reads_block short
  have read := reads_map (g := fun name => (UInt8.ofNat entry.1.toNat, name)) name
  refine reads_octet ?_
  rw [UInt8.ofNat_toNat] at read ⊢
  exact read

theorem serverNames_filled {s : Octets} (filled : s.isEmpty = false) :
    serverNames s =
      (block 2 >>= fun list => pure (entries nameEntry advances_nameEntry list)) s := by
  rw [serverNames, filled]
  show _ = Reader.bind _ _ _
  unfold Reader.bind
  cases block 2 s <;> rfl

/-- The names of an extension are read as they were written. -/
theorem serverNames_content {names : List (UInt8 × Octets)}
    (short : (content (serverName names)).length < 65536) :
    serverNames (content (serverName names)) = some (names, []) := by
  have length : (content (serverName names)).length =
      2 + (names.flatMap encodeName).length := Octets.length_block 2 _
  have filled : (content (serverName names)).isEmpty = false := by
    rw [List.isEmpty_eq_false_iff, ← List.length_pos_iff]
    omega
  rw [serverNames_filled filled]
  refine (reads_list advances_nameEntry (by omega) fun entry member => ?_).whole
  have bound := length_le_flatMap encodeName member
  rw [encodeName, List.length_cons, Octets.length_block] at bound
  exact reads_nameEntry (by omega)

/-- The protocols of an extension are read as they were written. -/
theorem protocols_content {names : List Octets} (sound : Sound (alpn names))
    (short : (content (alpn names)).length < 65536) :
    protocols (content (alpn names)) = some (names, []) := by
  have length : (content (alpn names)).length =
      2 + (names.flatMap (Octets.block 1)).length := Octets.length_block 2 _
  refine (reads_list (advances_block (by decide)) (by omega) fun name member => ?_).whole
  exact reads_block (Nat.lt_succ_of_le (sound name member))

theorem ofContent_eq {e : Extension} (sound : e.Sound)
    (short : e.content.length < 65536) : ofContent e.type e.content = some e := by
  cases e with
  | serverName names =>
    show (serverNames _).map _ = _
    rw [serverNames_content short]
    rfl
  | alpn names =>
    show (protocols _).map _ = _
    rw [protocols_content sound short]
    rfl
  | other type content =>
    obtain ⟨-, notNames, notProtocols, free⟩ := sound
    have fitting : fits type content = true := by
      rcases free with grease | unchecked | fitting
      · exact fits_grease grease content
      · exact fits_unchecked unchecked content
      · exact fitting
    show ofContent type content = _
    unfold ofContent
    split
    · exact absurd rfl notNames
    · exact absurd rfl notProtocols
    · exact if_pos fitting

/-- An extension is read as it was written, whatever stands behind it. -/
theorem reads_encode {e : Extension} (sound : e.Sound) (short : e.content.length < 65536) :
    Reads reader e.encode e := by
  have fits : e.type < 65536 := by
    cases e with
    | serverName names => exact (by decide : 0 < 65536)
    | alpn names => exact (by decide : 16 < 65536)
    | other type content => exact sound.1
  refine reads_bind (reads_number fits) ?_
  have content : Reads (block 2) (Octets.block 2 e.content) e.content := reads_block short
  rw [← List.append_nil (Octets.block 2 e.content)]
  refine reads_bind content ?_
  rw [ofContent_eq sound short]
  exact reads_pure e

/-- A block of extensions comes back as it was. -/
theorem ofBlock_flatMap {es : List Extension} (sound : ∀ e ∈ es, e.Sound)
    (short : (es.flatMap encode).length < 65536) : ofBlock (es.flatMap encode) = es := by
  refine entries_flatMap advances_reader fun e member => reads_encode (sound e member) ?_
  have bound := length_le_flatMap encode member
  rw [encode, List.length_append, Octets.length_block] at bound
  omega

end Extension

/-! ## Messages -/

/-- A hello that can be written down. -/
structure Hello.Sound (h : Hello) : Prop where
  version : h.version < 65536
  random : h.random.length = 32
  sessionId : h.sessionId.length ≤ 32
  ciphers : h.ciphers.length < 65536 ∧ h.ciphers.length % 2 = 0
  compressions : h.compressions.length ≤ 255
  extensions : ∀ s ∈ h.extensions, s.length < 65536

/-- The body of a ClientHello. -/
def Hello.encode (h : Hello) : Octets :=
  Octets.ofNat 2 h.version ++ (h.random ++ (Octets.block 1 h.sessionId ++
    (Octets.block 2 h.ciphers ++ (Octets.block 1 h.compressions ++
      (h.extensions.map (Octets.block 2)).getD []))))

/-- The message that says hello. -/
def Message.encode (h : Hello) : Octets :=
  Octets.ofNat 1 clientHelloType ++ Octets.block 3 h.encode

theorem optional_block {extensions : Option Octets} (short : ∀ s ∈ extensions, s.length < 65536) :
    optional (block 2) ((extensions.map (Octets.block 2)).getD []) = some (extensions, []) := by
  cases extensions with
  | none => rfl
  | some s =>
    have read : Reads (block 2) (Octets.block 2 s) s := reads_block (short s rfl)
    show optional (block 2) (Octets.block 2 s) = _
    unfold Reader.optional
    rw [read.whole]

/-- The body of a hello is read as it was written, if nothing stands behind it. -/
theorem Hello.reader_encode {h : Hello} (sound : h.Sound) :
    Hello.reader h.encode = some (h, []) := by
  have random := reads_take h.random
  rw [sound.random] at random
  have sessionId : Reads (block 1) (Octets.block 1 h.sessionId) h.sessionId :=
    reads_block (Nat.lt_of_le_of_lt sound.sessionId (by decide))
  have ciphers : Reads (block 2) (Octets.block 2 h.ciphers) h.ciphers :=
    reads_block sound.ciphers.1
  have compressions : Reads (block 1) (Octets.block 1 h.compressions) h.compressions :=
    reads_block (Nat.lt_succ_of_le sound.compressions)
  refine bind_reads (reads_number sound.version) (bind_reads random (bind_reads sessionId ?_))
  refine (bind_require (decide_eq_true sound.sessionId)).trans (bind_reads ciphers ?_)
  refine (bind_require (decide_eq_true sound.ciphers.2)).trans (bind_reads compressions ?_)
  exact bind_some (optional_block sound.extensions)

theorem Hello.length_encode {h : Hello} (sound : h.Sound) : h.encode.length < 16777216 := by
  have extensions : ((h.extensions.map (Octets.block 2)).getD []).length < 65538 := by
    cases block : h.extensions with
    | none => exact (by decide : 0 < 65538)
    | some s =>
      have short := sound.extensions s block
      show (Octets.block 2 s).length < 65538
      rw [Octets.length_block]
      omega
  obtain ⟨-, random, sessionId, ⟨ciphers, -⟩, compressions, -⟩ := sound
  simp only [encode, List.length_append, Octets.length_ofNat, Octets.length_block]
  omega

/-- A ClientHello is read as it was written. -/
theorem Message.reader_encode {h : Hello} (sound : h.Sound) :
    Message.reader (Message.encode h) = some (.clientHello h, []) := by
  have body : Reads (block 3) (Octets.block 3 h.encode) h.encode :=
    reads_block (Hello.length_encode sound)
  rw [Message.encode, ← List.append_nil (Octets.block 3 h.encode)]
  refine bind_reads (reads_number (by decide)) (bind_reads body ?_)
  rw [if_pos rfl, Hello.reader_encode sound]
  rfl

/-! ## What a hello says -/

namespace Extension

/-- The names that an extension gives. -/
def names? : Extension → Option (List (UInt8 × Octets))
  | serverName names => some names
  | _ => none

/-- The protocols that an extension offers. -/
def protocols? : Extension → Option (List Octets)
  | alpn protocols => some protocols
  | _ => none

end Extension

namespace ClientHello

/-- What a list of names comes to: the text of the first host name, unless that is empty. -/
def named (names : List (UInt8 × Octets)) : Except Fault (Option String) :=
  match hostName? names with
  | none => .ok none
  | some name =>
    match Utf8.text? name with
    | none => .error .nameNotUtf8
    | some text => .ok (if text.isEmpty then none else some text)

/-- The texts of protocols, with what is not UTF-8 replaced. -/
def offered (protocols : List Octets) : List String :=
  protocols.map fun p => String.ofList (Utf8.decodeLossy p)

theorem add_names (hello : ClientHello) (names : List (UInt8 × Octets)) :
    hello.add (.serverName names) = (named names).map fun found =>
      { hello with serverName := found.or hello.serverName } := by
  cases host : hostName? names with
  | none =>
    simp only [add, named, host]
    rfl
  | some name =>
    cases read : Utf8.text? name with
    | none =>
      simp only [add, named, host, read]
      rfl
    | some text =>
      simp only [add, named, host, read]
      by_cases empty : text.isEmpty = true
      · rw [if_pos empty, if_pos empty]
        rfl
      · rw [if_neg empty, if_neg empty]
        rfl

/-- The names and the protocols of extensions are told independently, later ones in the place of
earlier ones. -/
theorem foldlM_add (es : List Extension) (hello : ClientHello) :
    es.foldlM add hello = ((es.filterMap Extension.names?).mapM named).map fun found =>
      { serverName := found.foldl (fun old new => new.or old) hello.serverName
        alpn := (es.filterMap Extension.protocols?).foldl (fun _ new => offered new)
          hello.alpn } := by
  induction es generalizing hello with
  | nil => rfl
  | cons e es ih =>
    rw [List.foldlM_cons]
    cases e with
    | serverName names =>
      have split : (Extension.serverName names :: es).filterMap Extension.names? =
          names :: es.filterMap Extension.names? := rfl
      rw [add_names, split, List.mapM_cons]
      cases named names with
      | error f => rfl
      | ok found =>
        show es.foldlM add _ = _
        rw [ih]
        cases (es.filterMap Extension.names?).mapM named <;> rfl
    | alpn protocols => exact ih _
    | other type content => exact ih _

theorem eq_nil_or_singleton {α : Type} {xs : List α} (short : xs.length ≤ 1) :
    xs = [] ∨ ∃ x, xs = [x] := by
  rcases Nat.le_one_iff_eq_zero_or_eq_one.1 short with zero | one
  · exact Or.inl (List.length_eq_zero_iff.1 zero)
  · exact Or.inr (List.length_eq_one_iff.1 one)

/-- Where no kind of extension comes twice, nothing is replaced. -/
theorem ofExtensions_eq {es : List Extension}
    (names : (es.filterMap Extension.names?).length ≤ 1)
    (protocols : (es.filterMap Extension.protocols?).length ≤ 1) :
    ofExtensions es = (named (es.filterMap Extension.names?).flatten).map fun serverName =>
      { serverName, alpn := offered (es.filterMap Extension.protocols?).flatten } := by
  have alpn : (es.filterMap Extension.protocols?).foldl (fun _ new => offered new) [] =
      offered (es.filterMap Extension.protocols?).flatten := by
    rcases eq_nil_or_singleton protocols with none | ⟨ps, one⟩
    · rw [none]
      rfl
    · rw [one, List.flatten_singleton]
      rfl
  rw [ofExtensions, foldlM_add, alpn]
  rcases eq_nil_or_singleton names with none | ⟨ns, one⟩
  · rw [none]
    rfl
  · rw [one, List.flatten_singleton, List.mapM_cons, List.mapM_nil]
    cases named ns with
    | error f => rfl
    | ok found => cases found <;> rfl

theorem filterMap_eq_of_perm {α β : Type} {f : α → Option β} {xs ys : List α} (perm : xs.Perm ys)
    (short : (ys.filterMap f).length ≤ 1) : xs.filterMap f = ys.filterMap f := by
  have picked := perm.filterMap f
  rcases eq_nil_or_singleton short with none | ⟨y, one⟩
  · rw [none] at picked ⊢
    exact picked.eq_nil
  · rw [one] at picked ⊢
    exact picked.eq_singleton

theorem ofMessage_extensions {hello : Hello} (sound : hello.Sound) {es : List Extension}
    (block : hello.extensions = some (es.flatMap Extension.encode)) (all : ∀ e ∈ es, e.Sound) :
    ofMessage (Message.encode hello) = ofExtensions es := by
  have short : (es.flatMap Extension.encode).length < 65536 := sound.extensions _ block
  rw [ofMessage, Message.reader_encode sound]
  simp only [block, Extension.ofBlock_flatMap all short]

/-- What is read from a ClientHello that somebody wrote: its first host name, and the protocols in
their order. A host name that is not UTF-8 is a fault, an empty one counts as none. The other
extensions make no difference, nor does the order of the extensions. -/
theorem ofMessage_encode {hello : Hello} (sound : hello.Sound) {es : List Extension}
    (block : hello.extensions = some (es.flatMap Extension.encode)) (all : ∀ e ∈ es, e.Sound)
    (names : (es.filterMap Extension.names?).length ≤ 1)
    (protocols : (es.filterMap Extension.protocols?).length ≤ 1) :
    ofMessage (Message.encode hello) =
      ((named (es.filterMap Extension.names?).flatten).map fun serverName =>
        { serverName, alpn := offered (es.filterMap Extension.protocols?).flatten }) ∧
    ∀ es' : List Extension, es'.Perm es →
      ofMessage (Message.encode { hello with extensions := some (es'.flatMap Extension.encode) }) =
        ofMessage (Message.encode hello) := by
  have read := ofMessage_extensions sound block all
  refine ⟨read.trans (ofExtensions_eq names protocols), fun es' perm => ?_⟩
  have length := (perm.flatMap_right Extension.encode).length_eq
  have sound' : Hello.Sound { hello with extensions := some (es'.flatMap Extension.encode) } := by
    refine { sound with extensions := ?_ }
    rintro s ⟨⟩
    rw [length]
    exact sound.extensions _ block
  have sameNames := filterMap_eq_of_perm perm names
  have sameProtocols := filterMap_eq_of_perm perm protocols
  rw [ofMessage_extensions sound' rfl fun e member => all e (perm.mem_iff.1 member), read,
    ofExtensions_eq (sameNames ▸ names) (sameProtocols ▸ protocols),
    ofExtensions_eq names protocols, sameNames, sameProtocols]

/-- Extensions of a client: one with a set-aside type, protocols, one with an unknown type, and two
names, of which the second is a host name. -/
def greased : List Extension :=
  [.other 0x0a0a [1], .alpn [[104, 50]], .other 51 [0, 0], .serverName [(7, [255]), (0, [97])]]

def greasedHello : Hello where
  version := 0x0303
  random := List.replicate 32 0x42
  sessionId := []
  ciphers := [0x13, 0x01]
  compressions := [0]
  extensions := some (greased.flatMap Extension.encode)

theorem ofMessage_encode_greased :
    ofMessage (Message.encode greasedHello) =
      .ok { serverName := some "a", alpn := ["h2"] } ∧
    ofMessage (Message.encode { greasedHello with
      extensions := some (greased.reverse.flatMap Extension.encode) }) =
      ofMessage (Message.encode greasedHello) := by
  have sound : greasedHello.Sound :=
    ⟨by decide, by decide, by decide, by decide, by decide, by
      rintro s ⟨⟩
      decide⟩
  have all : ∀ e ∈ greased, e.Sound := by
    simp [greased, Extension.Sound, Extension.checkedTypes]
  have read := ofMessage_encode sound rfl all (by decide) (by decide)
  have host : named (greased.filterMap Extension.names?).flatten = .ok (some "a") :=
    ok_of_toOption (by decide +kernel)
  have protocols : offered (greased.filterMap Extension.protocols?).flatten = ["h2"] := by
    decide +kernel
  refine ⟨?_, read.2 _ (List.reverse_perm _)⟩
  rw [read.1, host, protocols]
  rfl

end ClientHello

end Sluice.Tls
