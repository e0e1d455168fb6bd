import Sluice.Proofs.SignedUrls

/-
  Forward proxies, written and read back. The host of a proxy is read from what a URL writes for it
  (`Url.parse_host`), and what is made of it stands in front of a port. So the text of a proxy where
  nobody signs in names just that proxy (`ProxyUrl.parse_text_unsigned`).
-/

namespace Sluice

namespace Url

/-! ## Where a host was read -/

/-- The host in what follows the slashes. -/
def hostIn (manner : Manner) (s : List Char) : List Char :=
  let place := (splitLast '@' (s.span fun c => !endsAuthority manner c).1).2
  place.take (hostLength false place)

/-- The host of a URL as it is written. -/
def writtenHost (text : String) : List Char :=
  match readScheme (clean text.toList) with
  | some (scheme, rest) => hostIn (Manner.ofScheme scheme) (rest.dropWhile isSlash)
  | none => []

/-- What a URL that says who and where is made of. -/
theorem readAuthority_parts (scheme : String) (manner : Manner) (s : List Char) :
    Answers (fun url => url.scheme = scheme ∧ hostOf manner (hostIn manner s) = .ok url.host ∧
      ∃ signIn, (url.username, url.password) = userinfo signIn)
      (readAuthority scheme manner s) := by
  unfold readAuthority
  dsimp only
  split
  · exact fun _ h => nomatch h
  · refine answers_bind (P := fun host => hostOf manner (hostIn manner s) = .ok host)
      (fun _ read => read) fun host read => ?_
    split
    · exact fun _ h => nomatch h
    · refine answers_bind (answers_all _) fun port _ => ?_
      split
      · exact fun _ h => nomatch h
      · exact answers_ok ⟨rfl, read, _, rfl⟩

/-- Files have a host at most. -/
theorem readFile_parts (s : List Char) :
    Answers (fun url => ∃ host, url = { scheme := "file", host }) (readFile s) := by
  unfold readFile
  split
  · split
    · dsimp only
      split
      · exact answers_ok ⟨_, rfl⟩
      · exact answers_bind (answers_all _) fun host _ => answers_ok ⟨_, rfl⟩
    · exact answers_ok ⟨_, rfl⟩
  · exact answers_ok ⟨_, rfl⟩

/-- The host of a proxy is read from some text, and with a scheme of domain names from what is
written. -/
theorem parse_host {text : String} {url : Url} {scheme : ProxyScheme} {h : Host}
    (read : parse text = .ok url) (named : ProxyScheme.ofName? url.scheme = some scheme)
    (host : url.host = some h) : ∃ s, hostOf (Manner.ofScheme url.scheme) s = .ok (some h) ∧
      (scheme = .http → s = writtenHost text) := by
  unfold parse at read
  split at read
  · cases read
  · next name rest found =>
    have written : writtenHost text = hostIn (Manner.ofScheme name) (rest.dropWhile isSlash) := by
      rw [writtenHost, found]
    unfold readRest at read
    cases manner : Manner.ofScheme name with
    | special port =>
      rw [manner] at read written
      obtain ⟨rfl, hosted, -⟩ := readAuthority_parts _ _ _ _ read
      rw [host] at hosted
      exact ⟨_, by rw [manner, hosted], fun _ => written.symm⟩
    | file =>
      rw [manner] at read
      obtain ⟨_, rfl⟩ := readFile_parts rest url read
      exact absurd (named.symm.trans (rfl : ProxyScheme.ofName? "file" = none)) nofun
    | plain =>
      rw [manner] at read
      dsimp only at read
      split at read
      · obtain ⟨rfl, hosted, -⟩ := readAuthority_parts _ _ _ _ read
        rw [host] at hosted
        refine ⟨_, by rw [manner, hosted], fun http => ?_⟩
        -- The scheme of an HTTP proxy is not plain.
        rcases ProxyScheme.of_ofName named with ⟨special, -⟩ | ⟨-, socks⟩
        · rw [special] at manner
          cases manner
        · rw [socks] at http
          cases http
      · obtain rfl := Except.ok.inj read
        cases host

end Url

/-! ## Forward proxies -/

namespace ProxyUrl

open Url (Stands placed Unencoded writtenHost)

/-- The text of a proxy where nobody signs in names the proxy. For HTTP the host is an address, or
was written in ASCII with nothing encoded. -/
theorem parse_text_unsigned {text : String} {u : ProxyUrl} (read : parse text = .ok u)
    (nobody : u.credentials = none)
    (kept : u.scheme = .http →
      (∃ ip : Ipv4, u.host = ip.text) ∨ (∃ ip : Ipv6, u.host = ip.groupText) ∨
        Unencoded (writtenHost text)) :
    parse u.text = .ok u ∧ (parse u.text).map ProxyUrl.text = .ok u.text := by
  have stands : Stands (Url.Manner.ofScheme u.scheme.text) u.host := by
    unfold parse at read
    split at read
    · cases read
    · next url parsed =>
      obtain ⟨scheme, shown, named, hosted, same⟩ := placeOf_eq_ok.1 (of_ofUrl read).1
      obtain ⟨rfl, rfl, -⟩ := ProxyUrl.mk.inj same
      obtain ⟨_, someHost, filled, shown⟩ := hostText_eq_ok.1 hosted
      obtain ⟨h, found, rfl⟩ := Option.map_eq_some_iff.1 someHost
      obtain ⟨s, readHost, written⟩ := Url.parse_host parsed named found
      have judged := (Url.hostOf_eq_ok.1 readHost).2
      change u.host = h.shown at shown
      rcases ProxyScheme.of_ofName named with ⟨special, http⟩ | ⟨plain, socks⟩
      · rw [http]
        rcases kept http with ⟨ip, v4⟩ | ⟨ip, v6⟩ | unencoded
        · rw [v4]
          exact Url.stands_ipv4 _ ip
        · rw [v6]
          exact Url.stands_ipv6 _ ip
        · rw [special, written http] at judged
          rw [shown]
          exact Url.stands_domain 80 unencoded judged
      · have manner : Url.Manner.ofScheme url.scheme = .plain := by
          rcases plain with plain | plain <;> rw [plain] <;> rfl
        rw [manner] at judged
        rw [socks, shown]
        exact Url.stands_opaque judged filled
  have again := parse_of_stands stands nobody
  rw [again]
  exact ⟨rfl, rfl⟩

/-- An address in two numbers, one of them hexadecimal, is written in four. -/
theorem parse_text_numbers :
    parse "http://0x7F.1:8080" = .ok { scheme := .http, host := "127.0.0.1", port := 8080 } ∧
      parse "http://127.0.0.1:8080" = .ok { scheme := .http, host := "127.0.0.1", port := 8080 } ∧
      (parse "http://127.0.0.1:8080").map ProxyUrl.text = .ok "http://127.0.0.1:8080" := by
  have written : writtenHost "http://0x7F.1:8080" = "0x7F.1".toList := by
    have visible : ∀ c ∈ "0x7F.1:8080".toList, 32 < c.toNat :=
      List.all_iff_forall_prop.1 (by decide)
    rw [writtenHost, Url.readScheme_visible "http://0x7F.1:8080" (y := [])
      (rfl : ProxyScheme.ofName? "http" = _) (by decide) visible]
    decide
  have unencoded : Unencoded "0x7F.1".toList := ⟨List.all_iff_forall_prop.1 (by decide), by decide⟩
  have host : Url.Host.ofDomain "0x7F.1".toList = .ok (.v4 ⟨127, 0, 0, 1⟩) := by
    have small : "0x7F.1".toList.map Char.toLower = "0x7f.1".toList := by decide
    have allowed : ∀ c ∈ "0x7f.1".toList, Idna.isHostChar c = true := by
      simp only [Idna.isHostChar, String.contains_char_eq]
      exact List.all_iff_forall_prop.1 (by decide)
    rw [Url.Host.ofDomain_ascii (by decide) unencoded.ascii unencoded.labels, small,
      if_pos (List.all_eq_true.2 allowed)]
    decide
  have hosted : Url.hostOf (Url.Manner.ofScheme "http") "0x7F.1".toList =
      .ok (some (.v4 ⟨127, 0, 0, 1⟩)) := Url.hostOf_eq_ok.2 ⟨by decide, host⟩
  have named : ∀ c ∈ "0x7F.1".toList, Url.IsNamed c := List.all_iff_forall_prop.1 (by decide)
  have length (behind : List Char) : Url.hostLength false ("0x7F.1".toList ++ ':' :: behind) = 6 :=
    Url.hostLength_plain fun c mem => ⟨(named c mem).2.1, (named c mem).2.2.1⟩
  have read := parse_placed "http" rfl (fun c mem => (named c mem).1) length hosted (by decide) 8080
  have shown : (Url.Host.v4 ⟨127, 0, 0, 1⟩).shown = "127.0.0.1" := by decide
  have text : ProxyUrl.text { scheme := .http, host := "127.0.0.1", port := 8080 } =
      "http://127.0.0.1:8080" := by
    rw [text_unsigned rfl]
    decide
  rw [shown] at read
  have kept : (∃ ip : Ipv4, "127.0.0.1" = ip.text) ∨ (∃ ip : Ipv6, "127.0.0.1" = ip.groupText) ∨
      Unencoded (writtenHost "http://0x7F.1:8080") := by
    rw [written]
    exact Or.inr (Or.inr unencoded)
  have back := parse_text_unsigned read rfl fun _ => kept
  rw [text] at back
  exact ⟨read, back⟩

end ProxyUrl

end Sluice
