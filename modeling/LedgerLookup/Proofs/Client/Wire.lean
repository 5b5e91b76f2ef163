import LedgerLookup.Proofs.Client.Lookup
import LedgerLookup.Proofs.Text.Digits
import LedgerLookup.Proofs.Url.Reader

/-!
# What a lookup puts on the wire

The URL of a lookup is written with the identifier as one component, and is read once more before it
is sent.  Reading removes the segments `.` and `..`, which are components as they stand, so that the
identifiers of these names do not arrive.  Every other identifier is one segment of the path that is
sent.
-/

namespace LedgerLookup

open Http (Network)
open Text.Percent (encode)
open Url (rawSegments pathSegments)

/-! ### Endpoints -/

/-- The endpoint is the address of a host over plain HTTP: a host that can be connected to, with
neither user nor path. -/
structure Endpoint.IsPlainHttp (e : Endpoint) (authority : Url.Authority) : Prop where
  reads : Url.parse? e.authority =
    some ⟨"http".toList, some authority, .segments [[]], none, none⟩
  anonymous : authority.user = [] ∧ authority.password = none
  reachable : authority.host ≠ [] ∧ authority.host.any Url.isUnreachable = false

theorem Endpoint.exists_authority_eq_append_singleton (e : Endpoint) :
    ∃ front digit, e.authority = String.ofList (front ++ [digit]) ∧ Text.isDigit digit = true := by
  obtain ⟨front, digit, hport, hdigit⟩ := Text.exists_digits_eq_append_singleton e.port.toNat
  refine ⟨e.base.toList ++ ':' :: front, digit, ?_, hdigit⟩
  simp [authority, Port.text, Text.decimal, hport, String.ext_iff]

/-- Every host that a request can be sent to is such an endpoint with any port. -/
theorem Endpoint.isPlainHttp_of_host {host written : List Char}
    (hhost : Url.domainHost? host = some written)
    (hplain : ∀ c ∈ host, 0x20 < c.toNat ∧ c ∉ ['/', '\\', '?', '#', '@', ':', '['])
    (hreachable : written ≠ [] ∧ written.any Url.isUnreachable = false) (port : Port) :
    Endpoint.IsPlainHttp ⟨String.ofList ("http://".toList ++ host), port⟩
      { host := written, port := if port.toNat = 80 then none else some port.toNat } where
  reads := by
    have hport : port.toNat < 65536 := by
      have hlow : 0 ≤ port.val := port.low_le
      have hhigh : port.val < 65536 := port.lt_high
      simp only [Word.toNat]
      omega
    have htext : (Endpoint.mk (String.ofList ("http://".toList ++ host)) port).authority =
        String.ofList ("http://".toList ++ (host ++ ':' :: Text.digits port.toNat)) := by
      simp [authority, Port.text, Text.decimal, String.ext_iff]
    rw [htext, Url.parse?_of_host hhost hreachable.1 hplain hport]
  anonymous := ⟨rfl, rfl⟩
  reachable := hreachable

/-! ### The path and the query -/

/-- The segments of the path that is requested for an identifier. -/
def lookupSegments (identifier : String) : List (List Char) :=
  if identifier = "." then ["explorer".toList, "hash".toList, []]
  else if identifier = ".." then ["explorer".toList, []]
  else ["explorer".toList, "hash".toList, encode identifier.toList]

/-- The path of a lookup is read as two segments and one for the identifier, of which the last
removes itself, or two of the three, where it stands for a directory. -/
theorem pathSegments_hashPath (identifier : String) :
    pathSegments true (hashPath.toList ++ encode identifier.toList) =
      lookupSegments identifier := by
  by_cases hone : identifier = "."
  · subst hone
    decide
  by_cases htwo : identifier = ".."
  · subst htwo
    decide
  have hslash : '/' ∉ encode identifier.toList := Url.not_mem_encode (by decide) _
  have hbackslash : '\\' ∉ encode identifier.toList := Url.not_mem_encode (by decide) _
  have hraw : rawSegments true ("explorer/hash/".toList ++ encode identifier.toList) =
      ["explorer".toList, "hash".toList, encode identifier.toList] := by
    rw [Url.rawSegments_of_no_backslash (by simp [hbackslash])]
    calc Text.cutAt '/' ("explorer".toList ++ '/' :: ("hash".toList ++ '/' ::
          encode identifier.toList))
        = "explorer".toList :: Text.cutAt '/' ("hash".toList ++ '/' ::
          encode identifier.toList) := Text.cutAt_append (by decide) _
      _ = "explorer".toList :: "hash".toList :: Text.cutAt '/' (encode identifier.toList) := by
          rw [Text.cutAt_append (by decide)]
      _ = _ := by rw [Text.cutAt_of_not_mem hslash]
  have hnoSingle : Url.isSingleDot (encode identifier.toList) = false := by
    rw [← Bool.not_eq_true, Url.isSingleDot_encode]
    exact fun h => hone (String.ext_iff.mpr h)
  have hnoDouble : Url.isDoubleDot (encode identifier.toList) = false := by
    rw [← Bool.not_eq_true, Url.isDoubleDot_encode]
    exact fun h => htwo (String.ext_iff.mpr h)
  rw [lookupSegments, if_neg hone, if_neg htwo]
  show Url.normalSegments false [] (rawSegments true ("explorer/hash/".toList ++ _)) = _
  rw [hraw, Url.normalSegments_cons (by decide) (by decide),
    Url.normalSegments_cons (by decide) (by decide),
    Url.normalSegments_cons hnoSingle hnoDouble, Url.writtenSegment_encode]
  rfl

theorem plain_of_mem_query {w : Window} {c : Char} (h : c ∈ w.query.toList) :
    0x20 < c.toNat ∧ c.toNat < 0x7F ∧ Url.escapedInSpecialQuery c = false ∧ c ≠ '#' := by
  have hdigits : ∀ n, c ∈ Text.digits n → 0x20 < c.toNat ∧ c.toNat < 0x7F ∧
      Url.escapedInSpecialQuery c = false ∧ c ≠ '#' := by
    intro n hc
    have hall : ∀ n : Fin 58, 48 ≤ n.val → 0x20 < n.val ∧ n.val < 0x7F ∧
        Url.escapedInSpecialQuery (Char.ofNat n.val) = false ∧ Char.ofNat n.val ≠ '#' := by
      decide
    obtain ⟨hlow, hhigh⟩ := Text.toNat_of_isDigit (Text.isDigit_of_mem_digits hc)
    simpa using hall ⟨c.toNat, by omega⟩ hlow
  have hwords : ∀ d ∈ "offset=".toList ++ "&limit=".toList, 0x20 < d.toNat ∧ d.toNat < 0x7F ∧
      Url.escapedInSpecialQuery d = false ∧ d ≠ '#' := by
    simpa using (by decide : ("offset=".toList ++ "&limit=".toList).all (fun d =>
      0x20 < d.toNat ∧ d.toNat < 0x7F ∧ Url.escapedInSpecialQuery d = false ∧ d ≠ '#') = true)
  simp only [Window.query, Text.decimal, String.toList_append, String.toList_ofList,
    List.mem_append] at h
  rcases h with ((h | h) | h) | h
  · exact hwords c (List.mem_append_left _ h)
  · exact hdigits _ h
  · exact hwords c (List.mem_append_right _ h)
  · exact hdigits _ h

/-- The URL that is requested for an identifier at the address of a host. -/
def lookupUrl (authority : Url.Authority) (identifier : String) (w : Window) : Url where
  scheme := "http".toList
  authority := some authority
  path := .segments (lookupSegments identifier)
  query := some w.query.toList
  fragment := none

/-- What is written for a lookup is read as its URL. -/
theorem parse?_hashUrl {e : Endpoint} {authority : Url.Authority} (h : e.IsPlainHttp authority)
    (identifier : String) (w : Window) :
    Url.parse? (hashUrl e identifier w) = some (lookupUrl authority identifier w) := by
  obtain ⟨front, digit, hauthority, hdigit⟩ := e.exists_authority_eq_append_singleton
  have hreads := h.reads
  rw [hauthority] at hreads
  have hwords : ∀ c ∈ "explorer/hash/".toList, 0x20 < c.toNat ∧ c ≠ '?' ∧ c ≠ '#' := by simp
  have hpath : ∀ c ∈ "explorer/hash/".toList ++ encode identifier.toList,
      0x20 < c.toNat ∧ c ≠ '?' ∧ c ≠ '#' := by
    intro c hc
    rcases List.mem_append.mp hc with hc | hc
    · exact hwords c hc
    · exact ⟨(Url.plain_of_mem_encode hc).1,
        ne_of_mem_of_not_mem hc (Url.not_mem_encode (by decide) _),
        ne_of_mem_of_not_mem hc (Url.not_mem_encode (by decide) _)⟩
  have hquery : ∀ c ∈ w.query.toList, 0x20 < c.toNat ∧ c ≠ '#' := fun c hc =>
    ⟨(plain_of_mem_query hc).1, (plain_of_mem_query hc).2.2.2⟩
  have htext : hashUrl e identifier w =
      String.ofList (front ++ [digit] ++
        ('/' :: ("explorer/hash/".toList ++ encode identifier.toList) ++
          '?' :: w.query.toList)) := by
    simp [hashUrl, Endpoint.url, hauthority, hashPath, Text.Percent.encoded, String.ext_iff]
  have hsame : Url.escapeWhere Url.escapedInSpecialQuery w.query.toList = w.query.toList := by
    refine Url.escapeWhere_eq_self fun c hc => ?_
    obtain ⟨hlow, hhigh, hescaped, -⟩ := plain_of_mem_query hc
    exact ⟨Nat.le_of_lt hlow, hhigh, hescaped⟩
  have hkind : Url.schemeKind "http".toList = .served 80 := rfl
  rw [htext, Url.parse?_append hdigit hkind hreads hpath hquery, hsame]
  show some (Url.mk _ _ (.segments (pathSegments true (hashPath.toList ++ _))) _ _) = _
  rw [pathSegments_hashPath]
  rfl

/-! ### Requests -/

/-- The request of a lookup goes to its URL, unless that is too long. -/
theorem target?_hashUrl {e : Endpoint} {authority : Url.Authority} (h : e.IsPlainHttp authority)
    (identifier : String) (w : Window) :
    Url.target? (hashUrl e identifier w) =
      if (lookupUrl authority identifier w).text.length ≤ Url.maxRequestLength then
        some (lookupUrl authority identifier w)
      else none := by
  have hanonymous : (lookupUrl authority identifier w).withoutUser =
      lookupUrl authority identifier w := by
    simp [Url.withoutUser, lookupUrl, Url.Authority.withoutUser_of_anonymous h.anonymous]
  have husable : (lookupUrl authority identifier w).isUsable =
      decide ((lookupUrl authority identifier w).text.length ≤ Url.maxRequestLength) := by
    have hhost : (lookupUrl authority identifier w).host? = some authority.host := by
      simp [Url.host?, lookupUrl, h.reachable.1]
    have hscheme : (lookupUrl authority identifier w).scheme = "http".toList := rfl
    simp [Url.isUsable, Url.isWeb, Url.isWritable, hscheme, hhost, h.reachable.2]
  rw [Url.target?, parse?_hashUrl h, Option.map_some, hanonymous, Option.filter, husable]
  simp

/-- No part of the path has a mark that ends it. -/
theorem plain_of_mem_lookupSegments {identifier : String} {part : List Char}
    (h : part ∈ lookupSegments identifier) : '/' ∉ part ∧ '?' ∉ part := by
  have hencoded : '/' ∉ encode identifier.toList ∧ '?' ∉ encode identifier.toList :=
    ⟨Url.not_mem_encode (by decide) _, Url.not_mem_encode (by decide) _⟩
  unfold lookupSegments at h
  split_ifs at h <;> simp only [List.mem_cons, List.not_mem_nil, or_false] at h
  · rcases h with rfl | rfl | rfl <;> decide
  · rcases h with rfl | rfl <;> decide
  · rcases h with rfl | rfl | rfl
    · decide
    · decide
    · exact hencoded

/-- Identifiers that are not empty have paths of their own. -/
theorem eq_of_lookupSegments_eq {a b : String} (ha : a ≠ "") (hb : b ≠ "")
    (h : lookupSegments a = lookupSegments b) : a = b := by
  have hne : ∀ s : String, s ≠ "" → encode s.toList ≠ [] := fun s hs =>
    Text.Percent.encode_ne_nil fun hnil => hs (String.ext_iff.mpr hnil)
  unfold lookupSegments at h
  split_ifs at h with ha1 hb1 hb2 ha2 hb1 hb2 hb1 hb2
  · rw [ha1, hb1]
  · simp at h
  · simp only [List.cons.injEq, true_and, and_true] at h
    exact absurd h.symm (hne b hb)
  · simp at h
  · rw [ha2, hb2]
  · simp at h
  · simp only [List.cons.injEq, true_and, and_true] at h
    exact absurd h (hne a ha)
  · simp at h
  · simp only [List.cons.injEq, true_and, and_true] at h
    exact String.ext_iff.mpr (Text.Percent.encode_injective h)

theorem not_mem_lookupPath (identifier : String) :
    ∀ c ∈ (Url.Path.segments (lookupSegments identifier)).text, (c == '?') = false := by
  intro c hc
  obtain ⟨part, hpart, hmem⟩ := List.mem_flatMap.mp hc
  rcases List.mem_cons.mp hmem with rfl | hmem
  · rfl
  · simpa using ne_of_mem_of_not_mem hmem (plain_of_mem_lookupSegments hpart).2

/-- Lookups of different identifiers, neither of them empty, are requests to different URLs. -/
theorem eq_of_lookupUrl_text_eq {authority : Url.Authority} {a b : String} (ha : a ≠ "")
    (hb : b ≠ "") {w w' : Window}
    (h : (lookupUrl authority a w).text = (lookupUrl authority b w').text) : a = b := by
  have htail : (Url.Path.segments (lookupSegments a)).text ++ '?' :: w.query.toList =
      (Url.Path.segments (lookupSegments b)).text ++ '?' :: w'.query.toList := by
    simpa only [Url.text, lookupUrl, String.toList_ofList, List.append_nil, List.append_assoc,
      List.append_cancel_left_eq, List.cons_append, List.cons.injEq, true_and]
      using congrArg String.toList h
  have hpath : (Url.Path.segments (lookupSegments a)).text =
      (Url.Path.segments (lookupSegments b)).text := by
    have hbreak := congrArg (Text.breakAt (· == '?')) htail
    rw [Text.breakAt_append_cons (not_mem_lookupPath a) rfl,
      Text.breakAt_append_cons (not_mem_lookupPath b) rfl] at hbreak
    exact congrArg Prod.fst hbreak
  have hcut := congrArg (Text.cutAt '/') hpath
  rw [Url.cutAt_segments fun part hpart => (plain_of_mem_lookupSegments hpart).1,
    Url.cutAt_segments fun part hpart => (plain_of_mem_lookupSegments hpart).1] at hcut
  exact eq_of_lookupSegments_eq ha hb (List.cons.inj hcut).2

/-! ### Lookups -/

/-- **What a lookup puts on the wire.**  At an endpoint over plain HTTP a lookup whose page can be
sent makes one request, redirects aside, unless its URL is too long, and lookups of different
identifiers make different ones.  The path of that request has the identifier for its third and last
segment exactly when that is neither of the names of directories. -/
theorem Client.resolve_sends (c : Client Network) (r : LookupRequest) {w : Window}
    (hw : r.page.window = .ok w) {authority : Url.Authority}
    (he : (r.endpointAt c.locator c.hosts.current).IsPlainHttp authority) :
    let url := lookupUrl authority r.identifier w
    (c.resolve r).state.transport.sent = c.transport.sent ++
      (if url.text.length ≤ Url.maxRequestLength then ["GET " ++ url.text] else []) ∧
    (url.path = .segments ["explorer".toList, "hash".toList, encode r.identifier.toList] ↔
      r.identifier ≠ "." ∧ r.identifier ≠ "..") ∧
    ∀ other w', r.identifier ≠ "" → other ≠ "" → other ≠ r.identifier →
      (lookupUrl authority other w').text ≠ url.text := by
  refine ⟨?_, ?_, fun other w' hne hother hdiff htext =>
    hdiff (eq_of_lookupUrl_text_eq hother hne htext)⟩
  · rw [resolve_of_ok c r hw rfl]
    show (c.transport.send (hashUrl _ r.identifier w)).2.sent = _
    rw [Network.sent_send, target?_hashUrl he]
    split_ifs <;> rfl
  · have hdot : encode ['.'] ≠ [] := by decide
    show Url.Path.segments (lookupSegments r.identifier) = _ ↔ _
    unfold lookupSegments
    split_ifs with h1 h2
    · simp [h1, hdot.symm]
    · simp [h2]
    · simp [h1, h2]

/-- A host that is an address of its own. -/
def Endpoint.loopback : Endpoint := ⟨"http://[::1]", { val := 4 }⟩

set_option maxRecDepth 100000 in
theorem Endpoint.isPlainHttp_loopback :
    Endpoint.loopback.IsPlainHttp { host := "[::1]".toList, port := some 4 } where
  reads := by decide +kernel
  anonymous := ⟨rfl, rfl⟩
  reachable := by decide

/-- A client with the usual settings on a host without a name. -/
def loopbackClient : Client Network :=
  .ofConfig .standard ⟨fun _ => "", 0⟩ {}

theorem Client.resolve_sends_loopback :
    (loopbackClient.resolve ⟨"a/..", {}, .unbounded (some .loopback)⟩).state.transport.sent =
      ["GET http://[::1]:4/explorer/hash/a%2F..?offset=0&limit=25"] := by
  have h := (Client.resolve_sends loopbackClient ⟨"a/..", {}, .unbounded (some .loopback)⟩ rfl
    Endpoint.isPlainHttp_loopback).1
  rw [h]
  decide +kernel

set_option maxRecDepth 100000 in
theorem Client.resolve_parent_leaves_hash :
    (loopbackClient.resolve ⟨"..", {}, .unbounded (some .loopback)⟩).state.transport.sent =
      ["GET http://[::1]:4/explorer/?offset=0&limit=25"] ∧
    (Url.parse? "http://[::1]:4/explorer/?offset=0&limit=25").map (·.path) =
      some (.segments ["explorer".toList, []]) := by
  decide +kernel

end LedgerLookup
