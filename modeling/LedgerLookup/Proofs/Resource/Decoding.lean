import LedgerLookup.Proofs.Json.Members
import LedgerLookup.Proofs.Resource.Envelope

/-!
# What is found in an answer

An answer is the text of an object, a sequence of members.  For each kind the last member with its
key counts, unless it is null; the first kind in order of precedence that has a resource is what the
identifier names.  The order of the members, the members of other names and the route along which
the text is read make no difference.
-/

namespace LedgerLookup.Envelope

open Json (Members Value IsObjectText)

/-! ### Envelopes -/

/-- An envelope is what it holds for each kind. -/
theorem ext_payload {e e' : Envelope} (h : ∀ k, e.payload? k = e'.payload? k) : e = e' := by
  have htransaction := h .transaction
  have haddress := h .address
  have hobservation := h .observation
  have hpeer := h .peer
  have hpeerNode := h .peerNode
  have hexternal := h .externalTxidInfo
  cases e
  cases e'
  simp_all [payload?]

theorem payload?_gathered (ms : Members) (k : ResourceKind) :
    (ofMembers ms.gathered).payload? k = (ms.last? k.key).filter (!·.isNull) := by
  rw [payload?_ofMembers, held?, Members.get?_gathered]

/-- Only the members under the keys of the kinds count, each kind for itself. -/
theorem ofMembers_congr {ms ms' : Members}
    (h : ∀ k : ResourceKind, ms.filter (·.1 = k.key) = ms'.filter (·.1 = k.key)) :
    ofMembers ms.gathered = ofMembers ms'.gathered :=
  ext_payload fun k => by
    rw [payload?_gathered, payload?_gathered, Members.last?_congr (h k)]

/-- The members whose names mean something in an answer. -/
def knownMembers (ms : Members) : Members :=
  ms.filter fun m => ResourceKind.precedence.any fun k => k.key = m.1

/-- Members of other names stand for no kind. -/
theorem filter_key_knownMembers (ms : Members) (k : ResourceKind) :
    (knownMembers ms).filter (·.1 = k.key) = ms.filter (·.1 = k.key) := by
  rw [knownMembers, List.filter_filter]
  refine List.filter_congr fun m _ => ?_
  by_cases hk : m.1 = k.key
  · have hknown : ∃ k' ∈ ResourceKind.precedence, k'.key = m.1 := ⟨k, mem_precedence k, hk.symm⟩
    simpa [hk] using hknown
  · simp [hk]

/-! ### Classifying -/

/-- What is found is the resource of the first kind that has one. -/
theorem classify_eq_found_iff {e : Envelope} {identifier : String} {k : ResourceKind} {v : Value} :
    e.classify identifier = .found k v ↔ ∃ before after,
      ResourceKind.precedence = before ++ k :: after ∧ e.payload? k = some v ∧
        ∀ k' ∈ before, e.payload? k' = none := by
  have hclassify : e.classify identifier = .found k v ↔
      ResourceKind.precedence.findSome? (fun k => (e.payload? k).map (k, ·)) = some (k, v) := by
    unfold classify
    cases ResourceKind.precedence.findSome? fun k => (e.payload? k).map (k, ·) <;>
      simp [Prod.ext_iff]
  rw [hclassify, List.findSome?_eq_some_iff]
  constructor
  · rintro ⟨before, k', after, hsplit, hk', hbefore⟩
    obtain ⟨v', hv', hpair⟩ := Option.map_eq_some_iff.mp hk'
    obtain ⟨rfl, rfl⟩ := Prod.mk.inj hpair
    exact ⟨before, after, hsplit, hv', fun k' hk' => by simpa using hbefore k' hk'⟩
  · rintro ⟨before, after, hsplit, hv, hbefore⟩
    exact ⟨before, k, after, hsplit, by simp [hv], fun k' hk' => by simp [hbefore k' hk']⟩

theorem find?_map_findSome? (e : Envelope) (kinds : List ResourceKind) :
    (kinds.findSome? fun k => (e.payload? k).map (k, ·)).map (·.1) =
      kinds.find? fun k => (e.payload? k).isSome := by
  induction kinds with
  | nil => rfl
  | cons k kinds ih =>
    cases hk : e.payload? k <;> simp [hk, ih]

/-- The kind that is found is the first one that has a resource. -/
theorem kind?_classify (e : Envelope) (identifier : String) :
    (e.classify identifier).kind? = e.populated.head? := by
  rw [populated, List.head?_filter, ← find?_map_findSome?, classify]
  cases ResourceKind.precedence.findSome? fun k => (e.payload? k).map (k, ·) <;> rfl

/-! ### Routes -/

theorem fromValueOf_eq_ok_iff {s : String} {e : Envelope} :
    codec.fromValueOf s = .ok e ↔ ∃ ms, Value.parse s = .ok (.object ms) ∧ ofMembers ms = e := by
  rw [Json.Codec.fromValueOf, bind_eq_ok_iff]
  constructor
  · rintro ⟨v, hparse, hv⟩
    cases v with
    | object ms => exact ⟨ms, hparse, Except.ok.inj hv⟩
    | _ => cases hv
  · rintro ⟨ms, hparse, he⟩
    exact ⟨_, hparse, congrArg Except.ok he⟩

/-- Both routes read the same envelopes from the same texts. -/
theorem fromText_eq_ok_iff_fromValueOf {s : String} {e : Envelope} :
    codec.fromText s = .ok e ↔ codec.fromValueOf s = .ok e := by
  rw [fromText_eq_ok_iff, fromValueOf_eq_ok_iff]

/-- A text with a sequence of members is read as the envelope of these. -/
theorem fromText_of_isObjectText {s : String} {ms : Members} (h : IsObjectText s ms) :
    codec.fromText s = .ok (ofMembers ms.gathered) :=
  fromText_eq_ok_iff.mpr ⟨_, Json.parse_eq_object_iff_written.mpr ⟨ms, h, rfl⟩, rfl⟩

/-- A text that is no object is read along neither route. -/
theorem error_of_not_object {s : String} (h : ∀ ms, Value.parse s ≠ .ok (.object ms)) :
    (∃ err, codec.fromText s = .error err) ∧ ∃ err, codec.fromValueOf s = .error err := by
  constructor
  · cases hread : codec.fromText s with
    | error err => exact ⟨err, rfl⟩
    | ok e =>
      obtain ⟨ms, hparse, -⟩ := fromText_eq_ok_iff.mp hread
      exact absurd hparse (h ms)
  · cases hread : codec.fromValueOf s with
    | error err => exact ⟨err, rfl⟩
    | ok e =>
      obtain ⟨ms, hparse, -⟩ := fromValueOf_eq_ok_iff.mp hread
      exact absurd hparse (h ms)

/-- **What an answer is read as.**  The text of an object is read along both routes as one envelope,
which holds for each kind the value of the last member with its key, unless that is null.  The first
kind in order of precedence that has a resource is found, with this resource as it is, and the
identifier is unknown if there is none.  Members with different keys can change places and members
of other names can come and go.  No other text is read along either route. -/
theorem read_by_members (identifier : String) :
    (∀ s, (∃ ms, Value.parse s = .ok (.object ms)) ↔ ∃ ms, IsObjectText s ms) ∧
    (∀ s ms, IsObjectText s ms →
      ∃ e, codec.fromText s = .ok e ∧ codec.fromValueOf s = .ok e ∧
        (∀ k, e.payload? k = (ms.last? k.key).filter (!·.isNull)) ∧
        (∀ k v, e.classify identifier = .found k v ↔ ∃ before after,
          [.transaction, .address, .observation, .peer, .peerNode, .externalTxidInfo] =
            before ++ k :: after ∧ e.payload? k = some v ∧ ∀ k' ∈ before, e.payload? k' = none) ∧
        (∀ x, e.classify identifier = .notFound x ↔ x = identifier ∧ ∀ k, e.payload? k = none) ∧
        (e.classify identifier).kind? = e.populated.head?) ∧
    (∀ s s' ms ms', IsObjectText s ms → IsObjectText s' ms' →
      ((ms.map (·.1)).Nodup ∧ ms.Perm ms') ∨
        (∀ key, ms.filter (·.1 = key) = ms'.filter (·.1 = key)) ∨
        knownMembers ms = knownMembers ms' →
      codec.fromText s = codec.fromText s' ∧ codec.fromValueOf s = codec.fromValueOf s') ∧
    (∀ s, (∀ ms, Value.parse s ≠ .ok (.object ms)) →
      (∃ err, codec.fromText s = .error err) ∧ ∃ err, codec.fromValueOf s = .error err) ∧
    (∀ s e, codec.fromText s = .ok e ↔ codec.fromValueOf s = .ok e) := by
  refine ⟨fun s => ?_, fun s ms h => ?_, fun s s' ms ms' h h' hsame => ?_,
    fun s => error_of_not_object, fun s e => fromText_eq_ok_iff_fromValueOf⟩
  · constructor
    · rintro ⟨ms, hparse⟩
      obtain ⟨written, hwritten, -⟩ := Json.parse_eq_object_iff_written.mp hparse
      exact ⟨written, hwritten⟩
    · rintro ⟨ms, hms⟩
      exact ⟨ms.gathered, Json.parse_eq_object_iff_written.mpr ⟨ms, hms, rfl⟩⟩
  · have htext := fromText_of_isObjectText h
    exact ⟨ofMembers ms.gathered, htext, fromText_eq_ok_iff_fromValueOf.mp htext,
      payload?_gathered ms, fun k v => classify_eq_found_iff, fun x => classify_eq_notFound_iff,
      kind?_classify _ identifier⟩
  · have hkeys : ∀ k : ResourceKind, ms.filter (·.1 = k.key) = ms'.filter (·.1 = k.key) := by
      intro k
      rcases hsame with ⟨hnodup, hperm⟩ | hkeys | hknown
      · exact Members.filter_key_eq_of_perm hperm hnodup k.key
      · exact hkeys k.key
      · rw [← filter_key_knownMembers ms, hknown, filter_key_knownMembers]
    have htext := fromText_of_isObjectText h
    have htext' := fromText_of_isObjectText h'
    rw [← ofMembers_congr hkeys] at htext'
    exact ⟨htext.trans htext'.symm, (fromText_eq_ok_iff_fromValueOf.mp htext).trans
      (fromText_eq_ok_iff_fromValueOf.mp htext').symm⟩

set_option maxRecDepth 100000 in
/-- A later null takes back what stood under its key, whereas `false` and an empty list count. -/
example :
    let text := "\x7b\"transaction\":1,\"peer\":[],\"address\":false,\"transaction\":null\x7d"
    (codec.fromText text).toOption.map (·.populated) = some [.address, .peer] := by
  decide +kernel

end LedgerLookup.Envelope
