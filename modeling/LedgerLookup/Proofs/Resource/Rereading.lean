import LedgerLookup.Proofs.Json.RoundTrip
import LedgerLookup.Proofs.Resource.Decoding

/-!
# Answers that are written again

An envelope that was read is written as an object with the kinds that have a resource, and is read
back from it: from the value always, and from the text unless it holds a double.
-/

namespace LedgerLookup

open Json (Members Value)

theorem ResourceKind.key_injective : Function.Injective ResourceKind.key := by
  intro k k' h
  cases k <;> cases k' <;> first | rfl | exact absurd h (by decide)

namespace Envelope

variable {e : Envelope} {x : Value}

/-! ### The members that are written -/

theorem map_key_members (e : Envelope) : e.members.map (·.1) = e.populated.map (·.key) := by
  unfold members populated
  induction ResourceKind.precedence with
  | nil => rfl
  | cons k kinds ih =>
    cases hk : e.payload? k with
    | none => simpa [hk] using ih
    | some v => simpa [hk] using ih

/-- Under the key of a kind there is its resource and nothing else. -/
theorem filter_members (e : Envelope) (k : ResourceKind) :
    e.members.filter (·.1 = k.key) = ((e.payload? k).map (k.key, ·)).toList := by
  have honly : ∀ kinds : List ResourceKind, kinds.Nodup →
      (kinds.filterMap fun k' => (e.payload? k').map (k'.key, ·)).filter (·.1 = k.key) =
        if k ∈ kinds then ((e.payload? k).map (k.key, ·)).toList else [] := by
    intro kinds hnodup
    induction kinds with
    | nil => rfl
    | cons k' kinds ih =>
      obtain ⟨hk', hkinds⟩ := List.nodup_cons.mp hnodup
      by_cases hk : k' = k
      · subst hk
        cases hv : e.payload? k' <;> simp [hv, ih hkinds, hk']
      · have hkey : k'.key ≠ k.key := fun heq => hk (ResourceKind.key_injective heq)
        cases hv : e.payload? k' <;> simp [hv, ih hkinds, hkey, Ne.symm hk]
  rw [members, honly _ (by decide), if_pos (mem_precedence k)]

theorem exists_payload_of_mem_members {m : String × Value} (h : m ∈ e.members) :
    ∃ k, e.payload? k = some m.2 := by
  obtain ⟨k, -, hk⟩ := List.mem_filterMap.mp h
  obtain ⟨v, hv, rfl⟩ := Option.map_eq_some_iff.mp hk
  exact ⟨k, hv⟩

/-! ### What was read -/

/-- An envelope that was read comes from the members of an object. -/
theorem exists_members_of_read (h : codec.ofValue x = .ok e) :
    ∃ ms, x = .object ms ∧ ofMembers ms = e := by
  cases x with
  | object ms => exact ⟨ms, rfl, Except.ok.inj h⟩
  | _ => cases h

/-- What is held for a kind is a member that is not null. -/
theorem mem_of_held? {ms : Members} {k : ResourceKind} {v : Value} (h : held? ms k = some v) :
    (k.key, v) ∈ ms ∧ v.isNull = false := by
  obtain ⟨hget, hnull⟩ := Option.filter_eq_some_iff.mp h
  exact ⟨Members.mem_of_get? hget, by simpa using hnull⟩

theorem filter_payload? (h : codec.ofValue x = .ok e) (k : ResourceKind) :
    (e.payload? k).filter (!·.isNull) = e.payload? k := by
  obtain ⟨ms, -, rfl⟩ := exists_members_of_read h
  rw [payload?_ofMembers, held?, Option.filter_filter]
  simp

/-- What the parts of a value have in common, the resources of its envelope have. -/
theorem forall_payload {P : Value → Prop} (h : codec.ofValue x = .ok e)
    (hparts : ∀ ms, x = .object ms → ∀ m ∈ ms, P m.2) {k : ResourceKind} {v : Value}
    (hv : e.payload? k = some v) : P v := by
  obtain ⟨ms, rfl, rfl⟩ := exists_members_of_read h
  rw [payload?_ofMembers] at hv
  exact hparts ms rfl _ (mem_of_held? hv).1

theorem ordered_payload (hx : x.Ordered) (h : codec.ofValue x = .ok e) {k : ResourceKind}
    {v : Value} (hv : e.payload? k = some v) : v.Ordered :=
  forall_payload h (by rintro ms rfl; cases hx with | object _ hms => exact hms) hv

/-- The resources of an envelope are no deeper in what is written than in what was read. -/
theorem depth_toValue_le (hx : x.depth ≤ Json.maxDepth) (h : codec.ofValue x = .ok e) :
    (codec.toValue e).depth ≤ Json.maxDepth := by
  have hpayload : ∀ k v, e.payload? k = some v → v.depth ≤ Json.maxDepth - 1 := by
    intro k v hv
    refine forall_payload (P := fun v => v.depth ≤ Json.maxDepth - 1) h ?_ hv
    rintro ms rfl
    rw [Value.depth] at hx
    exact Value.membersDepth_le_iff.mp (by omega)
  have hmembers : Value.membersDepth e.members ≤ Json.maxDepth - 1 :=
    Value.membersDepth_le_iff.mpr fun m hm => by
      obtain ⟨k, hk⟩ := exists_payload_of_mem_members hm
      exact hpayload k m.2 hk
  have hpos : 0 < Json.maxDepth := by decide
  change Value.membersDepth e.members + 1 ≤ Json.maxDepth
  omega

/-! ### Reading what is written -/

theorem ofMembers_members (h : codec.ofValue x = .ok e) : ofMembers e.members = e :=
  ext_payload fun k => by
    have hget : Members.get? k.key e.members = e.payload? k := by
      rw [Members.get?_eq_head?, filter_members]
      cases e.payload? k <;> rfl
    rw [payload?_ofMembers, held?, hget, filter_payload? h]

theorem ofMembers_gathered_members (h : codec.ofValue x = .ok e) :
    ofMembers (Members.gathered e.members) = e :=
  ext_payload fun k => by
    have hlast : Members.last? k.key e.members = e.payload? k := by
      rw [Members.last?, filter_members]
      cases e.payload? k <;> rfl
    rw [payload?_gathered, hlast, filter_payload? h]

theorem eachSorted_members (hx : x.Ordered) (h : codec.ofValue x = .ok e) :
    Members.eachSorted e.members = e.members := by
  refine (List.map_congr_left fun m hm => ?_).trans (List.map_id e.members)
  obtain ⟨k, hk⟩ := exists_payload_of_mem_members hm
  rw [(ordered_payload hx h hk).sorted_eq]
  rfl

/-- An envelope is read back from the value that is written for it. -/
theorem ofValue_sorted_toValue (hx : x.Ordered) (h : codec.ofValue x = .ok e) :
    codec.ofValue (codec.toValue e).sorted = .ok e := by
  change codec.ofValue (Value.object e.members).sorted = _
  rw [Value.sorted_object, eachSorted_members hx h]
  exact congrArg Except.ok (ofMembers_gathered_members h)

/-- An envelope without doubles is read back from the text that is written for it. -/
theorem fromText_render (hx : x.Ordered) (h : codec.ofValue x = .ok e)
    (hdouble : ∀ k v, e.payload? k = some v → v.hasDouble = false)
    (hdepth : (codec.toValue e).depth ≤ Json.maxDepth) :
    codec.fromText (codec.render e) = .ok e := by
  have hmembers : (codec.toValue e).hasDouble = false :=
    Value.membersHaveDouble_eq_false_iff.mpr fun m hm => by
      obtain ⟨k, hk⟩ := exists_payload_of_mem_members hm
      exact hdouble k m.2 hk
  rw [fromText_eq_ok_iff_fromValueOf, Json.Codec.fromValueOf, Json.Codec.render,
    Value.parse_render hmembers hdepth, ok_bind, ofValue_sorted_toValue hx h]

/-- The envelope was read from a text, along either route. -/
def IsReadFromText (e : Envelope) : Prop :=
  ∃ s, codec.fromText s = .ok e ∨ codec.fromValueOf s = .ok e

/-- A text gives a value in order, nested no more deeply than its reader goes. -/
theorem IsReadFromText.exists_value (h : e.IsReadFromText) :
    ∃ x : Value, x.Ordered ∧ x.depth ≤ Json.maxDepth ∧ codec.ofValue x = .ok e := by
  obtain ⟨s, h⟩ := h
  rw [fromText_eq_ok_iff_fromValueOf, or_self, Json.Codec.fromValueOf, bind_eq_ok_iff] at h
  obtain ⟨x, hparse, hx⟩ := h
  exact ⟨x, Value.ordered_of_parse hparse, Value.depth_le_of_parse hparse, hx⟩

/-- **An envelope survives being written.**  Whether it was read from a text or from a value, it is
written as an object that has the keys of the kinds with a resource, in order of precedence, and no
null.  It is read back from that object, and, if no resource holds a double, from its text, as
deeply as a text can be nested.  So it classifies every identifier as before, and is written as
before. -/
theorem written_reads_back
    (h : e.IsReadFromText ∨ ∃ x : Value, x.sorted = x ∧ codec.ofValue x = .ok e) :
    (∃ ms, codec.toValue e = .object ms ∧ ms.map (·.1) = e.populated.map (·.key) ∧
      e.populated.Sublist ResourceKind.precedence ∧ ∀ m ∈ ms, m.2 ≠ .null) ∧
    codec.ofValue (codec.toValue e) = .ok e ∧ codec.ofValue (codec.toValue e).sorted = .ok e ∧
    ((∀ k v, e.payload? k = some v → v.hasDouble = false) →
      e.IsReadFromText ∨ (codec.toValue e).depth ≤ Json.maxDepth →
      codec.fromText (codec.render e) = .ok e ∧ codec.fromValueOf (codec.render e) = .ok e) ∧
    ∀ e', codec.ofValue (codec.toValue e).sorted = .ok e' ∨
        ((∀ k v, e.payload? k = some v → v.hasDouble = false) ∧ e.IsReadFromText ∧
          codec.fromText (codec.render e) = .ok e') →
      (∀ identifier, e'.classify identifier = e.classify identifier) ∧
        codec.render e' = codec.render e := by
  have hvalue : ∃ x : Value, x.Ordered ∧ codec.ofValue x = .ok e := by
    rcases h with h | ⟨x, hx, h⟩
    · obtain ⟨x, hx, -, h⟩ := h.exists_value
      exact ⟨x, hx, h⟩
    · exact ⟨x, Value.sorted_eq_iff.mp hx, h⟩
  obtain ⟨x, hx, hread⟩ := hvalue
  have htext : (∀ k v, e.payload? k = some v → v.hasDouble = false) →
      e.IsReadFromText ∨ (codec.toValue e).depth ≤ Json.maxDepth →
      codec.fromText (codec.render e) = .ok e := by
    intro hdouble hdepth
    refine fromText_render hx hread hdouble ?_
    rcases hdepth with hfrom | hdepth
    · obtain ⟨y, -, hy, hready⟩ := hfrom.exists_value
      exact depth_toValue_le hy hready
    · exact hdepth
  refine ⟨⟨e.members, rfl, map_key_members e, List.filter_sublist, fun m hm hnull => ?_⟩,
    congrArg Except.ok (ofMembers_members hread), ofValue_sorted_toValue hx hread,
    fun hdouble hdepth => ?_, fun e' he' => ?_⟩
  · obtain ⟨k, hk⟩ := exists_payload_of_mem_members hm
    have hfilter := filter_payload? hread k
    rw [hk, hnull] at hfilter
    cases hfilter
  · have := htext hdouble hdepth
    exact ⟨this, fromText_eq_ok_iff_fromValueOf.mp this⟩
  · have hsame : e' = e := by
      rcases he' with he' | ⟨hdouble, hfrom, he'⟩
      · exact (Except.ok.inj ((ofValue_sorted_toValue hx hread).symm.trans he')).symm
      · exact (Except.ok.inj ((htext hdouble (.inl hfrom)).symm.trans he')).symm
    exact ⟨fun identifier => by rw [hsame], by rw [hsame]⟩

/-- An object with a null, a control character in a string, the least integer and a member of
another name. -/
def mixedAnswer : Value :=
  .object [("address", .null), ("peer", .array [.string "\x1f\n\""]),
    ("transaction", .number (.whole ⟨-9223372036854775808, by decide, by decide⟩)),
    ("zone", .bool false)]

/-- What is read from it. -/
def mixedEnvelope : Envelope where
  transaction := some (.number (.whole ⟨-9223372036854775808, by decide, by decide⟩))
  peer := some (.array [.string "\x1f\n\""])

theorem written_reads_back_mixed :
    mixedAnswer.sorted = mixedAnswer ∧ codec.ofValue mixedAnswer = .ok mixedEnvelope ∧
      (∃ ms, codec.toValue mixedEnvelope = .object ms ∧
        ms.map (·.1) = mixedEnvelope.populated.map (·.key) ∧
        mixedEnvelope.populated.Sublist ResourceKind.precedence ∧ ∀ m ∈ ms, m.2 ≠ .null) ∧
      codec.ofValue (codec.toValue mixedEnvelope).sorted = .ok mixedEnvelope ∧
      codec.fromText (codec.render mixedEnvelope) = .ok mixedEnvelope := by
  obtain ⟨hshape, -, hvalue, htext, -⟩ :=
    written_reads_back (e := mixedEnvelope) (.inr ⟨mixedAnswer, rfl, rfl⟩)
  have hdouble : ∀ k v, mixedEnvelope.payload? k = some v → v.hasDouble = false := by
    intro k v hv
    cases k <;> cases hv <;> rfl
  exact ⟨rfl, rfl, hshape, hvalue, (htext hdouble (.inr (by decide))).1⟩

end Envelope

end LedgerLookup
