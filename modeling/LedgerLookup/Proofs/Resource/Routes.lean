import LedgerLookup.Proofs.Json.Routes
import LedgerLookup.Proofs.Resource.Layout
import LedgerLookup.Resource.Envelope

/-!
# Payloads read straight and through a value

A payload can be read as a view straight from its text, or from the value that the text was read as
before.  Both give the same view or both fail, as long as no object that is read as a view has a
name of one of its fields twice: straight from the text such an object is refused, whereas its value
has the last of the members only.
-/

namespace LedgerLookup.View

open Json (Codec Document Items Members MemberNodes Node Place Value)

/-! ### What is read as which view -/

/-- An object that is read as a view when a node is read as what may stand at a place. -/
inductive Content.Reads : Content → Node → View → MemberNodes → Prop
  | here (v : View) (members : MemberNodes) : Reads (.view v) (.object members) v members
  | member {v w : View} {members inner : MemberNodes} {f : Json.Field v.Carrier} {node : Node}
      (hf : f ∈ v.record.fields) (hnode : node ∈ members.under f.name)
      (h : Reads (v.content f.name) node w inner) : Reads (.view v) (.object members) w inner
  | element {v w : View} {items : Items} {inner : MemberNodes} {f : Json.Field v.Carrier}
      {node : Node} (hf : (f, node) ∈ v.record.fields.zip items.nodes)
      (h : Reads (v.content f.name) node w inner) : Reads (.view v) (.array items) w inner
  | option {k : Content} {w : View} {inner : MemberNodes} {node : Node}
      (h : Reads k node w inner) : Reads (.option k) node w inner
  | item {k : Content} {w : View} {items : Items} {inner : MemberNodes} {node : Node}
      (hnode : node ∈ items.nodes) (h : Reads k node w inner) :
      Reads (.list k) (.array items) w inner

/-- No object that is read as a view has a name of one of its fields twice. -/
def Content.NamesOnce (k : Content) (n : Node) : Prop :=
  ∀ w inner, k.Reads n w inner → ∀ f ∈ w.record.fields, (inner.under f.name).length ≤ 1

variable {α : Type} {k : Content} {c : Codec α} {v : View} {n : Node}

/-! ### Agreement -/

theorem field_mem_fields {p : Place v.Carrier} (hp : p ∈ v.places) : p.field ∈ v.record.fields := by
  rw [v.layout.fields_eq]
  exact List.mem_map_of_mem hp

theorem field_mem_zip {q : Place v.Carrier × Node} {nodes : List Node}
    (hq : q ∈ v.places.zip nodes) : (q.1.field, q.2) ∈ v.record.fields.zip nodes := by
  rw [v.layout.fields_eq, List.zip_map_left]
  exact List.mem_map_of_mem hq

/-- The two routes agree on what stands at a place. -/
theorem Content.Codes.agreesOn (h : k.Codes c) (honce : k.NamesOnce n) : c.AgreesOn n := by
  induction h generalizing n with
  | plain h => exact h.agreesOn
  | option _ ih =>
    exact (ih fun w inner hread => honce w inner hread.option).option
  | list _ ih =>
    refine Codec.AgreesOn.list fun items hn node hnode => ih fun w inner hread => ?_
    exact honce w inner (hn ▸ .item hnode hread)
  | view v _ ih =>
    refine v.layout.agreesOn (fun members hn p hp => ⟨?_, fun node hnode => ?_⟩)
      fun items hn q hq => ?_
    · exact honce v members (hn ▸ .here v members) p.field (field_mem_fields hp)
    · refine ih p hp fun w inner hread => honce w inner ?_
      exact hn ▸ .member (field_mem_fields hp) hnode hread
    · refine ih q.1 (List.of_mem_zip hq).1 fun w inner hread => honce w inner ?_
      exact hn ▸ .element (field_mem_zip hq) hread

/-- A view that is read straight from a text is read from its value. -/
theorem fromText_eq_ok_iff (v : View) {s : String} {x : Value} (hparse : Value.parse s = .ok x)
    (honce : (Content.view v).NamesOnce (Document.ofString s).root) {a : v.Carrier} :
    v.record.codec.fromText s = .ok a ↔ v.record.codec.ofValue x = .ok a := by
  obtain ⟨hvalue, htrailing⟩ := Json.Document.finish_eq_ok_iff.mp hparse
  rw [Codec.fromText, Codec.ofDocument, Json.Document.finish_eq_ok_iff, and_iff_left htrailing]
  exact v.codes.agreesOn honce x hvalue a

/-- **A payload is read as the same view along both routes.**  Where its text can be read as a value
and no object that is read as a view has a name of a field twice, reading the text straight as a
view and reading it through the value of a resource both succeed with the same view, or both
fail. -/
theorem routes_agree (v : View) (kind : ResourceKind) {s : String} {x : Value}
    (hparse : Value.parse s = .ok x)
    (honce : (Content.view v).NamesOnce (Document.ofString s).root) :
    (∃ a, v.record.codec.fromText s = .ok a ∧
      (Resolved.found kind x).decode? v.record.codec = some (.ok a)) ∨
    ∃ e e', v.record.codec.fromText s = .error e ∧
      (Resolved.found kind x).decode? v.record.codec = some (.error e') := by
  have hiff := fun a => fromText_eq_ok_iff v (a := a) hparse honce
  have hdecode : (Resolved.found kind x).decode? v.record.codec =
      some (v.record.codec.ofValue x) := rfl
  rw [hdecode]
  cases hvalue : v.record.codec.ofValue x with
  | ok a => exact .inl ⟨a, (hiff a).mpr hvalue, rfl⟩
  | error e' =>
    cases htext : v.record.codec.fromText s with
    | ok a =>
      rw [(hiff a).mp htext] at hvalue
      cases hvalue
    | error e => exact .inr ⟨e, e', rfl, rfl⟩

/-- A name of a field that stands twice is refused in a text, and the last member with it stays in a
value. -/
example :
    let text := "\x7b\"trust\":1,\"trust\":2\x7d"
    (trustRating.record.codec.fromText text).toOption.isSome = false ∧
      (trustRating.record.codec.fromValueOf text).toOption.map (·.trust == .ofInt 2) =
        some true := by
  decide +kernel

/-- The text of a peer with two ratings: an object in which a name of no field stands twice, and an
array. -/
def ratingsText : String :=
  "\x7b\"trust\":[\x7b\"trust\":1,\"x\":2,\"x\":3\x7d,[\"a\"]]\x7d"

/-- The members of the object in it. -/
def ratingNodes : MemberNodes :=
  .member ("trust".toList.map .char) (.numeral ⟨false, ['1'], [], none⟩)
    (.member ("x".toList.map .char) (.numeral ⟨false, ['2'], [], none⟩)
      (.member ("x".toList.map .char) (.numeral ⟨false, ['3'], [], none⟩) .closed))

/-- Its tree. -/
def ratingsNode : Node :=
  .object (.member ("trust".toList.map .char)
    (.array (.item (.object ratingNodes)
      (.item (.array (.item (.literal ("a".toList.map .char)) .closed)) .closed))) .closed)

/-- Its value. -/
def ratingsValue : Value :=
  .object [("trust", .array [
    .object [("trust", .number (.whole ⟨1, by decide, by decide⟩)),
      ("x", .number (.whole ⟨3, by decide, by decide⟩))],
    .array [.string "a"]])]

theorem ofString_ratingsText : Document.ofString ratingsText = ⟨ratingsNode, false⟩ := by
  cbv

theorem parse_ratingsText : Value.parse ratingsText = .ok ratingsValue := by
  rw [Value.parse, ofString_ratingsText]
  rfl

theorem not_reads_plain {w : View} {inner : MemberNodes} : ¬Content.plain.Reads n w inner := by
  rintro ⟨⟩

theorem namesOnce_ratingsNode : (Content.view peer).NamesOnce ratingsNode := by
  rintro w inner (⟨_, _⟩ | ⟨hf, hnode, h⟩)
  · decide
  simp only [record, Peer.record, List.mem_cons, List.not_mem_nil, or_false] at hf
  rcases hf with rfl | rfl | rfl
  · exact absurd h not_reads_plain
  · cases hnode
  cases List.mem_singleton.mp hnode
  have hlist : (Content.list (.view trustRating)).Reads _ w inner := h
  rcases hlist with _ | _ | _ | _ | ⟨hitem, hrating⟩
  rcases List.mem_cons.mp hitem with rfl | hitem
  · rcases hrating with ⟨_, _⟩ | ⟨_, _, h⟩
    · decide
    · exact absurd h not_reads_plain
  · cases List.mem_singleton.mp hitem
    rcases hrating with _ | _ | ⟨_, h⟩
    exact absurd h not_reads_plain

theorem routes_agree_ratings :
    Value.parse ratingsText = .ok ratingsValue ∧
      (Content.view peer).NamesOnce (Document.ofString ratingsText).root ∧
      ∃ a, peer.record.codec.fromText ratingsText = .ok a ∧
        (Resolved.found .peer ratingsValue).decode? peer.record.codec = some (.ok a) := by
  have honce : (Content.view peer).NamesOnce (Document.ofString ratingsText).root := by
    rw [ofString_ratingsText]
    exact namesOnce_ratingsNode
  refine ⟨parse_ratingsText, honce, ?_⟩
  rcases routes_agree peer .peer parse_ratingsText honce with hok | ⟨e, e', -, herror⟩
  · exact hok
  · cases herror

end LedgerLookup.View
