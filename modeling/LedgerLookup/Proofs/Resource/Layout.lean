import LedgerLookup.Proofs.Json.Codec
import LedgerLookup.Proofs.Json.Layout
import LedgerLookup.Resource.View

/-!
# How views are laid out

Every view is a record laid out in places.  A place holds a scalar, which may be missing, or other
views: one, one that may be missing, or a list of them.  No view holds itself, so what holds of the
scalars and is handed on from the places of a record to the record holds of every view.
-/

namespace LedgerLookup

open Json (Codec FilledFields Layout Members Place Value)

namespace View

/-! ### Places -/

/-- What the fields of a view are made of. -/
def filledFields (v : View) : FilledFields v.record.fields := by
  cases v <;> repeat first | exact .nil | refine .cons ?_

theorem get_set (v : View) : ∀ p ∈ v.filledFields.places, ∀ s a, p.get (p.set s a) = a := by
  cases v <;>
    repeat first
      | exact List.forall_mem_nil _
      | refine List.forall_mem_cons.mpr ⟨fun _ _ => rfl, ?_⟩

theorem apart (v : View) : v.filledFields.places.Pairwise Place.Apart := by
  cases v <;>
    repeat first
      | exact List.Pairwise.nil
      | exact List.forall_mem_nil _
      | refine List.pairwise_cons.mpr ⟨?_, ?_⟩
      | refine List.forall_mem_cons.mpr ⟨⟨fun _ _ => rfl, fun _ _ => rfl⟩, ?_⟩

/-- The places of a view. -/
def layout (v : View) : Layout v.record where
  places := v.filledFields.places
  fields_eq := v.filledFields.map_field_places
  nodup := by cases v <;> decide
  get_set := v.get_set
  apart := v.apart
  copy := by cases v <;> exact fun _ _ => rfl

/-- The places of a view. -/
abbrev places (v : View) : List (Place v.Carrier) := v.layout.places

/-! ### Views in views -/

/-- Which views stand at a place. -/
inductive Content where
  | plain
  | view (v : View)
  | option (k : Content)
  | list (k : Content)
deriving DecidableEq

/-- The fields of a view that hold other views. -/
def contents : View → List (String × Content)
  | transaction => [
      ("info", .view transactionSummary), ("signers", .list (.view peerSignature)),
      ("inputs", .list (.view transactionInput)), ("outputs", .list (.view transactionOutput)),
      ("swap_info", .option (.view swapLeg))]
  | peerSignature => [("nodes", .list (.view nodeSignature))]
  | address => [
      ("recent_transactions", .list (.view transactionSummary)),
      ("utxos", .list (.view unspentOutput)),
      ("incoming_transactions", .list (.view transactionSummary)),
      ("outgoing_transactions", .list (.view transactionSummary))]
  | observation => [("observations", .list (.view observationEntry))]
  | peerNode => [("recent_observations", .list (.view observation))]
  | peer => [("nodes", .list (.view peerNode)), ("trust", .list (.view trustRating))]
  | externalTransaction => [("event", .view partyEvent), ("swap_info", .option (.view swapLeg))]
  | _ => []

/-- What stands at the place of a name. -/
def content (v : View) (name : String) : Content :=
  (v.contents.lookup name).getD .plain

/-- The codec reads and writes such contents. -/
inductive Content.Codes : Content → {α : Type} → Codec α → Prop
  | plain {α : Type} {c : Codec α} (h : c.Plain) : Codes .plain c
  | option {k : Content} {α : Type} {c : Codec α} (h : Codes k c) : Codes (.option k) c.option
  | list {k : Content} {α : Type} {c : Codec α} (h : Codes k c) : Codes (.list k) c.list
  | view (v : View) (h : ∀ p ∈ v.places, Codes (v.content p.name) p.codec) :
      Codes (.view v) v.record.codec

/-- How deep views stand in a view. -/
def rank : View → Nat
  | peerSignature | address | observation | externalTransaction => 1
  | transaction | peerNode => 2
  | peer => 3
  | _ => 0

/-- Every place of a view has a codec for what stands there. -/
theorem codes_places (v : View) : ∀ p ∈ v.places, (v.content p.name).Codes p.codec := by
  have nested : ∀ w : View, w.rank < v.rank → Content.Codes (.view w) w.record.codec :=
    fun w _ => .view w w.codes_places
  -- one place after another: a scalar, or views in which views stand less deep
  cases v <;>
    repeat first
      | exact List.forall_mem_nil _
      | refine List.forall_mem_cons.mpr ⟨?_, ?_⟩
      | exact .plain (by repeat constructor)
      | exact .list (nested _ (by decide))
      | exact .option (nested _ (by decide))
      | exact nested _ (by decide)
termination_by v.rank

theorem codes (v : View) : Content.Codes (.view v) v.record.codec :=
  .view v v.codes_places

/-! ### Empty values -/

/-- The value that a codec has for what is not written: empty, null or nothing, zero, false, or the
view with such values at all its places. -/
inductive Blank : {α : Type} → Codec α → α → Prop
  | string : Blank .string ""
  | bool : Blank .bool false
  | double : Blank .double .zero
  | word (w : Width) : Blank (.word w) .zero
  | option {α : Type} (c : Codec α) : Blank c.option none
  | list {α : Type} (c : Codec α) : Blank c.list []
  | view (v : View) : Blank v.record.codec v.record.empty

theorem blank_get_empty (v : View) : ∀ p ∈ v.places, Blank p.codec (p.get v.record.empty) := by
  cases v <;>
    repeat first
      | exact List.forall_mem_nil _
      | refine List.forall_mem_cons.mpr ⟨?_, ?_⟩
      | exact .view transactionSummary
      | exact .view partyEvent
      | constructor

end View

end LedgerLookup
