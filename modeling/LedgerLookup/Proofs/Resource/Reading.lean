import LedgerLookup.Proofs.Resource.Routes

/-!
# Views are read field by field

An object is read as a view exactly when each of its members under the name of a field can be read
as that field is.  Fields that are not written have their empty value, members of other names make
no difference, and neither does the order of the members.  The same holds of the views within a
view, which is said once for all levels by `Content.Fills`.
-/

namespace LedgerLookup.View

open Json (Codec Document IsObjectText Members Value)

/-- What a value is read as, place by place and view by view: a scalar by its codec, a null as
nothing, the items of an array each by itself, an object by what stands under the names of the
fields, the others being empty, and an array as the object of its items under these names in
order. -/
inductive Content.Fills : Content → {α : Type} → Codec α → Value → α → Prop
  | plain {α : Type} {c : Codec α} {x : Value} {a : α} (hc : c.Plain) (h : c.ofValue x = .ok a) :
      Fills .plain c x a
  | null {k : Content} {α : Type} (c : Codec α) : Fills (.option k) c.option .null none
  | some {k : Content} {α : Type} {c : Codec α} {x : Value} {a : α} (hx : x ≠ .null)
      (h : Fills k c x a) : Fills (.option k) c.option x (some a)
  | nil {k : Content} {α : Type} (c : Codec α) : Fills (.list k) c.list (.array []) []
  | cons {k : Content} {α : Type} {c : Codec α} {x : Value} {xs : List Value} {a : α} {as : List α}
      (h : Fills k c x a) (hrest : Fills (.list k) c.list (.array xs) as) :
      Fills (.list k) c.list (.array (x :: xs)) (a :: as)
  | object {v : View} {ms : Members} {s : v.Carrier}
      (hread : ∀ p ∈ v.places, ∀ x, Members.get? p.name ms = .some x →
        Fills (v.content p.name) p.codec x (p.get s))
      (hempty : ∀ p ∈ v.places, Members.get? p.name ms = .none →
        p.get s = p.get v.record.empty) : Fills (.view v) v.record.codec (.object ms) s
  | array {v : View} {items : List Value} {ms : Members} {s : v.Carrier}
      (hitems : v.layout.members? (.array items) = .some ms)
      (h : Fills (.view v) v.record.codec (.object ms) s) :
      Fills (.view v) v.record.codec (.array items) s

variable {α : Type} {k : Content} {c : Codec α} {v : View} {x : Value} {a : α} {ms : Members}

/-! ### All levels at once -/

/-- The members that a value has for a view have distinct keys if the value has. -/
theorem distinctKeys_of_members? (hx : x.DistinctKeys) (h : v.layout.members? x = some ms) :
    (Value.object ms).DistinctKeys := by
  cases hx with
  | object hkeys hvalues =>
    cases h
    exact .object hkeys hvalues
  | array hitems =>
    exact .object (v.layout.nodup_of_members?_array h) fun m hm =>
      hitems _ (v.layout.mem_of_members?_array h hm)
  | _ => cases h

/-- What fills a place is read at it. -/
theorem Content.Fills.ofValue_eq_ok (h : k.Fills c x a) (hx : x.DistinctKeys) :
    c.ofValue x = .ok a := by
  induction h with
  | plain _ h => exact h
  | null c => rfl
  | some hnull _ ih => exact Codec.option_ofValue_eq_ok_iff.mpr (.inr ⟨hnull, _, ih hx, rfl⟩)
  | nil c => rfl
  | cons _ _ ih ihrest =>
    cases hx with
    | array hx =>
      obtain ⟨hx, hxs⟩ := List.forall_mem_cons.mp hx
      exact Codec.list_ofValue_cons_eq_ok_iff.mpr ⟨_, _, ih hx, ihrest (.array hxs), rfl⟩
  | @object v ms s hread hempty ih =>
    cases hx with
    | object hkeys hvalues =>
      refine (v.layout.ofValue_object_eq_ok_iff hkeys).mpr fun p hp => ?_
      cases hget : Members.get? p.name ms with
      | none => exact hempty p hp hget
      | some y => exact ih p hp y hget (hvalues _ (Members.mem_of_get? hget))
  | @array v items ms s hitems h ih =>
    exact v.layout.ofValue_eq_ok_iff.mpr ⟨ms, hitems, ih (distinctKeys_of_members? hx hitems)⟩

/-- What is read at a place fills it. -/
theorem Content.Codes.fills (hc : k.Codes c) (hx : x.DistinctKeys) (h : c.ofValue x = .ok a) :
    k.Fills c x a := by
  induction hc generalizing x with
  | plain hc => exact .plain hc h
  | option _ ih =>
    rcases Codec.option_ofValue_eq_ok_iff.mp h with ⟨rfl, rfl⟩ | ⟨hnull, a, ha, rfl⟩
    · exact .null _
    · exact .some hnull (ih hx ha)
  | list _ ih =>
    cases hx with
    | @array items hx =>
      induction items generalizing a with
      | nil =>
        cases h
        exact .nil _
      | cons y items ihitems =>
        obtain ⟨hy, hitems⟩ := List.forall_mem_cons.mp hx
        obtain ⟨b, rest, hb, hrest, rfl⟩ := Codec.list_ofValue_cons_eq_ok_iff.mp h
        exact .cons (ih hy hb) (ihitems hitems hrest)
    | _ => cases h
  | view v _ ih =>
    have hobject : ∀ ms, (Value.object ms).DistinctKeys →
        v.record.codec.ofValue (.object ms) = .ok a →
          (Content.view v).Fills v.record.codec (.object ms) a := by
      intro ms hms hread
      cases hms with
      | object hkeys hvalues =>
        have htakes := (v.layout.ofValue_object_eq_ok_iff hkeys).mp hread
        refine .object (fun p hp y hy => ?_) fun p hp hnone => ?_
        · have hown := htakes p hp
          rw [hy] at hown
          exact ih p hp (hvalues _ (Members.mem_of_get? hy)) hown
        · have hown := htakes p hp
          rwa [hnone] at hown
    -- an array is read as the object of its items, so that it is filled as that object is
    obtain ⟨ms, hms, hread⟩ := v.layout.ofValue_eq_ok_iff.mp h
    have hfills := hobject ms (distinctKeys_of_members? hx hms) hread
    cases x with
    | object members =>
      cases hms
      exact hfills
    | array items => exact .array hms hfills
    | _ => cases hms

/-! ### Objects -/

/-- The order of the members does not count. -/
theorem ofValue_object_perm (hkeys : (ms.map (·.1)).Nodup) {ms' : Members} (hperm : ms.Perm ms')
    {s : v.Carrier} :
    v.record.codec.ofValue (.object ms') = .ok s ↔ v.record.codec.ofValue (.object ms) = .ok s :=
  v.layout.ofValue_object_congr ((hperm.map _).nodup hkeys) hkeys fun p _ =>
    (Members.get?_congr (Members.filter_key_eq_of_perm hperm hkeys p.name)).symm

/-- Members of names that no field has do not count. -/
theorem ofValue_object_of_filter_eq {ms' : Members}
    (h : (ms'.filter fun m => (v.record.field? m.1).isSome) =
      ms.filter fun m => (v.record.field? m.1).isSome) :
    v.record.codec.ofValue (.object ms') = v.record.codec.ofValue (.object ms) := by
  rw [← Json.Layout.ofValue_object_filter_field? ms', h, Json.Layout.ofValue_object_filter_field?]

/-- The text of an object is read as its members are. -/
theorem fromText_eq_ok_iff_of_isObjectText (hkeys : (ms.map (·.1)).Nodup) {text : String}
    (htext : IsObjectText text ms)
    (honce : (Content.view v).NamesOnce (Document.ofString text).root) {s : v.Carrier} :
    v.record.codec.fromText text = .ok s ↔ v.record.codec.ofValue (.object ms) = .ok s := by
  have hparse : Value.parse text = .ok (.object ms.gathered) :=
    Json.parse_eq_object_iff_written.mpr ⟨ms, htext, rfl⟩
  rw [fromText_eq_ok_iff v hparse honce]
  refine v.layout.ofValue_object_congr (Members.ascending_gathered ms).nodup hkeys fun p _ => ?_
  exact Members.get?_gathered_of_length_le_one (Members.length_filter_key_le_one hkeys p.name)

/-- **A view is read field by field.**  An object in which no key stands twice is read as a view
exactly when every member under the name of a field can be read as that field is.  Each of these
fields has then what was read, at every level of views within views and item by item, and every
other field has its empty value.  Members of other names can come and go without any difference,
and the order of all members can change; members that are taken out leave exactly their fields
empty.  All this holds of a text with these members too, if no name of a field stands twice in what
it is read as. -/
theorem read_field_by_field (v : View) {ms : Members} (hms : (Value.object ms).DistinctKeys) :
    ((∃ s, v.record.codec.ofValue (.object ms) = .ok s) ↔
      ∀ p ∈ v.places, ∀ x, (p.name, x) ∈ ms → ∃ a, p.codec.ofValue x = .ok a) ∧
    (∀ s, v.record.codec.ofValue (.object ms) = .ok s → ∀ p ∈ v.places,
      (∀ x, (p.name, x) ∈ ms → p.codec.ofValue x = .ok (p.get s)) ∧
      (p.name ∉ ms.map (·.1) → p.get s = p.get v.record.empty)) ∧
    (∀ s, v.record.codec.ofValue (.object ms) = .ok s ↔
      (Content.view v).Fills v.record.codec (.object ms) s) ∧
    (∀ p ∈ v.places, Blank p.codec (p.get v.record.empty)) ∧
    (∀ ms' : Members, (ms'.filter fun m => (v.record.field? m.1).isSome) =
        (ms.filter fun m => (v.record.field? m.1).isSome) →
      v.record.codec.ofValue (.object ms') = v.record.codec.ofValue (.object ms)) ∧
    (∀ ms' : Members, ms.Perm ms' → ∀ s,
      v.record.codec.ofValue (.object ms') = .ok s ↔ v.record.codec.ofValue (.object ms) = .ok s) ∧
    (∀ (s : v.Carrier) (keep : String → Bool), v.record.codec.ofValue (.object ms) = .ok s →
      ∃ t, v.record.codec.ofValue (.object (ms.filter fun m => keep m.1)) = .ok t ∧
        ∀ p ∈ v.places, p.get t = if keep p.name then p.get s else p.get v.record.empty) ∧
    ∀ text, IsObjectText text ms → (Content.view v).NamesOnce (Document.ofString text).root →
      ∀ s, v.record.codec.fromText text = .ok s ↔ v.record.codec.ofValue (.object ms) = .ok s := by
  have hkeys : (ms.map (·.1)).Nodup := by
    cases hms with
    | object hkeys _ => exact hkeys
  exact ⟨v.layout.exists_ofValue_object_iff hkeys,
    fun s h p hp => ⟨fun x hx => v.layout.ofValue_eq_ok_of_mem hkeys h hp hx,
      fun hname => v.layout.get_eq_of_not_mem hkeys h hp hname⟩,
    fun s => ⟨v.codes.fills hms, fun h => h.ofValue_eq_ok hms⟩, v.blank_get_empty,
    fun ms' h => ofValue_object_of_filter_eq h, fun ms' hperm s => ofValue_object_perm hkeys hperm,
    fun s keep h => v.layout.exists_ofValue_filter hkeys h keep,
    fun text htext honce s => fromText_eq_ok_iff_of_isObjectText hkeys htext honce⟩

/-- The members of an address with a foreign one among them, an output in part and an output that is
an empty array. -/
def sparseMembers : Members :=
  [("utxos", .array [.object [("time", .number (.whole ⟨4000, by decide, by decide⟩))], .array []]),
    ("colour", .null), ("address", .string "0a")]

/-- The address. -/
def sparseAddress : Address where
  address := "0a"
  utxos := [{ time := ⟨4000, by decide, by decide⟩ }, {}]

theorem distinctKeys_sparseMembers : (Value.object sparseMembers).DistinctKeys := by
  refine .object (by decide) ?_
  simp only [sparseMembers, List.forall_mem_cons, List.not_mem_nil, false_implies, implies_true,
    and_true]
  refine ⟨.array ?_, .null, .string _⟩
  simp only [List.forall_mem_cons, List.not_mem_nil, false_implies, implies_true, and_true]
  exact ⟨.object (by decide) fun m hm => List.mem_singleton.mp hm ▸ .number _,
    .array fun _ h => absurd h List.not_mem_nil⟩

theorem read_field_by_field_sparse :
    (Value.object sparseMembers).DistinctKeys ∧
      address.record.codec.ofValue (.object sparseMembers) = .ok sparseAddress ∧
      (Content.view address).Fills address.record.codec (.object sparseMembers) sparseAddress ∧
      address.record.codec.ofValue (.object sparseMembers.reverse) = .ok sparseAddress ∧
      ∃ t, address.record.codec.ofValue
          (.object (sparseMembers.filter fun m => m.1 != "address")) = .ok t ∧
        ∀ p ∈ address.places, p.get t =
          if p.name != "address" then p.get sparseAddress else p.get address.record.empty := by
  obtain ⟨-, -, hfills, -, -, hperm, htaken, -⟩ :=
    read_field_by_field address distinctKeys_sparseMembers
  have hread : address.record.codec.ofValue (.object sparseMembers) = .ok sparseAddress := rfl
  exact ⟨distinctKeys_sparseMembers, hread, (hfills _).mp hread,
    (hperm _ (List.reverse_perm _).symm _).mpr hread, htaken _ (· != "address") hread⟩

end LedgerLookup.View
