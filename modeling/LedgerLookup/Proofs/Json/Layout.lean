import LedgerLookup.Proofs.Json.Fields
import LedgerLookup.Proofs.Json.Members
import Mathlib.Data.List.Pairwise

/-!
# Records that are laid out in places

The fields of a record address parts of a structure.  Where every field is filled when it is not
written, no two fields address the same part and all of them together make up the structure, a
value is read place by place: a place that is written takes what its codec makes of the value under
its name, the others keep what they have in the empty structure, and the order of the members and
what stands under other names do not count.  An array stands for the object with its items under
the names of the fields in order.
-/

namespace LedgerLookup.Json

variable {σ : Type}

/-! ### Places -/

/-- A part of a structure, with the name and the codec of the field that addresses it. -/
structure Place (σ : Type) where
  {Part : Type}
  name : String
  codec : Codec Part
  get : σ → Part
  set : σ → Part → σ

namespace Place

/-- The field of a place, which is filled when it is not written. -/
def field (p : Place σ) : Field σ :=
  .filled p.name p.codec p.get p.set

@[simp] theorem field_name (p : Place σ) : p.field.name = p.name := rfl

/-- What a place holds in the second structure comes from what was read for it, and from the first
structure if nothing was. -/
def Takes (p : Place σ) (read : Option (Except Error p.Part)) (s s' : σ) : Prop :=
  match read with
  | none => p.get s' = p.get s
  | some result => result = .ok (p.get s')

/-- Writing to one of the places is not seen from the other. -/
def Apart (p q : Place σ) : Prop :=
  (∀ s a, q.get (p.set s a) = q.get s) ∧ ∀ s a, p.get (q.set s a) = p.get s

instance : Std.Symm (Apart : Place σ → Place σ → Prop) :=
  ⟨fun _ _ h => ⟨h.2, h.1⟩⟩

theorem field_ofValue_eq_ok_iff {p : Place σ} {x : Value} {s s' : σ} :
    p.field.ofValue x s = .ok s' ↔ ∃ a, p.codec.ofValue x = .ok a ∧ p.set s a = s' :=
  map_eq_ok_iff

theorem takes_congr {p : Place σ} {read : Option (Except Error p.Part)} {s t s' : σ}
    (h : p.get s = p.get t) : p.Takes read s s' ↔ p.Takes read t s' := by
  cases read with
  | none => rw [Takes, Takes, h]
  | some result => exact Iff.rfl

/-- From the same reading and the same structure a place takes the same. -/
theorem get_eq_of_takes {p : Place σ} {read : Option (Except Error p.Part)} {s t t' : σ}
    (h : p.Takes read s t) (h' : p.Takes read s t') : p.get t = p.get t' := by
  cases read with
  | none => exact Eq.trans h h'.symm
  | some result => exact Except.ok.inj (Eq.trans (Eq.symm h) h')

end Place

/-- What the fields of a list are made of. -/
inductive FilledFields : List (Field σ) → Type 1
  | nil : FilledFields []
  | cons {α : Type} {name : String} {codec : Codec α} {get : σ → α} {set : σ → α → σ}
      {fields : List (Field σ)} (rest : FilledFields fields) :
      FilledFields (.filled name codec get set :: fields)

/-- The places that fields address. -/
def FilledFields.places : {fields : List (Field σ)} → FilledFields fields → List (Place σ)
  | _, .nil => []
  | _, @cons _ _ name codec get set _ rest => ⟨name, codec, get, set⟩ :: rest.places

theorem FilledFields.map_field_places : ∀ {fields : List (Field σ)} (l : FilledFields fields),
    fields = l.places.map Place.field
  | _, .nil => rfl
  | _, .cons rest => congrArg _ rest.map_field_places

/-- A record whose fields are filled when they are not written, address places apart from each
other and together make up the structure. -/
structure Layout (r : Record σ) where
  places : List (Place σ)
  fields_eq : r.fields = places.map Place.field
  nodup : (places.map (·.name)).Nodup
  get_set : ∀ p ∈ places, ∀ s a, p.get (p.set s a) = a
  apart : places.Pairwise Place.Apart
  copy : ∀ s t, places.foldl (fun t p => p.set t (p.get s)) t = s

namespace Layout

variable {r : Record σ} (l : Layout r) {p q : Place σ} {s s' t : σ} {ms : Members}

/-! ### Names -/

include l

theorem name_injective (hp : p ∈ l.places) (hq : q ∈ l.places) (h : p.name = q.name) : p = q :=
  List.inj_on_of_nodup_map l.nodup hp hq h

theorem field?_of_mem (hp : p ∈ l.places) : r.field? p.name = some p.field := by
  rw [Record.field?, l.fields_eq, List.find?_map, Option.map_eq_some_iff]
  refine ⟨p, ?_, rfl⟩
  cases hfind : l.places.find? ((fun f => f.name == p.name) ∘ Place.field) with
  | none =>
    have hnone := List.find?_eq_none.mp hfind p hp
    simp at hnone
  | some q =>
    have hname : q.name = p.name := by
      have hsome := List.find?_some hfind
      simpa using hsome
    rw [l.name_injective (List.mem_of_find?_eq_some hfind) hp hname]

theorem exists_of_field?_eq_some {k : String} {f : Field σ} (h : r.field? k = some f) :
    ∃ p ∈ l.places, p.name = k ∧ p.field = f := by
  obtain ⟨hmem, hname⟩ := Record.of_field?_eq_some h
  rw [l.fields_eq] at hmem
  obtain ⟨p, hp, rfl⟩ := List.mem_map.mp hmem
  exact ⟨p, hp, hname, rfl⟩

theorem ne_of_field?_eq_none {k : String} (h : r.field? k = none) (hp : p ∈ l.places) :
    k ≠ p.name := by
  rintro rfl
  rw [l.field?_of_mem hp] at h
  cases h

/-- Writing to a place is not seen from a place of another name. -/
theorem get_set_of_ne (hp : p ∈ l.places) (hq : q ∈ l.places) (h : p.name ≠ q.name) (s : σ)
    (a : p.Part) : q.get (p.set s a) = q.get s := by
  have hne : p ≠ q := fun heq => h (congrArg Place.name heq)
  have hapart : p.Apart q := l.apart.forall hp hq hne
  exact hapart.1 s a

/-- Structures that agree at every place are the same. -/
theorem ext (h : ∀ p ∈ l.places, p.get s = p.get s') : s = s' := by
  have hcopy : ∀ (ps : List (Place σ)) (t : σ), (∀ p ∈ ps, p.get s = p.get s') →
      ps.foldl (fun t p => p.set t (p.get s)) t = ps.foldl (fun t p => p.set t (p.get s')) t := by
    intro ps t hps
    exact List.foldl_ext _ _ t fun t p hp => by rw [hps p hp]
  rw [← l.copy s s, ← l.copy s' s, hcopy l.places s h]

/-! ### Reading from an object -/

theorem complete_eq (seen : List String) : r.complete seen s = .ok s := by
  have hnone :
      r.fields.find? (fun f => f.absence == .required && !seen.contains f.name) = none := by
    rw [List.find?_eq_none, l.fields_eq, List.forall_mem_map]
    exact fun p _ h => by cases h
  rw [Record.complete, hnone]

omit l in
/-- The members of names that no field has are passed over. -/
theorem ofEntries_filter_field? : ∀ (ms : Members) (seen : List String) (s : σ),
    r.ofEntries (ms.filter fun m => (r.field? m.1).isSome) seen s = r.ofEntries ms seen s
  | [], _, _ => rfl
  | (k, x) :: rest, seen, s => by
    cases hk : r.field? k with
    | none =>
      rw [List.filter_cons_of_neg (by simp [hk]), ofEntries_filter_field? rest, Record.ofEntries,
        hk]
    | some f =>
      rw [List.filter_cons_of_pos (by simp [hk]), Record.ofEntries, Record.ofEntries]
      simp only [hk, ofEntries_filter_field? rest]

omit l in
theorem ofEntries_cons_of_field?_eq_none {k : String} {x : Value} {seen : List String}
    (h : r.field? k = none) : r.ofEntries ((k, x) :: ms) seen s = r.ofEntries ms seen s := by
  rw [Record.ofEntries, h]

/-- The value of a member under the name of a place is written to the place. -/
theorem ofEntries_cons_eq_ok_iff (hp : p ∈ l.places) {x : Value} {seen : List String}
    {result : List String × σ} :
    r.ofEntries ((p.name, x) :: ms) seen s = .ok result ↔
      ∃ a, p.codec.ofValue x = .ok a ∧
        r.ofEntries ms (p.name :: seen) (p.set s a) = .ok result := by
  simp only [Record.ofEntries, l.field?_of_mem hp, bind_eq_ok_iff, Place.field_ofValue_eq_ok_iff]
  constructor
  · rintro ⟨t, ⟨a, ha, rfl⟩, h⟩
    exact ⟨a, ha, h⟩
  · rintro ⟨a, ha, h⟩
    exact ⟨_, ⟨a, ha, rfl⟩, h⟩

/-- Members are read if each of those under the name of a place can be read there. -/
theorem exists_ofEntries_eq_ok : ∀ {ms : Members} (seen : List String) (s : σ),
    (∀ p ∈ l.places, ∀ m ∈ ms, m.1 = p.name → ∃ a, p.codec.ofValue m.2 = .ok a) →
      ∃ result, r.ofEntries ms seen s = .ok result
  | [], seen, s, _ => ⟨(seen, s), rfl⟩
  | (k, x) :: rest, seen, s, h => by
    have hrest : ∀ p ∈ l.places, ∀ m ∈ rest, m.1 = p.name → ∃ a, p.codec.ofValue m.2 = .ok a :=
      fun p hp m hm => h p hp m (List.mem_cons_of_mem _ hm)
    cases hk : r.field? k with
    | none =>
      rw [ofEntries_cons_of_field?_eq_none hk]
      exact exists_ofEntries_eq_ok seen s hrest
    | some f =>
      obtain ⟨p, hp, rfl, -⟩ := l.exists_of_field?_eq_some hk
      obtain ⟨a, ha⟩ := h p hp (p.name, x) List.mem_cons_self rfl
      obtain ⟨result, hread⟩ := exists_ofEntries_eq_ok (p.name :: seen) (p.set s a) hrest
      exact ⟨result, (l.ofEntries_cons_eq_ok_iff hp).mpr ⟨a, ha, hread⟩⟩

/-- Places take from one more member what its own place takes, and then what they take from the
others. -/
theorem takes_cons_iff (hp : p ∈ l.places) {x : Value} (hnone : Members.get? p.name ms = none) :
    (∀ q ∈ l.places,
        q.Takes ((Members.get? q.name ((p.name, x) :: ms)).map q.codec.ofValue) s s') ↔
      ∃ a, p.codec.ofValue x = .ok a ∧
        ∀ q ∈ l.places, q.Takes ((Members.get? q.name ms).map q.codec.ofValue) (p.set s a) s' := by
  have hown : Members.get? p.name ((p.name, x) :: ms) = some x := if_pos rfl
  have hother : ∀ q ∈ l.places, p.name ≠ q.name →
      Members.get? q.name ((p.name, x) :: ms) = Members.get? q.name ms := fun q _ hne => if_neg hne
  constructor
  · intro h
    have ha : p.codec.ofValue x = .ok (p.get s') := by
      have htakes := h p hp
      rwa [hown] at htakes
    refine ⟨p.get s', ha, fun q hq => ?_⟩
    by_cases hname : p.name = q.name
    · obtain rfl := l.name_injective hp hq hname
      rw [hnone]
      exact (l.get_set p hp s _).symm
    · rw [← hother q hq hname]
      exact (Place.takes_congr (l.get_set_of_ne hp hq hname s _)).mpr (h q hq)
  · rintro ⟨a, ha, h⟩ q hq
    by_cases hname : p.name = q.name
    · obtain rfl := l.name_injective hp hq hname
      have hget : p.get s' = a := by
        have htakes := h p hp
        rw [hnone] at htakes
        exact htakes.trans (l.get_set p hp s a)
      rw [hown]
      exact ha.trans (congrArg Except.ok hget.symm)
    · rw [hother q hq hname]
      exact (Place.takes_congr (l.get_set_of_ne hp hq hname s a)).mp (h q hq)

/-- **Members in which no name stands twice are read place by place.** -/
theorem ofEntries_eq_ok_iff : ∀ {ms : Members} (seen : List String) {s s' : σ},
    (∀ p ∈ l.places, (ms.filter (·.1 = p.name)).length ≤ 1) →
      ((∃ seen', r.ofEntries ms seen s = .ok (seen', s')) ↔
        ∀ p ∈ l.places, p.Takes ((Members.get? p.name ms).map p.codec.ofValue) s s')
  | [], seen, s, s', _ => by
    simp only [Record.ofEntries, Except.ok.injEq, Prod.mk.injEq, exists_eq_left', Members.get?,
      Option.map_none, Place.Takes]
    exact ⟨fun h p _ => by rw [h], fun h => l.ext fun p hp => (h p hp).symm⟩
  | (k, x) :: rest, seen, s, s', hkeys => by
    have hrest : ∀ p ∈ l.places, (rest.filter (·.1 = p.name)).length ≤ 1 := fun p hp =>
      Nat.le_trans ((List.sublist_cons_self _ _).filter _).length_le (hkeys p hp)
    cases hk : r.field? k with
    | none =>
      have hget : ∀ p ∈ l.places, Members.get? p.name ((k, x) :: rest) = Members.get? p.name rest :=
        fun p hp => if_neg (l.ne_of_field?_eq_none hk hp)
      rw [forall₂_congr fun p hp => by rw [hget p hp], ofEntries_cons_of_field?_eq_none hk]
      exact ofEntries_eq_ok_iff seen hrest
    | some f =>
      obtain ⟨p, hp, rfl, -⟩ := l.exists_of_field?_eq_some hk
      have hnone : Members.get? p.name rest = none := by
        have hlength := hkeys p hp
        rw [List.filter_cons_of_pos (by simp), List.length_cons] at hlength
        have hempty : rest.filter (·.1 = p.name) = [] := List.length_eq_zero_iff.mp (by omega)
        rw [Members.get?_eq_head?, hempty]
        rfl
      -- the other members are read into the structure that this one has left
      simp only [l.takes_cons_iff hp hnone, l.ofEntries_cons_eq_ok_iff hp,
        ← ofEntries_eq_ok_iff (p.name :: seen) hrest]
      exact exists_comm.trans (exists_congr fun a => exists_and_left)

/-- An object is read into the structure that its members are read into. -/
theorem codec_ofValue_object_eq_ok_iff :
    r.codec.ofValue (.object ms) = .ok s ↔ ∃ seen, r.ofEntries ms [] r.empty = .ok (seen, s) := by
  simp only [Record.codec, bind_eq_ok_iff, Prod.exists, l.complete_eq, Except.ok.injEq]
  exact exists_congr fun seen => exists_eq_right

/-- **An object in which no name stands twice is read place by place.** -/
theorem ofValue_object_eq_ok_iff (hkeys : (ms.map (·.1)).Nodup) :
    r.codec.ofValue (.object ms) = .ok s ↔
      ∀ p ∈ l.places, p.Takes ((Members.get? p.name ms).map p.codec.ofValue) r.empty s :=
  l.codec_ofValue_object_eq_ok_iff.trans
    (l.ofEntries_eq_ok_iff [] fun p _ => Members.length_filter_key_le_one hkeys p.name)

section Object

variable (hkeys : (ms.map (·.1)).Nodup)

include hkeys

theorem ofValue_eq_ok_of_mem (h : r.codec.ofValue (.object ms) = .ok s) (hp : p ∈ l.places)
    {x : Value} (hx : (p.name, x) ∈ ms) : p.codec.ofValue x = .ok (p.get s) := by
  have htakes := (l.ofValue_object_eq_ok_iff hkeys).mp h p hp
  rwa [(Members.get?_eq_some_iff hkeys).mpr hx] at htakes

/-- An object is read if and only if each of its members under the name of a place can be read
there. -/
theorem exists_ofValue_object_iff :
    (∃ s, r.codec.ofValue (.object ms) = .ok s) ↔
      ∀ p ∈ l.places, ∀ x, (p.name, x) ∈ ms → ∃ a, p.codec.ofValue x = .ok a := by
  constructor
  · rintro ⟨s, h⟩ p hp x hx
    exact ⟨p.get s, l.ofValue_eq_ok_of_mem hkeys h hp hx⟩
  · intro h
    obtain ⟨⟨seen, s⟩, hread⟩ := l.exists_ofEntries_eq_ok [] r.empty fun p hp m hm hname =>
      h p hp m.2 (hname ▸ hm)
    exact ⟨s, l.codec_ofValue_object_eq_ok_iff.mpr ⟨seen, hread⟩⟩

theorem get_eq_of_not_mem (h : r.codec.ofValue (.object ms) = .ok s) (hp : p ∈ l.places)
    (hname : p.name ∉ ms.map (·.1)) : p.get s = p.get r.empty := by
  have htakes := (l.ofValue_object_eq_ok_iff hkeys).mp h p hp
  rwa [Members.get?_eq_none_iff.mpr hname] at htakes

/-- Only what stands under the names of the places counts. -/
theorem ofValue_object_congr {ms' : Members} (hkeys' : (ms'.map (·.1)).Nodup)
    (h : ∀ p ∈ l.places, Members.get? p.name ms = Members.get? p.name ms') :
    r.codec.ofValue (.object ms) = .ok s ↔ r.codec.ofValue (.object ms') = .ok s := by
  rw [l.ofValue_object_eq_ok_iff hkeys, l.ofValue_object_eq_ok_iff hkeys']
  exact forall₂_congr fun p hp => by rw [h p hp]

/-- An object from which members are taken out is still read, and the places that are no longer
written are as in the empty structure. -/
theorem exists_ofValue_filter (h : r.codec.ofValue (.object ms) = .ok s) (keep : String → Bool) :
    ∃ t, r.codec.ofValue (.object (ms.filter fun m => keep m.1)) = .ok t ∧
      ∀ p ∈ l.places, p.get t = if keep p.name then p.get s else p.get r.empty := by
  have hkept : ((ms.filter fun m => keep m.1).map (·.1)).Nodup :=
    hkeys.sublist (List.filter_sublist.map _)
  obtain ⟨t, ht⟩ := (l.exists_ofValue_object_iff hkept).mpr fun p hp x hx =>
    (l.exists_ofValue_object_iff hkeys).mp ⟨s, h⟩ p hp x (List.mem_of_mem_filter hx)
  refine ⟨t, ht, fun p hp => ?_⟩
  have hs := (l.ofValue_object_eq_ok_iff hkeys).mp h p hp
  have ht := (l.ofValue_object_eq_ok_iff hkept).mp ht p hp
  rw [Members.get?_filter] at ht
  cases hkeep : keep p.name with
  | false =>
    rw [hkeep] at ht
    exact ht
  | true =>
    rw [hkeep, if_pos rfl] at ht
    exact Place.get_eq_of_takes ht hs

end Object

omit l in
/-- Members of names that no field has never count, not even for the failure. -/
theorem ofValue_object_filter_field? (ms : Members) :
    r.codec.ofValue (.object (ms.filter fun m => (r.field? m.1).isSome)) =
      r.codec.ofValue (.object ms) := by
  simp only [Record.codec, ofEntries_filter_field?]

/-! ### Reading from an array -/

/-- The members that a value has for a record: those of an object, and the items of an array under
the names of the fields in order, of which there may not be fewer. -/
def members? : Value → Option Members
  | .object ms => some ms
  | .array items =>
    if items.length ≤ l.places.length then some ((l.places.map (·.name)).zip items) else none
  | _ => none

/-- The items of an array stand under different names. -/
theorem nodup_of_members?_array {items : List Value} (h : l.members? (.array items) = some ms) :
    (ms.map (·.1)).Nodup := by
  have hsub : ∀ (names : List String) (items : List Value),
      ((names.zip items).map (·.1)).Sublist names := by
    intro names
    induction names with
    | nil => exact fun _ => List.Sublist.refl _
    | cons name names ih =>
      intro items
      cases items with
      | nil => exact List.nil_sublist _
      | cons x items => exact (ih items).cons_cons name
  rw [members?] at h
  split at h
  · cases h
    exact l.nodup.sublist (hsub _ _)
  · cases h

theorem mem_of_members?_array {items : List Value} (h : l.members? (.array items) = some ms)
    {m : String × Value} (hm : m ∈ ms) : m.2 ∈ items := by
  rw [members?] at h
  split at h
  · cases h
    exact (List.of_mem_zip hm).2
  · cases h

omit l in
theorem finishArray_eq {ps : List (Place σ)} (count : Nat) :
    r.finishArray count (ps.map Place.field) s = .ok s := by
  have hnone : (ps.map Place.field).findIdx? (·.absence != .filled) = none := by
    rw [List.findIdx?_eq_none_iff, List.forall_mem_map]
    exact fun _ _ => rfl
  rw [Record.finishArray, hnone]

theorem ofElements_eq_ok_iff {size : Nat} : ∀ {ps : List (Place σ)} {items : List Value}
    {count : Nat} (seen : List String) {s s' : σ}, (∀ p ∈ ps, p ∈ l.places) →
      (r.ofElements size count (ps.map Place.field) items s = .ok s' ↔
        items.length ≤ ps.length ∧
          ∃ seen', r.ofEntries ((ps.map (·.name)).zip items) seen s = .ok (seen', s'))
  | [], [], _, _, _, _, _ => by simp [Record.ofElements, Record.ofEntries]
  | [], _ :: _, _, _, _, _, _ => by simp [Record.ofElements]
  | p :: ps, [], count, _, s, _, _ => by
    rw [List.map_cons, Record.ofElements, ← List.map_cons, finishArray_eq]
    simp [Record.ofEntries]
  | p :: ps, x :: items, count, seen, s, s', hps => by
    obtain ⟨hp, hps⟩ := List.forall_mem_cons.mp hps
    simp only [List.map_cons, List.zip_cons_cons, Record.ofElements, bind_eq_ok_iff,
      Place.field_ofValue_eq_ok_iff, l.ofEntries_cons_eq_ok_iff hp, List.length_cons,
      Nat.add_le_add_iff_right]
    constructor
    · rintro ⟨t, ⟨a, ha, rfl⟩, h⟩
      obtain ⟨hlength, seen', h⟩ := (ofElements_eq_ok_iff (p.name :: seen) hps).mp h
      exact ⟨hlength, seen', a, ha, h⟩
    · rintro ⟨hlength, seen', a, ha, h⟩
      exact ⟨_, ⟨a, ha, rfl⟩, (ofElements_eq_ok_iff _ hps).mpr ⟨hlength, seen', h⟩⟩

/-- **A value is read as the object with the members that it has for the record.** -/
theorem ofValue_eq_ok_iff {x : Value} :
    r.codec.ofValue x = .ok s ↔
      ∃ ms, l.members? x = some ms ∧ r.codec.ofValue (.object ms) = .ok s := by
  cases x with
  | object ms => simp [members?]
  | array items =>
    have helements : r.codec.ofValue (.array items) =
        r.ofElements items.length 0 (l.places.map Place.field) items r.empty := by
      rw [← l.fields_eq]
      rfl
    rw [helements, l.ofElements_eq_ok_iff [] fun _ hp => hp, members?]
    by_cases hlength : items.length ≤ l.places.length
    · simp [hlength, l.codec_ofValue_object_eq_ok_iff]
    · simp [hlength]
  | null | bool b | number n | string t => simp [members?, Record.codec, refuse]

end Layout

end LedgerLookup.Json
