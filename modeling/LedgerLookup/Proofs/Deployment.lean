import LedgerLookup.Endpoint
import Mathlib.Data.List.Infix
import Mathlib.Data.List.Pairwise

/-!
# Deployments by their markers

Which deployment a host belongs to, said by what stands in its name.  The table of markers is in the
order of the deployments, so the marker that is found first is one of the least rank among all that
occur.  A name that stands inside another brings its markers along, wherever they are, and so the
longer name belongs to the same deployment or to one that comes before it.
-/

namespace LedgerLookup

/-! ### Occurrence -/

namespace Text

/-- A text stands somewhere in another, as one run of its characters. -/
def StandsIn (part whole : String) : Prop := ∃ front back, whole = front ++ part ++ back

/-- The search finds every occurrence and nothing else. -/
theorem occurs_iff {needle cs : List Char} : occurs needle cs = true ↔ needle <:+: cs := by
  induction cs with
  | nil => rw [occurs, List.isEmpty_iff, List.infix_nil]
  | cons c rest ih =>
    rw [occurs, Bool.or_eq_true, List.isPrefixOf_iff_prefix, ih, List.infix_cons_iff]

theorem standsIn_iff_infix {part whole : String} :
    StandsIn part whole ↔ part.toList <:+: whole.toList := by
  constructor
  · rintro ⟨front, back, rfl⟩
    exact ⟨front.toList, back.toList, by simp⟩
  · rintro ⟨front, back, h⟩
    exact ⟨String.ofList front, String.ofList back, by simp [String.ext_iff, h]⟩

theorem occursIn_iff {part whole : String} : occursIn part whole = true ↔ StandsIn part whole := by
  rw [occursIn, occurs_iff, standsIn_iff_infix]

/-- What stands in a text stands in every longer one around it. -/
theorem StandsIn.around {part whole : String} (h : StandsIn part whole) (front back : String) :
    StandsIn part (front ++ whole ++ back) := by
  obtain ⟨before, after, rfl⟩ := h
  exact ⟨front ++ before, after ++ back, by simp [String.append_assoc]⟩

end Text

/-! ### The first entry of a table -/

/-- In a table in the order of a rank, what is found first has the least rank of all that could have
been found. -/
theorem rank_le_of_find?_eq_some {α : Type} {rank : α → Nat} {p : α → Bool} {table : List α}
    (hsorted : table.Pairwise fun a b => rank a ≤ rank b) {a : α}
    (hfound : table.find? p = some a) :
    ∀ b ∈ table, p b = true → rank a ≤ rank b := by
  induction table with
  | nil => cases hfound
  | cons first rest ih =>
    obtain ⟨hfirst, hrest⟩ := List.pairwise_cons.mp hsorted
    intro b hb hpb
    by_cases hp : p first = true
    · rw [List.find?_cons_of_pos hp] at hfound
      obtain rfl : first = a := Option.some.inj hfound
      rcases List.mem_cons.mp hb with rfl | hb
      · exact le_rfl
      · exact hfirst b hb
    · rw [List.find?_cons_of_neg hp] at hfound
      rcases List.mem_cons.mp hb with rfl | hb
      · exact absurd hpb hp
      · exact ih hrest hfound b hb hpb

namespace Deployment

open Text (StandsIn)

theorem rank_injective : Function.Injective rank := by
  intro d d'
  cases d <;> cases d' <;> decide

theorem rank_le_main (d : Deployment) : d.rank ≤ rank main := by
  cases d <;> decide

theorem markers_sorted : markers.Pairwise fun m m' => m.2.rank ≤ m'.2.rank := by
  decide

/-- A host belongs to a deployment no later than that of any marker in its name. -/
theorem rank_ofHost_le {host : String} {m : String × Deployment} (hm : m ∈ markers)
    (hin : StandsIn m.1 host) : (ofHost host).rank ≤ m.2.rank := by
  have hp : Text.occursIn m.1 host = true := Text.occursIn_iff.mpr hin
  unfold ofHost
  cases hfound : markers.find? fun m => Text.occursIn m.1 host with
  | none => exact absurd hp (List.find?_eq_none.mp hfound m hm)
  | some first => exact rank_le_of_find?_eq_some markers_sorted hfound m hm hp

/-- A host that does not belong to production has a marker of its deployment in its name. -/
theorem exists_marker {host : String} (h : ofHost host ≠ main) :
    ∃ m ∈ markers, StandsIn m.1 host ∧ m.2 = ofHost host := by
  unfold ofHost at h ⊢
  cases hfound : markers.find? fun m => Text.occursIn m.1 host with
  | none => simp [hfound] at h
  | some m =>
    have hp := List.find?_some hfound
    exact ⟨m, List.mem_of_find?_eq_some hfound, Text.occursIn_iff.mp hp, rfl⟩

/-- How far up in the order a host is, by the markers in its name. -/
theorem rank_ofHost_le_iff {host : String} {n : Nat} (hn : n < rank main) :
    (ofHost host).rank ≤ n ↔ ∃ m ∈ markers, m.2.rank ≤ n ∧ StandsIn m.1 host := by
  constructor
  · intro h
    have hne : ofHost host ≠ main := by
      intro hmain
      rw [hmain] at h
      omega
    obtain ⟨m, hm, hin, heq⟩ := exists_marker hne
    exact ⟨m, hm, heq ▸ h, hin⟩
  · rintro ⟨m, hm, hrank, hin⟩
    exact (rank_ofHost_le hm hin).trans hrank

/-- A name around that of a host belongs to a deployment no later than that of the host. -/
theorem rank_ofHost_around (front host back : String) :
    (ofHost (front ++ host ++ back)).rank ≤ (ofHost host).rank := by
  by_cases hmain : ofHost host = main
  · rw [hmain]
    exact rank_le_main _
  · obtain ⟨m, hm, hin, heq⟩ := exists_marker hmain
    rw [← heq]
    exact rank_ofHost_le hm (hin.around front back)

/-! ### The deployments one by one -/

section

variable {host : String}

theorem rank_ofHost_le_zero_iff : (ofHost host).rank ≤ 0 ↔ StandsIn "staging" host := by
  rw [rank_ofHost_le_iff (by decide)]
  simp [markers, rank]

theorem rank_ofHost_le_one_iff :
    (ofHost host).rank ≤ 1 ↔ StandsIn "staging" host ∨ StandsIn "test" host := by
  rw [rank_ofHost_le_iff (by decide)]
  simp [markers, rank]

theorem rank_ofHost_le_two_iff :
    (ofHost host).rank ≤ 2 ↔ StandsIn "staging" host ∨ StandsIn "test" host ∨
      StandsIn "dev" host ∨ StandsIn "localhost" host := by
  rw [rank_ofHost_le_iff (by decide)]
  simp [markers, rank]

end

/-- The deployment and the port of a host are those of the markers in its name. -/
structure FollowsMarkers (host : String) : Prop where
  staging : ofHost host = .staging ↔ StandsIn "staging" host
  test : ofHost host = .test ↔ StandsIn "test" host ∧ ¬ StandsIn "staging" host
  dev : ofHost host = .dev ↔ (StandsIn "dev" host ∨ StandsIn "localhost" host) ∧
    ¬ StandsIn "staging" host ∧ ¬ StandsIn "test" host
  main : ofHost host = .main ↔ ¬ StandsIn "staging" host ∧ ¬ StandsIn "test" host ∧
    ¬ StandsIn "dev" host ∧ ¬ StandsIn "localhost" host
  /-- A locator gives the port that its table holds for the deployment. -/
  port : ∀ l : Locator, let port := (l.locate host).port
    (ofHost host = .staging → port = l.ports.staging) ∧
    (ofHost host = .test → port = l.ports.test) ∧
    (ofHost host = .dev → port = l.ports.dev) ∧
    (ofHost host = .main → port = l.ports.main)
  /-- A longer name around the host never belongs to a later deployment. -/
  around : ∀ front back, (ofHost (front ++ host ++ back)).rank ≤ (ofHost host).rank
  /-- In particular it does not belong to production if the host has a marker. -/
  kept_from_main : ∀ front back, ofHost host ≠ .main → ofHost (front ++ host ++ back) ≠ .main

/-- **Every host follows its markers**, wherever they stand in its name and whatever stands around
them. -/
theorem ofHost_follows_markers (host : String) : FollowsMarkers host where
  staging := by
    rw [← rank_ofHost_le_zero_iff]
    cases ofHost host <;> decide
  test := by
    have hone : (ofHost host).rank ≤ 1 ↔ _ := rank_ofHost_le_one_iff
    have hzero : (ofHost host).rank ≤ 0 ↔ _ := rank_ofHost_le_zero_iff
    cases h : ofHost host <;> simp [h, rank] at hone hzero ⊢ <;> tauto
  dev := by
    have htwo : (ofHost host).rank ≤ 2 ↔ _ := rank_ofHost_le_two_iff
    have hone : (ofHost host).rank ≤ 1 ↔ _ := rank_ofHost_le_one_iff
    cases h : ofHost host <;> simp [h, rank] at htwo hone ⊢ <;> tauto
  main := by
    have htwo : (ofHost host).rank ≤ 2 ↔ _ := rank_ofHost_le_two_iff
    cases h : ofHost host <;> simp [h, rank] at htwo ⊢ <;> tauto
  port := by
    intro l port
    refine ⟨?_, ?_, ?_, ?_⟩ <;> intro h <;> show l.ports.get (ofHost host) = _ <;> rw [h] <;> rfl
  around front back := rank_ofHost_around front host back
  kept_from_main := by
    intro front back hmarked hmain
    have hle := rank_ofHost_around front host back
    rw [hmain] at hle
    exact hmarked (rank_injective (le_antisymm (rank_le_main _) hle))

example : ofHost "attested.localhost" = .test := by decide

end Deployment

end LedgerLookup
