import LedgerLookup.Client.Lookup
import Mathlib.Data.List.DropRight

/-!
# Bases and endpoints

A base is kept without the slashes at its end, by the locator and once more by every endpoint.
Taking them away a second time changes nothing, so an endpoint that is found through a locator is
the one that is made from the base as it was given; and two bases come to the same exactly when they
differ in slashes at their ends only.
-/

namespace LedgerLookup

namespace Text

/-- Slashes and nothing else. -/
def slashes (n : Nat) : String := String.ofList (List.replicate n '/')

/-- Two texts differ in slashes at their ends only. -/
def SameButSlashes (s t : String) : Prop :=
  ∃ front m n, s = front ++ slashes m ∧ t = front ++ slashes n

theorem toList_withoutTrailingSlashes (s : String) :
    (withoutTrailingSlashes s).toList = s.toList.rdropWhile (· == '/') :=
  String.toList_ofList

/-- Slashes at the end do not count, however many there are. -/
theorem withoutTrailingSlashes_append_slashes (s : String) (n : Nat) :
    withoutTrailingSlashes (s ++ slashes n) = withoutTrailingSlashes s := by
  induction n with
  | zero => rw [slashes, List.replicate_zero, String.ofList_nil, String.append_empty]
  | succ n ih =>
    rw [← ih, String.ext_iff, toList_withoutTrailingSlashes, toList_withoutTrailingSlashes]
    simp only [slashes, String.toList_append, String.toList_ofList, List.replicate_succ']
    rw [← List.append_assoc, List.rdropWhile_concat_pos _ _ _ (by decide)]

/-- What is taken away is slashes. -/
theorem exists_eq_append_slashes (s : String) :
    ∃ n, s = withoutTrailingSlashes s ++ slashes n := by
  have hback : s.toList.rtakeWhile (· == '/') =
      List.replicate (s.toList.rtakeWhile (· == '/')).length '/' := by
    refine List.eq_replicate_iff.mpr ⟨rfl, fun c hc => ?_⟩
    simpa using List.mem_rtakeWhile_imp hc
  refine ⟨(s.toList.rtakeWhile (· == '/')).length, ?_⟩
  rw [String.ext_iff, String.toList_append, toList_withoutTrailingSlashes, slashes,
    String.toList_ofList, ← hback]
  exact List.rdropWhile_append_rtakeWhile.symm

theorem withoutTrailingSlashes_idem (s : String) :
    withoutTrailingSlashes (withoutTrailingSlashes s) = withoutTrailingSlashes s := by
  rw [String.ext_iff, toList_withoutTrailingSlashes, toList_withoutTrailingSlashes]
  exact List.rdropWhile_idempotent _ _

/-- All of them are taken away. -/
theorem withoutTrailingSlashes_ne_append_slash (s front : String) :
    withoutTrailingSlashes s ≠ front ++ "/" := by
  intro h
  have hlist := congrArg String.toList h
  rw [toList_withoutTrailingSlashes] at hlist
  have hne : s.toList.rdropWhile (· == '/') ≠ [] := by simp [hlist]
  have hlast := List.rdropWhile_last_not (· == '/') s.toList hne
  simp [hlist] at hlast

theorem sameButSlashes_iff {s t : String} :
    SameButSlashes s t ↔ withoutTrailingSlashes s = withoutTrailingSlashes t := by
  constructor
  · rintro ⟨front, m, n, rfl, rfl⟩
    rw [withoutTrailingSlashes_append_slashes, withoutTrailingSlashes_append_slashes]
  · intro h
    obtain ⟨m, hm⟩ := exists_eq_append_slashes s
    obtain ⟨n, hn⟩ := exists_eq_append_slashes t
    exact ⟨withoutTrailingSlashes s, m, n, hm, h ▸ hn⟩

end Text

open Text (SameButSlashes)

/-- What a locator finds is what its base and the port of the deployment make. -/
theorem Locator.locate_ofBase (base : String) (ports : Ports) (host : String) :
    (Locator.ofBase base ports).locate host = .ofBase base (ports.get (.ofHost host)) := by
  unfold locate ofBase Endpoint.ofBase
  rw [Text.withoutTrailingSlashes_idem]

theorem hashUrl_eq_base_append (e : Endpoint) (identifier : String) (w : Window) :
    hashUrl e identifier w = e.base ++ (":" ++ e.port.text ++ "/explorer/hash/" ++
      Text.Percent.encoded identifier ++ "?" ++ w.query) := by
  simp only [hashUrl, Endpoint.url, Endpoint.authority, hashPath, String.append_assoc]

/-- Two bases lead to the same place exactly when they differ in slashes at their ends only. -/
theorem hashUrl_ofBase_eq_iff {base base' : String} (port : Port) (identifier : String)
    (w : Window) :
    hashUrl (.ofBase base port) identifier w = hashUrl (.ofBase base' port) identifier w ↔
      SameButSlashes base base' := by
  rw [Text.sameButSlashes_iff]
  constructor
  · intro h
    rw [hashUrl_eq_base_append, hashUrl_eq_base_append] at h
    exact (String.append_left_inj _).mp h
  · intro h
    unfold Endpoint.ofBase
    rw [h]

/-- The URL of a lookup at the endpoint of a base: the base without its slashes, the port, and one
slash before the path. -/
theorem exists_hashUrl_ofBase_eq (base : String) (port : Port) (identifier : String) (w : Window) :
    ∃ front n, base = front ++ Text.slashes n ∧ (∀ s, front ≠ s ++ "/") ∧
      hashUrl (.ofBase base port) identifier w =
        front ++ ":" ++ Text.decimal port.toNat ++ "/" ++ "explorer/hash/" ++
          Text.Percent.encoded identifier ++ "?" ++ w.query := by
  obtain ⟨n, hn⟩ := Text.exists_eq_append_slashes base
  refine ⟨_, n, hn, Text.withoutTrailingSlashes_ne_append_slash base, ?_⟩
  have hslash : "/explorer/hash/" = "/" ++ "explorer/hash/" := by decide
  rw [hashUrl_eq_base_append, hslash]
  simp only [Endpoint.ofBase, Port.text, String.append_assoc]

end LedgerLookup
