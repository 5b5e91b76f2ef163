import LedgerLookup.Config
import LedgerLookup.Page
import LedgerLookup.Proofs.Json.Recovery

/-!
# Settings that survive JSON

Settings, port tables and pages are read from the JSON that is written for them.  Of that JSON any
members may be left out, also of the ports within the settings: what is left out has its standard
value then, and everything else is as before.
-/

namespace LedgerLookup

open Json (Codec Layout Members Place Record Value)

/-! ### Port tables -/

namespace Ports

/-- The places of a port table. -/
def layout : Layout record where
  places := [
    ⟨"staging", .word .u16, (·.staging), ({ · with staging := · })⟩,
    ⟨"test", .word .u16, (·.test), ({ · with test := · })⟩,
    ⟨"dev", .word .u16, (·.dev), ({ · with dev := · })⟩,
    ⟨"main", .word .u16, (·.main), ({ · with main := · })⟩]
  fields_eq := rfl
  nodup := by decide
  get_set := by simp
  apart := by simp [Place.Apart]
  copy := fun _ _ => rfl

/-- A port table with the standard ports in place of those that are not kept. -/
def keeping (keep : String → Bool) (ports : Ports) : Ports where
  staging := if keep "staging" then ports.staging else standard.staging
  test := if keep "test" then ports.test else standard.test
  dev := if keep "dev" then ports.dev else standard.dev
  main := if keep "main" then ports.main else standard.main

theorem get_keeping (keep : String → Bool) (ports : Ports) : ∀ p ∈ layout.places,
    p.get (ports.keeping keep) = if keep p.name then p.get ports else p.get standard := by
  simp [layout, keeping]

theorem readsWritten_only (keep : String → Bool) (ports : Ports) :
    record.codec.ReadsWritten 1 ((record.codec.toValue ports).only keep) (ports.keeping keep) := by
  rw [layout.only_toValue]
  refine layout.readsWritten (get_keeping keep ports) ?_
  simp only [layout, List.forall_mem_cons]
  exact ⟨Codec.readsWritten_word 0 _, Codec.readsWritten_word 0 _, Codec.readsWritten_word 0 _,
    Codec.readsWritten_word 0 _, List.forall_mem_nil _⟩

end Ports

/-! ### Settings -/

namespace Config

/-- The places of the settings. -/
def layout : Layout record where
  places := [
    ⟨"base_url", .string, (·.baseUrl), ({ · with baseUrl := · })⟩,
    ⟨"ports", Ports.record.codec, (·.ports), ({ · with ports := · })⟩,
    ⟨"oracle_url", .string, (·.oracleUrl), ({ · with oracleUrl := · })⟩,
    ⟨"request_timeout_ms", .word .u64, (·.requestTimeoutMs), ({ · with requestTimeoutMs := · })⟩]
  fields_eq := rfl
  nodup := by decide
  get_set := by simp
  apart := by simp [Place.Apart]
  copy := fun _ _ => rfl

/-- The settings with standard ones in place of those that are not kept, of the ports as well. -/
def keeping (keep keepPort : String → Bool) (c : Config) : Config where
  baseUrl := if keep "base_url" then c.baseUrl else standard.baseUrl
  ports := if keep "ports" then c.ports.keeping keepPort else standard.ports
  oracleUrl := if keep "oracle_url" then c.oracleUrl else standard.oracleUrl
  requestTimeoutMs :=
    if keep "request_timeout_ms" then c.requestTimeoutMs else standard.requestTimeoutMs

/-- The JSON that is written for the settings without the members that are not kept, of the ports as
well. -/
def keptJson (keep keepPort : String → Bool) (c : Config) : Value :=
  ((record.codec.toValue c).modify "ports" (·.only keepPort)).only keep

theorem readsWritten_keptJson (keep keepPort : String → Bool) (c : Config) :
    record.codec.ReadsWritten 2 (c.keptJson keep keepPort) (c.keeping keep keepPort) := by
  have hget : ∀ p ∈ layout.places, p.get (c.keeping keep keepPort) = if keep p.name
      then p.get { c with ports := c.ports.keeping keepPort } else p.get standard := by
    simp [layout, keeping]
  rw [keptJson, layout.only_modify_toValue]
  refine layout.readsWritten hget ?_
  simp only [layout, List.forall_mem_cons]
  exact ⟨Codec.readsWritten_string 1 _, Ports.readsWritten_only keepPort c.ports,
    Codec.readsWritten_string 1 _, Codec.readsWritten_word 1 _, List.forall_mem_nil _⟩

end Config

/-! ### Pages -/

namespace Page

/-- The places of a page.  In an object a bound that is left out counts like one that is null. -/
def layout : Layout record.filled where
  places := [
    ⟨"offset", .option (.word .i64), (·.offset), ({ · with offset := · })⟩,
    ⟨"limit", .option (.word .i64), (·.limit), ({ · with limit := · })⟩]
  fields_eq := rfl
  nodup := by decide
  get_set := by simp
  apart := by simp [Place.Apart]
  copy := fun _ _ => rfl

/-- A page without the bounds that are not kept. -/
def keeping (keep : String → Bool) (page : Page) : Page where
  offset := if keep "offset" then page.offset else none
  limit := if keep "limit" then page.limit else none

theorem get_keeping (keep : String → Bool) (page : Page) : ∀ p ∈ layout.places,
    p.get (page.keeping keep) = if keep p.name then p.get page else p.get {} := by
  simp [layout, keeping]

theorem readsWritten_only (keep : String → Bool) (page : Page) :
    record.codec.ReadsWritten 1 ((record.codec.toValue page).only keep) (page.keeping keep) := by
  rw [← record.toValue_filled, layout.only_toValue]
  refine Record.readsWritten_of_filled (by decide) (layout.readsWritten (get_keeping keep page) ?_)
  simp only [layout, List.forall_mem_cons]
  exact ⟨Codec.readsWritten_option_word 0 _, Codec.readsWritten_option_word 0 _,
    List.forall_mem_nil _⟩

end Page

/-! ### All of them -/

/-- What becomes of settings, of a port table and of a page on the way through JSON. -/
structure SurviveJson (c : Config) (ports : Ports) (page : Page) : Prop where
  /-- Settings are written with a member for each of them. -/
  written : Config.record.codec.toValue c = .object [
    ("base_url", .string c.baseUrl), ("ports", Ports.record.codec.toValue c.ports),
    ("oracle_url", .string c.oracleUrl),
    ("request_timeout_ms", .number (.ofWord c.requestTimeoutMs))]
  /-- They are read back. -/
  recovers : Config.record.codec.Recovers (Config.record.codec.toValue c) c
  /-- Whatever is left out, at the top or among the ports, is standard then, and the rest is as it
  was. -/
  recovers_kept : ∀ keep keepPort : String → Bool,
    Config.record.codec.Recovers (c.keptJson keep keepPort) (c.keeping keep keepPort)
  /-- A port table is written with a member for each deployment. -/
  written_ports : Ports.record.codec.toValue ports = .object [
    ("staging", .number (.ofWord ports.staging)), ("test", .number (.ofWord ports.test)),
    ("dev", .number (.ofWord ports.dev)), ("main", .number (.ofWord ports.main))]
  /-- It is read back. -/
  recovers_ports : Ports.record.codec.Recovers (Ports.record.codec.toValue ports) ports
  /-- A port that is left out is standard then. -/
  recovers_kept_ports : ∀ keep : String → Bool,
    Ports.record.codec.Recovers ((Ports.record.codec.toValue ports).only keep) (ports.keeping keep)
  /-- A page is written with a member for either bound, null for one that it does not have. -/
  written_page : Page.record.codec.toValue page = .object [
    ("offset", (page.offset.map fun i => .number (.ofWord i)).getD .null),
    ("limit", (page.limit.map fun i => .number (.ofWord i)).getD .null)]
  /-- It is read back. -/
  recovers_page : Page.record.codec.Recovers (Page.record.codec.toValue page) page
  /-- A page does not have a bound that is left out. -/
  recovers_kept_page : ∀ keep : String → Bool,
    Page.record.codec.Recovers ((Page.record.codec.toValue page).only keep) (page.keeping keep)

/-- **Settings, port tables and pages survive JSON**, whole and in part. -/
theorem survive_json (c : Config) (ports : Ports) (page : Page) : SurviveJson c ports page where
  written := rfl
  recovers := by
    have hread := Config.readsWritten_keptJson (fun _ => true) (fun _ => true) c
    have hwhole : c.keptJson (fun _ => true) (fun _ => true) = Config.record.codec.toValue c := by
      simp only [Config.keptJson, Value.only_true, Value.modify_self]
    rw [hwhole] at hread
    exact hread.recovers (by decide)
  recovers_kept keep keepPort := (Config.readsWritten_keptJson keep keepPort c).recovers (by decide)
  written_ports := rfl
  recovers_ports := by
    have hread := Ports.readsWritten_only (fun _ => true) ports
    rw [Value.only_true] at hread
    exact hread.recovers (by decide)
  recovers_kept_ports keep := (Ports.readsWritten_only keep ports).recovers (by decide)
  written_page := by
    obtain ⟨offset, limit⟩ := page
    cases offset <;> cases limit <;> rfl
  recovers_page := by
    have hread := Page.readsWritten_only (fun _ => true) page
    rw [Value.only_true] at hread
    exact hread.recovers (by decide)
  recovers_kept_page keep := (Page.readsWritten_only keep page).recovers (by decide)

end LedgerLookup
