import LedgerLookup.Client.Lookup
import LedgerLookup.Market.ExchangeRates
import LedgerLookup.Proofs.Page
import LedgerLookup.Proofs.Text.Digits
import LedgerLookup.Proofs.Text.Percent
import LedgerLookup.Proofs.Text.Pieces
import Mathlib.Data.List.Basic

/-!
# The URLs of requests read back

What a request asks for can be told from the text of its URL.  After the place that it leads to,
the text is a path and a query, and no piece of either has a mark that a URL is cut at.  So cutting
finds the pieces again, and what comes from a caller in them, a component or a decimal, is read as
what it was written for.

The texts are those that are written; what a reader of URLs makes of segments such as `..` is
another matter.
-/

namespace LedgerLookup

open Text (breakAt cutAt joinWith digits readDigits?)
open Text.Percent (IsComponent decode? decode?_encode encode encode_injective encoded
  isComponent_encode isUnreserved)

/-! ### Pieces -/

/-- What is written of a URL after the place that it leads to, in its pieces: the segments of the
path, the parameters of the query, which may have no value, and the fragment, if there is one. -/
structure Pieces where
  segments : List (List Char)
  parameters : List (List Char × Option (List Char))
  fragment : Option (List Char)
deriving DecidableEq

namespace Pieces

/-- The marks between pieces. -/
def marks : List Char := ['/', '?', '#', '&', '=']

/-- A parameter in its name and its value. -/
def parameter (text : List Char) : List Char × Option (List Char) :=
  let (name, value) := breakAt (· == '=') text
  (name, value.tail?)

/-- A text in its pieces.  The fragment is cut off first, and then the query. -/
def ofText (text : List Char) : Pieces :=
  let (front, fragment) := breakAt (· == '#') text
  let (path, query) := breakAt (· == '?') front
  { segments := cutAt '/' path
    parameters := (query.tail?.map fun query => (cutAt '&' query).map parameter).getD []
    fragment := fragment.tail? }

/-- A path and a query whose parameters all have values. -/
def written (segments : List (List Char)) (parameters : List (List Char × List Char)) :
    List Char :=
  joinWith '/' segments ++ '?' :: joinWith '&' (parameters.map fun p => p.1 ++ '=' :: p.2)

/-- A text is one piece. -/
def Unmarked (cs : List Char) : Prop := ∀ mark ∈ marks, mark ∉ cs

instance (cs : List Char) : Decidable (Unmarked cs) :=
  List.decidableBAll (· ∉ cs) marks

theorem unmarked_encode (cs : List Char) : Unmarked (encode cs) := by
  have hall : marks.all (fun mark => !isUnreserved mark && mark != '%') = true := by decide
  intro mark hmark
  obtain ⟨hreserved, hne⟩ : isUnreserved mark = false ∧ mark ≠ '%' := by
    simpa using List.all_eq_true.mp hall mark hmark
  exact Text.Percent.not_mem_encode hreserved hne cs

theorem unmarked_digits (n : Nat) : Unmarked (digits n) := by
  have hall : marks.all (fun mark => !Text.isDigit mark) = true := by decide
  intro mark hmark hmem
  have hmark : Text.isDigit mark = false := by
    simpa using List.all_eq_true.mp hall mark hmark
  exact Text.ne_of_isDigit (Text.isDigit_of_mem_digits hmem) hmark rfl

theorem parameter_eq {name : List Char} (h : Unmarked name) (value : List Char) :
    parameter (name ++ '=' :: value) = (name, some value) := by
  have hname : ∀ c ∈ name, (c == '=') = false := fun c hc =>
    beq_false_of_ne (ne_of_mem_of_not_mem hc (h '=' (by decide)))
  rw [parameter, Text.breakAt_append_cons hname (beq_self_eq_true '=')]
  rfl

theorem not_mem_parameter {name value : List Char} (hname : Unmarked name)
    (hvalue : Unmarked value) {mark : Char} (hmark : mark ∈ marks) (hne : mark ≠ '=') :
    mark ∉ name ++ '=' :: value := by
  simp only [List.mem_append, List.mem_cons, not_or]
  exact ⟨hname mark hmark, hne, hvalue mark hmark⟩

/-- What is written is found again in its pieces. -/
theorem ofText_written {segments : List (List Char)} {parameters : List (List Char × List Char)}
    (hsegments : segments ≠ []) (hparameters : parameters ≠ [])
    (hpath : ∀ s ∈ segments, Unmarked s)
    (hquery : ∀ p ∈ parameters, Unmarked p.1 ∧ Unmarked p.2) :
    ofText (written segments parameters) =
      { segments, parameters := parameters.map fun p => (p.1, some p.2), fragment := none } := by
  let texts := parameters.map fun p => p.1 ++ '=' :: p.2
  have hinPath : ∀ mark ∈ marks, mark ≠ '/' → mark ∉ joinWith '/' segments :=
    fun mark hmark hne => Text.not_mem_joinWith hne fun s hs => hpath s hs mark hmark
  have hinText : ∀ mark ∈ marks, mark ≠ '=' → ∀ text ∈ texts, mark ∉ text := by
    intro mark hmark hne text htext
    obtain ⟨p, hp, rfl⟩ := List.mem_map.mp htext
    exact not_mem_parameter (hquery p hp).1 (hquery p hp).2 hmark hne
  -- The fragment is looked for in the whole text, and the query before it.
  have hfragment : '#' ∉ written segments parameters := by
    simp only [written, List.mem_append, List.mem_cons, not_or]
    refine ⟨hinPath '#' (by decide) (by decide), by decide, ?_⟩
    exact Text.not_mem_joinWith (by decide) (hinText '#' (by decide) (by decide))
  have hwhole : breakAt (· == '#') (written segments parameters) =
      (written segments parameters, []) :=
    Text.breakAt_of_forall fun c hc => beq_false_of_ne (ne_of_mem_of_not_mem hc hfragment)
  have hmark : ∀ c ∈ joinWith '/' segments, (c == '?') = false := fun c hc =>
    beq_false_of_ne (ne_of_mem_of_not_mem hc (hinPath '?' (by decide) (by decide)))
  have hbreak : breakAt (· == '?') (written segments parameters) =
      (joinWith '/' segments, '?' :: joinWith '&' texts) :=
    Text.breakAt_append_cons hmark (beq_self_eq_true '?') _
  have hslash : cutAt '/' (joinWith '/' segments) = segments :=
    Text.cutAt_joinWith hsegments fun s hs => hpath s hs '/' (by decide)
  have htexts : texts ≠ [] := fun h => hparameters (List.map_eq_nil_iff.mp h)
  have hcut : cutAt '&' (joinWith '&' texts) = texts :=
    Text.cutAt_joinWith htexts (hinText '&' (by decide) (by decide))
  have hvalues : texts.map parameter = parameters.map fun p => (p.1, some p.2) := by
    rw [List.map_map]
    exact List.map_congr_left fun p hp => parameter_eq (hquery p hp).1 p.2
  simp only [ofText, hwhole, hbreak, List.tail?_cons, Option.map_some, Option.getD_some, hslash,
    hcut, hvalues]
  rfl

example : ofText "/a/b?x=1&y#z".toList =
    ⟨["".toList, "a".toList, "b".toList],
      [("x".toList, some "1".toList), ("y".toList, none)], some "z".toList⟩ := by decide

end Pieces

/-! ### Lookups -/

/-- The bound of a window that a parameter with a name gives. -/
def readBound? (name : String) (text : List Char) : Option (Word .u64) := do
  let ds ← (name ++ "=").toList.isPrefixOf? text
  let n ← readDigits? ds
  Word.ofInt? n

/-- The window that a query gives. -/
def readWindow? (query : List Char) : Option Window :=
  match cutAt '&' query with
  | [offset, limit] => do
    return ⟨← readBound? "offset" offset, ← readBound? "limit" limit⟩
  | _ => none

/-- What a URL at an endpoint asks for: the identifier is up to the first question mark, and the
window is after it. -/
def readLookup? (e : Endpoint) (url : String) : Option (String × Window) := do
  let rest ← (e.authority ++ hashPath).toList.isPrefixOf? url.toList
  let (segment, query) := breakAt (· == '?') rest
  let identifier ← decode? segment
  let window ← readWindow? query.tail
  return (String.ofList identifier, window)

theorem readBound?_digits (name : String) (w : Word .u64) :
    readBound? name ((name ++ "=").toList ++ digits w.toNat) = some w := by
  have hrest : (name ++ "=").toList.isPrefixOf? ((name ++ "=").toList ++ digits w.toNat) =
      some (digits w.toNat) := List.isPrefixOf?_eq_some_iff_append_eq.mpr rfl
  have hnonneg : 0 ≤ w.val := w.low_le
  have hval : (w.toNat : Int) = w.val := Int.toNat_of_nonneg hnonneg
  show ((name ++ "=").toList.isPrefixOf? ((name ++ "=").toList ++ digits w.toNat)).bind
    (fun ds => (readDigits? ds).bind fun n => Word.ofInt? n) = some w
  rw [hrest, Option.bind_some, Text.readDigits?_digits, Option.bind_some, hval, Word.ofInt?_val]

theorem readWindow?_query (w : Window) : readWindow? w.query.toList = some w := by
  have hquery : w.query.toList = ("offset" ++ "=").toList ++ digits w.offset.toNat ++
      '&' :: (("limit" ++ "=").toList ++ digits w.limit.toNat) := by
    simp [Window.query, Text.decimal]
  have hplain : ∀ (name : String) (n : Nat), '&' ∉ (name ++ "=").toList →
      '&' ∉ (name ++ "=").toList ++ digits n := by
    intro name n hname hmem
    rcases List.mem_append.mp hmem with h | h
    · exact hname h
    · exact Pieces.unmarked_digits n '&' (by decide) h
  have hcut : cutAt '&' w.query.toList = [("offset" ++ "=").toList ++ digits w.offset.toNat,
      ("limit" ++ "=").toList ++ digits w.limit.toNat] := by
    rw [hquery, Text.cutAt_append (hplain "offset" _ (by decide)),
      Text.cutAt_of_not_mem (hplain "limit" _ (by decide))]
  simp only [readWindow?, hcut, readBound?_digits, Option.pure_def, Option.bind_eq_bind,
    Option.bind_some]

theorem toList_hashUrl (e : Endpoint) (identifier : String) (w : Window) :
    (hashUrl e identifier w).toList =
      (e.authority ++ hashPath).toList ++ (encode identifier.toList ++ '?' :: w.query.toList) := by
  simp [hashUrl, Endpoint.url, encoded]

/-- An identifier and a window are read back from the URL that is requested for them. -/
theorem readLookup?_hashUrl (e : Endpoint) (identifier : String) (w : Window) :
    readLookup? e (hashUrl e identifier w) = some (identifier, w) := by
  have hrest : (e.authority ++ hashPath).toList.isPrefixOf? (hashUrl e identifier w).toList =
      some (encode identifier.toList ++ '?' :: w.query.toList) :=
    List.isPrefixOf?_eq_some_iff_append_eq.mpr (toList_hashUrl e identifier w).symm
  have hsegment : ∀ c ∈ encode identifier.toList, (c == '?') = false := fun c hc =>
    beq_false_of_ne
      (ne_of_mem_of_not_mem hc (Pieces.unmarked_encode identifier.toList '?' (by decide)))
  have hbreak := Text.breakAt_append_cons hsegment (beq_self_eq_true '?') w.query.toList
  simp only [readLookup?, hrest, Option.bind_eq_bind, Option.bind_some, hbreak,
    decode?_encode, List.tail_cons, readWindow?_query, String.ofList_toList, Option.pure_def]

/-- What comes after the place that a lookup leads to. -/
def lookupPieces (identifier : String) (w : Window) : Pieces where
  segments := ["".toList, "explorer".toList, "hash".toList, encode identifier.toList]
  parameters := [("offset".toList, some (digits w.offset.toNat)),
    ("limit".toList, some (digits w.limit.toNat))]
  fragment := none

theorem ofText_lookup (identifier : String) (w : Window) :
    Pieces.ofText (hashPath ++ encoded identifier ++ "?" ++ w.query).toList =
      lookupPieces identifier w := by
  let segments := ["".toList, "explorer".toList, "hash".toList, encode identifier.toList]
  let parameters := [("offset".toList, digits w.offset.toNat),
    ("limit".toList, digits w.limit.toNat)]
  have hsegments : ∀ s ∈ segments, Pieces.Unmarked s := by
    have hwords : ∀ s ∈ ["".toList, "explorer".toList, "hash".toList], Pieces.Unmarked s := by
      decide
    intro s hs
    rcases List.mem_append.mp (show s ∈ ["".toList, "explorer".toList, "hash".toList] ++
      [encode identifier.toList] from hs) with hword | hsegment
    · exact hwords s hword
    · rw [List.mem_singleton.mp hsegment]
      exact Pieces.unmarked_encode _
  have hparameters : ∀ p ∈ parameters, Pieces.Unmarked p.1 ∧ Pieces.Unmarked p.2 := by
    intro p hp
    have hwords : Pieces.Unmarked "offset".toList ∧ Pieces.Unmarked "limit".toList := by decide
    rcases List.mem_pair.mp hp with rfl | rfl
    · exact ⟨hwords.1, Pieces.unmarked_digits _⟩
    · exact ⟨hwords.2, Pieces.unmarked_digits _⟩
  have htext : (hashPath ++ encoded identifier ++ "?" ++ w.query).toList =
      Pieces.written segments parameters := by
    simp [Pieces.written, joinWith, segments, parameters, hashPath, encoded, Window.query,
      Text.decimal]
  rw [htext, Pieces.ofText_written (List.cons_ne_nil _ _) (List.cons_ne_nil _ _) hsegments
    hparameters]
  rfl

/-- No character but an unreserved one or a percent sign comes from the identifier. -/
theorem count_hashUrl {mark : Char} (hreserved : isUnreserved mark = false) (hne : mark ≠ '%')
    (e : Endpoint) (identifier : String) (w : Window) :
    (hashUrl e identifier w).toList.count mark = (hashUrl e "" w).toList.count mark := by
  rw [toList_hashUrl, toList_hashUrl]
  simp only [List.count_append, Text.Percent.count_encode hreserved hne]

/-- **Lookups are read back from their URLs**: what all the URLs of lookups at an endpoint are made
of, and that they are different for different identifiers and windows. -/
structure LookupsReadBack (e : Endpoint) : Prop where
  /-- A URL is the base and the port, the path with the identifier as its last segment, and the two
  bounds. -/
  form : ∀ identifier w,
    hashUrl e identifier w = e.base ++ ":" ++ Text.decimal e.port.toNat ++ "/explorer/hash/" ++
      encoded identifier ++ "?offset=" ++ Text.decimal w.offset.toNat ++ "&limit=" ++
      Text.decimal w.limit.toNat
  /-- The segment consists of unreserved characters and escapes. -/
  segment : ∀ identifier : String, IsComponent (encoded identifier).toList
  /-- The identifier and the window are read back. -/
  read : ∀ identifier w, readLookup? e (hashUrl e identifier w) = some (identifier, w)
  /-- The window of a page that is accepted has its bounds, or 0 and 25 for those that it leaves
  out; the limit is positive. -/
  bounds : ∀ (page : Page) w, page.window = .ok w → page.FilledBy w ∧ 1 ≤ w.limit.val
  /-- No two lookups have the same URL. -/
  injective : ∀ identifier w identifier' w',
    hashUrl e identifier w = hashUrl e identifier' w' → identifier = identifier' ∧ w = w'
  /-- After base and port there are three segments, two parameters and no fragment, whatever the
  identifier is. -/
  pieces : ∀ identifier w, ∃ rest, hashUrl e identifier w = e.authority ++ rest ∧
    Pieces.ofText rest.toList = lookupPieces identifier w
  /-- No character but an unreserved one or a percent sign comes from the identifier, wherever it
  may be in the whole URL. -/
  marks : ∀ mark, isUnreserved mark = false → mark ≠ '%' → ∀ identifier w,
    (hashUrl e identifier w).toList.count mark = (hashUrl e "" w).toList.count mark

/-! ### Rates -/

namespace ExchangeRates

/-- What comes after the base of the oracle. -/
def ratesPieces (currency : String) : Pieces where
  segments := ["".toList, "exchange-rates".toList]
  parameters := [("currency".toList, some (encode currency.toList))]
  fragment := none

theorem ofText_rates (currency : String) :
    Pieces.ofText ("/exchange-rates?currency=" ++ encoded currency).toList =
      ratesPieces currency := by
  let segments := ["".toList, "exchange-rates".toList]
  let parameters := [("currency".toList, encode currency.toList)]
  have hsegments : ∀ s ∈ segments, Pieces.Unmarked s := by decide
  have hparameters : ∀ p ∈ parameters, Pieces.Unmarked p.1 ∧ Pieces.Unmarked p.2 := by
    intro p hp
    have hword : Pieces.Unmarked "currency".toList := by decide
    rw [List.mem_singleton.mp hp]
    exact ⟨hword, Pieces.unmarked_encode _⟩
  have htext : ("/exchange-rates?currency=" ++ encoded currency).toList =
      Pieces.written segments parameters := by
    simp [Pieces.written, joinWith, segments, parameters, encoded]
  rw [htext, Pieces.ofText_written (List.cons_ne_nil _ _) (List.cons_ne_nil _ _) hsegments
    hparameters]
  rfl

theorem toList_ratesUrl (o : ExchangeRates) (currency : String) :
    (o.ratesUrl currency).toList =
      (o.baseUrl ++ "/exchange-rates?currency=").toList ++ encode currency.toList := by
  simp [ratesUrl, encoded]

theorem ratesUrl_injective (o : ExchangeRates) : Function.Injective o.ratesUrl := by
  intro currency currency' h
  have htext := congrArg String.toList h
  rw [toList_ratesUrl, toList_ratesUrl] at htext
  exact String.toList_inj.mp (encode_injective (List.append_cancel_left htext))

theorem count_ratesUrl {mark : Char} (hreserved : isUnreserved mark = false) (hne : mark ≠ '%')
    (o : ExchangeRates) (currency : String) :
    (o.ratesUrl currency).toList.count mark = (o.ratesUrl "").toList.count mark := by
  rw [toList_ratesUrl, toList_ratesUrl]
  simp only [List.count_append, Text.Percent.count_encode hreserved hne]

/-- **Currencies are read back from the URLs of their rates.** -/
structure RatesReadBack (o : ExchangeRates) : Prop where
  /-- A URL is the base, the path, and the currency as the one parameter. -/
  form : ∀ currency, o.ratesUrl currency =
    o.baseUrl ++ "/exchange-rates?" ++ "currency=" ++ encoded currency
  /-- The value consists of unreserved characters and escapes, and is read as the currency. -/
  value : ∀ currency : String, IsComponent (encode currency.toList) ∧
    decode? (encode currency.toList) = some currency.toList
  /-- No two currencies have the same URL. -/
  injective : ∀ currency currency', o.ratesUrl currency = o.ratesUrl currency' →
    currency = currency'
  /-- After the base there are one segment, one parameter and no fragment. -/
  pieces : ∀ currency, ∃ rest, o.ratesUrl currency = o.baseUrl ++ rest ∧
    Pieces.ofText rest.toList = ratesPieces currency
  /-- No character but an unreserved one or a percent sign comes from the currency, wherever it may
  be in the whole URL. -/
  marks : ∀ mark, isUnreserved mark = false → mark ≠ '%' → ∀ currency,
    (o.ratesUrl currency).toList.count mark = (o.ratesUrl "").toList.count mark

end ExchangeRates

theorem hashUrl_reads_back (e : Endpoint) : LookupsReadBack e where
  form identifier w := by
    rw [← String.toList_inj]
    simp [hashUrl, Endpoint.url, Endpoint.authority, Port.text, hashPath, Window.query]
  segment identifier := by
    rw [encoded, String.toList_ofList]
    exact isComponent_encode _
  read := readLookup?_hashUrl e
  bounds page w hw := by
    have hsendable : page.Sendable := Page.sendable_iff.mpr ⟨w, hw⟩
    obtain ⟨w', hw', hfilled⟩ := hsendable.exists_window
    obtain rfl : w' = w := Except.ok.inj (hw'.symm.trans hw)
    refine ⟨hfilled, ?_⟩
    rw [hfilled.limit]
    cases hlimit : page.limit with
    | none => decide
    | some i => exact hsendable.limit i hlimit
  injective identifier w identifier' w' h := by
    have hread : some (identifier, w) = some (identifier', w') := by
      rw [← readLookup?_hashUrl e identifier w, ← readLookup?_hashUrl e identifier' w', h]
    exact Prod.mk.inj (Option.some.inj hread)
  pieces identifier w := ⟨_, rfl, ofText_lookup identifier w⟩
  marks mark hreserved hne identifier w := count_hashUrl hreserved hne e identifier w

theorem ratesUrl_reads_back (o : ExchangeRates) : o.RatesReadBack where
  form currency := by
    rw [← String.toList_inj]
    simp [ExchangeRates.ratesUrl]
  value currency := ⟨isComponent_encode _, decode?_encode _⟩
  injective _ _ h := o.ratesUrl_injective h
  pieces currency := ⟨_, String.append_assoc .., ExchangeRates.ofText_rates currency⟩
  marks mark hreserved hne currency := o.count_ratesUrl hreserved hne currency

/-- **The URLs of requests can be read back**, those of lookups and those of rates. -/
theorem requests_read_back (e : Endpoint) (o : ExchangeRates) :
    LookupsReadBack e ∧ o.RatesReadBack :=
  ⟨hashUrl_reads_back e, ratesUrl_reads_back o⟩

end LedgerLookup
