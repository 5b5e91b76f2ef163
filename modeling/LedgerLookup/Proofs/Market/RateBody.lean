import LedgerLookup.Proofs.Json.Fields
import LedgerLookup.Proofs.Json.Document
import LedgerLookup.Proofs.Market.Rates

/-!
# Bodies of rates

Where the rate for a currency stands in an answer of the exchange-rates oracle.  By name it is under
the currency in `rates` in `data`; each of the two outer objects may also be written as an array of
its fields.  Nothing else in a body is ever taken for a rate.
-/

namespace LedgerLookup

open Json
open Http (RawReply)

namespace ExchangeRates

/-! ### Where a rate stands -/

/-- What stands for the data of an answer: the only member of that name, or the only item. -/
inductive HoldsData : Node → Node → Prop
  | member {members : MemberNodes} {data : Node} (h : members.under "data" = [data]) :
      HoldsData (.object members) data
  | item {data : Node} : HoldsData (.array (.item data .closed)) data

/-- What stands for the rates in the data: the only member of that name, or the second and last
item. -/
inductive HoldsRates : Node → MemberNodes → Prop
  | member {members rates : MemberNodes} (h : members.under "rates" = [.object rates]) :
      HoldsRates (.object members) rates
  | item {currency : Node} {rates : MemberNodes} :
      HoldsRates (.array (.item currency (.item (.object rates) .closed))) rates

/-- The string under a currency, the last one if there are several. -/
def HoldsRate (rates : MemberNodes) (quote raw : String) : Prop :=
  ∃ units, (rates.under quote).getLast? = some (.literal units) ∧ Node.readLiteral units = .ok raw

/-- The text of a rate in an answer. -/
def GivesRate (quote : String) (answer : Node) (raw : String) : Prop :=
  ∃ data rates, HoldsData answer data ∧ HoldsRates data rates ∧ HoldsRate rates quote raw

/-- The text of a rate in an answer that is written with names throughout. -/
def NamesRate (quote : String) (answer : Node) (raw : String) : Prop :=
  ∃ members data rates, answer = .object members ∧ members.under "data" = [.object data] ∧
    data.under "rates" = [.object rates] ∧ HoldsRate rates quote raw

/-- The answer or its data is an array. -/
def IsArrayed (answer : Node) : Prop :=
  (∃ items, answer = .array items) ∨
    ∃ members items, answer = .object members ∧ members.under "data" = [.array items]

theorem GivesRate.names_or_arrayed {quote raw : String} {answer : Node}
    (h : GivesRate quote answer raw) : NamesRate quote answer raw ∨ IsArrayed answer := by
  obtain ⟨data, rates, hdata, hrates, hrate⟩ := h
  cases hdata with
  | item => exact .inr (.inl ⟨_, rfl⟩)
  | member hdata =>
    cases hrates with
    | item => exact .inr (.inr ⟨_, _, rfl, hdata⟩)
    | member hrates => exact .inl ⟨_, _, rates, rfl, hdata, hrates, hrate⟩

/-! ### Reading -/

variable {node : Node} {quote : String}

theorem reads_data : RateAnswer.record.Reads "data" (·.data) RateTable.record.codec where
  own := by
    refine ⟨_, rfl, fun h => ?_⟩
    obtain ⟨table, htable, rfl⟩ := Field.make_ofNode_eq_ok h
    exact htable
  others := by
    intro f hf hname
    rw [RateAnswer.record, List.mem_singleton] at hf
    subst hf
    exact absurd rfl hname

theorem reads_rates : RateTable.record.Reads "rates" (·.rates) (.dictionary .string) where
  own := by
    refine ⟨_, rfl, fun h => ?_⟩
    obtain ⟨rates, hrates, rfl⟩ := Field.make_ofNode_eq_ok h
    exact hrates
  others := by
    intro f hf hname node s s' h
    simp only [RateTable.record, List.mem_cons, List.not_mem_nil, or_false] at hf
    rcases hf with rfl | rfl
    · obtain ⟨currency, -, rfl⟩ := Field.make_ofNode_eq_ok h
      rfl
    · exact absurd rfl hname

/-- The data of an answer that can be read. -/
theorem exists_holdsData {answer : RateAnswer}
    (h : RateAnswer.record.codec.ofNode node = .ok answer) :
    ∃ data, HoldsData node data ∧ RateTable.record.codec.ofNode data = .ok answer.data := by
  rcases Record.codec_ofNode_eq_ok h with
    ⟨members, seen, rfl, hmembers, hrequired⟩ | ⟨items, rfl, hitems⟩
  · rcases reads_data.read hmembers List.not_mem_nil with ⟨-, -, hunseen⟩ | ⟨data, hunder, hdata⟩
    · exact absurd (hrequired _ List.mem_cons_self rfl) hunseen
    · exact ⟨data, .member hunder, hdata⟩
  · rcases Record.ofItems_cons_eq_ok hitems with ⟨-, hfinish⟩ | ⟨data, rest, t, rfl, hdata, hrest⟩
    · cases (Record.finishArray_eq_ok hfinish).2 _ List.mem_cons_self
    · obtain ⟨table, htable, rfl⟩ := Field.make_ofNode_eq_ok hdata
      obtain ⟨rfl, rfl⟩ := Record.ofItems_nil_eq_ok hrest
      exact ⟨data, .item, htable⟩

/-- The rates in the data, of which there are none unless some are written. -/
theorem exists_holdsRates {table : RateTable} (h : RateTable.record.codec.ofNode node = .ok table) :
    table.rates = [] ∨ ∃ rates, HoldsRates node rates ∧
      Codec.string.membersOfNodes rates [] = .ok table.rates := by
  rcases Record.codec_ofNode_eq_ok h with ⟨members, seen, rfl, hmembers, -⟩ | ⟨items, rfl, hitems⟩
  · rcases reads_rates.read hmembers List.not_mem_nil with ⟨-, hrates, -⟩ | ⟨rates, hunder, hrates⟩
    · exact .inl hrates
    · obtain ⟨rates, rfl, hentries⟩ := Codec.dictionary_ofNode_eq_ok hrates
      exact .inr ⟨rates, .member hunder, hentries⟩
  · rcases Record.ofItems_cons_eq_ok hitems with ⟨-, hfinish⟩ | ⟨_, rest, t, rfl, hcurrency, hrest⟩
    · rw [(Record.finishArray_eq_ok hfinish).1]
      exact .inl rfl
    obtain ⟨currency, -, rfl⟩ := Field.make_ofNode_eq_ok hcurrency
    rcases Record.ofItems_cons_eq_ok hrest with ⟨-, hfinish⟩ | ⟨_, rest, t, rfl, hrates, hend⟩
    · rw [(Record.finishArray_eq_ok hfinish).1]
      exact .inl rfl
    obtain ⟨entries, hentries, rfl⟩ := Field.make_ofNode_eq_ok hrates
    obtain ⟨rates, rfl, hentries⟩ := Codec.dictionary_ofNode_eq_ok hentries
    obtain ⟨rfl, rfl⟩ := Record.ofItems_nil_eq_ok hend
    exact .inr ⟨rates, .item, hentries⟩

/-- What a body comes to: it cannot be read, it has no rate for the currency, or it gives one, which
is then the price. -/
theorem readRate_by_shape (base quote : String) (body : List UInt8) :
    readRate base quote body = .error unreadable ∨
      readRate base quote body = .error (.currencyNotFound (base ++ "/" ++ quote)) ∨
      ∃ raw, GivesRate quote (Document.ofBytes body).root raw ∧
        (Document.ofBytes body).trailing = false ∧
        readRate base quote body =
          (parseRate raw).map fun price => { base, quote, price, source := id } := by
  cases hdecode : RateAnswer.record.codec.ofDocument (.ofBytes body) with
  | error err => exact .inl (readRate_of_undecodable hdecode)
  | ok answer =>
    cases hlookup : answer.data.rates.lookup quote with
    | none => exact .inr (.inl (readRate_of_no_rate hdecode hlookup))
    | some raw =>
      refine .inr (.inr ⟨raw, ?_, (Document.finish_eq_ok_iff.mp hdecode).2,
        readRate_of_rate hdecode hlookup⟩)
      obtain ⟨data, hdata, htable⟩ := exists_holdsData (Document.finish_eq_ok_iff.mp hdecode).1
      rcases exists_holdsRates htable with hnone | ⟨rates, hrates, hentries⟩
      · rw [hnone] at hlookup
        cases hlookup
      · refine ⟨data, rates, hdata, hrates, ?_⟩
        rcases Codec.lookup_membersOfNodes hentries quote with
          ⟨-, hnone⟩ | ⟨last, text, hlast, htext, hsome⟩
        · rw [hnone] at hlookup
          cases hlookup
        · rw [hsome, Option.some.injEq] at hlookup
          subst hlookup
          obtain ⟨units, rfl, hunits⟩ := Codec.string_ofNode_eq_ok_iff.mp htext
          exact ⟨units, hlast, hunits⟩

/-! ### Shapes -/

variable {reply : RawReply}

/-- **A price comes from a body of one of four shapes.**  It is the rate of the string under the
currency in the rates in the data of the answer.  They stand there by name unless the answer or the
data is an array.  A body of any other shape is unreadable or has no rate for the currency. -/
theorem readReply_by_shape (base quote : String) (h : Http.isSuccess reply.status = true) :
    (∀ rate, readReply base quote reply = .ok rate → ∃ body raw,
      reply.body = some body ∧ GivesRate quote (Document.ofBytes body).root raw ∧
        (NamesRate quote (Document.ofBytes body).root raw ∨
          IsArrayed (Document.ofBytes body).root) ∧
        (Document.ofBytes body).trailing = false ∧ parseRate raw = .ok rate.price ∧
        rate = { base, quote, price := rate.price, source := id }) ∧
    ((∀ body raw, reply.body = some body → ¬ GivesRate quote (Document.ofBytes body).root raw) →
      readReply base quote reply = .error (.refused id none "error decoding response body") ∨
        readReply base quote reply = .error (.currencyNotFound (base ++ "/" ++ quote))) := by
  rw [readReply_of_success h]
  cases reply.body with
  | none => exact ⟨nofun, fun _ => .inl rfl⟩
  | some body =>
    dsimp only
    rcases readRate_by_shape base quote body with hread | hread | ⟨raw, hgives, hend, hread⟩
    · rw [hread]
      exact ⟨nofun, fun _ => .inl rfl⟩
    · rw [hread]
      exact ⟨nofun, fun _ => .inr rfl⟩
    · refine ⟨fun rate hrate => ?_, fun hno => absurd hgives (hno body raw rfl)⟩
      rw [hread] at hrate
      obtain ⟨price, hprice, rfl⟩ := map_eq_ok_iff.mp hrate
      exact ⟨body, raw, rfl, hgives, hgives.names_or_arrayed, hend, hprice, rfl⟩

/-- The answer of a success with a body. -/
def answerOf (body : String) : RawReply :=
  ⟨"http://[::1]/", 200, some (Text.Utf8.encode body.toList)⟩

/-- An answer that is written with names. -/
def namedAnswer : RawReply :=
  answerOf "\x7b\"data\":\x7b\"rates\":\x7b\"USD\":\"1\"\x7d\x7d\x7d"

/-- The same answer as arrays. -/
def arrayAnswer : RawReply :=
  answerOf "[[\"BTC\",\x7b\"USD\":\"1\"\x7d]]"

theorem readReply_by_shape_named :
    Http.isSuccess namedAnswer.status = true ∧
      ∃ rate, readReply "BTC" "USD" namedAnswer = .ok rate ∧
      ∃ body raw, namedAnswer.body = some body ∧ GivesRate "USD" (Document.ofBytes body).root raw ∧
        (NamesRate "USD" (Document.ofBytes body).root raw ∨
          IsArrayed (Document.ofBytes body).root) ∧
        (Document.ofBytes body).trailing = false ∧ parseRate raw = .ok rate.price ∧
        rate = { base := "BTC", quote := "USD", price := rate.price, source := id } := by
  have hsuccess : Http.isSuccess namedAnswer.status = true := by decide
  have hread : readReply "BTC" "USD" namedAnswer =
      .ok ⟨"BTC", "USD", ⟨false, 1, 0, by decide, by decide⟩, id⟩ := by decide +kernel
  exact ⟨hsuccess, _, hread, (readReply_by_shape "BTC" "USD" hsuccess).1 _ hread⟩

/-- **Arrays are taken for an answer.**  No rate stands in them by name, and there is a price all
the same. -/
theorem readReply_of_arrays :
    (∃ rate, readReply "BTC" "USD" arrayAnswer = .ok rate) ∧
      ∃ body, arrayAnswer.body = some body ∧
        ∀ raw, ¬ NamesRate "USD" (Document.ofBytes body).root raw := by
  have hread : readReply "BTC" "USD" arrayAnswer =
      .ok ⟨"BTC", "USD", ⟨false, 1, 0, by decide, by decide⟩, id⟩ := by decide +kernel
  refine ⟨⟨_, hread⟩, _, rfl, ?_⟩
  rintro raw ⟨members, data, rates, hroot, -⟩
  have hform : (Document.ofBytes (Text.Utf8.encode
      "[[\"BTC\",\x7b\"USD\":\"1\"\x7d]]".toList)).root.form = .ok .array := by decide +kernel
  rw [hroot] at hform
  cases hform

end ExchangeRates

end LedgerLookup
