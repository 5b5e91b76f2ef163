import LedgerLookup.Proofs.Results
import LedgerLookup.Proofs.Text.Digits
import LedgerLookup.Proofs.Url.Path
import LedgerLookup.Url.Reader
import Mathlib.Data.Option.Basic

/-!
# Reading a URL that is continued

A text that is read as the address of a host and nothing else can be continued with a path and a
query.  The longer text is read as the same address with that path and query.
-/

namespace LedgerLookup.Url

open Text (breakAt append_of_breakAt breakAt_append_of_broken breakAt_append_of_unbroken)

/-! ### The text before its parts -/

theorem filter_eq_self_of_not_blank {cs : List Char} (h : ∀ c ∈ cs, 0x20 < c.toNat) :
    cs.filter (fun c => decide (c ≠ '\t' ∧ c ≠ '\n' ∧ c ≠ '\r')) = cs := by
  refine List.filter_eq_self.mpr fun c hc => ?_
  have := h c hc
  simp only [decide_eq_true_eq]
  refine ⟨?_, ?_, ?_⟩ <;> rintro rfl <;> exact absurd this (by decide)

/-- Blanks are dropped at the ends of a text, so none are where it ends in something else. -/
theorem cleaned_append_singleton {last : Char} (h : 0x20 < last.toNat) (front : List Char) :
    cleaned (front ++ [last]) =
      ((front ++ [last]).dropWhile fun c => c.toNat ≤ 0x20).filter
        fun c => c ≠ '\t' ∧ c ≠ '\n' ∧ c ≠ '\r' := by
  have hlast : ¬ last.toNat ≤ 0x20 := by omega
  obtain ⟨kept, hkept⟩ := Text.exists_dropWhile_append_singleton
    (p := fun c => decide (c.toNat ≤ 0x20)) (by simpa using hlast) front
  simp [cleaned, hkept, hlast]

/-- What a text ends in is kept, unless it is a blank. -/
theorem exists_cleaned_append_singleton {last : Char} (h : 0x20 < last.toNat) (front : List Char) :
    ∃ kept, cleaned (front ++ [last]) = kept ++ [last] := by
  have hlast : ¬ last.toNat ≤ 0x20 := by omega
  obtain ⟨kept, hkept⟩ := Text.exists_dropWhile_append_singleton
    (p := fun c => decide (c.toNat ≤ 0x20)) (by simpa using hlast) front
  have hfilter := filter_eq_self_of_not_blank (List.forall_mem_singleton.mpr h)
  rw [cleaned_append_singleton h, hkept, List.filter_append, hfilter]
  exact ⟨_, rfl⟩

/-- A text that ends in something else than a blank can be continued. -/
theorem cleaned_append {front rest : List Char} {last : Char} (hlast : 0x20 < last.toNat)
    (hrest : ∀ c ∈ rest, 0x20 < c.toNat) :
    cleaned (front ++ [last] ++ rest) = cleaned (front ++ [last]) ++ rest := by
  have hne : (front ++ [last]).dropWhile (fun c => decide (c.toNat ≤ 0x20)) ≠ [] := by
    intro hnil
    have := List.dropWhile_eq_nil_iff.mp hnil last (by simp)
    simp at this
    omega
  have hfilter := filter_eq_self_of_not_blank hrest
  rcases List.eq_nil_or_concat rest with rfl | ⟨front', last', rfl⟩
  · simp
  · have hlast' : 0x20 < last'.toNat := hrest last' (by simp)
    rw [List.concat_eq_append] at hfilter ⊢
    rw [cleaned_append_singleton hlast, ← List.append_assoc, cleaned_append_singleton hlast',
      List.append_assoc _ front', List.dropWhile_append, if_neg (by simpa using hne),
      List.filter_append, hfilter]

theorem readScheme?_eq_some_iff {cs scheme rest : List Char} :
    readScheme? cs = some (scheme, rest) ↔
      ∃ name first colon, breakAt (· == ':') cs = (name, colon :: rest) ∧
        name.head? = some first ∧
        (first.isAlpha ∧ name.all fun c => c.isAlphanum || c == '+' || c == '-' || c == '.') ∧
        name.map lower = scheme := by
  unfold readScheme?
  rcases breakAt (· == ':') cs with ⟨name, back⟩
  cases back with
  | nil => cases hhead : name.head? <;> simp [hhead]
  | cons colon back =>
    cases hhead : name.head? with
    | none => simp [hhead]
    | some first =>
      simp only [hhead, Option.ite_none_right_eq_some, Option.some.injEq, Prod.mk.injEq,
        List.cons.injEq]
      constructor
      · rintro ⟨hname, hscheme, rfl⟩
        exact ⟨name, first, colon, ⟨rfl, rfl, rfl⟩, hhead, hname, hscheme⟩
      · rintro ⟨_, _, _, ⟨rfl, rfl, rfl⟩, hhead', hname, hscheme⟩
        obtain rfl := Option.some.inj (hhead.symm.trans hhead')
        exact ⟨hname, hscheme, rfl⟩

/-- What follows the colon of a scheme can be continued. -/
theorem readScheme?_append {cs scheme rest : List Char} (h : readScheme? cs = some (scheme, rest))
    (more : List Char) : readScheme? (cs ++ more) = some (scheme, rest ++ more) := by
  obtain ⟨name, first, colon, hbreak, hname⟩ := readScheme?_eq_some_iff.mp h
  exact readScheme?_eq_some_iff.mpr
    ⟨name, first, colon, breakAt_append_of_broken hbreak more, hname⟩

/-- What follows the colon of a scheme stands at the end of the text. -/
theorem suffix_of_readScheme? {cs scheme rest : List Char}
    (h : readScheme? cs = some (scheme, rest)) : rest <:+ cs := by
  obtain ⟨name, first, colon, hbreak, -⟩ := readScheme?_eq_some_iff.mp h
  rw [append_of_breakAt hbreak]
  exact (List.suffix_cons colon rest).trans (List.suffix_append name _)

/-- There is neither query nor fragment only where nothing is left to read. -/
theorem eq_nil_of_readTail {special : Bool} {rest front tail : List Char}
    (hbreak : breakAt (fun c => c == '?' || c == '#') rest = (front, tail))
    (h : readTail special tail = (none, none)) : tail = [] := by
  cases tail with
  | nil => rfl
  | cons c tail =>
    have hmark := Text.head_of_breakAt hbreak
    simp only [Bool.or_eq_true, beq_iff_eq] at hmark
    rcases hmark with rfl | rfl
    · simp [readTail, breakAt] at h
    · simp [readTail, breakAt] at h

/-! ### Authorities -/

theorem append_of_cutAtPort {inBrackets : Bool} {cs host port : List Char}
    (h : cutAtPort inBrackets cs = (host, port)) : cs = host ++ port := by
  induction cs generalizing inBrackets host with
  | nil => simp_all [cutAtPort]
  | cons c cs ih =>
    rw [cutAtPort] at h
    split_ifs at h with hc
    · obtain ⟨rfl, rfl⟩ := Prod.mk.inj h
      rfl
    · obtain ⟨rfl, rfl⟩ := Prod.mk.inj h
      rw [List.cons_append, ← ih rfl]

theorem cutAtPort_port {inBrackets : Bool} {cs host port : List Char}
    (h : cutAtPort inBrackets cs = (host, port)) : port = [] ∨ ∃ digits, port = ':' :: digits := by
  induction cs generalizing inBrackets host with
  | nil => simp_all [cutAtPort]
  | cons c cs ih =>
    rw [cutAtPort] at h
    split_ifs at h with hc
    · obtain ⟨-, rfl⟩ := Prod.mk.inj h
      exact Or.inr ⟨cs, by rw [hc.1]⟩
    · obtain ⟨-, rfl⟩ := Prod.mk.inj h
      exact ih rfl

/-- Only a backslash can follow a port. -/
theorem readPort?_rest {usual port : Option Nat} {digits rest : List Char}
    (h : readPort? usual (':' :: digits) = some (port, rest)) :
    rest = [] ∨ '\\' ∈ digits := by
  rw [readPort?] at h
  rcases hbreak : breakAt (fun c => !Text.isDigit c) digits with ⟨ds, back⟩
  simp only [hbreak, Option.ite_none_left_eq_some, Option.some.injEq, Prod.mk.injEq] at h
  obtain ⟨hcond, -, hrest⟩ := h
  subst hrest
  cases back with
  | nil => exact Or.inl rfl
  | cons c back =>
    refine Or.inr ?_
    have hc : c = '\\' := by
      by_contra hne
      exact hcond (Or.inr (by simp [hne]))
    rw [append_of_breakAt hbreak, hc]
    simp

theorem domainHost?_nil : domainHost? [] = none := rfl

/-- What follows an authority makes no difference where there has to be a host. -/
theorem readAuthority?_followed {kind : SchemeKind} (hkind : kind.isSpecial = true)
    (followed followed' : Bool) (cs : List Char) :
    readAuthority? kind followed cs = readAuthority? kind followed' cs := by
  unfold readAuthority?
  by_cases hempty : (cutAtUser cs).2 = []
  · simp [hempty, hkind, cutAtPort, domainHost?_nil]
  · simp [hempty]

theorem mem_of_mem_cutAtUser {cs : List Char} {c : Char} (h : c ∈ (cutAtUser cs).2) : c ∈ cs := by
  have hhost : (cutAtUser cs).2 = (cs.reverse.takeWhile (· ≠ '@')).reverse := by
    unfold cutAtUser
    split_ifs <;> rfl
  rw [hhost, List.mem_reverse] at h
  exact List.mem_reverse.mp ((List.takeWhile_prefix _).subset h)

/-- Without a backslash an authority is read to its end. -/
theorem readAuthority?_rest {kind : SchemeKind} (hkind : kind.isSpecial = true) {followed : Bool}
    {cs rest : List Char} {authority : Authority}
    (h : readAuthority? kind followed cs = some (authority, rest)) (hcs : '\\' ∉ cs) :
    rest = [] := by
  rcases hcut : cutAtPort false (cutAtUser cs).2 with ⟨host, digits⟩
  obtain ⟨port, hport⟩ : ∃ port, readPort? kind.usualPort? digits = some (port, rest) := by
    simp only [readAuthority?, hcut, hkind, if_true, Option.bind_eq_bind,
      Option.bind_eq_some_iff] at h
    obtain ⟨_, -, _, -, _, -, ⟨port, rest'⟩, hport, hresult⟩ := h
    obtain rfl : rest' = rest := congrArg Prod.snd (Option.some.inj hresult)
    exact ⟨port, hport⟩
  rcases cutAtPort_port hcut with rfl | ⟨ds, rfl⟩
  · have hnil := congrArg (Option.map Prod.snd) hport
    simpa [readPort?, eq_comm] using hnil
  · refine (readPort?_rest hport).resolve_right fun hmem => hcs (mem_of_mem_cutAtUser ?_)
    rw [append_of_cutAtPort hcut]
    simp [hmem]

/-! ### Addresses that are continued -/

theorem isSlash_of_isDigit {c : Char} (h : Text.isDigit c = true) : isSlash true c = false := by
  have hslash : c ≠ '/' := Text.ne_of_isDigit h (by decide)
  have hbackslash : c ≠ '\\' := Text.ne_of_isDigit h (by decide)
  simp [isSlash, hslash, hbackslash]

/-- A path that ends in a digit is not empty. -/
theorem pathSegments_ne_empty {digit : Char} (h : Text.isDigit digit = true) (front : List Char) :
    pathSegments true (front ++ [digit]) ≠ [[]] := by
  have hslash := isSlash_of_isDigit h
  have hlower : lower digit = digit := by
    have hhigh := (Text.toNat_of_isDigit h).2
    exact (lower_eq_or digit).resolve_right fun hupper => by omega
  obtain ⟨front', hafter⟩ : ∃ front', afterSlash true (front ++ [digit]) = front' ++ [digit] := by
    cases front with
    | nil => exact ⟨[], by simp [afterSlash, hslash]⟩
    | cons c front =>
      cases hc : isSlash true c with
      | true => exact ⟨front, by simp [afterSlash, hc]⟩
      | false => exact ⟨c :: front, by simp [afterSlash, hc]⟩
  obtain ⟨pieces, piece, hraw⟩ :
      ∃ pieces piece, rawSegments true (front' ++ [digit]) = pieces ++ [piece ++ [digit]] := by
    simpa [rawSegments, hslash] using
      Text.exists_cutAt_append_singleton (Text.ne_of_isDigit h (d := '/') (by decide))
        (front'.map fun c => if isSlash true c then '/' else c)
  have hdot :
      ¬ (isSingleDot (piece ++ [digit]) = true ∨ isDoubleDot (piece ++ [digit]) = true) := by
    intro hdot
    have hlast := getLast?_of_isDot hdot
    have hpoint : digit ≠ '.' := Text.ne_of_isDigit h (by decide)
    have hletter : digit ≠ 'e' := Text.ne_of_isDigit h (by decide)
    simp [hlower, hpoint, hletter] at hlast
  simp only [not_or, Bool.not_eq_true] at hdot
  obtain ⟨first, hlast⟩ := getLast?_normalSegments hdot.1 hdot.2 [] pieces
  rw [pathSegments, hafter, hraw]
  intro hempty
  rw [hempty, writtenSegment, if_neg (by simp)] at hlast
  exact escapeWhere_ne_nil (by simp) (Option.some.inj hlast).symm

/-- A text that is read as a host without a path can be continued with a path. -/
theorem readHosted?_append {kind : SchemeKind} (hkind : kind.isSpecial = true) {more : Bool}
    {cs front : List Char} {digit : Char} {authority : Authority}
    (h : readHosted? kind more cs = some (some authority, .segments [[]]))
    (hcs : cs <:+ front ++ [digit]) (hdigit : Text.isDigit digit = true) :
    cs ≠ [] ∧ ∀ more' path, readHosted? kind more' (cs ++ '/' :: path) =
      some (some authority, .segments (pathSegments true ('/' :: path))) := by
  rcases hbreak : breakAt (isSlash true) cs with ⟨host, pathText⟩
  have hsplit := append_of_breakAt hbreak
  simp only [readHosted?, hkind, hbreak, Option.bind_eq_bind, Option.bind_eq_some_iff] at h
  obtain ⟨⟨authority', rest⟩, hread, hresult⟩ := h
  simp only [Bool.not_true, Bool.and_false, Bool.false_eq_true, if_false, pure,
    Option.some.injEq, Prod.mk.injEq, Path.segments.injEq] at hresult
  obtain ⟨rfl, hsegments⟩ := hresult
  have hslash : '\\' ∉ host := fun hmem =>
    absurd (Text.not_of_mem_breakAt hbreak hmem) (by decide)
  obtain rfl := readAuthority?_rest hkind hread hslash
  have hpath : pathText = [] := by
    have hsuffix : pathText <:+ front ++ [digit] :=
      (hsplit ▸ List.suffix_append host pathText).trans hcs
    rcases List.suffix_concat_iff.mp hsuffix with hnil | ⟨front', rfl, -⟩
    · exact hnil
    · exact absurd hsegments (pathSegments_ne_empty hdigit front')
  subst hpath
  obtain rfl : cs = host := by simpa using hsplit
  refine ⟨?_, fun more' path => ?_⟩
  · rintro rfl
    simp [readAuthority?, hkind, cutAtUser, cutAtPort, domainHost?_nil] at hread
  · have hcut : breakAt (isSlash true) (cs ++ '/' :: path) = (cs, '/' :: path) :=
      Text.breakAt_append_cons (fun d hd => Text.not_of_mem_breakAt hbreak hd) rfl path
    rw [readAuthority?_followed hkind _ true] at hread
    simp [readHosted?, hkind, hcut, hread]

/-! ### Whole URLs -/

theorem readScheme?_of_parse? {s : String} {u : Url} (h : parse? s = some u) :
    ∃ rest, readScheme? (cleaned s.toList) = some (u.scheme, rest) := by
  simp only [parse?, Option.bind_eq_bind, Option.bind_eq_some_iff] at h
  obtain ⟨⟨scheme, rest⟩, hscheme, h⟩ := h
  refine ⟨rest, ?_⟩
  rw [hscheme]
  cases hkind : schemeKind scheme <;>
    simp only [hkind, Option.bind_eq_some_iff, pure, Option.some.injEq] at h <;>
    obtain ⟨_, -, rfl⟩ := h <;> rfl

/-- How a URL is read whose scheme has a usual port. -/
theorem parse?_of_served {s : String} {scheme rest front tail : List Char} {usual : Nat}
    (hscheme : readScheme? (cleaned s.toList) = some (scheme, rest))
    (hkind : schemeKind scheme = .served usual)
    (hbreak : breakAt (fun c => c == '?' || c == '#') rest = (front, tail)) :
    parse? s =
      (readHosted? (.served usual) (!tail.isEmpty) (front.dropWhile (isSlash true))).map
        fun (authority, path) =>
          ⟨scheme, authority, path, (readTail true tail).1, (readTail true tail).2⟩ := by
  simp only [parse?, hscheme, hkind, hbreak, Option.bind_eq_bind, Option.bind_some,
    SchemeKind.isSpecial]
  cases readHosted? (.served usual) (!tail.isEmpty) (front.dropWhile (isSlash true)) <;> rfl

/-- **An address can be continued.**  What is read as the address of a host and nothing else, and
ends in the digit of a port, is read with a path and a query after it as that address with them. -/
theorem parse?_append {front : List Char} {digit : Char} (hdigit : Text.isDigit digit = true)
    {scheme : List Char} {usual : Nat} (hkind : schemeKind scheme = .served usual)
    {authority : Authority}
    (h : parse? (String.ofList (front ++ [digit])) =
      some ⟨scheme, some authority, .segments [[]], none, none⟩)
    {path query : List Char} (hpath : ∀ c ∈ path, 0x20 < c.toNat ∧ c ≠ '?' ∧ c ≠ '#')
    (hquery : ∀ c ∈ query, 0x20 < c.toNat ∧ c ≠ '#') :
    parse? (String.ofList (front ++ [digit] ++ ('/' :: path ++ '?' :: query))) =
      some ⟨scheme, some authority, .segments (pathSegments true ('/' :: path)),
        some (escapeWhere escapedInSpecialQuery query), none⟩ := by
  have hlow : 0x20 < digit.toNat := Nat.lt_of_lt_of_le (by decide) (Text.toNat_of_isDigit hdigit).1
  have hmore : ∀ c ∈ '/' :: path ++ '?' :: query, 0x20 < c.toNat := by
    intro c hc
    simp only [List.cons_append, List.mem_cons, List.mem_append] at hc
    rcases hc with rfl | hc | rfl | hc
    · decide
    · exact (hpath c hc).1
    · decide
    · exact (hquery c hc).1
  -- the address by itself: no query or fragment, and a host to its end
  obtain ⟨rest, hscheme⟩ := readScheme?_of_parse? h
  rcases hbreak : breakAt (fun c => c == '?' || c == '#') rest with ⟨host, tail⟩
  rw [parse?_of_served hscheme hkind hbreak, Option.map_eq_some_iff] at h
  obtain ⟨⟨authority', path'⟩, hread, hresult⟩ := h
  simp only [Url.mk.injEq, true_and] at hresult
  obtain ⟨rfl, rfl, hquery', hfragment'⟩ := hresult
  obtain rfl := eq_nil_of_readTail hbreak (Prod.ext hquery' hfragment')
  obtain rfl : rest = host := by simpa using append_of_breakAt hbreak
  obtain ⟨kept, hkept⟩ := exists_cleaned_append_singleton hlow front
  have hsuffix : rest.dropWhile (isSlash true) <:+ kept ++ [digit] := by
    have hrest := suffix_of_readScheme? hscheme
    rw [String.toList_ofList, hkept] at hrest
    exact (List.dropWhile_suffix _).trans hrest
  have hspecial : (SchemeKind.served usual).isSpecial = true := rfl
  obtain ⟨hne, hhosted⟩ := readHosted?_append hspecial hread hsuffix hdigit
  -- the same with more after it
  have hscheme' : readScheme?
      (cleaned (String.ofList (front ++ [digit] ++ ('/' :: path ++ '?' :: query))).toList) =
        some (scheme, rest ++ ('/' :: path ++ '?' :: query)) := by
    rw [String.toList_ofList] at hscheme ⊢
    rw [cleaned_append hlow hmore]
    exact readScheme?_append hscheme _
  have hbreak' : breakAt (fun c => c == '?' || c == '#') (rest ++ ('/' :: path ++ '?' :: query)) =
      (rest ++ '/' :: path, '?' :: query) := by
    refine breakAt_append_of_unbroken hbreak (Text.breakAt_append_cons ?_ rfl query)
    intro c hc
    rcases List.mem_cons.mp hc with rfl | hc
    · rfl
    · simp [(hpath c hc).2]
  have hdrop : (rest ++ '/' :: path).dropWhile (isSlash true) =
      rest.dropWhile (isSlash true) ++ '/' :: path := by
    rw [List.dropWhile_append, if_neg (by simpa using hne)]
  have htail : readTail true ('?' :: query) =
      (some (escapeWhere escapedInSpecialQuery query), none) := by
    have hunbroken : breakAt (· == '#') ('?' :: query) = ('?' :: query, []) := by
      refine Text.breakAt_of_forall fun c hc => ?_
      rcases List.mem_cons.mp hc with rfl | hc
      · rfl
      · simp [(hquery c hc).2]
    simp [readTail, hunbroken]
  rw [parse?_of_served hscheme' hkind hbreak', hdrop, hhosted, htail]
  rfl

/-! ### Hosts by themselves -/

theorem cleaned_eq_self {cs : List Char} (h : ∀ c ∈ cs, 0x20 < c.toNat) : cleaned cs = cs := by
  rcases List.eq_nil_or_concat cs with rfl | ⟨front, last, rfl⟩
  · rfl
  · rw [List.concat_eq_append] at h ⊢
    have hkept : (front ++ [last]).dropWhile (fun c => decide (c.toNat ≤ 0x20)) =
        front ++ [last] := by
      obtain ⟨c, rest, hcs⟩ := List.exists_cons_of_ne_nil
        (List.append_ne_nil_of_right_ne_nil front (List.cons_ne_nil last []))
      have hc := h c (by simp [hcs])
      rw [hcs, List.dropWhile_cons_of_neg (by simpa using hc)]
    rw [cleaned_append_singleton (h last (by simp)), hkept, filter_eq_self_of_not_blank h]

theorem cutAtUser_of_not_mem {cs : List Char} (h : '@' ∉ cs) : cutAtUser cs = (none, cs) := by
  have hall : ∀ c ∈ cs.reverse, decide (c ≠ '@') = true := fun c hc => by
    simpa using ne_of_mem_of_not_mem (List.mem_reverse.mp hc) h
  rw [cutAtUser, if_neg (by simpa using h), List.takeWhile_eq_self_iff.mpr hall,
    List.reverse_reverse]

theorem cutAtPort_append {host : List Char} (h : ∀ c ∈ host, c ≠ ':' ∧ c ≠ '[')
    (rest : List Char) : cutAtPort false (host ++ ':' :: rest) = (host, ':' :: rest) := by
  induction host with
  | nil => simp [cutAtPort]
  | cons c host ih =>
    obtain ⟨hcolon, hbracket⟩ := h c List.mem_cons_self
    have hrest := ih fun d hd => h d (List.mem_cons_of_mem c hd)
    have hclosed : (c == '[') = false := by simpa using hbracket
    simp [cutAtPort, hcolon, hclosed, hrest]

theorem readPort?_digits (usual : Option Nat) {port : Nat} (h : port < 65536) :
    readPort? usual (':' :: Text.digits port) =
      some (if some port = usual then none else some port, []) := by
  have hbreak : breakAt (fun c => !Text.isDigit c) (Text.digits port) = (Text.digits port, []) :=
    Text.breakAt_of_forall fun c hc => by simp [Text.isDigit_of_mem_digits hc]
  have hle : ¬ 65535 < port := by omega
  simp [readPort?, hbreak, Text.readDigits?_digits, hle]

/-- A host in which no mark stands and a port are an authority. -/
theorem readAuthority?_of_host {kind : SchemeKind} (hkind : kind.isSpecial = true)
    {host written : List Char} (hhost : domainHost? host = some written)
    (hwritten : written ≠ []) (hplain : ∀ c ∈ host, c ∉ ['@', ':', '[']) {port : Nat}
    (hport : port < 65536) (followed : Bool) :
    readAuthority? kind followed (host ++ ':' :: Text.digits port) =
      some ({ host := written, port := if some port = kind.usualPort? then none else some port },
        []) := by
  have huser : cutAtUser (host ++ ':' :: Text.digits port) =
      (none, host ++ ':' :: Text.digits port) := by
    refine cutAtUser_of_not_mem fun hmem => ?_
    rcases List.mem_append.mp hmem with hmem | hmem
    · exact hplain '@' hmem (by simp)
    · rcases List.mem_cons.mp hmem with hmem | hmem
      · exact absurd hmem (by decide)
      · exact absurd (Text.isDigit_of_mem_digits hmem) (by decide)
  have hcut : cutAtPort false (host ++ ':' :: Text.digits port) =
      (host, ':' :: Text.digits port) :=
    cutAtPort_append (fun c hc => by
      have := hplain c hc
      simp only [List.mem_cons, List.not_mem_nil, or_false, not_or] at this
      exact this.2) _
  have hnone : readUser [] = ([], none) := rfl
  simp [readAuthority?, huser, hcut, hkind, hhost, hwritten, readPort?_digits _ hport, hnone]

theorem readHosted?_of_unbroken {kind : SchemeKind} (hkind : kind.isSpecial = true) {more : Bool}
    {cs : List Char} {authority : Authority} (hcs : ∀ c ∈ cs, isSlash true c = false)
    (hread : readAuthority? kind more cs = some (authority, [])) :
    readHosted? kind more cs = some (some authority, .segments [[]]) := by
  have hempty : pathSegments true [] = [[]] := rfl
  simp [readHosted?, hkind, Text.breakAt_of_forall hcs, hread, hempty]

/-- A host in which no mark stands and a port have nothing in them that ends an authority. -/
theorem plain_of_mem_hostAndPort {host : List Char}
    (hplain : ∀ c ∈ host, 0x20 < c.toNat ∧ c ∉ ['/', '\\', '?', '#', '@', ':', '[']) {port : Nat}
    {c : Char} (hc : c ∈ host ++ ':' :: Text.digits port) :
    0x20 < c.toNat ∧ isSlash true c = false ∧ (c == '?' || c == '#') = false := by
  rcases List.mem_append.mp hc with hc | hc
  · obtain ⟨hlow, hmark⟩ := hplain c hc
    simp only [List.mem_cons, List.not_mem_nil, or_false, not_or] at hmark
    simp [hlow, isSlash, hmark]
  · rcases List.mem_cons.mp hc with rfl | hc
    · decide
    · have hdigit := Text.isDigit_of_mem_digits hc
      have hquestion : c ≠ '?' := Text.ne_of_isDigit hdigit (by decide)
      have hhash : c ≠ '#' := Text.ne_of_isDigit hdigit (by decide)
      exact ⟨Nat.lt_of_lt_of_le (by decide) (Text.toNat_of_isDigit hdigit).1,
        isSlash_of_isDigit hdigit, by simp [hquestion, hhash]⟩

theorem readScheme?_http {cs : List Char} (h : ∀ c ∈ cs, 0x20 < c.toNat) :
    readScheme? (cleaned ("http://".toList ++ cs)) = some ("http".toList, '/' :: '/' :: cs) := by
  have hhttp : ∀ c ∈ "http://".toList, 0x20 < c.toNat := by simp
  have hclean : cleaned ("http://".toList ++ cs) = "http".toList ++ ':' :: '/' :: '/' :: cs := by
    refine (cleaned_eq_self fun c hc => ?_).trans (by simp)
    exact (List.mem_append.mp hc).elim (hhttp c) (h c)
  rw [hclean]
  exact readScheme?_eq_some_iff.mpr ⟨"http".toList, 'h', ':',
    Text.breakAt_append_cons (by simp) rfl _, rfl, by decide, rfl⟩

/-- The text of a host and a port is read as their address and nothing else. -/
theorem parse?_of_host {host written : List Char} (hhost : domainHost? host = some written)
    (hwritten : written ≠ [])
    (hplain : ∀ c ∈ host, 0x20 < c.toNat ∧ c ∉ ['/', '\\', '?', '#', '@', ':', '['])
    {port : Nat} (hport : port < 65536) :
    parse? (String.ofList ("http://".toList ++ (host ++ ':' :: Text.digits port))) =
      some ⟨"http".toList, some { host := written, port := if port = 80 then none else some port },
        .segments [[]], none, none⟩ := by
  have hmarks : ∀ c ∈ host ++ ':' :: Text.digits port,
      0x20 < c.toNat ∧ isSlash true c = false ∧ (c == '?' || c == '#') = false :=
    fun c hc => plain_of_mem_hostAndPort hplain hc
  have hscheme := readScheme?_http fun c hc => (hmarks c hc).1
  rw [← String.toList_ofList (l := "http://".toList ++ (host ++ ':' :: Text.digits port))]
    at hscheme
  have hbreak : breakAt (fun c => c == '?' || c == '#')
      ('/' :: '/' :: (host ++ ':' :: Text.digits port)) =
        ('/' :: '/' :: (host ++ ':' :: Text.digits port), []) := by
    refine Text.breakAt_of_forall fun c hc => ?_
    rcases List.mem_cons.mp hc with rfl | hc
    · rfl
    rcases List.mem_cons.mp hc with rfl | hc
    · rfl
    · exact (hmarks c hc).2.2
  have hdrop : ('/' :: '/' :: (host ++ ':' :: Text.digits port)).dropWhile (isSlash true) =
      host ++ ':' :: Text.digits port := by
    obtain ⟨c, rest, rfl⟩ : ∃ c rest, host = c :: rest := by
      refine List.exists_cons_of_ne_nil ?_
      rintro rfl
      simp [domainHost?_nil] at hhost
    have hc := (hmarks c (by simp)).2.1
    have hslash : isSlash true '/' = true := rfl
    simp [hslash, hc]
  have hspecial : (SchemeKind.served 80).isSpecial = true := rfl
  have hmark : ∀ c ∈ host, c ∉ ['@', ':', '['] := fun c hc hmem =>
    (hplain c hc).2 (List.mem_of_mem_drop (i := 4) hmem)
  have hread := readAuthority?_of_host hspecial hhost hwritten hmark hport
  have hkind : schemeKind "http".toList = .served 80 := rfl
  have hport80 : (some port = (SchemeKind.served 80).usualPort?) ↔ port = 80 := Option.some_inj
  rw [parse?_of_served hscheme hkind hbreak, hdrop,
    readHosted?_of_unbroken hspecial (fun c hc => (hmarks c hc).2.1) (hread _)]
  simp only [hport80]
  rfl

end LedgerLookup.Url
