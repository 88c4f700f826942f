import LiveAssert.Proofs.Step.Form

namespace LiveAssert

theorem Assertion.isBlank_of_isNameEdge {c : Char} (h : isNameEdge c) : Text.isBlank c = false := by
  rw [isNameEdge, Bool.or_eq_true] at h
  cases h with
  | inr hd => exact Text.isBlank_of_isDecimalDigit (Text.isDecimalDigit_of_isDigit hd)
  | inl hl =>
    obtain ⟨hlow, hhigh⟩ := (Bool.and_eq_true _ _).mp hl
    have h1 : 97 ≤ c.toNat := of_decide_eq_true hlow
    have h2 : c.toNat ≤ 122 := of_decide_eq_true hhigh
    simp only [Text.isBlank]
    grind

namespace Discipline

/-- What may stand before the assertion of a step, with the duration that is stated there. -/
inductive Opening : Discipline → Option String → String → Prop
  | bare : Opening .eventually none ""
  | eventually :
      lead ∈ ["in less than ", "in under ", "in no more than ", "at least ", "within ", ""] →
      IsStated stated.toList → separator ∈ [", ", ",", " ", ""] →
      Opening .eventually (some stated) (lead ++ stated ++ separator)
  | consistently : lead ∈ ["for at least ", "for no less than "] → IsStated stated.toList →
      separator ∈ [", ", " "] → Opening .consistently (some stated) (lead ++ stated ++ separator)

variable {d : Discipline} {lead separator opening : String} {a : Assertion} {s rest : List Char}

def Matches (d : Discipline) (s : List Char) : Prop :=
  ∃ stated opening rest, d.Opening stated opening ∧ Assertion.Matches rest ∧
    s = opening.toList ++ rest

def parts? : Discipline → List Char → Option (Discipline × Option (List Char) × Assertion)
  | .eventually, s =>
    ((timed? .eventually s).map fun (stated, a) => (.eventually, some stated, a)).or
      ((Assertion.read? s).map fun a => (.eventually, none, a))
  | .consistently, s =>
    (timed? .consistently s).map fun (stated, a) => (.consistently, some stated, a)

theorem opening_none_iff : d.Opening none opening ↔ d = .eventually ∧ opening = "" := by
  constructor
  · rintro ⟨⟩
    exact ⟨rfl, rfl⟩
  · rintro ⟨rfl, rfl⟩
    exact .bare

theorem opening_some_iff {stated : String} : d.Opening (some stated) opening ↔
    ∃ lead ∈ d.leads, ∃ separator ∈ d.separators, IsStated stated.toList ∧
      opening = lead ++ stated ++ separator := by
  constructor
  · rintro (_ | ⟨hlead, hstated, hsep⟩ | ⟨hlead, hstated, hsep⟩)
    · exact ⟨_, hlead, _, hsep, hstated, rfl⟩
    · exact ⟨_, hlead, _, hsep, hstated, rfl⟩
  · rintro ⟨lead, hlead, separator, hsep, hstated, rfl⟩
    cases d with
    | eventually => exact .eventually hlead hstated hsep
    | consistently => exact .consistently hlead hstated hsep

theorem opening_of_timed? {stated : List Char} (h : d.timed? s = some (stated, a)) :
    ∃ opening, d.Opening (some (String.ofList stated)) opening ∧ a.Readable ∧
      s = opening.toList ++ a.text.toList := by
  obtain ⟨lead, hlead, separator, hsep, hstated, ha, rfl⟩ := exists_of_timed? h
  rw [← String.toList_ofList (l := stated)] at hstated
  refine ⟨_, opening_some_iff.2 ⟨lead, hlead, separator, hsep, hstated, rfl⟩, ha, ?_⟩
  simp only [String.toList_append, String.toList_ofList, List.append_assoc]

theorem opening_of_parts? {d' : Discipline} {stated : Option (List Char)}
    (h : d.parts? s = some (d', stated, a)) :
    d' = d ∧ ∃ opening, d.Opening (stated.map String.ofList) opening ∧ a.Readable ∧
      s = opening.toList ++ a.text.toList := by
  cases d with
  | consistently =>
    obtain ⟨⟨taken, b⟩, ht, h⟩ := Option.map_eq_some_iff.1 h
    cases h
    exact ⟨rfl, opening_of_timed? ht⟩
  | eventually =>
    cases Option.or_eq_some_iff.1 h with
    | inl h =>
      obtain ⟨⟨taken, b⟩, ht, h⟩ := Option.map_eq_some_iff.1 h
      cases h
      exact ⟨rfl, opening_of_timed? ht⟩
    | inr h =>
      obtain ⟨b, hb, h⟩ := Option.map_eq_some_iff.1 h.2
      cases h
      obtain ⟨rfl, ha⟩ := Assertion.read?_eq_some_iff.1 hb
      exact ⟨rfl, "", .bare, ha, rfl⟩

theorem parts?_of_timed? {stated : List Char} (h : d.timed? s = some (stated, a)) :
    d.parts? s = some (d, some stated, a) := by
  cases d <;> rw [parts?, h] <;> rfl

theorem isSome_parts?_iff : (d.parts? s).isSome ↔ d.Matches s := by
  constructor
  · intro h
    obtain ⟨⟨d', stated, a⟩, h⟩ := Option.isSome_iff_exists.1 h
    obtain ⟨_, opening, hopening, ha, rfl⟩ := opening_of_parts? h
    have hread := Option.isSome_of_eq_some ha.read?_text
    exact ⟨_, opening, _, hopening, Assertion.isSome_read?_iff.1 hread, rfl⟩
  · rintro ⟨stated, opening, rest, hopening, hrest, rfl⟩
    rw [← Assertion.isSome_read?_iff] at hrest
    cases stated with
    | none =>
      obtain ⟨rfl, rfl⟩ := opening_none_iff.1 hopening
      simp [parts?, hrest]
    | some stated =>
      obtain ⟨lead, hlead, separator, hsep, hstated, rfl⟩ := opening_some_iff.1 hopening
      have h := isSome_timed? hlead hstated hsep hrest
      obtain ⟨⟨taken, a⟩, h⟩ := Option.isSome_iff_exists.1 h
      rw [String.toList_append, String.toList_append, List.append_assoc, List.append_assoc,
        parts?_of_timed? h]
      rfl

theorem parts?_eventually_eq_none (h : (parts? .consistently s).isSome) :
    parts? .eventually s = none := by
  rw [parts?, Option.isSome_map] at h
  have hread : Assertion.read? s = none := by
    rw [Option.eq_none_iff_forall_ne_some]
    intro a ha
    obtain ⟨rfl, hr⟩ := Assertion.read?_eq_some_iff.1 ha
    obtain ⟨⟨stated, b⟩, h⟩ := Option.isSome_iff_exists.1 h
    nomatch (timed?_text h hr).1
  rw [parts?, timed?_eq_none_of_consistently h, hread]
  rfl

theorem not_matches_both : ¬(Matches .consistently s ∧ Matches .eventually s) := by
  rintro ⟨hc, he⟩
  rw [← isSome_parts?_iff] at hc he
  rw [parts?_eventually_eq_none hc] at he
  nomatch he

theorem isBlank_of_mem_leads (h : lead ∈ d.leads) :
    ∀ c ∈ lead.toList.head?, Text.isBlank c = false := by
  have hall : ∀ lead ∈ d.leads, lead.toList.head?.all (!Text.isBlank ·) := by
    cases d <;> decide +kernel
  intro c hc
  simpa [Option.mem_def.1 hc] using hall lead h

theorem isBlank_of_mem_head? {stated : List Char} (hlead : lead ∈ d.leads)
    (hstated : IsStated stated) :
    ∀ c ∈ (lead.toList ++ (stated ++ rest)).head?, Text.isBlank c = false := by
  obtain ⟨c, t, rfl, hc⟩ := hstated.exists_cons
  intro b hb
  rw [List.head?_append, Option.mem_def, Option.or_eq_some_iff] at hb
  cases hb with
  | inl hb => exact isBlank_of_mem_leads hlead b hb
  | inr hb =>
    cases hb.2
    exact Text.isBlank_of_isDecimalDigit hc

theorem Opening.trim_append {stated : Option String} (h : d.Opening stated opening)
    (ha : a.WellFormed) :
    Text.trim (opening.toList ++ a.text.toList) = opening.toList ++ a.text.toList := by
  apply Text.trim_of_ends
  · cases stated with
    | none =>
      obtain ⟨rfl, rfl⟩ := opening_none_iff.1 h
      obtain ⟨c, hc, hedge⟩ := ha.readable.head?_text
      rw [String.toList_empty, List.nil_append, hc]
      rintro _ ⟨⟩
      exact Assertion.isBlank_of_isNameEdge hedge
    | some stated =>
      obtain ⟨lead, hlead, separator, hsep, hstated, rfl⟩ := opening_some_iff.1 h
      simp only [String.toList_append, List.append_assoc]
      exact isBlank_of_mem_head? hlead hstated
  · intro c hc
    rw [ha.readable.getLast?_append_text] at hc
    exact ha.trimmed c hc

end Discipline

namespace AssertionStep

open Discipline (Matches Splits)

variable {d : Discipline} {a : Assertion} {s : List Char} {text : String} {step : AssertionStep}

theorem parts?_eq_or (s : List Char) :
    parts? s = (Discipline.parts? .consistently s).or (Discipline.parts? .eventually s) := by
  simp only [parts?, Discipline.parts?]
  cases Discipline.timed? .consistently s <;> cases Discipline.timed? .eventually s <;> rfl

theorem parts?_eq_or_swap (s : List Char) :
    parts? s = (Discipline.parts? .eventually s).or (Discipline.parts? .consistently s) := by
  rw [parts?_eq_or]
  cases hc : Discipline.parts? .consistently s with
  | none => rw [Option.none_or, Option.or_none]
  | some parts =>
    rw [Discipline.parts?_eventually_eq_none (Option.isSome_of_eq_some hc)]
    rfl

theorem parts?_eq_some_iff {parts : Discipline × Option (List Char) × Assertion} :
    parts? s = some parts ↔ ∃ d : Discipline, d.parts? s = some parts := by
  constructor
  · intro h
    rw [parts?_eq_or] at h
    cases Option.or_eq_some_iff.1 h with
    | inl h => exact ⟨_, h⟩
    | inr h => exact ⟨_, h.2⟩
  · rintro ⟨d, h⟩
    cases d with
    | eventually => rw [parts?_eq_or_swap, h, Option.some_or]
    | consistently => rw [parts?_eq_or, h, Option.some_or]

theorem readTimeout_eq_ok_iff {stated : Option (List Char)} {timeout : Option Duration} :
    readTimeout stated = .ok timeout ↔
      (stated.map String.ofList).map readDuration = timeout.map .ok := by
  cases stated with
  | none => cases timeout <;> simp [readTimeout]
  | some stated =>
    rw [readTimeout, Option.map_some, Option.map_some]
    cases readDuration (String.ofList stated) with
    | error e => cases timeout <;> exact ⟨nofun, nofun⟩
    | ok d =>
      cases timeout with
      | none => exact ⟨nofun, nofun⟩
      | some timeout => constructor <;> rintro ⟨⟩ <;> rfl

@[simp] theorem readTimeout_eq_none_iff {stated : Option (List Char)} :
    readTimeout stated = .ok none ↔ stated = none := by
  rw [readTimeout_eq_ok_iff, Option.map_none, Option.map_eq_none_iff, Option.map_eq_none_iff]

theorem parse_of_parts? {stated : Option (List Char)}
    (h : parts? (Text.trim text.toList) = some (d, stated, a)) :
    parse text = (readTimeout stated).map fun timeout => ⟨d, timeout, a⟩ := by
  rw [parse, h]

theorem parse_eq_ok_iff :
    parse text = .ok step ↔ ∃ stated,
      parts? (Text.trim text.toList) = some (step.discipline, stated, step.assertion) ∧
        readTimeout stated = .ok step.timeout := by
  constructor
  · intro h
    cases hp : parts? (Text.trim text.toList) with
    | none =>
      rw [parse, hp] at h
      nomatch h
    | some parts =>
      obtain ⟨d, stated, a⟩ := parts
      rw [parse_of_parts? hp] at h
      cases ht : readTimeout stated with
      | error e =>
        rw [ht] at h
        nomatch h
      | ok timeout =>
        rw [ht] at h
        obtain rfl := Except.ok.inj h
        exact ⟨stated, rfl, ht⟩
  · rintro ⟨stated, hp, ht⟩
    rw [parse_of_parts? hp, ht]
    rfl

theorem exists_opening_of_parse (h : parse text = .ok step) :
    ∃ stated opening, step.discipline.Opening stated opening ∧
      stated.map readDuration = step.timeout.map .ok ∧ step.assertion.Readable ∧
      Text.trim text.toList = opening.toList ++ step.assertion.text.toList := by
  obtain ⟨stated, hparts, htimeout⟩ := parse_eq_ok_iff.1 h
  obtain ⟨d, hparts⟩ := parts?_eq_some_iff.1 hparts
  obtain ⟨rfl, opening, hopening, ha, htext⟩ := Discipline.opening_of_parts? hparts
  exact ⟨_, opening, hopening, readTimeout_eq_ok_iff.1 htimeout, ha, htext⟩

theorem wellFormed_of_parse (h : parse text = .ok step) : step.assertion.WellFormed := by
  obtain ⟨_, opening, _, _, ha, htext⟩ := exists_opening_of_parse h
  apply ha.wellFormed
  rw [← ha.getLast?_append_text opening.toList, ← htext]
  exact Text.isBlank_of_getLast?_trim

theorem isSome_timeout_of_parse (h : parse text = .ok step) (hd : step.discipline = .consistently) :
    step.timeout.isSome := by
  obtain ⟨stated, _, hopening, htimeout, _⟩ := exists_opening_of_parse h
  cases stated with
  | none => nomatch hd.symm.trans (Discipline.opening_none_iff.1 hopening).1
  | some stated =>
    cases ht : step.timeout with
    | none => nomatch ht ▸ htimeout
    | some timeout => rfl

/-- A step that is read is written in the text, and only one discipline has the form of a text. -/
theorem written_and_unambiguous :
    (∀ text step, parse text = .ok step →
      (∃ stated opening, step.discipline.Opening stated opening ∧
        stated.map readDuration = step.timeout.map .ok ∧
        String.ofList (Text.trim text.toList) = opening ++ step.assertion.text) ∧
      step.assertion.WellFormed ∧ (step.discipline = .consistently → step.timeout.isSome)) ∧
    ∀ s, (∀ d : Discipline, (d.parts? s).isSome ↔ d.Matches s) ∧
      ¬(Matches .consistently s ∧ Matches .eventually s) ∧
      parts? s = (Discipline.parts? .consistently s).or (Discipline.parts? .eventually s) ∧
      parts? s = (Discipline.parts? .eventually s).or (Discipline.parts? .consistently s) := by
  constructor
  · intro text step h
    refine ⟨?_, wellFormed_of_parse h, isSome_timeout_of_parse h⟩
    obtain ⟨stated, opening, hopening, htimeout, _, htext⟩ := exists_opening_of_parse h
    refine ⟨stated, opening, hopening, htimeout, ?_⟩
    rw [htext, String.ofList_append, String.ofList_toList, String.ofList_toList]
  · intro s
    exact ⟨fun _ => Discipline.isSome_parts?_iff, Discipline.not_matches_both, parts?_eq_or s,
      parts?_eq_or_swap s⟩

theorem written_and_unambiguous_trimmed :
    parse " within 1m30s 10sfo's '.a' should not equal 1\t" =
        .ok ⟨.eventually, some (.ofSeconds 90), ⟨"10sfo", ".a", true, "equal 1"⟩⟩ ∧
      (⟨"10sfo", ".a", true, "equal 1"⟩ : Assertion).WellFormed := by
  have h : parse " within 1m30s 10sfo's '.a' should not equal 1\t" =
      .ok ⟨.eventually, some (.ofSeconds 90), ⟨"10sfo", ".a", true, "equal 1"⟩⟩ := by rfl
  exact ⟨h, (written_and_unambiguous.1 _ _ h).2.1⟩

theorem parts?_append {lead stated separator : String} (hlead : lead ∈ d.leads)
    (hsep : separator ∈ d.separators) (hne : separator ≠ "") (hstated : IsStated stated.toList)
    (ha : a.WellFormed) :
    parts? (Text.trim (lead ++ stated ++ separator ++ a.text).toList) =
      some (d, some stated.toList, a) := by
  have hopening := Discipline.opening_some_iff.2 ⟨lead, hlead, separator, hsep, hstated, rfl⟩
  have htimed := Discipline.timed?_append hlead hstated hsep hne ha.readable
  refine parts?_eq_some_iff.2 ⟨d, Discipline.parts?_of_timed? ?_⟩
  rw [String.toList_append, hopening.trim_append ha]
  simpa only [String.toList_append, List.append_assoc] using htimed

theorem parse_append {d : Discipline} {lead stated separator : String} {timeout : Duration}
    {a : Assertion}
    (hform :
      (d = .eventually ∧ separator ∈ [", ", " ", ","] ∧
        lead ∈ ["in less than ", "in under ", "in no more than ", "at least ", "within ", ""]) ∨
      (d = .consistently ∧ separator ∈ [", ", " "] ∧
        lead ∈ ["for at least ", "for no less than "]))
    (hstated : IsStated stated.toList) (htimeout : readDuration stated = .ok timeout)
    (ha : a.WellFormed) :
    parse (lead ++ stated ++ separator ++ a.text) = .ok ⟨d, some timeout, a⟩ := by
  obtain ⟨hlead, hsep, hne⟩ : lead ∈ d.leads ∧ separator ∈ d.separators ∧ separator ≠ "" := by
    obtain ⟨rfl, hsep, hlead⟩ | ⟨rfl, hsep, hlead⟩ := hform
    · refine ⟨hlead, ?_, ?_⟩ <;> revert separator <;> decide
    · refine ⟨hlead, ?_, ?_⟩ <;> revert separator <;> decide
  rw [parse_eq_ok_iff]
  refine ⟨some stated.toList, parts?_append hlead hsep hne hstated ha, ?_⟩
  rw [readTimeout_eq_ok_iff, Option.map_some, String.ofList_toList, Option.map_some, htimeout,
    Option.map_some]

theorem parse_append_for_no_less_than :
    IsStated "1h30m".toList ∧ readDuration "1h30m" = .ok (.ofSeconds 5400) ∧
      (⟨"3s-x", ".a should b", false, "equal 'c' should not be 1"⟩ : Assertion).WellFormed ∧
      parse "for no less than 1h30m 3s-x's '.a should b' should equal 'c' should not be 1" =
        .ok ⟨.consistently, some (.ofSeconds 5400),
          ⟨"3s-x", ".a should b", false, "equal 'c' should not be 1"⟩⟩ := by
  have hstated : IsStated "1h30m".toList := by decide +kernel
  have htimeout : readDuration "1h30m" = .ok (.ofSeconds 5400) := rfl
  have ha : (⟨"3s-x", ".a should b", false, "equal 'c' should not be 1"⟩ : Assertion).WellFormed :=
    by decide +kernel
  have h : parse ("for no less than " ++ "1h30m" ++ " " ++ Assertion.text _) = _ :=
    parse_append (d := .consistently) (.inr ⟨rfl, by decide, by decide⟩) hstated htimeout ha
  exact ⟨hstated, htimeout, ha, h⟩

@[simp] theorem trim_text (ha : a.WellFormed) :
    Text.trim a.text.toList = a.text.toList := by
  simpa only [String.toList_empty, List.nil_append] using Discipline.Opening.bare.trim_append ha

theorem parts?_text_iff (ha : a.Readable) :
    parts? a.text.toList = some (.eventually, none, a) ↔
      ¬∃ stated rest, Splits a.reference.toList stated rest := by
  constructor
  · rintro h ⟨stated, rest, hsplit⟩
    obtain ⟨⟨taken, b⟩, htimed⟩ :=
      Option.isSome_iff_exists.1 (Discipline.isSome_timed?_text ha hsplit)
    rw [parts?_eq_some_iff.2 ⟨_, Discipline.parts?_of_timed? htimed⟩] at h
    nomatch h
  · intro hsplit
    refine parts?_eq_some_iff.2 ⟨.eventually, ?_⟩
    have htimed : Discipline.timed? .eventually a.text.toList = none := by
      rw [Option.eq_none_iff_forall_ne_some]
      rintro ⟨stated, b⟩ htimed
      obtain ⟨_, rest, h, _⟩ := Discipline.timed?_text htimed ha
      exact hsplit ⟨stated, rest, h⟩
    rw [Discipline.parts?, htimed, ha.read?_text]
    rfl

/-- An assertion that stands alone is read as it is written if and only if no duration can be
split off its name. The longest that can be is taken, and the timeout is read from it. -/
theorem parse_text (ha : a.WellFormed) :
    (parse a.text = .ok ⟨.eventually, none, a⟩ ↔
      ¬∃ stated rest, Splits a.reference.toList stated rest) ∧
    ∀ stated rest, Splits a.reference.toList stated rest →
      (∀ stated' rest', Splits a.reference.toList stated' rest' →
        stated'.length ≤ stated.length) →
      parse a.text = match readDuration (String.ofList stated) with
        | .ok timeout => .ok ⟨.eventually, some timeout, a.rename rest⟩
        | .error e => .error (.invalidDuration e) := by
  constructor
  · rw [parse_eq_ok_iff, trim_text ha, ← parts?_text_iff ha.readable]
    simp only [readTimeout_eq_none_iff, exists_eq_right]
  · intro stated rest hsplit hlongest
    have htimed := Discipline.timed?_text_of_longest ha.readable hsplit hlongest
    have hparts := parts?_eq_some_iff.2 ⟨_, Discipline.parts?_of_timed? htimed⟩
    rw [parse_of_parts? (by rwa [trim_text ha])]
    rw [readTimeout]
    cases readDuration (String.ofList stated) <;> rfl

theorem parse_text_of_name_with_digits :
    (⟨"10ab", ".a", true, "equal 1"⟩ : Assertion).WellFormed ∧
      parse "10ab's '.a' should not equal 1" =
        .ok ⟨.eventually, none, ⟨"10ab", ".a", true, "equal 1"⟩⟩ := by
  have ha : (⟨"10ab", ".a", true, "equal 1"⟩ : Assertion).WellFormed := by decide +kernel
  refine ⟨ha, (parse_text ha).1.2 ?_⟩
  rintro ⟨stated, rest, h⟩
  have hall : ∀ x ∈ DurationPart.start.prefixes "10ab".toList, ¬Assertion.IsReference x.2 := by
    decide +kernel
  rw [Discipline.splits_iff_mem_prefixes] at h
  exact hall _ h.1 h.2

theorem parse_duration_in_name :
    (⟨"10sfo", ".a", false, "equal 1"⟩ : Assertion).WellFormed ∧
      parse (Assertion.text ⟨"10sfo", ".a", false, "equal 1"⟩) =
        .ok ⟨.eventually, some (.ofSeconds 10), ⟨"fo", ".a", false, "equal 1"⟩⟩ :=
  ⟨by decide +kernel, rfl⟩

end AssertionStep

end LiveAssert
