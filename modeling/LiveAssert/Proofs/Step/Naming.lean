import LiveAssert.Proofs.Path.Source
import LiveAssert.Proofs.Path.Spelling
import LiveAssert.Proofs.Step.Parse

namespace LiveAssert

open Text (isDecimalDigit IsWord)

variable {name path rest : List Char}

theorem Text.takeWhile_append_cons {f : Char → Bool} {c : Char} (hc : f c = false)
    (s t : List Char) : (s ++ c :: t).takeWhile f = s.takeWhile f := by
  induction s with
  | nil => simp [hc]
  | cons d s ih => simp [List.takeWhile_cons, ih]

theorem Discipline.timed?_append_quote (d : Discipline) (hname : IsWord name)
    (hdigit : ∀ c ∈ name.head?, isDecimalDigit c = false) (rest : List Char) :
    d.timed? (name ++ '\'' :: rest) = none := by
  rw [Option.eq_none_iff_forall_ne_some]
  rintro ⟨stated, a⟩ h
  obtain ⟨lead, hlead, separator, _, hstated, _, heq⟩ := exists_of_timed? h
  obtain rfl | ⟨word, s, hlead, hword⟩ := space_of_mem_leads hlead
  · obtain ⟨c, t, rfl, hc⟩ := hstated.exists_cons
    cases name with
    | nil =>
      cases (List.cons.inj heq).1
      nomatch hc
    | cons c' name =>
      cases (List.cons.inj heq).1
      nomatch (hdigit c rfl).symm.trans hc
  · rw [hlead, List.append_assoc] at heq
    nomatch (hname.append_inj rfl hword rfl heq).2.1

theorem Assertion.path_of_read? {a : Assertion} (hname : IsReference name)
    (h : read? (name ++ ("'s '".toList ++ (path ++ '\'' :: rest))) = some a) :
    a.path.toList = path.takeWhile (· != '\'') := by
  obtain ⟨htext, ha⟩ := read?_eq_some_iff.1 h
  rw [toList_text, show "'s '".toList = ['\'', 's', ' ', '\''] from rfl] at htext
  obtain ⟨_, _, hrest⟩ := hname.isWord.append_inj rfl ha.reference.isWord rfl htext
  have hopen : ['s', ' ', '\''] ++ (path ++ '\'' :: rest) =
      ['s', ' ', '\''] ++ (a.path.toList ++ ("' should ".toList ++ _)) := hrest
  have htail := List.append_cancel_left hopen
  have hquote : ∀ c ∈ a.path.toList, (c != '\'') = true := by
    intro c hc
    rw [bne_iff_ne]
    rintro rfl
    exact ha.path hc
  rw [← Text.takeWhile_append_cons (c := '\'') (by simp) path rest, htail]
  exact (Text.span_append hquote (by rintro _ ⟨⟩; rfl)).1.symm

namespace AssertionStep

variable {p : String} {step : AssertionStep}

theorem parts?_append_quote (hname : IsWord name)
    (hdigit : ∀ c ∈ name.head?, isDecimalDigit c = false) (rest : List Char) :
    parts? (name ++ '\'' :: rest) =
      (Assertion.read? (name ++ '\'' :: rest)).map (.eventually, none, ·) := by
  rw [parts?, Discipline.timed?_append_quote _ hname hdigit,
    Discipline.timed?_append_quote _ hname hdigit]

def onField (p : String) : String := "foo's '" ++ p ++ "' should be true"

theorem toList_onField (p : String) : (onField p).toList =
    "foo".toList ++ ("'s '".toList ++ (p.toList ++ '\'' :: " should be true".toList)) := by
  simp [onField]

@[simp] theorem trim_onField (p : String) : Text.trim (onField p).toList = (onField p).toList := by
  apply Text.trim_of_ends
  · rw [toList_onField]
    rintro _ ⟨⟩
    rfl
  · have hlast : (onField p).toList =
        "foo's '".toList ++ p.toList ++ "' should be tru".toList ++ ['e'] := by simp [onField]
    rw [hlast, List.getLast?_concat]
    rintro _ ⟨⟩
    rfl

theorem isReference_foo : Assertion.IsReference "foo".toList := by decide

theorem parts?_onField (p : String) :
    parts? (onField p).toList = (Assertion.read? (onField p).toList).map (.eventually, none, ·) := by
  rw [toList_onField]
  exact parts?_append_quote isReference_foo.isWord (by rintro _ ⟨⟩; rfl) _

theorem path_of_parse_onField (h : parse (onField p) = .ok step) :
    step.assertion.path.toList = p.toList.takeWhile (· != '\'') := by
  obtain ⟨stated, hparts, _⟩ := parse_eq_ok_iff.1 h
  rw [trim_onField, parts?_onField] at hparts
  obtain ⟨a, ha, hparts⟩ := Option.map_eq_some_iff.1 hparts
  rw [toList_onField] at ha
  obtain ⟨_, _, rfl⟩ : _ ∧ _ ∧ a = step.assertion := by simpa using hparts
  exact Assertion.path_of_read? isReference_foo ha

theorem parse_onField_iff :
    parse (onField p) = .ok ⟨.eventually, none, ⟨"foo", p, false, "be true"⟩⟩ ↔
      '\'' ∉ p.toList := by
  constructor
  · intro h
    exact (wellFormed_of_parse h).path
  · intro hp
    have ha : (⟨"foo", p, false, "be true"⟩ : Assertion).Readable :=
      ⟨isReference_foo, hp, by simp, by simp, by simp⟩
    have htext : (onField p).toList = (Assertion.text ⟨"foo", p, false, "be true"⟩).toList := by
      simp [onField, Assertion.text]
    rw [parse_eq_ok_iff]
    refine ⟨none, ?_, rfl⟩
    rw [trim_onField, parts?_onField, htext, ha.read?_text]
    rfl

/-- Some step names the path. -/
def Names (path : Path) : Prop :=
  ∃ text step, parse text = .ok step ∧ Path.parse step.assertion.path = .ok path

theorem names_iff {path : Path} (h : ∀ i, .index i ∈ path → -2 ^ 63 ≤ i ∧ i < 2 ^ 63) :
    Names path ↔ ∀ name, .field name ∈ path → '\'' ∉ name.toList := by
  constructor
  · rintro ⟨text, step, hstep, hpath⟩ name hname hquote
    exact (wellFormed_of_parse hstep).path (Path.name_subset_of_parse hpath hname hquote)
  · intro hnames
    obtain ⟨s, hs, hquote⟩ := Path.exists_joined h
    have hfree : '\'' ∉ (String.ofList ('\x7b' :: (s ++ ['\x7d']))).toList := by
      simp only [String.toList_ofList, List.mem_cons, List.mem_append, Char.reduceEq,
        List.not_mem_nil, false_or, or_false]
      intro hm
      obtain ⟨name, hmem, hname⟩ := hquote hm
      exact hnames name hmem hname
    exact ⟨_, _, parse_onField_iff.2 hfree, Path.parse_of_joined hs⟩

/-- A step has the path that stands between its quotes, if that holds no quote itself; it ends with
the first one. A path that can be read is named by some step if and only if no name in it holds a
quote. -/
theorem path_of_onField (p : String) :
    (parse (onField p) = .ok ⟨.eventually, none, ⟨"foo", p, false, "be true"⟩⟩ ↔
      '\'' ∉ p.toList) ∧
    (∀ step, parse (onField p) = .ok step →
      step.assertion.path.toList = p.toList.takeWhile (· != '\'')) ∧
    ∀ path, Path.parse p = .ok path →
      (Names path ↔ ∀ name, .field name ∈ path → '\'' ∉ name.toList) :=
  ⟨parse_onField_iff, fun _ => path_of_parse_onField,
    fun _ hpath => names_iff fun _ => Path.bounds_of_parse hpath⟩

theorem path_of_onField_label :
    let p := ".metadata.labels[\"app.kubernetes.io/name\"]"
    let path : Path := [.field "metadata", .field "labels", .field "app.kubernetes.io/name"]
    Path.parse p = .ok path ∧ '\'' ∉ p.toList ∧ Names path ∧
      parse "foo's '.metadata.labels[\"app.kubernetes.io/name\"]' should be true" =
        .ok ⟨.eventually, none, ⟨"foo", p, false, "be true"⟩⟩ := by
  intro p path
  have hpath : Path.parse ".metadata.labels[\"app.kubernetes.io/name\"]" = .ok path := by rfl
  have hp : '\'' ∉ p.toList := by decide
  obtain ⟨hparse, hread, hnames⟩ := path_of_onField p
  exact ⟨hpath, hp, (hnames path hpath).2 (by simp [path]), hparse.2 hp⟩

theorem exists_path_and_not_step :
    let p := ".metadata.labels['app.kubernetes.io/name']"
    Path.parse p = .ok [.field "metadata", .field "labels", .field "app.kubernetes.io/name"] ∧
      '\n' ∉ p.toList ∧
      parse (onField p) = .error (.notAnAssertion (onField p)) :=
  ⟨by rfl, by decide, by rfl⟩

end AssertionStep

end LiveAssert
