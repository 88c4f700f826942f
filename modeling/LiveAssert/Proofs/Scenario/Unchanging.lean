import LiveAssert.Proofs.Phrase.Forms
import LiveAssert.Proofs.Phrase.Usable
import LiveAssert.Proofs.Poll.Coherence
import LiveAssert.Proofs.Scenario.Convergence
import LiveAssert.Proofs.Scenario.Refusal
import Mathlib.Order.Basic

namespace LiveAssert

namespace Evaluation

variable {e : Evaluation} {fetch : Fetch} {n : Nat} {f : Finish}

theorem Course.satisfied_iff_of_immediate (h : e.Course fetch n f) (hu : e.Uncancelled fetch)
    (hi : fetch.Immediate) :
    f.ending = .satisfied ↔ e.predicate.Accepts (e.window.sample fetch n) := by
  cases h.concludes hu with
  | unheard hd =>
    rw [Window.replyTime_of_immediate hi] at hd
    exact absurd hd (Nat.not_lt.2 (e.window.callTime_le_deadline fetch n))
  | decided _ hv =>
    obtain ⟨hdec, rfl⟩ := verdict?_eq_some_iff.1 hv
    cases hd : e.discipline with
    | eventually => exact iff_of_true rfl ((decides_of_eventually hd).1 hdec)
    | consistently => exact iff_of_false nofun ((decides_of_consistently hd).1 hdec)
  | expired _ hv =>
    rw [accepts_iff_of_undecided hv]
    cases e.discipline with
    | eventually => exact iff_of_false nofun nofun
    | consistently => exact iff_of_true rfl rfl

end Evaluation

theorem evaluate_ok_iff_of_immediate {spec : PollSpec} (hv : spec.Valid) {predicate : Predicate}
    {fetch : Fetch} (hq : fetch.Quiet) (hi : fetch.Immediate) {q : Prop}
    (hsample : ∀ n t, (predicate.under spec.negate).Accepts (fetch n t).sample ↔ q) :
    (∃ o, (evaluate fetch predicate spec none).result = .ok o) ↔ q := by
  obtain ⟨n, f, hf, hrun⟩ := hv.exists_course fetch predicate none
  have hending := hf.satisfied_iff_of_immediate (hv.uncancelled predicate hq) hi
  rw [← hsample n (hv.window.callTime fetch n), hrun]
  refine Iff.trans ⟨?_, fun h => ?_⟩ hending
  · rintro ⟨o, ho⟩
    exact (Finish.result_eq_ok_iff.1 ho).1
  · exact ⟨_, f.result_of_satisfied spec.timeout h⟩

@[simp] theorem mapError_eq_ok_iff {x : Except ε α} {f : ε → ε'} {a : α} :
    x.mapError f = .ok a ↔ x = .ok a := by
  cases x with
  | error e => exact iff_of_false nofun nofun
  | ok b => simp [Except.mapError]

theorem Grammar.wellFormed_of_compile {g : Grammar} {reference path phrase : String}
    {p : Predicate} (hp : g.compile phrase = .ok p)
    (href : Assertion.IsReference reference.toList) (hpath : '\'' ∉ path.toList)
    (htrim : ∀ c ∈ phrase.toList.getLast?, Text.isBlank c = false) (negate : Bool) :
    (⟨reference, path, negate, phrase⟩ : Assertion).WellFormed := by
  obtain ⟨f, hf⟩ := exists_matches_of_compile hp
  exact ⟨href, hpath, fun he => hf.ne_nil (String.toList_eq_nil_iff.2 he), hf.not_mem_newline, htrim,
    fun _ => hf.not_prefix⟩

inductive Scenario.Incomparable (s : Scenario) (path : String) (p : Predicate) :
    Option Json → Prop
  | absent : Incomparable s path p none
  | malformed : s.extractor.extract document path = .error e →
      Incomparable s path p (some document)
  | missing : s.extractor.extract document path = .ok none →
      Incomparable s path p (some document)
  | unsupported : s.extractor.extract document path = .ok (some v) →
      v.typeName ∉ p.kind.types → Incomparable s path p (some document)

theorem Scenario.Incomparable.not_satisfied {s : Scenario} {o : ObjectRef} {path : String}
    {p : Predicate} {negate : Bool} {ds : Documents} (hp : p.Usable)
    (h : s.Incomparable path p (Documents.get? o ds)) : ¬s.Satisfied o path p negate ds := by
  rintro ⟨document, v, matched, hd, hv, ht, _⟩
  rw [hd] at h
  cases h with
  | malformed hx =>
    rw [hx] at hv
    nomatch hv
  | missing hx =>
    rw [hx] at hv
    nomatch hv
  | unsupported hx htype =>
    obtain rfl := Option.some.inj (Except.ok.inj (hx.symm.trans hv))
    obtain ⟨e, he⟩ := (hp.test_error_iff _).2 htype
    rw [ht] at he
    nomatch he

theorem Scenario.satisfied_iff_of_test {s : Scenario} {o : ObjectRef} {path : String}
    {p : Predicate} {negate matched : Bool} {ds : Documents} {document : Json} {v : Value}
    (hd : Documents.get? o ds = some document)
    (hx : s.extractor.extract document path = .ok (some v)) (ht : p.test v = .ok matched) :
    s.Satisfied o path p negate ds ↔ matched ≠ negate := by
  constructor
  · rintro ⟨document', v', matched', hd', hx', ht', hne⟩
    obtain rfl := Option.some.inj (hd.symm.trans hd')
    obtain rfl := Option.some.inj (Except.ok.inj (hx.symm.trans hx'))
    obtain rfl := Except.ok.inj (ht.symm.trans ht')
    exact hne
  · intro hne
    exact ⟨document, v, matched, hd, hx, ht, hne⟩

theorem Predicate.Usable.exists_test_eq_ok {p : Predicate} (hp : p.Usable) {v : Value}
    (hv : v.typeName ∈ p.kind.types) : ∃ matched, p.test v = .ok matched := by
  cases ht : p.test v with
  | ok matched => exact ⟨matched, rfl⟩
  | error e => exact absurd hv ((hp.test_error_iff v).1 ⟨e, ht⟩)

namespace Session

variable {s : Session} {script : Script} {o : ObjectRef} {reference path phrase stated : String}
  {p : Predicate} {timeout : Duration}

/-- The document of an object is read at once and stays as it is, and nothing cancels. -/
structure Unchanging (s : Session) (script : Script) (o : ObjectRef) : Prop where
  reads : ∀ r ∈ s.reads, r = .immediate
  token : s.scenario.token.cancelled = false
  edits : ∀ ev ∈ script, ev.change.IsEdit
  document : ∀ t, Documents.get? o (script.documents s.documents t) = Documents.get? o s.documents

theorem Unchanging.satisfied_iff (h : s.Unchanging script o) (negate : Bool) (t : Nat) :
    s.scenario.Satisfied o path p negate (script.documents s.documents t) ↔
      s.scenario.Satisfied o path p negate s.documents := by
  simp only [Scenario.Satisfied, h.document t]

section Step

variable (ho : s.scenario.registry.get? reference = some o)
  (hpath : '\'' ∉ path.toList) (hp : s.scenario.grammar.compile phrase = .ok p)
  (htrim : ∀ c ∈ phrase.toList.getLast?, Text.isBlank c = false)
  (hinterval : 0 < s.scenario.config.interval.nanos) (hstated : IsStated stated.toList)
  (htimeout : readDuration stated = .ok timeout) (hpos : 0 < timeout.nanos)
include ho hpath hp htrim hinterval hstated htimeout hpos

theorem Unchanging.runStep_ok_iff (h : s.Unchanging script o)
    (href : Assertion.IsReference reference.toList) {d : Discipline} {lead separator : String}
    (hlead : lead ∈ d.leads) (hsep : separator ∈ d.separators) (hne : separator ≠ "")
    (negate : Bool) :
    (∃ outcome, (s.runStep script (lead ++ stated ++ separator ++
        Assertion.text ⟨reference, path, negate, phrase⟩)).1.result = .ok outcome) ↔
      s.scenario.Satisfied o path p negate s.documents := by
  have ha := Grammar.wellFormed_of_compile hp href hpath htrim negate
  have hparts := AssertionStep.parts?_append hlead hsep hne hstated ha
  have ht : AssertionStep.readTimeout (some stated.toList) = .ok (some timeout) := by
    rw [AssertionStep.readTimeout_eq_ok_iff, Option.map_some, String.ofList_toList,
      Option.map_some, htimeout, Option.map_some]
  have hv : (s.scenario.spec ⟨d, some timeout, ⟨reference, path, negate, phrase⟩⟩).Valid :=
    ⟨hpos, hinterval⟩
  -- every poll reads the document as it was at the start, so the samples do not depend on the time
  rw [runStep, cancelAt, Script.cancelAt_eq_none h.token h.edits,
    Scenario.runStep_eq_evaluate hparts ht hp ho, Run.mapError, fetch_of_immediate h.reads]
  simp only [mapError_eq_ok_iff]
  apply evaluate_ok_iff_of_immediate hv (Fetch.quiet_live _) (Fetch.immediate_live _)
  intro n t
  exact (s.scenario.accepts_iff_satisfied o path (Grammar.negate_of_compile hp) negate _).trans
    (h.satisfied_iff negate t)

/-- A step about a document that does not change has the same verdict under both disciplines. One of
the two polarities passes if the path names a value of a type that the comparator takes, and none
else. A reference that is no name cannot be written in a step. -/
theorem passes_of_unchanging (h : s.Unchanging script o) :
    let passes (lead : String) (negate : Bool) := ∃ outcome, (s.runStep script
      (lead ++ stated ++ ", " ++ Assertion.text ⟨reference, path, negate, phrase⟩)).1.result =
        .ok outcome
    (Assertion.IsReference reference.toList →
      (∀ negate, passes "within " negate ↔ passes "for at least " negate) ∧
      (∀ document v, Documents.get? o s.documents = some document →
        s.scenario.extractor.extract document path = .ok (some v) → v.typeName ∈ p.kind.types →
        Xor (passes "within " false) (passes "within " true) ∧
          ∃ matched, p.test v = .ok matched ∧
            ∀ negate, passes "within " negate ↔ matched ≠ negate) ∧
      (s.scenario.Incomparable path p (Documents.get? o s.documents) →
        ∀ negate, ¬passes "within " negate ∧ ¬passes "for at least " negate)) ∧
    (¬Assertion.IsReference reference.toList →
      ∀ text step, AssertionStep.parse text = .ok step → step.assertion.reference ≠ reference) := by
  intro passes
  have husable : p.Usable := (Grammar.compiled_of_compile hp).usable
  refine ⟨fun href => ?_, fun href text step hparse heq => ?_⟩
  · have hwithin (negate : Bool) : passes "within " negate ↔
        s.scenario.Satisfied o path p negate s.documents :=
      h.runStep_ok_iff ho hpath hp htrim hinterval hstated htimeout hpos href
        (d := .eventually) (by decide) (by decide) (by decide) negate
    have hlasting (negate : Bool) : passes "for at least " negate ↔
        s.scenario.Satisfied o path p negate s.documents :=
      h.runStep_ok_iff ho hpath hp htrim hinterval hstated htimeout hpos href
        (d := .consistently) (by decide) (by decide) (by decide) negate
    refine ⟨fun negate => (hwithin negate).trans (hlasting negate).symm,
      fun document v hd hx htype => ?_, fun hnone negate => ?_⟩
    · obtain ⟨matched, ht⟩ := husable.exists_test_eq_ok htype
      have hverdict (negate : Bool) : passes "within " negate ↔ matched ≠ negate := by
        rw [hwithin negate]
        exact Scenario.satisfied_iff_of_test hd hx ht
      refine ⟨?_, matched, ht, hverdict⟩
      rw [hverdict, hverdict]
      cases matched with
      | false => exact .inr ⟨nofun, fun h => h rfl⟩
      | true => exact .inl ⟨nofun, fun h => h rfl⟩
    · rw [hwithin, hlasting]
      exact ⟨hnone.not_satisfied husable, hnone.not_satisfied husable⟩
  · rw [← heq] at href
    exact href (AssertionStep.wellFormed_of_parse hparse).reference

end Step

theorem passes_of_unchanging_ready :
    let o : ObjectRef := ⟨"v1", "Pod", "web", none⟩
    let s : Session :=
      ⟨⟨Registry.empty.register "web" o, .path, .standard, .default, ⟨false, false⟩⟩,
        [(o, .object [("ready", .bool true)])], [], 0⟩
    (∃ outcome, (s.runStep [] "within 50ms, web's '.ready' should be true").1.result =
      .ok outcome) ∧
    (∃ outcome, (s.runStep [] "for at least 50ms, web's '.ready' should be true").1.result =
      .ok outcome) ∧
    (¬∃ outcome, (s.runStep [] "within 50ms, web's '.ready' should not be true").1.result =
      .ok outcome) ∧
    ¬∃ outcome, (s.runStep [] "for at least 50ms, web's '.gone' should not be true").1.result =
      .ok outcome := by
  intro o s
  have h : s.Unchanging [] o := ⟨nofun, rfl, nofun, fun _ => rfl⟩
  have ho : s.scenario.registry.get? "web" = some o := Registry.get?_register_self ..
  have hp : s.scenario.grammar.compile "be true" = .ok (.plain .boolIs [.bool true]) := rfl
  have htrim : ∀ c ∈ "be true".toList.getLast?, Text.isBlank c = false := by
    intro c hc
    obtain rfl := Option.some.inj hc
    rfl
  have hinterval : 0 < s.scenario.config.interval.nanos := by decide
  have hstated : IsStated "50ms".toList := by decide +kernel
  have htimeout : readDuration "50ms" = .ok (.ofMillis 50) := rfl
  have href : Assertion.IsReference "web".toList := by decide
  have hready : '\'' ∉ ".ready".toList := by decide
  have hgone : '\'' ∉ ".gone".toList := by decide
  obtain ⟨hsame, hvalue, _⟩ := (passes_of_unchanging ho hready hp htrim hinterval hstated htimeout
    (by decide) h).1 href
  obtain ⟨_, _, hnone⟩ := (passes_of_unchanging ho hgone hp htrim hinterval hstated htimeout
    (by decide) h).1 href
  obtain ⟨_, matched, ht, hverdict⟩ :=
    hvalue (.object [("ready", .bool true)]) (.bool true) rfl rfl (by decide)
  obtain rfl : true = matched := Except.ok.inj ht
  have hpasses := (hverdict false).2 nofun
  exact ⟨hpasses, (hsame false).1 hpasses, fun hnot => (hverdict true).1 hnot rfl,
    (hnone (.missing rfl) true).2⟩

end Session

end LiveAssert
