import LiveAssert.Proofs.Poll.Grid
import LiveAssert.Proofs.Scenario.Script
import LiveAssert.Session

namespace LiveAssert

namespace Scenario

/-- In the documents there is one of the object in which the path names a value that can be compared
and compares as demanded. -/
def Satisfied (s : Scenario) (o : ObjectRef) (path : String) (p : Predicate) (negate : Bool)
    (ds : Documents) : Prop :=
  ∃ document v matched, Documents.get? o ds = some document ∧
    s.extractor.extract document path = .ok (some v) ∧ p.test v = .ok matched ∧ matched ≠ negate

theorem accepts_iff_satisfied (s : Scenario) (o : ObjectRef) (path : String) {p : Predicate}
    (hp : p.negate = false) (negate : Bool) (ds : Documents) :
    (p.under negate).Accepts ((ds.resolve o).bind (s.extracted path)) ↔
      s.Satisfied o path p negate ds := by
  have hholds (v : Value) : (p.under negate).holds v = (p.test v).map (· != negate) := by
    rw [Predicate.holds, Predicate.test_under, Predicate.negate_under, hp, Bool.false_bne]
  constructor
  · rintro ⟨v, hv, hm⟩
    rw [Documents.resolve] at hv
    split at hv
    · next document hd =>
      cases hx : s.extractor.extract document path with
      | error x => simp [Except.bind, extracted, hx, Except.mapError] at hv
      | ok v? =>
        simp only [Except.bind, extracted, hx, Except.mapError, Except.ok.injEq] at hv
        rw [hholds] at hm
        cases ht : p.test v with
        | error x => simp [ht, Except.map] at hm
        | ok matched =>
          simp only [ht, Except.map, Except.ok.injEq, bne_iff_ne] at hm
          exact ⟨document, v, matched, hd, by rw [hx, hv], ht, hm⟩
    · nomatch hv
  · rintro ⟨document, v, matched, hd, hx, ht, hm⟩
    refine ⟨v, ?_, ?_⟩
    · simp [Documents.resolve, hd, Except.bind, extracted, hx, Except.mapError]
    · simp [hholds, ht, Except.map, hm]

end Scenario

namespace Session

variable {s : Session} {script : Script} {o : ObjectRef} {path : String}

theorem resolver_of_immediate (h : ∀ r ∈ s.reads, r = .immediate) (n time : Nat) :
    s.resolver script n time o =
      ⟨(script.documents s.documents time).resolve o, .zero⟩ := by
  have hr : s.reads[n]?.getD .immediate = .immediate := by
    cases hn : s.reads[n]? with
    | none => rfl
    | some r => exact h r (List.mem_of_getElem? hn)
  rw [resolver, hr]
  rfl

def sampleAt (s : Session) (script : Script) (o : ObjectRef) (path : String) (time : Nat) :
    Sample :=
  ((script.documents s.documents time).resolve o).bind (s.scenario.extracted path)

theorem fetch_of_immediate (h : ∀ r ∈ s.reads, r = .immediate) :
    s.scenario.fetch (s.resolver script) o path = .live (s.sampleAt script o path) := by
  funext n time
  rw [Scenario.fetch, resolver_of_immediate h]
  rfl

theorem assertObject_eq_evaluate {reference phrase : String} {spec : PollSpec} {p : Predicate}
    (htoken : s.scenario.token.cancelled = false) (hscript : ∀ ev ∈ script, ev.change.IsEdit)
    (ho : s.scenario.registry.get? reference = some o)
    (hp : s.scenario.grammar.compile phrase = .ok p) :
    (s.assertObject script reference path phrase spec).1 =
      (evaluate (s.scenario.fetch (s.resolver script) o path) p spec none).mapError
        .ofCondition := by
  have hnone : s.cancelAt script = none := Script.cancelAt_eq_none htoken hscript
  simp only [assertObject, hnone, Scenario.assertObject, hp, ho]

/-- A condition that holds from some time on until the deadline makes an assertion under
`eventually` succeed at the first point of the grid from there, and one that fails for a whole
interval is noticed under `consistently` before that interval is over. The last call is made at that
time. -/
theorem lasting_condition_observed {reference phrase : String} {spec : PollSpec} {p : Predicate}
    {time : Nat} (hreads : ∀ r ∈ s.reads, r = .immediate)
    (htoken : s.scenario.token.cancelled = false) (hscript : ∀ ev ∈ script, ev.change.IsEdit)
    (hv : spec.Valid) (ho : s.scenario.registry.get? reference = some o)
    (hp : s.scenario.grammar.compile phrase = .ok p) (ht : time ≤ spec.timeout.millisUp) :
    let run := (s.assertObject script reference path phrase spec).1
    let satisfiedAt (t : Nat) :=
      s.scenario.Satisfied o path p spec.negate (script.documents s.documents t)
    (spec.discipline = .eventually →
      (∀ t, time ≤ t → t ≤ spec.timeout.millisUp → satisfiedAt t) →
      ∃ outcome elapsed, run.result = .ok outcome ∧ outcome.elapsed = .ofMillis elapsed ∧
        run.calls.getLast? = some elapsed ∧
        elapsed ≤ min (time ⌈/⌉ spec.interval.millisUp * spec.interval.millisUp)
          spec.timeout.millisUp) ∧
    (spec.discipline = .consistently →
      (∀ t, time ≤ t → t < time + spec.interval.millisUp → t ≤ spec.timeout.millisUp →
        ¬satisfiedAt t) →
      ∃ outcome elapsed, run.result = .error (.violation outcome) ∧
        outcome.elapsed = .ofMillis elapsed ∧ run.calls.getLast? = some elapsed ∧
        elapsed < time + spec.interval.millisUp) := by
  dsimp only
  rw [assertObject_eq_evaluate htoken hscript ho hp, fetch_of_immediate hreads]
  have hq := Fetch.quiet_live (s.sampleAt script o path)
  have hi := Fetch.immediate_live (s.sampleAt script o path)
  have hu := hv.uncancelled p hq
  have hsample (n : Nat) := s.scenario.accepts_iff_satisfied o path
    (Grammar.negate_of_compile hp) spec.negate
    (script.documents s.documents (hv.window.callTime (.live (s.sampleAt script o path)) n))
  obtain ⟨n, f, hc, hrun⟩ := hv.exists_course (.live (s.sampleAt script o path)) p none
  have hlast (h : f.progress.calls.head? = some f.elapsed) :
      ((f.toRun spec.timeout).mapError AssertionError.ofCondition).calls.getLast? =
        some f.elapsed := List.getLast?_reverse.trans h
  rw [hrun]
  constructor
  · intro hd h
    obtain ⟨hf, hcall, hle⟩ := hc.decided_of_lasting hu hi ht fun m hm _ =>
      (Evaluation.decides_of_eventually hd).2
        ((hsample m).2 (h _ hm (hv.window.callTime_le_deadline _ m)))
    have hending : f.ending = .satisfied := hf.trans (congrArg Discipline.decision hd)
    rw [Window.callTime_of_immediate hi] at hle
    exact ⟨_, f.elapsed, congrArg (Except.mapError AssertionError.ofCondition)
      (f.result_of_satisfied spec.timeout hending), rfl, hlast hcall, hle⟩
  · intro hd h
    obtain ⟨hf, hcall, hle⟩ := hc.decided_of_lasting hu hi ht fun m hm hm' =>
      (Evaluation.decides_of_consistently hd).2 fun ha =>
        h _ hm hm' (hv.window.callTime_le_deadline _ m) ((hsample m).1 ha)
    have hending : f.ending = .violated := hf.trans (congrArg Discipline.decision hd)
    exact ⟨_, f.elapsed, congrArg (Except.mapError AssertionError.ofCondition)
      (f.result_of_violated spec.timeout hending), rfl, hlast hcall,
      Nat.lt_of_le_of_lt hle (Window.callTime_gridIndex_lt hi time)⟩

theorem change_between_polls_observed :
    let o : ObjectRef := ⟨"v1", "Pod", "web", none⟩
    let s : Session :=
      .new ⟨Registry.empty.register "web" o, .path, .standard, .default, ⟨false, false⟩⟩
    let script : Script := [⟨25, .set o (.object [("ready", .bool true)])⟩]
    let spec : PollSpec := ⟨.eventually, .ofMillis 100, .ofMillis 10, false⟩
    (∀ r ∈ s.reads, r = .immediate) ∧ s.scenario.token.cancelled = false ∧
      (∀ ev ∈ script, ev.change.IsEdit) ∧ spec.Valid ∧
      s.scenario.registry.get? "web" = some o ∧
      s.scenario.grammar.compile "be true" = .ok (.plain .boolIs [.bool true]) ∧
      25 ≤ spec.timeout.millisUp ∧
      (∀ t, 25 ≤ t → s.scenario.Satisfied o ".ready" (.plain .boolIs [.bool true]) spec.negate
        (script.documents s.documents t)) ∧
      ∃ outcome elapsed, (s.assertObject script "web" ".ready" "be true" spec).1.result =
        .ok outcome ∧ outcome.elapsed = .ofMillis elapsed ∧ elapsed ≤ 30 := by
  intro o s script spec
  have hreads : ∀ r ∈ s.reads, r = .immediate := fun r hr => nomatch hr
  have hscript : ∀ ev ∈ script, ev.change.IsEdit := by simp [script, Change.IsEdit]
  have hv : spec.Valid := ⟨by decide, by decide⟩
  have ho : s.scenario.registry.get? "web" = some o := Registry.get?_register_self ..
  have hp : s.scenario.grammar.compile "be true" = .ok (.plain .boolIs [.bool true]) := rfl
  have hsat (t : Nat) (ht : 25 ≤ t) : s.scenario.Satisfied o ".ready"
      (.plain .boolIs [.bool true]) spec.negate (script.documents s.documents t) := by
    have hd : script.documents s.documents t = [(o, .object [("ready", .bool true)])] := by
      rw [Script.documents, Script.happened, List.filter_cons_of_pos (by simpa using ht)]
      rfl
    rw [hd]
    exact ⟨.object [("ready", .bool true)], .bool true, true, rfl, rfl, rfl, by decide⟩
  have ht : 25 ≤ spec.timeout.millisUp := by decide
  refine ⟨hreads, rfl, hscript, hv, ho, hp, ht, hsat, ?_⟩
  obtain ⟨hok, _⟩ := lasting_condition_observed hreads rfl hscript hv ho hp ht
  obtain ⟨outcome, elapsed, hresult, helapsed, _, hle⟩ := hok rfl fun t ht _ => hsat t ht
  exact ⟨outcome, elapsed, hresult, helapsed, Nat.le_trans hle (by decide)⟩

end Session

end LiveAssert
