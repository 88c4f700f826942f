import LiveAssert.Proofs.Poll.Duality
import LiveAssert.Proofs.Poll.Verdict

namespace LiveAssert

namespace Evaluation

variable {e : Evaluation} {fetch : Fetch} {m n k : Nat} {f : Finish}

theorem decision_ne_timedOut (d : Discipline) : d.decision ≠ .timedOut := by
  cases d with
  | eventually => nofun
  | consistently => nofun

@[simp]
theorem expiry_eq_timedOut_iff {d : Discipline} : d.expiry = .timedOut ↔ d = .eventually := by
  cases d with
  | eventually => exact iff_of_true rfl rfl
  | consistently => exact iff_of_false nofun nofun

theorem Ends.cancelledBy?_eq_none_of_timedOut (h : e.Ends fetch n f) (ht : f.ending = .timedOut) :
    e.cancelledBy? f.elapsed = none := by
  cases h with
  | barred => nomatch ht
  | interrupted => nomatch ht
  | unheard hn _ => exact hn
  | decided hn _ _ => exact hn
  | expired hn _ _ => exact hn
  | withdrawn => nomatch ht
  | awaited => nomatch ht

theorem Course.eq_of_cancels (h : e.Course fetch n f) (hm : m ≤ n)
    (hc : (e.window.reply fetch m).cancels = true) : m = n := by
  apply Nat.le_antisymm hm
  apply Nat.le_of_not_lt
  intro hlt
  rw [(h.continues m hlt).quiet] at hc
  nomatch hc

theorem Ends.timedOut_iff_of_hears (h : e.Ends fetch n f) (hn : e.Hears fetch n) :
    f.ending = .timedOut ↔ e.discipline = .eventually ∧
      e.window.replyTime fetch n = e.window.deadline ∧
      ¬e.predicate.Accepts (e.window.sample fetch n) := by
  cases h with
  | barred hc => exact absurd hn (not_hears_of_barred hc)
  | interrupted _ hc => exact absurd hn (not_hears_of_interrupted hc)
  | unheard _ hd => exact absurd hn (not_hears_of_unheard hd)
  | decided _ _ hv =>
    obtain ⟨hdec, rfl⟩ := verdict?_eq_some_iff.1 hv
    refine iff_of_false (decision_ne_timedOut e.discipline) fun ⟨he, _, ha⟩ => ?_
    exact ha ((decides_of_eventually he).1 hdec)
  | expired _ hd hv =>
    rw [expiry_eq_timedOut_iff]
    refine ⟨fun he => ⟨he, hd, fun ha => ?_⟩, fun he => he.1⟩
    exact verdict?_eq_none_iff.1 hv ((decides_of_eventually he).2 ha)
  | withdrawn _ hd => exact iff_of_false nofun fun h => Nat.ne_of_lt hd h.2.1
  | awaited _ hd => exact iff_of_false nofun fun h => Nat.ne_of_lt hd h.2.1

end Evaluation

/-- No run times out that is cancelled from outside before its end or with it. One that a fetch
cancels with its reply times out under `eventually` if this comes back at the deadline and does not
hold, and never else. -/
theorem evaluate_timedOut {fetch : Fetch} {predicate : Predicate} {spec : PollSpec}
    {cancelAt : Option Nat} {run : Run ConditionError}
    (hrun : run = evaluate fetch predicate spec cancelAt) :
    (∀ k, cancelAt = some k → k ≤ run.elapsed → run.ending? ≠ some .timedOut) ∧
    (∀ n time, run.calls[n]? = some time → (fetch n time).cancels = true →
      run.Hears fetch spec.timeout.millisUp cancelAt n (fetch n time).sample →
      (run.ending? = some .timedOut ↔ spec.discipline = .eventually ∧
        time + (fetch n time).delay.millisUp = spec.timeout.millisUp ∧
        ¬(predicate.under spec.negate).Accepts (fetch n time).sample)) := by
  by_cases hv : spec.Valid
  · let e := hv.evaluation predicate cancelAt
    obtain ⟨n, f, hf, hfinish⟩ := hv.exists_course fetch predicate cancelAt
    rw [hrun, hfinish, f.ending?_toRun]
    refine ⟨fun k hk hle ht => ?_, fun m time ht hc hh => ?_⟩
    · have hnone := hf.ends.cancelledBy?_eq_none_of_timedOut (Option.some.inj ht)
      exact Nat.not_lt.2 hle (Evaluation.cancelledBy?_eq_none_iff.1 hnone k hk)
    · obtain ⟨hm, hn, _⟩ := hf.hears_iff.1 hh
      obtain ⟨_, rfl⟩ := hf.ends.callTime_eq_of_getElem? ht
      obtain rfl := hf.eq_of_cancels hm hc
      rw [Option.some.injEq]
      exact hf.ends.timedOut_iff_of_hears hn
  · obtain ⟨fault, hrefused⟩ := exists_evaluate_eq_refused hv fetch predicate cancelAt
    rw [hrun, hrefused]
    exact ⟨fun _ _ _ => nofun, fun _ _ ht => nomatch ht⟩

theorem evaluate_timedOut_at_deadline :
    let spec : PollSpec := ⟨.eventually, .ofMillis 10, .ofMillis 10, false⟩
    let predicate : Predicate := .plain .equal [.string "a"]
    let fetch : Fetch := fun n _ => ⟨.ok (some (.string "b")), .zero, n == 1⟩
    let run := evaluate fetch predicate spec none
    let cut := evaluate fetch predicate spec (some 10)
    run.calls[1]? = some 10 ∧ (fetch 1 10).cancels = true ∧
      run.Hears fetch spec.timeout.millisUp none 1 (fetch 1 10).sample ∧
      run.ending? = some .timedOut ∧
      10 ≤ cut.elapsed ∧ cut.ending? ≠ some .timedOut := by
  intro spec predicate fetch run cut
  have hcall : run.calls[1]? = some 10 := by decide +kernel
  have hheard : run.Hears fetch spec.timeout.millisUp none 1 (fetch 1 10).sample :=
    ⟨10, hcall, rfl, by decide, nofun⟩
  have hcut : 10 ≤ cut.elapsed := by decide +kernel
  have hout := evaluate_timedOut (rfl : run = evaluate fetch predicate spec none)
  have hout' := evaluate_timedOut (rfl : cut = evaluate fetch predicate spec (some 10))
  refine ⟨hcall, rfl, hheard, ?_, hcut, hout'.1 10 rfl hcut⟩
  exact (hout.2 1 10 hcall rfl hheard).2 ⟨rfl, by decide, by decide +kernel⟩

theorem exists_cancels_and_timedOut :
    ∃ (fetch : Fetch) (predicate : Predicate) (spec : PollSpec), spec.Valid ∧
      let run := evaluate fetch predicate spec none
      run.calls[1]? = some run.elapsed ∧ (fetch 1 run.elapsed).cancels = true ∧
        (fetch 1 run.elapsed).delay = .zero ∧ run.ending? = some .timedOut :=
  ⟨fun n _ => ⟨.ok (some (.string "b")), .zero, n == 1⟩, .plain .equal [.string "a"],
    ⟨.eventually, .ofMillis 10, .ofMillis 10, false⟩, ⟨by decide, by decide⟩, by decide +kernel⟩

end LiveAssert
