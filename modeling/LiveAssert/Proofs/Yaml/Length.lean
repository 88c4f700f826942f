import LiveAssert.Literal
import LiveAssert.Proofs.Yaml.Extent
import Mathlib.Data.List.InsertIdx

namespace LiveAssert.Yaml

namespace Token

variable {n : Nat} {t : Token}

def Fits (n : Nat) : Token → Prop
  | .scalar text _ => text.length ≤ n
  | _ => True

theorem fits_of_map {f : α → Token} {read? : Option (α × List Char)} (hf : ∀ a, (f a).Fits n)
    (hread : ∀ a rest, read? = some (a, rest) → rest.length ≤ n) {rest : List Char}
    (h : read?.map (fun (a, rest) => (f a, rest)) = some (t, rest)) :
    t.Fits n ∧ rest.length ≤ n := by
  obtain ⟨⟨a, rest'⟩, ha, heq⟩ := Option.map_eq_some_iff.1 h
  cases heq
  exact ⟨hf a, hread a _ ha⟩

namespace State

variable {st st' : State} {rest : List Char}

/-- How far a text of `n` characters may be read: no scalar and no rest is longer than the text. -/
structure Within (n : Nat) (st : State) : Prop where
  rest : st.rest.length ≤ n
  tokens : ∀ t ∈ st.tokens, t.Fits n

namespace Within

theorem of_eq (h : st.Within n) (hr : st'.rest = st.rest) (ht : st'.tokens = st.tokens) :
    st'.Within n :=
  ⟨hr ▸ h.rest, ht ▸ h.tokens⟩

theorem goTo (h : st.Within n) (hr : rest.length ≤ n) : (st.goTo rest).Within n := ⟨hr, h.tokens⟩

theorem skip {k : Nat} (h : st.Within n) : (st.skip k).Within n :=
  h.goTo (Nat.le_trans (List.drop_sublist k st.rest).length_le h.rest)

theorem push (h : st.Within n) (ht : t.Fits n) : (st.push t).Within n :=
  ⟨h.rest, List.forall_mem_cons.2 ⟨ht, h.tokens⟩⟩

theorem insert (h : st.Within n) (place : Nat) (ht : t.Fits n) : (st.insert place t).Within n := by
  refine ⟨h.rest, fun u hu => ?_⟩
  rcases List.eq_or_mem_of_mem_insertIdx hu with rfl | hu
  · exact ht
  · exact h.tokens u hu

theorem openBlock (h : st.Within n) (column place : Nat) (ht : t.Fits n) :
    (st.openBlock column place t).Within n := by
  have hi := h.insert place ht
  fun_cases State.openBlock st column place t with
  | case1 => exact h
  | case2 => exact hi.of_eq rfl rfl
  | case3 => exact h

theorem openHere (h : st.Within n) (ht : t.Fits n) : (st.openHere t).Within n :=
  h.openBlock _ _ ht

theorem closeBlocks (h : st.Within n) (column : Option Nat) :
    (State.closeBlocks column st).Within n := by
  rw [State.closeBlocks]
  split
  · exact h
  · refine ⟨h.rest, fun t ht => ?_⟩
    rcases List.mem_append.1 ht with ht | ht
    · rw [List.eq_of_mem_replicate ht]
      trivial
    · exact h.tokens t ht

theorem dropCandidate? (h : st.Within n) (hd : st.dropCandidate? = some st') : st'.Within n := by
  simp only [State.dropCandidate?] at hd
  split at hd
  · split at hd
    · nomatch hd
    · cases hd
      exact h.of_eq rfl rfl
  · cases hd
    exact h

theorem saveCandidate? (h : st.Within n) (hs : st.saveCandidate? = some st') : st'.Within n := by
  simp only [State.saveCandidate?] at hs
  split at hs
  · obtain ⟨st₁, hd, rfl⟩ := Option.map_eq_some_iff.1 hs
    exact (h.dropCandidate? hd).of_eq rfl rfl
  · cases hs
    exact h

theorem lapseAll? (h : st.Within n) (hl : st.lapseAll? = some st') : st'.Within n := by
  obtain ⟨candidate, _, hl⟩ := Option.bind_eq_some_iff.1 hl
  obtain ⟨outer, _, hl⟩ := Option.bind_eq_some_iff.1 hl
  cases hl
  exact h.of_eq rfl rfl

theorem closeAll? (h : st.Within n) (hc : st.closeAll? = some st') : st'.Within n := by
  obtain ⟨st₁, hd, rfl⟩ := Option.map_eq_some_iff.1 hc
  exact ((h.closeBlocks none).dropCandidate? hd).of_eq rfl rfl

theorem toNextToken (h : st.Within n) (fuel : Nat) : (st.toNextToken fuel).Within n := by
  induction fuel generalizing st with
  | zero => exact h
  | succ fuel ih =>
    unfold State.toNextToken
    extract_lets tabs s s'
    have hs : s'.length ≤ n := by grind [length_dropWhile_le, h.rest]
    clear_value s'
    split
    · exact h.goTo (Nat.zero_le n)
    · next c t =>
      split
      · have hbreak := length_takeBreak_le (c :: t)
        have hrest : (takeBreak (c :: t)).2.length ≤ n := by omega
        exact ih ((h.goTo hrest).of_eq rfl rfl)
      · exact h.goTo hs

theorem directive? (h : st.Within n) (hd : st.directive? = some st') : st'.Within n := by
  obtain ⟨st₁, hc, hd⟩ := Option.bind_eq_some_iff.1 hd
  obtain ⟨⟨d, rest⟩, hr, hd⟩ := Option.bind_eq_some_iff.1 hd
  cases hd
  have h₁ := h.closeAll? hc
  have hrest := Nat.le_trans (Directive.length_le_of_read? hr) (h₁.skip (k := 1)).rest
  exact (h₁.goTo hrest).push trivial

theorem marker? (h : st.Within n) (ht : t.Fits n) (hm : st.marker? t = some st') :
    st'.Within n := by
  obtain ⟨st₁, hc, rfl⟩ := Option.map_eq_some_iff.1 hm
  exact (h.closeAll? hc).skip.push ht

theorem openFlow? (h : st.Within n) (ht : t.Fits n) (ho : st.openFlow? t = some st') :
    st'.Within n := by
  obtain ⟨st₁, hs, rfl⟩ := Option.map_eq_some_iff.1 ho
  have h₁ := h.saveCandidate? hs
  exact .push (.skip ⟨h₁.rest, h₁.tokens⟩) ht

theorem closeFlow? (h : st.Within n) (ht : t.Fits n) (hc : st.closeFlow? t = some st') :
    st'.Within n := by
  obtain ⟨st₁, hd, rfl⟩ := Option.map_eq_some_iff.1 hc
  have h₁ := h.dropCandidate? hd
  refine .push (.skip ?_) ht
  split <;> exact h₁.of_eq rfl rfl

theorem flowEntry? (h : st.Within n) (hf : st.flowEntry? = some st') : st'.Within n := by
  obtain ⟨st₁, hd, rfl⟩ := Option.map_eq_some_iff.1 hf
  have h₁ := h.dropCandidate? hd
  exact .push (.skip ⟨h₁.rest, h₁.tokens⟩) trivial

theorem blockEntry? (h : st.Within n) (hb : st.blockEntry? = some st') : st'.Within n := by
  simp only [State.blockEntry?, Option.ite_none_left_eq_some] at hb
  obtain ⟨st₁, hd, rfl⟩ := Option.map_eq_some_iff.1 hb.2
  have h₁ := (h.openHere (t := .blockSequenceStart) trivial).dropCandidate? hd
  exact .push (.skip ⟨h₁.rest, h₁.tokens⟩) trivial

theorem key? (h : st.Within n) (hk : st.key? = some st') : st'.Within n := by
  simp only [State.key?, Option.ite_none_left_eq_some] at hk
  obtain ⟨st₁, hd, rfl⟩ := Option.map_eq_some_iff.1 hk.2
  have h₁ := (h.openHere (t := .blockMappingStart) trivial).dropCandidate? hd
  exact .push (.skip ⟨h₁.rest, h₁.tokens⟩) trivial

theorem value? (h : st.Within n) (hv : st.value? = some st') : st'.Within n := by
  rw [State.value?] at hv
  split at hv
  · next c _ =>
    cases hv
    have h₁ := (h.insert c.place (t := .key) trivial).openBlock c.mark.column c.place
      (t := .blockMappingStart) trivial
    exact .push (.skip ⟨h₁.rest, h₁.tokens⟩) trivial
  · split at hv
    · nomatch hv
    · cases hv
      have h₁ := h.openHere (t := .blockMappingStart) trivial
      exact .push (.skip ⟨h₁.rest, h₁.tokens⟩) trivial

theorem node? (h : st.Within n) {read? : State → Option (Token × List Char)}
    (hread : ∀ st₁ t rest, st₁.Within n → read? st₁ = some (t, rest) → t.Fits n ∧ rest.length ≤ n)
    (hn : st.node? read? = some st') : st'.Within n := by
  obtain ⟨st₁, hs, hn⟩ := Option.bind_eq_some_iff.1 hn
  obtain ⟨⟨t, rest⟩, hr, hn⟩ := Option.bind_eq_some_iff.1 hn
  cases hn
  have h₁ := h.saveCandidate? hs
  obtain ⟨ht, hrest⟩ := hread st₁ t rest h₁ hr
  exact .push (.goTo ⟨h₁.rest, h₁.tokens⟩ hrest) ht

theorem quoted? (h : st.Within n) {q : Quoted.Quote} (hq : st.quoted? q = some st') :
    st'.Within n := by
  refine h.node? (fun st₁ t rest h₁ hread => ?_) hq
  obtain ⟨⟨text, rest'⟩, hscan, heq⟩ := Option.map_eq_some_iff.1 hread
  cases heq
  have hlength := Quoted.length_le_of_scan hscan
  have hskip : (st₁.rest.drop 1).length ≤ n := (h₁.skip (k := 1)).rest
  exact ⟨by simp only [Fits]; omega, by omega⟩

theorem plain? (h : st.Within n) (hp : st.plain? = some st') : st'.Within n := by
  obtain ⟨st₁, hs, hp⟩ := Option.bind_eq_some_iff.1 hp
  obtain ⟨r, hscan, hp⟩ := Option.bind_eq_some_iff.1 hp
  cases hp
  have h₁ := h.saveCandidate? hs
  have hlength := Nat.le_trans (Plain.length_le_of_scan hscan) h₁.rest
  exact .push (.goTo ⟨h₁.rest, h₁.tokens⟩ (by omega)) (by simp only [Fits]; omega)

theorem block? (h : st.Within n) {style : Block.Style} (hb : st.block? style = some st') :
    st'.Within n := by
  obtain ⟨st₁, hs, hb⟩ := Option.bind_eq_some_iff.1 hb
  obtain ⟨⟨text, rest⟩, hscan, hb⟩ := Option.bind_eq_some_iff.1 hb
  cases hb
  have h₁ := h.dropCandidate? hs
  have hlength := Nat.le_trans (Block.length_le_of_scan hscan) (h₁.skip (k := 1)).rest
  exact .push (.goTo ⟨h₁.rest, h₁.tokens⟩ (by omega)) (by simp only [Fits]; omega)

theorem of_ite {p : Prop} [Decidable p] {a b : Option State} (ha : a = some st' → st'.Within n)
    (hb : b = some st' → st'.Within n) (h : (if p then a else b) = some st') : st'.Within n := by
  split at h
  · exact ha h
  · exact hb h

theorem token? (h : st.Within n) (ht : st.token? = some st') : st'.Within n := by
  unfold State.token? at ht
  split at ht
  · cases ht
    exact h
  · next c s hrest =>
    have hcs : (c :: s).length ≤ n := hrest ▸ h.rest
    have hs : s.length ≤ n := Nat.le_of_succ_le hcs
    have hname name rest (h : Tag.anchorName? s = some (name, rest)) : rest.length ≤ n :=
      Nat.le_trans (Tag.length_le_of_anchorName? h) hs
    have htag inFlow tag rest (h : Tag.read? inFlow (c :: s) = some (tag, rest)) :
        rest.length ≤ n :=
      Nat.le_trans (Tag.length_le_of_read? h) hcs
    revert ht
    -- One step for each kind of token, in the order in which they are tried.
    refine of_ite h.directive? ?_
    refine of_ite (h.marker? (by split <;> trivial)) ?_
    refine of_ite (h.openFlow? trivial) ?_
    refine of_ite (h.openFlow? trivial) ?_
    refine of_ite (h.closeFlow? trivial) ?_
    refine of_ite (h.closeFlow? trivial) ?_
    refine of_ite h.flowEntry? ?_
    refine of_ite h.blockEntry? ?_
    refine of_ite h.key? ?_
    refine of_ite h.value? ?_
    refine of_ite (h.node? fun _ _ _ _ => fits_of_map (f := .alias) (fun _ => trivial) hname) ?_
    refine of_ite (h.node? fun _ _ _ _ => fits_of_map (f := .anchor) (fun _ => trivial) hname) ?_
    refine of_ite (h.node? fun _ _ _ _ => fits_of_map (f := .tag) (fun _ => trivial) (htag _)) ?_
    refine of_ite h.block? ?_
    refine of_ite h.block? ?_
    refine of_ite h.quoted? ?_
    refine of_ite h.quoted? ?_
    exact of_ite h.plain? nofun

theorem step? (h : st.Within n) (hs : st.step? = some st') : st'.Within n := by
  obtain ⟨st₁, hl, hs⟩ := Option.bind_eq_some_iff.1 hs
  exact (((h.toNextToken _).lapseAll? hl).closeBlocks _).token? hs

theorem run? (h : st.Within n) {fuel : Nat} {ts : List Token} (hr : st.run? fuel = some ts) :
    ∀ t ∈ ts, t.Fits n := by
  induction fuel generalizing st with
  | zero => nomatch hr
  | succ fuel ih =>
    rw [State.run?] at hr
    split at hr
    · obtain ⟨st₁, hc, rfl⟩ := Option.map_eq_some_iff.1 hr
      intro t ht
      exact (h.closeAll? hc).tokens t (List.mem_reverse.1 ht)
    · obtain ⟨st₁, hs, hr⟩ := Option.bind_eq_some_iff.1 hr
      exact ih (h.step? hs) hr

end Within

end State

theorem fits_of_read? {s : List Char} {ts : List Token} (h : read? s = some ts) :
    ∀ t ∈ ts, t.Fits s.length := by
  simp only [read?, Option.ite_none_right_eq_some] at h
  have hs : (start s).Within s.length := by
    have hstart : (State.start s).Within s.length := ⟨Nat.le_refl _, nofun⟩
    fun_cases start s with
    | case1 => exact hstart.skip
    | case2 => exact hstart
  exact hs.run? h.2

end Token

namespace Node

variable {n : Nat} {ts rest : List Token} {handles : Handles} {props : Props Name}
  {text : List Char} {plain : Bool}

theorem subset_of_props? (h : props? handles ts = some (props, rest)) : rest ⊆ ts := by
  intro t ht
  fun_cases props? handles ts <;> grind [props?, Option.map_eq_some_iff]

theorem emptyWith_text (h : emptyWith props ts = some (.scalar props' text plain, rest)) :
    text = [] := by
  simp only [emptyWith, Option.ite_none_right_eq_some] at h
  cases h.2
  rfl

theorem length_le_of_read {fuel : Nat} {pos : Position} (hts : ∀ t ∈ ts, t.Fits n)
    (h : read handles fuel pos ts = some (.scalar props text plain, rest)) : text.length ≤ n := by
  cases fuel with
  | zero => nomatch h
  | succ fuel =>
    rw [read.eq_def] at h
    dsimp only at h
    split at h
    · nomatch h
    · split at h
      · nomatch h
      · next p ts' hp =>
        -- A collection is no scalar, and a node of which only the properties are written is empty.
        split at h
        case h_1 | h_3 | h_4 | h_6 | h_7 =>
          obtain ⟨_, _, heq⟩ := Option.map_eq_some_iff.1 h
          nomatch heq
        case h_2 =>
          cases h
          exact hts _ (subset_of_props? hp List.mem_cons_self)
        case h_5 | h_8 =>
          rw [emptyWith_text h]
          exact Nat.zero_le n

theorem subset_of_directives? {versioned : Bool} {handles' : Handles}
    (h : directives? versioned handles ts = some (handles', rest)) : rest ⊆ ts := by
  fun_induction directives? versioned handles ts <;> grind

theorem length_le_of_content? (hts : ∀ t ∈ ts, t.Fits n)
    (h : content? handles ts = some (.scalar props text plain, rest)) : text.length ≤ n := by
  unfold content? at h
  split at h
  · cases h
    exact Nat.zero_le n
  · split at h
    · cases h
      exact Nat.zero_le n
    · exact length_le_of_read hts h

theorem length_le_of_ofTokens? (hts : ∀ t ∈ ts, t.Fits n)
    (h : ofTokens? ts = some (some (.scalar props text plain))) : text.length ≤ n := by
  simp only [ofTokens?] at h
  split at h
  · nomatch h
  · obtain ⟨⟨node, rest⟩, hd, h⟩ := Option.bind_eq_some_iff.1 h
    obtain ⟨⟨handles, rest'⟩, hrest, hd⟩ := Option.bind_eq_some_iff.1 hd
    simp only [Option.ite_none_right_eq_some] at h
    cases h.2
    have hsubset := subset_of_directives? hrest
    dsimp only at hd
    split at hd
    · exact length_le_of_content? (fun t ht => hts t (hsubset (.tail _ ht))) hd
    · simp only [Option.ite_none_right_eq_some] at hd
      exact length_le_of_read hts hd.2

theorem scalar_of_expand {table : List (Nat × Node Nat)} {depth left left' : Nat}
    {node : Node Nat} {tag : Option (List Char)}
    (h : (expand table depth node).run left = some (.scalar tag text plain, left'))
    (hnode : ∀ i, node ≠ .alias i) :
    ∃ p, node = .scalar p text plain := by
  cases node with
  | «alias» i => exact absurd rfl (hnode i)
  | scalar p t b =>
    have hs : expand table depth (.scalar p t b) = pure (.scalar p.tag t b) := by
      cases depth <;> rfl
    rw [hs] at h
    cases h
    exact ⟨p, rfl⟩
  | sequence p items =>
    cases depth with
    | zero => nomatch h
    | succ depth =>
      obtain ⟨_, _, h⟩ := Option.bind_eq_some_iff.1 h
      nomatch h
  | mapping p entries =>
    cases depth with
    | zero => nomatch h
    | succ depth =>
      obtain ⟨_, _, h⟩ := Option.bind_eq_some_iff.1 h
      nomatch h

theorem scalar_of_tree? {node : Node Name} {tag : Option (List Char)}
    (h : node.tree? = some (.scalar tag text plain)) : ∃ p, node = .scalar p text plain := by
  obtain ⟨⟨numbered, ns⟩, hn, h⟩ := Option.bind_eq_some_iff.1 h
  obtain ⟨⟨tree, left⟩, he, h⟩ := Option.bind_eq_some_iff.1 h
  cases h
  cases node with
  | «alias» name => nomatch hn
  | scalar p t b =>
    cases hn
    obtain ⟨_, heq⟩ := scalar_of_expand he nofun
    cases heq
    exact ⟨p, rfl⟩
  | sequence p items =>
    obtain ⟨_, _, heq⟩ := Option.map_eq_some_iff.1 hn
    cases heq
    obtain ⟨_, heq⟩ := scalar_of_expand he nofun
    nomatch heq
  | mapping p entries =>
    obtain ⟨_, _, heq⟩ := Option.map_eq_some_iff.1 hn
    cases heq
    obtain ⟨_, heq⟩ := scalar_of_expand he nofun
    nomatch heq

end Node

theorem Tree.length_le_of_read? {s text : List Char} {tag : Option (List Char)} {plain : Bool}
    (h : read? s = some (some (.scalar tag text plain))) : text.length ≤ s.length := by
  obtain ⟨ts, hts, h⟩ := Option.bind_eq_some_iff.1 h
  obtain ⟨node?, hn, h⟩ := Option.bind_eq_some_iff.1 h
  cases node? with
  | none => nomatch h
  | some node =>
    obtain ⟨tree, ht, heq⟩ := Option.map_eq_some_iff.1 h
    cases heq
    obtain ⟨p, rfl⟩ := Node.scalar_of_tree? ht
    exact Node.length_le_of_ofTokens? (Token.fits_of_read? hts) hn

namespace Scalar

variable {s t : List Char}

theorem eq_of_ofPlain? (h : ofPlain? s = some (.string t)) : t = s := by
  unfold ofPlain? at h
  split at h
  · nomatch h
  · split at h
    · nomatch h
    · split at h
      · nomatch h
      · next n hn =>
        cases h
        unfold ofInteger? at hn
        split at hn
        · nomatch hn
        · split at hn <;> nomatch hn
      · split at h
        · nomatch h
        · cases h
          rfl

theorem eq_of_ofTagged? {tag : List Char} (h : ofTagged? tag s = some (.string t)) : t = s := by
  fun_cases ofTagged? tag s <;> grind [ofTagged?, Option.map_eq_some_iff]

theorem eq_of_resolve? {tag : Option (List Char)} {plain : Bool}
    (h : resolve? tag s plain = some (.string t)) : t = s := by
  fun_cases resolve? tag s plain <;> grind [resolve?, eq_of_ofPlain?, eq_of_ofTagged?]

end Scalar

namespace Data

@[simp] theorem toValue_withTag (tag : Option (List Char)) (d : Data) :
    (withTag tag d).toValue = d.toValue := by
  fun_cases withTag tag d <;> rfl

theorem eq_of_toValue_ofScalar {scalar : Scalar} {s : String}
    (h : (ofScalar scalar).toValue = .string s) : scalar = .string s.toList := by
  cases scalar with
  | string text => cases h; rw [String.toList_ofList]
  | _ => nomatch h

theorem eq_of_resolve? {tag : Option (List Char)} {text : List Char} {plain : Bool}
    {scalar : Scalar} {s : String} (h : Scalar.resolve? tag text plain = some scalar)
    (hs : (ofScalar scalar).toValue = .string s) : text = s.toList := by
  cases eq_of_toValue_ofScalar hs
  exact (Scalar.eq_of_resolve? h).symm

/-- Only a scalar denotes a string, and it denotes its own text. -/
theorem scalar_of_ofTree? {silent : Bool} {tree : Tree} {d : Data} {s : String}
    (h : ofTree? silent tree = some d) (hs : d.toValue = .string s) :
    ∃ tag plain, tree = .scalar tag s.toList plain := by
  cases tree with
  | scalar tag text plain =>
    refine ⟨tag, plain, ?_⟩
    rw [ofTree?] at h
    split at h
    · obtain ⟨scalar, hr, rfl⟩ := Option.map_eq_some_iff.1 h
      rw [toValue_withTag] at hs
      rw [eq_of_resolve? hr hs]
    · obtain ⟨scalar, hr, rfl⟩ := Option.map_eq_some_iff.1 h
      rw [eq_of_resolve? hr hs]
  | sequence tag items =>
    rw [ofTree?] at h
    obtain ⟨_, _, rfl⟩ := Option.map_eq_some_iff.1 h
    rw [toValue_withTag] at hs
    nomatch hs
  | mapping tag entries =>
    rw [ofTree?] at h
    obtain ⟨_, _, h⟩ := Option.bind_eq_some_iff.1 h
    simp only [Option.ite_none_right_eq_some] at h
    cases h.2
    rw [toValue_withTag] at hs
    nomatch hs

theorem length_le_of_read? {x s : String} {d : Data} (h : read? x = some d)
    (hs : d.toValue = .string s) : s.length ≤ x.length := by
  obtain ⟨tree?, ht, h⟩ := Option.bind_eq_some_iff.1 h
  cases tree? with
  | none =>
    cases h
    nomatch hs
  | some tree =>
    obtain ⟨tag, plain, rfl⟩ := scalar_of_ofTree? h hs
    exact Tree.length_le_of_read? ht

end Data

end LiveAssert.Yaml

namespace LiveAssert

theorem Literal.length_le_of_coerce {x s : String} (h : coerce x = .ok (.string s)) :
    s.length ≤ x.length := by
  rw [coerce] at h
  split at h
  · next d hd => exact Yaml.Data.length_le_of_read? hd (Except.ok.inj h)
  · nomatch h

end LiveAssert
