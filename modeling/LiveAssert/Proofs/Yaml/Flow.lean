import LiveAssert.Proofs.Value.Numeral
import LiveAssert.Proofs.Yaml.Escape

/-!
JSON text is flow syntax. Its tokens are those of the value that was written: every string is one
quoted scalar, every other scalar a plain one, and each name of an object is found to be a key when
its colon comes.
-/

namespace LiveAssert

open Yaml

namespace Json

/-- The values whose JSON text means the same as YAML, with collections nested at most `n` deep:
no doubles, integers within 64 bits, portable strings and names, and no name too long for a key. -/
inductive Portable : Nat → Json → Prop
  | null {n} : Portable n .null
  | bool {n} (b : Bool) : Portable n (.bool b)
  | integer {n} (k : Int) : k.natAbs < 2 ^ 63 → Portable n (.integer k)
  | string {n} (s : String) : (∀ c ∈ s.toList, isPortable c) → Portable n (.string s)
  | array {n} (items : List Json) :
    (∀ item ∈ items, Portable n item) → Portable (n + 1) (.array items)
  | object {n} (members : Fields Json) : members.Sorted →
    (∀ m ∈ members, (∀ c ∈ m.1.toList, isPortable c) ∧ (writeString m.1).length < 1000) →
    (∀ m ∈ members, Portable n m.2) → Portable (n + 1) (.object members)

mutual

def tokens : Json → List Yaml.Token
  | .string s => [.scalar s.toList false]
  | .array items => .flowSequenceStart :: (itemTokens items ++ [.flowSequenceEnd])
  | .object members => .flowMappingStart :: (memberTokens members ++ [.flowMappingEnd])
  | j => [.scalar j.write true]

def itemTokens : List Json → List Yaml.Token
  | [] => []
  | [item] => item.tokens
  | item :: items => item.tokens ++ .flowEntry :: itemTokens items

def memberTokens : List (String × Json) → List Yaml.Token
  | [] => []
  | [(name, value)] => .key :: .scalar name.toList false :: .value :: value.tokens
  | (name, value) :: members =>
    .key :: .scalar name.toList false :: .value ::
      (value.tokens ++ .flowEntry :: memberTokens members)

end

end Json

namespace Yaml.Plain

variable {text rest : List Char}

inductive Word : List Char → Prop
  | plain {c s} : (∀ d ∈ c :: s, d.isAlphanum) → Word (c :: s)
  | minus {c s} : (∀ d ∈ c :: s, d.isAlphanum) → Word ('-' :: c :: s)

def EndsWord (inFlow : Bool) (rest : List Char) : Prop :=
  ∀ c ∈ rest.head?, inFlow ∧ isFlowIndicator c

def delimiters : List Char :=
  ['\ufeff', ' ', '\t', '\r', '\n', '\x85', '\u2028', '\u2029', '.', '?', ':', ',', '[', ']',
    '\x7b', '\x7d', '#', '&', '*', '!', '|', '>', '\'', '"', '%', '@', '\x60']

theorem not_mem_delimiters {c : Char} (h : c.isAlphanum ∨ c = '-') : c ∉ delimiters := by
  have hnot : delimiters.all fun d => !(d.isAlphanum || d == '-') := by decide
  intro hmem
  have hc := List.all_eq_true.1 hnot c hmem
  simp_all

theorem Word.of_mem (h : Word text) : ∀ c ∈ text, c.isAlphanum ∨ c = '-' := by
  cases h with
  | plain h => exact fun c hc => .inl (h c hc)
  | minus h => exact List.forall_mem_cons.2 ⟨.inr rfl, fun c hc => .inl (h c hc)⟩

theorem atMarker_of_isAlphanum {c : Char} (h : c.isAlphanum) (s : List Char) :
    atMarker (c :: s) = false ∧ atMarker ('-' :: c :: s) = false := by
  have hc : c ≠ '-' ∧ c ≠ '.' := by
    constructor <;> rintro rfl <;> exact absurd h (by decide)
  constructor <;> unfold atMarker <;> split <;> simp_all

theorem Word.begins (h : Word text) (rest : List Char) : begins (text ++ rest) := by
  cases h with
  | @plain c s h =>
    have halnum := h c List.mem_cons_self
    have hmarker := (atMarker_of_isAlphanum halnum (s ++ rest)).1
    have hdash : c ≠ '-' := fun hdash => absurd halnum (by rw [hdash]; decide)
    have hc := not_mem_delimiters (.inl halnum)
    simp_all [Plain.begins, delimiters, isSpacing, isBlank, isBreak, Token.State.isIndicator]
  | @minus c s h =>
    have halnum := h c List.mem_cons_self
    have hmarker := (atMarker_of_isAlphanum halnum (s ++ rest)).2
    have hc := not_mem_delimiters (.inl halnum)
    simp_all [Plain.begins, delimiters, isSpacing, isBlank, isBreak, Token.State.isIndicator,
      atSpacing]

theorem scan_word (place : Place) (column : Nat) {fuel : Nat}
    (h : ∀ c ∈ text, c.isAlphanum ∨ c = '-') (hrest : EndsWord place.inFlow rest)
    (hfuel : text.length < fuel) :
    scan place fuel column (text ++ rest) = some ⟨text, rest, false⟩ := by
  induction text generalizing fuel column with
  | nil =>
    obtain ⟨fuel, rfl⟩ := Nat.exists_eq_add_one_of_ne_zero (Nat.ne_of_gt hfuel)
    cases rest with
    | nil => rfl
    | cons c rest =>
      obtain ⟨hflow, hc⟩ := hrest c rfl
      simp only [isFlowIndicator, Bool.or_eq_true, beq_iff_eq, or_assoc] at hc
      rcases hc with rfl | rfl | rfl | rfl | rfl <;>
        simp [scan, isSpacing, isBlank, isBreak, badColon, endsBefore, hflow, isFlowIndicator]
  | cons c text ih =>
    obtain ⟨fuel, rfl⟩ := Nat.exists_eq_add_one_of_ne_zero (Nat.ne_zero_of_lt hfuel)
    obtain ⟨hword, htext⟩ := List.forall_mem_cons.1 h
    have hc := not_mem_delimiters hword
    have hscan (column : Nat) := ih column htext (Nat.lt_of_succ_lt_succ hfuel)
    simp_all [delimiters, isSpacing, isBlank, isBreak, scan, badColon, endsBefore, isFlowIndicator]

end Yaml.Plain

namespace Yaml.Token.State

variable {st st' st'' : State} {depth : Nat} {ts : List Token} {c : Char} {text rest : List Char}

/-- Reading goes on from the first state to the second, in no more steps than characters. -/
def Advances (st st' : State) : Prop :=
  ∃ n, n + st'.rest.length ≤ st.rest.length ∧ ∀ fuel, st.run? (fuel + n) = st'.run? fuel

namespace Advances

theorem refl (st : State) : st.Advances st := ⟨0, Nat.le_of_eq (Nat.zero_add _), fun _ => rfl⟩

theorem trans (h : st.Advances st') (h' : st'.Advances st'') : st.Advances st'' := by
  obtain ⟨n, hn, hrun⟩ := h
  obtain ⟨n', hn', hrun'⟩ := h'
  refine ⟨n' + n, by omega, fun fuel => ?_⟩
  rw [← Nat.add_assoc, hrun, hrun']

theorem of_step? (h : st.step? = some st') (hlt : st'.rest.length < st.rest.length) :
    st.Advances st' := by
  refine ⟨1, by omega, fun fuel => ?_⟩
  obtain ⟨c, s, hs⟩ := List.exists_cons_of_length_pos (Nat.zero_lt_of_lt hlt)
  simp only [run?, hs, h, Option.bind_some]

end Advances

/-- A state between the tokens of flow syntax, by the number of open collections, the tokens so
far and the rest of the text. No block is open, and no candidate is required to be a key. -/
structure Flows (st : State) (depth : Nat) (ts : List Token) (rest : List Char) : Prop where
  indents : st.indents = []
  candidate : ∀ c ∈ st.candidate, c.required = false
  outer : ∀ c? ∈ st.outer, ∀ c ∈ c?, c.required = false
  depth : st.outer.length = depth
  tokens : st.tokens = ts
  rest : st.rest = rest

def lapse (st : State) : State :=
  { st with
    candidate := st.candidate.filter (!lapsed st.mark ·)
    outer := st.outer.map (Option.filter (!lapsed st.mark ·)) }

theorem lapse?_of_not_required {mark : Mark} {c? : Option Candidate}
    (h : ∀ c ∈ c?, c.required = false) : lapse? mark c? = some (c?.filter (!lapsed mark ·)) := by
  cases c? with
  | none => rfl
  | some c => cases hl : lapsed mark c <;> simp [lapse?, hl, h c rfl, Option.filter]

theorem mapM_lapse?_of_not_required {mark : Mark} {cs : List (Option Candidate)}
    (h : ∀ c? ∈ cs, ∀ c ∈ c?, c.required = false) :
    cs.mapM (lapse? mark) = some (cs.map (Option.filter (!lapsed mark ·))) := by
  induction cs with
  | nil => rfl
  | cons c? cs ih =>
    obtain ⟨hc, hcs⟩ := List.forall_mem_cons.1 h
    rw [List.mapM_cons, lapse?_of_not_required hc, ih hcs]
    rfl

theorem closeBlocks_of_indents (h : st.indents = []) (column : Option Nat) :
    st.closeBlocks column = st := by
  obtain ⟨_, _, _, _, _, _, _⟩ := st
  simp_all [closeBlocks]

namespace Flows

theorem inFlow (h : st.Flows depth ts rest) : st.inFlow = decide (depth ≠ 0) := by
  rw [← h.depth]
  cases hs : st.outer <;> simp [State.inFlow, hs]

theorem lapse (h : st.Flows depth ts rest) : st.lapse.Flows depth ts rest where
  indents := h.indents
  candidate c hc := h.candidate c (Option.mem_filter_iff.1 hc).1
  outer := by
    intro c? hc? c hc
    obtain ⟨c?, hmem, rfl⟩ := List.mem_map.1 hc?
    exact h.outer c? hmem c (Option.mem_filter_iff.1 hc).1
  depth := (List.length_map _).trans h.depth
  tokens := h.tokens
  rest := h.rest

theorem lapse_candidate {candidate : Candidate} (h : st.candidate = some candidate)
    (hline : candidate.mark.line = st.mark.line)
    (hindex : st.mark.index ≤ candidate.mark.index + 1024) :
    st.lapse.candidate = some candidate := by
  have hlapsed : lapsed st.mark candidate = false := by
    simp [lapsed, hline, hindex]
  simp [State.lapse, h, hlapsed, Option.filter]

theorem step? (h : st.Flows depth ts (c :: rest)) (hspacing : isSpacing c = false)
    (hcomment : c ≠ '#') : st.step? = st.lapse.token? := by
  have hnext : st.toNextToken (st.rest.length + 1) = st := by
    simp only [isSpacing, isBlank, Bool.or_eq_false_iff] at hspacing
    have hrest := goTo_rest st
    rw [h.rest] at hrest
    unfold toNextToken
    simp_all [h.rest]
  have hlapse : st.lapseAll? = some st.lapse := by
    rw [lapseAll?, lapse?_of_not_required h.candidate, mapM_lapse?_of_not_required h.outer]
    rfl
  rw [State.step?, hnext, hlapse, Option.bind_some, closeBlocks_of_indents h.lapse.indents]

theorem goTo (h : st.Flows depth ts (text ++ rest)) : (st.goTo rest).Flows depth ts rest :=
  ⟨h.indents, h.candidate, h.outer, h.depth, h.tokens, rfl⟩

theorem skip (h : st.Flows depth ts (c :: rest)) : (st.skip 1).Flows depth ts rest :=
  ⟨h.indents, h.candidate, h.outer, h.depth, h.tokens, by simp [State.skip, State.goTo, h.rest]⟩

theorem push (h : st.Flows depth ts rest) (t : Token) : (st.push t).Flows depth (t :: ts) rest :=
  ⟨h.indents, h.candidate, h.outer, h.depth, congrArg (t :: ·) h.tokens, h.rest⟩

theorem keyAllowed (h : st.Flows depth ts rest) (b : Bool) :
    { st with keyAllowed := b }.Flows depth ts rest :=
  ⟨h.indents, h.candidate, h.outer, h.depth, h.tokens, h.rest⟩

theorem dropCandidate? (h : st.Flows depth ts rest) :
    st.dropCandidate? = some { st with candidate := none } := by
  have hcandidate := h.candidate
  obtain ⟨_, _, _, candidate, _, _, _⟩ := st
  cases candidate with
  | none => rfl
  | some c => simp [State.dropCandidate?, hcandidate c rfl]

theorem noCandidate (h : st.Flows depth ts rest) :
    { st with candidate := none }.Flows depth ts rest :=
  ⟨h.indents, nofun, h.outer, h.depth, h.tokens, h.rest⟩

theorem saveCandidate? (h : st.Flows depth ts rest) :
    ∃ st', st.saveCandidate? = some st' ∧ st'.Flows depth ts rest ∧ st'.mark = st.mark ∧
      (st.keyAllowed → st'.candidate = some ⟨false, ts.length, st.mark⟩) := by
  cases hkey : st.keyAllowed with
  | false => exact ⟨st, by simp [State.saveCandidate?, hkey], h, rfl, nofun⟩
  | true =>
    have hsave : st.saveCandidate? =
        some { st with candidate := some ⟨false, ts.length, st.mark⟩ } := by
      simp [State.saveCandidate?, hkey, h.dropCandidate?, indent?, h.indents, h.tokens]
    refine ⟨_, hsave, ⟨h.indents, ?_, h.outer, h.depth, h.tokens, h.rest⟩, rfl, fun _ => rfl⟩
    rintro _ ⟨⟩
    rfl

theorem advances {depth' : Nat} {ts' : List Token} {rest' : List Char}
    (h : st.Flows depth ts rest) (h' : st'.Flows depth' ts' rest')
    (hlt : rest'.length < rest.length) (hstep : st.step? = some st') : st.Advances st' := by
  refine .of_step? hstep ?_
  rwa [h.rest, h'.rest]

theorem advances_append {depth' : Nat} {ts' : List Token} (h : st.Flows depth ts (text ++ rest))
    (h' : st'.Flows depth' ts' rest) (hne : text ≠ []) (hstep : st.step? = some st') :
    st.Advances st' := by
  refine h.advances h' ?_ hstep
  rw [List.length_append]
  exact Nat.lt_add_of_pos_left (List.length_pos_iff.2 hne)

theorem run?_nil {fuel : Nat} (h : st.Flows depth ts []) :
    st.run? (fuel + 1) = some ts.reverse := by
  simp [run?, h.rest, closeAll?, closeBlocks_of_indents h.indents, h.dropCandidate?, h.tokens]

theorem openFlow {t : Token} (h : st.Flows depth ts (c :: rest))
    (hc : c = '[' ∧ t = .flowSequenceStart ∨ c = '\x7b' ∧ t = .flowMappingStart) :
    ∃ st', st.Advances st' ∧ st'.Flows (depth + 1) (t :: ts) rest ∧ st'.keyAllowed := by
  have hstep : st.step? = st.lapse.openFlow? t := by
    rcases hc with ⟨rfl, rfl⟩ | ⟨rfl, rfl⟩ <;>
      exact (h.step? (by decide) (by decide)).trans (by simp [token?, h.lapse.rest, atMarker])
  obtain ⟨saved, hsave, hsaved, _⟩ := h.lapse.saveCandidate?
  rw [openFlow?, hsave] at hstep
  have hopened : { saved with
      candidate := none
      outer := saved.candidate :: saved.outer
      keyAllowed := true }.Flows (depth + 1) ts (c :: rest) :=
    ⟨hsaved.indents, nofun, List.forall_mem_cons.2 ⟨hsaved.candidate, hsaved.outer⟩,
      congrArg (· + 1) hsaved.depth, hsaved.tokens, hsaved.rest⟩
  have hflows := hopened.skip.push t
  exact ⟨_, h.advances hflows (Nat.lt_succ_self _) hstep, hflows, rfl⟩

theorem closeFlow {t : Token} (h : st.Flows (depth + 1) ts (c :: rest))
    (hc : c = ']' ∧ t = .flowSequenceEnd ∨ c = '\x7d' ∧ t = .flowMappingEnd) :
    ∃ st', st.Advances st' ∧ st'.Flows depth (t :: ts) rest := by
  have hstep : st.step? = st.lapse.closeFlow? t := by
    rcases hc with ⟨rfl, rfl⟩ | ⟨rfl, rfl⟩ <;>
      exact (h.step? (by decide) (by decide)).trans (by simp [token?, h.lapse.rest, atMarker])
  obtain ⟨c?, outer, houter⟩ := List.exists_cons_of_length_eq_add_one h.lapse.depth
  have hdepth := h.lapse.depth
  have hrequired := h.lapse.outer
  rw [houter] at hdepth hrequired
  rw [closeFlow?, h.lapse.dropCandidate?, Option.map_some, houter] at hstep
  obtain ⟨hc?, hrequired⟩ := List.forall_mem_cons.1 hrequired
  have hclosed : { st.lapse with candidate := c?, outer, keyAllowed := false }.Flows depth ts
      (c :: rest) :=
    ⟨h.indents, hc?, hrequired, Nat.succ.inj hdepth, h.tokens, h.rest⟩
  have hflows := hclosed.skip.push t
  exact ⟨_, h.advances hflows (Nat.lt_succ_self _) hstep, hflows⟩

theorem flowEntry (h : st.Flows depth ts (',' :: rest)) :
    ∃ st', st.Advances st' ∧ st'.Flows depth (.flowEntry :: ts) rest ∧ st'.keyAllowed := by
  have hstep : st.step? = st.lapse.flowEntry? :=
    (h.step? (by decide) (by decide)).trans (by simp [token?, h.lapse.rest, atMarker])
  rw [ flowEntry?, h.lapse.dropCandidate?] at hstep
  have hflows := (h.lapse.noCandidate.keyAllowed true).skip.push .flowEntry
  exact ⟨_, h.advances hflows (Nat.lt_succ_self _) hstep, hflows, rfl⟩

theorem quoted {s : String} (h : st.Flows depth ts (Json.writeString s ++ rest))
    (hs : ∀ c ∈ s.toList, isPortable c) :
    ∃ st', st.Advances st' ∧ st'.Flows depth (.scalar s.toList false :: ts) rest ∧
      (st.keyAllowed → st'.candidate = some ⟨false, ts.length, st.mark⟩ ∧
        st'.mark = st.mark.after (Json.writeString s)) := by
  have hstep : st.step? = st.lapse.quoted? .double :=
    (h.step? (by decide) (by decide)).trans
      (by simp [token?, h.lapse.rest, atMarker, Json.writeString])
  obtain ⟨saved, hsave, hsaved, hmark, hcandidate⟩ := h.lapse.saveCandidate?
  have hscan := Quoted.scan_writeString hs rest
  rw [← hsaved.rest] at hscan
  simp only [quoted?, node?, hsave, Option.bind_eq_bind, Option.bind_some, hscan, Option.map_some]
    at hstep
  have hflows := (hsaved.keyAllowed false).goTo.push (.scalar s.toList false)
  refine ⟨_, h.advances_append hflows (List.cons_ne_nil _ _) hstep, hflows,
    fun hkey => ⟨hcandidate hkey, ?_⟩⟩
  have hread : saved.rest.take (saved.rest.length - rest.length) = Json.writeString s := by
    rw [hsaved.rest, List.length_append, Nat.add_sub_cancel, List.take_left]
  exact (congrArg saved.mark.after hread).trans
    (congrArg (Mark.after · (Json.writeString s)) hmark)

theorem key {s : String} (h : st.Flows (depth + 1) ts (Json.writeString s ++ ':' :: rest))
    (hkey : st.keyAllowed) (hs : ∀ c ∈ s.toList, isPortable c)
    (hshort : (Json.writeString s).length < 1000) :
    ∃ st', st.Advances st' ∧
      st'.Flows (depth + 1) (.value :: .scalar s.toList false :: .key :: ts) rest := by
  obtain ⟨read, hread, hflows, hremembered⟩ := h.quoted hs
  obtain ⟨hcandidate, hmark⟩ := hremembered hkey
  rw [Mark.after_of_not_isBreak fun c hc =>
    isBreak_of_isPrinted (isPrinted_of_mem_writeString hs c hc)] at hmark
  have hkept := lapse_candidate hcandidate (by rw [hmark]) (by simp only [hmark]; omega)
  have hinFlow : read.lapse.inFlow = true := hflows.lapse.inFlow.trans (decide_eq_true (by simp))
  have hstep : read.step? = read.lapse.value? :=
    (hflows.step? (by decide) (by decide)).trans
      (by simp [token?, hflows.lapse.rest, atMarker, hinFlow])
  have hinserted : { read.lapse.insert ts.length .key with
      candidate := none
      keyAllowed := false
    }.Flows (depth + 1) (.scalar s.toList false :: .key :: ts) (':' :: rest) :=
    ⟨hflows.indents, nofun, hflows.lapse.outer, hflows.lapse.depth,
      by simp [insert, hflows.lapse.tokens], hflows.rest⟩
  have hopen (column : Nat) : (read.lapse.insert ts.length .key).openBlock column ts.length
      .blockMappingStart = read.lapse.insert ts.length .key := if_pos hinFlow
  simp only [value?, hkept, hopen] at hstep
  have hvalue := hinserted.skip.push .value
  exact ⟨_, hread.trans (hflows.advances hvalue (Nat.lt_succ_self _) hstep), hvalue⟩

theorem word (h : st.Flows depth ts (text ++ rest)) (htext : Plain.Word text)
    (hrest : Plain.EndsWord (decide (depth ≠ 0)) rest) :
    ∃ st', st.Advances st' ∧ st'.Flows depth (.scalar text true :: ts) rest := by
  have hstep : st.step? = st.lapse.plain? := by
    have hbegins := htext.begins rest
    obtain ⟨c, s, rfl⟩ : ∃ c s, text = c :: s := by cases htext <;> exact ⟨_, _, rfl⟩
    have hc := Plain.not_mem_delimiters (htext.of_mem c List.mem_cons_self)
    have hspacing := (Plain.begins_cons_iff.1 hbegins).2.1
    simp only [Plain.delimiters, List.mem_cons, not_or] at hc
    exact (h.step? hspacing (by simp [hc])).trans
      (token?_of_begins hbegins h.lapse.rest (.inr ⟨by simp [hc], by simp [hc]⟩))
  obtain ⟨saved, hsave, hsaved, _⟩ := h.lapse.saveCandidate?
  have hlength : text.length < (text ++ rest).length + 1 := by
    rw [List.length_append]
    omega
  have hscan (column : Nat) := Plain.scan_word ⟨saved.inFlow, saved.textIndent⟩ column
    htext.of_mem (hsaved.inFlow ▸ hrest) hlength
  rw [← hsaved.rest] at hscan
  simp only [plain?, hsave, Option.bind_eq_bind, Option.bind_some, hscan] at hstep
  have hflows := (hsaved.keyAllowed false).goTo.push (.scalar text true)
  exact ⟨_, h.advances_append hflows (by cases htext <;> simp) hstep, hflows⟩

end Flows

end Yaml.Token.State

namespace Json

open Yaml.Token (State)

variable {st : State} {depth : Nat} {ts : List Yaml.Token} {rest : List Char}

/-- Wherever the text of the value stands, its tokens are read. -/
def Reads (j : Json) : Prop :=
  ∀ {st : State} {depth : Nat} {ts : List Yaml.Token} {rest : List Char},
    st.Flows depth ts (j.write ++ rest) → Plain.EndsWord (decide (depth ≠ 0)) rest →
      ∃ st', st.Advances st' ∧ st'.Flows depth (j.tokens.reverse ++ ts) rest

theorem word_writeInt (n : Int) : Plain.Word (writeInt n) := by
  have hdigits (m : Nat) : ∃ c s, Nat.toDigits 10 m = c :: s ∧ ∀ d ∈ c :: s, d.isAlphanum := by
    obtain ⟨c, s, hm⟩ := List.exists_cons_of_ne_nil (Nat.toDigits_ne_nil (b := 10) (n := m))
    refine ⟨c, s, hm, fun d hd => ?_⟩
    rw [Char.isAlphanum, isDigit_toDigits m d (hm ▸ hd), Bool.or_true]
  obtain ⟨m, rfl⟩ | ⟨m, hm, rfl⟩ := int_cases n
  · obtain ⟨c, s, htext, hs⟩ := hdigits m
    rw [writeInt_natCast, htext]
    exact .plain hs
  · obtain ⟨c, s, htext, hs⟩ := hdigits m
    rw [writeInt_neg hm, htext]
    exact .minus hs

theorem endsWord_cons {c : Char} (hc : Plain.isFlowIndicator c) :
    Plain.EndsWord (decide (depth + 1 ≠ 0)) (c :: rest) := by
  rintro _ ⟨⟩
  exact ⟨decide_eq_true (Nat.succ_ne_zero depth), hc⟩

theorem exists_flows_items {items : List Json} (h : ∀ item ∈ items, item.Reads)
    (hst : st.Flows (depth + 1) ts (writeItems items ++ ']' :: rest)) :
    ∃ st', st.Advances st' ∧
      st'.Flows (depth + 1) ((itemTokens items).reverse ++ ts) (']' :: rest) := by
  induction items generalizing st ts with
  | nil => exact ⟨st, .refl st, hst⟩
  | cons item items ih =>
    obtain ⟨hitem, hitems⟩ := List.forall_mem_cons.1 h
    cases items with
    | nil => exact hitem hst (endsWord_cons rfl)
    | cons next items =>
      rw [writeItems, List.append_assoc, List.cons_append] at hst
      · obtain ⟨st₁, h₁, hst₁⟩ := hitem hst (endsWord_cons rfl)
        obtain ⟨st₂, h₂, hst₂, _⟩ := hst₁.flowEntry
        obtain ⟨st₃, h₃, hst₃⟩ := ih hitems hst₂
        refine ⟨st₃, (h₁.trans h₂).trans h₃, ?_⟩
        simpa [itemTokens] using hst₃
      · nofun

theorem exists_flows_member {name : String} {value : Json}
    (hname : ∀ c ∈ name.toList, isPortable c) (hshort : (writeString name).length < 1000)
    (hvalue : value.Reads) (hends : Plain.EndsWord (decide (depth + 1 ≠ 0)) rest)
    (hst : st.Flows (depth + 1) ts (writeString name ++ ':' :: (value.write ++ rest)))
    (hkey : st.keyAllowed) :
    ∃ st', st.Advances st' ∧ st'.Flows (depth + 1)
      (value.tokens.reverse ++ .value :: .scalar name.toList false :: .key :: ts) rest := by
  obtain ⟨st₁, h₁, hst₁⟩ := hst.key hkey hname hshort
  obtain ⟨st₂, h₂, hst₂⟩ := hvalue hst₁ hends
  exact ⟨st₂, h₁.trans h₂, hst₂⟩

theorem exists_flows_members {members : List (String × Json)}
    (hnames : ∀ m ∈ members, (∀ c ∈ m.1.toList, isPortable c) ∧ (writeString m.1).length < 1000)
    (h : ∀ m ∈ members, m.2.Reads)
    (hst : st.Flows (depth + 1) ts (writeMembers members ++ '\x7d' :: rest))
    (hkey : st.keyAllowed) :
    ∃ st', st.Advances st' ∧
      st'.Flows (depth + 1) ((memberTokens members).reverse ++ ts) ('\x7d' :: rest) := by
  induction members generalizing st ts with
  | nil => exact ⟨st, .refl st, hst⟩
  | cons m members ih =>
    obtain ⟨name, value⟩ := m
    obtain ⟨⟨hname, hshort⟩, hnames⟩ := List.forall_mem_cons.1 hnames
    obtain ⟨hvalue, hvalues⟩ := List.forall_mem_cons.1 h
    cases members with
    | nil =>
      rw [writeMembers, List.append_assoc, List.cons_append] at hst
      obtain ⟨st₁, h₁, hst₁⟩ :=
        exists_flows_member hname hshort hvalue (endsWord_cons rfl) hst hkey
      exact ⟨st₁, h₁, by simpa [memberTokens] using hst₁⟩
    | cons next members =>
      rw [writeMembers, List.append_assoc, List.cons_append, List.append_assoc,
        List.cons_append] at hst
      · obtain ⟨st₁, h₁, hst₁⟩ :=
          exists_flows_member hname hshort hvalue (endsWord_cons rfl) hst hkey
        obtain ⟨st₂, h₂, hst₂, hkey⟩ := hst₁.flowEntry
        obtain ⟨st₃, h₃, hst₃⟩ := ih hnames hvalues hst₂ hkey
        refine ⟨st₃, (h₁.trans h₂).trans h₃, ?_⟩
        simpa [memberTokens] using hst₃
      · nofun

theorem Portable.reads {n : Nat} {j : Json} (h : Portable n j) : j.Reads := by
  induction h with
  | null => exact fun hst hends => hst.word (.plain (List.all_eq_true.1 (by decide))) hends
  | bool b =>
    cases b with
    | true => exact fun hst hends => hst.word (.plain (List.all_eq_true.1 (by decide))) hends
    | false => exact fun hst hends => hst.word (.plain (List.all_eq_true.1 (by decide))) hends
  | integer k _ => exact fun hst hends => hst.word (word_writeInt k) hends
  | string s hs =>
    intro st depth ts rest hst _
    obtain ⟨st', h', hst', _⟩ := hst.quoted hs
    exact ⟨st', h', hst'⟩
  | array items _ ih =>
    intro st depth ts rest hst _
    rw [write, List.cons_append, List.append_assoc] at hst
    obtain ⟨st₁, h₁, hst₁, _⟩ := hst.openFlow (.inl ⟨rfl, rfl⟩)
    obtain ⟨st₂, h₂, hst₂⟩ := exists_flows_items ih hst₁
    obtain ⟨st₃, h₃, hst₃⟩ := hst₂.closeFlow (.inl ⟨rfl, rfl⟩)
    exact ⟨st₃, (h₁.trans h₂).trans h₃, by simpa [tokens] using hst₃⟩
  | object members _ hnames _ ih =>
    intro st depth ts rest hst _
    rw [write, List.cons_append, List.append_assoc] at hst
    obtain ⟨st₁, h₁, hst₁, hkey⟩ := hst.openFlow (.inr ⟨rfl, rfl⟩)
    obtain ⟨st₂, h₂, hst₂⟩ := exists_flows_members hnames ih hst₁ hkey
    obtain ⟨st₃, h₃, hst₃⟩ := hst₂.closeFlow (.inr ⟨rfl, rfl⟩)
    exact ⟨st₃, (h₁.trans h₂).trans h₃, by simpa [tokens] using hst₃⟩

theorem mem_writeItems {items : List Json} {c : Char} (h : c ∈ writeItems items) :
    c = ',' ∨ ∃ item ∈ items, c ∈ item.write := by
  induction items with
  | nil => nomatch h
  | cons item items ih =>
    cases items with
    | nil => exact .inr ⟨item, List.mem_cons_self, h⟩
    | cons next items =>
      rw [writeItems, List.mem_append, List.mem_cons] at h
      · grind
      · nofun

theorem mem_writeMembers {members : List (String × Json)} {c : Char}
    (h : c ∈ writeMembers members) :
    c = ',' ∨ c = ':' ∨ ∃ m ∈ members, c ∈ writeString m.1 ∨ c ∈ m.2.write := by
  induction members with
  | nil => nomatch h
  | cons m members ih =>
    cases members with
    | nil =>
      rw [writeMembers, List.mem_append, List.mem_cons] at h
      grind
    | cons next members =>
      rw [writeMembers, List.mem_append, List.mem_cons, List.mem_append, List.mem_cons] at h
      · grind
      · nofun

theorem Portable.isPrinted_of_mem {n : Nat} {j : Json} (h : Portable n j) :
    ∀ c ∈ j.write, isPrinted c := by
  induction h with
  | null => exact List.all_eq_true.1 (by decide)
  | bool b => cases b <;> exact List.all_eq_true.1 (by decide)
  | integer k _ => exact fun c hc => isPrinted_of_isAlphanum ((word_writeInt k).of_mem c hc)
  | string s hs => exact isPrinted_of_mem_writeString hs
  | array items _ ih =>
    intro c hc
    rw [write, List.mem_cons, List.mem_append, List.mem_singleton] at hc
    obtain rfl | hc | rfl := hc
    · rfl
    · obtain rfl | ⟨item, hitem, hc⟩ := mem_writeItems hc
      · rfl
      · exact ih item hitem c hc
    · rfl
  | object members _ hnames _ ih =>
    intro c hc
    rw [write, List.mem_cons, List.mem_append, List.mem_singleton] at hc
    obtain rfl | hc | rfl := hc
    · rfl
    · obtain rfl | rfl | ⟨m, hm, hc | hc⟩ := mem_writeMembers hc
      · rfl
      · rfl
      · exact isPrinted_of_mem_writeString (hnames m hm).1 c hc
      · exact ih m hm c hc
    · rfl

theorem Portable.read?_write {n : Nat} {j : Json} (h : Portable n j) :
    Yaml.Token.read? j.write = some j.tokens := by
  have hallowed : j.write.all isAllowed :=
    List.all_eq_true.2 fun c hc => isAllowed_of_isPrinted (h.isPrinted_of_mem c hc)
  have hstart : Yaml.Token.start j.write = .start j.write := by
    refine Yaml.Token.start_of_head? fun hhead => ?_
    exact absurd (h.isPrinted_of_mem _ (List.mem_of_mem_head? hhead)) (by decide)
  have hflows : (State.start j.write).Flows 0 [] (j.write ++ []) :=
    ⟨rfl, nofun, nofun, rfl, rfl, (List.append_nil _).symm⟩
  obtain ⟨st, ⟨k, hk, hrun⟩, hst⟩ := h.reads hflows nofun
  have hfuel : j.write.length + 2 = j.write.length - k + 1 + 1 + k := by
    change k + _ ≤ j.write.length at hk
    omega
  rw [Yaml.Token.read?, if_pos hallowed, hstart, hfuel, hrun, hst.run?_nil, List.append_nil,
    List.reverse_reverse]

end Json

end LiveAssert
