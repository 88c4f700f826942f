import LiveAssert.Proofs.Json.Ordered
import LiveAssert.Proofs.Path.Source
import Mathlib.Data.List.Forall2
import Mathlib.Data.List.Nodup

/-!
What a path finds. A plain path, one without wildcards, is followed step by step from the document
to at most one node. A path with wildcards finds what the plain paths find that it stands for: each
wildcard is replaced by the names of all children of the node that it reaches, from left to right.
-/

namespace LiveAssert

def Json.names : Json → Path
  | .array items => (List.range items.length).map fun n => .index (.ofNat n)
  | .object members => members.map fun member => .field member.1
  | _ => []

def Segment.child? : Segment → Json → Option Json
  | .field name, .object members => Fields.get? name members
  | .index (.ofNat n), .array items => items[n]?
  | .index (.negSucc n), .array items => items.reverse[n]?
  | _, _ => none

namespace Path

def follow : Path → Json → Option Json
  | [], node => some node
  | segment :: path, node => (segment.child? node).bind (follow path)

/-- The second path is the first one with something in the place of each wildcard. -/
def Instance : Path → Path → Prop :=
  List.Forall₂ fun segment choice => segment = .wildcard ∨ choice = segment

def choices (document : Json) (before : Path) : Segment → Path
  | .wildcard => ((before.follow document).map Json.names).getD []
  | segment => [segment]

/-- The plain paths that a path stands for after a plain path. -/
def expand (document : Json) (before : Path) : Path → List Path
  | [] => [before]
  | segment :: path =>
    (choices document before segment).flatMap fun segment =>
      expand document (before ++ [segment]) path

/-- The position that an index means in an array, computed in signed integers of 64 bits. -/
def wordPosition? (length : Nat) (i : Int64) : Option Nat :=
  let n := if i < 0 then Int64.ofInt length + i else i
  if 0 ≤ n then some n.toInt.toNat else none

end Path

namespace Json

theorem Ordered.child? {node child : Json} {segment : Segment} (h : node.Ordered)
    (hc : segment.child? node = some child) : child.Ordered := by
  unfold Segment.child? at hc
  split at hc
  · exact h.of_mem_object (Fields.mem_of_get? hc)
  · exact h.of_mem_array (List.mem_of_getElem? hc)
  · exact h.of_mem_array (List.mem_reverse.1 (List.mem_of_getElem? hc))
  · nomatch hc

theorem Ordered.follow {path : Path} {document node : Json} (h : document.Ordered)
    (hf : path.follow document = some node) : node.Ordered := by
  induction path generalizing document with
  | nil => cases hf; exact h
  | cons segment path ih =>
    obtain ⟨child, hc, hf⟩ := Option.bind_eq_some_iff.1 hf
    exact ih (h.child? hc) hf

theorem nodup_names {node : Json} (h : node.Ordered) : node.names.Nodup := by
  cases node with
  | array items =>
    rw [names]
    apply List.Nodup.map _ List.nodup_range
    intro m n hmn
    exact Int.ofNat.inj (Segment.index.inj hmn)
  | object members =>
    apply List.pairwise_map.2
    apply h.sorted_members.imp
    intro a b hlt heq
    rw [Segment.field.inj heq] at hlt
    exact String.lt_irrefl _ hlt
  | _ => exact List.nodup_nil

theorem forall₂_names_children {node : Json} (h : node.Ordered) :
    List.Forall₂ (fun name child => name.child? node = some child) node.names
      (Path.children .wildcard node) := by
  cases node with
  | array items =>
    rw [List.forall₂_iff_get]
    refine ⟨by simp [names, Path.children], fun i hi hi' => ?_⟩
    simp [names, Path.children, Segment.child?]
  | object members =>
    rw [names, Path.children, List.forall₂_map_left_iff, List.forall₂_map_right_iff,
      List.forall₂_same]
    intro member hm
    exact h.sorted_members.get?_of_mem hm
  | _ => exact .nil

end Json

namespace Path

variable {document node : Json} {path before : Path} {segment : Segment}

@[simp] theorem follow_append (before path : Path) (document : Json) :
    (before ++ path).follow document = (before.follow document).bind path.follow := by
  induction before generalizing document with
  | nil => rfl
  | cons segment before ih =>
    rw [List.cons_append, follow, follow, Option.bind_assoc]
    exact congrArg _ (funext ih)

theorem follow_eq_none_iff : path.follow document = none ↔
    ∃ before segment after node, path = before ++ segment :: after ∧
      follow before document = some node ∧ segment.child? node = none := by
  induction path generalizing document with
  | nil => simp [follow]
  | cons segment path ih =>
    rw [follow]
    cases hc : segment.child? document with
    | none =>
      exact ⟨fun _ => ⟨[], segment, path, document, rfl, rfl, hc⟩, fun _ => rfl⟩
    | some child =>
      rw [Option.bind_some, ih]
      constructor
      · rintro ⟨before, last, after, node, rfl, hf, hn⟩
        exact ⟨segment :: before, last, after, node, rfl, by rw [follow, hc]; exact hf, hn⟩
      · rintro ⟨before, last, after, node, hp, hf, hn⟩
        cases before with
        | nil =>
          cases hp
          cases hf
          rw [hc] at hn
          nomatch hn
        | cons first before =>
          cases hp
          rw [follow, hc] at hf
          exact ⟨before, last, after, node, rfl, hf, hn⟩

theorem position?_negSucc (length n : Nat) :
    position? length (.negSucc n) = if n < length then some (length - 1 - n) else none := by
  have hneg : Int.negSucc n < 0 := Int.negSucc_lt_zero n
  simp only [position?, hneg, if_true]
  split
  · next h => rw [if_pos (by omega)]; congr 1; omega
  · next h => rw [if_neg (by omega)]

theorem children_of_ne_wildcard (h : segment ≠ .wildcard) (node : Json) :
    children segment node = (segment.child? node).toList := by
  cases segment with
  | field name => cases node <;> rfl
  | index i =>
    cases i with
    | ofNat n => cases node <;> rfl
    | negSucc n =>
      cases node with
      | array items =>
        rw [children, position?_negSucc, Segment.child?]
        split
        · next hn => rw [List.getElem?_reverse hn]; rfl
        · next hn => rw [List.getElem?_eq_none (by simpa using hn)]; rfl
      | _ => rfl
  | wildcard => exact absurd rfl h

theorem reach_cons (segment : Segment) (path : Path) (node : Json) :
    reach (segment :: path) node = (children segment node).flatMap (reach path) := by
  have hfrom (nodes : List Json) :
      path.foldl (fun nodes segment => nodes.flatMap (children segment)) nodes =
        nodes.flatMap (reach path) := by
    induction path generalizing nodes with
    | nil => exact (List.flatMap_singleton' nodes).symm
    | cons segment path ih =>
      have hreach : reach (segment :: path) =
          fun node => (children segment node).flatMap (reach path) := by
        funext node
        rw [reach, List.foldl_cons, ih, List.flatMap_singleton]
      rw [List.foldl_cons, ih, List.flatMap_assoc, hreach]
  rw [reach, List.foldl_cons, hfrom, List.flatMap_singleton]

theorem reach_of_plain (h : .wildcard ∉ path) (node : Json) :
    reach path node = (path.follow node).toList := by
  induction path generalizing node with
  | nil => rfl
  | cons segment path ih =>
    have hpath := List.not_mem_of_not_mem_cons h
    rw [reach_cons, children_of_ne_wildcard (Ne.symm (List.ne_of_not_mem_cons h)), follow]
    cases segment.child? node with
    | none => rfl
    | some child => exact (List.flatMap_singleton ..).trans (ih hpath child)

theorem select_of_plain (h : .wildcard ∉ path) (document : Json) :
    select path document = (path.follow document).map .ofJson := by
  rw [select, reach_of_plain h, if_neg (by simpa using h)]
  cases path.follow document with
  | none => rfl
  | some node => rfl

theorem wildcard_not_mem_choices (document : Json) (before : Path) (segment : Segment) :
    .wildcard ∉ choices document before segment := by
  cases segment with
  | field name => simp [choices]
  | index i => simp [choices]
  | wildcard =>
    rw [choices]
    cases before.follow document with
    | none => exact List.not_mem_nil
    | some node => cases node <;> simp [Json.names]

theorem choices_of_ne_wildcard (h : segment ≠ .wildcard) (document : Json) (before : Path) :
    choices document before segment = [segment] := by
  cases segment with
  | field name => rfl
  | index i => rfl
  | wildcard => exact absurd rfl h

theorem eq_of_mem_choices {choice : Segment} (h : choice ∈ choices document before segment) :
    segment = .wildcard ∨ choice = segment := by
  by_cases hs : segment = .wildcard
  · exact .inl hs
  · rw [choices_of_ne_wildcard hs] at h
    exact .inr (List.mem_singleton.1 h)

theorem exists_append_of_mem_expand {p : Path} (h : p ∈ expand document before path) :
    ∃ after, p = before ++ after ∧ Instance path after := by
  induction path generalizing before with
  | nil => exact ⟨[], by simpa [expand] using h, .nil⟩
  | cons segment path ih =>
    obtain ⟨choice, hc, hp⟩ := List.mem_flatMap.1 h
    obtain ⟨after, rfl, hafter⟩ := ih hp
    exact ⟨choice :: after, List.append_assoc .., .cons (eq_of_mem_choices hc) hafter⟩

theorem wildcard_not_mem_of_mem_expand {p : Path} (hb : .wildcard ∉ before)
    (h : p ∈ expand document before path) : .wildcard ∉ p := by
  induction path generalizing before with
  | nil =>
    rw [List.mem_singleton.1 h]
    exact hb
  | cons segment path ih =>
    obtain ⟨choice, hc, hp⟩ := List.mem_flatMap.1 h
    apply ih _ hp
    intro hm
    cases List.mem_append.1 hm with
    | inl hm => exact hb hm
    | inr hm =>
      rw [← List.mem_singleton.1 hm] at hc
      exact wildcard_not_mem_choices document before segment hc

theorem nodup_choices (h : document.Ordered) (before : Path) (segment : Segment) :
    (choices document before segment).Nodup := by
  cases segment with
  | field name => exact List.nodup_singleton _
  | index i => exact List.nodup_singleton _
  | wildcard =>
    rw [choices]
    cases hf : before.follow document with
    | none => exact List.nodup_nil
    | some node => exact Json.nodup_names (h.follow hf)

theorem nodup_expand (h : document.Ordered) (before path : Path) :
    (expand document before path).Nodup := by
  induction path generalizing before with
  | nil => exact List.nodup_singleton _
  | cons segment path ih =>
    refine List.nodup_flatMap.2 ⟨fun choice _ => ih _, ?_⟩
    apply (nodup_choices h before segment).imp
    intro a b hab p hpa hpb
    obtain ⟨after, rfl, _⟩ := exists_append_of_mem_expand hpa
    obtain ⟨after', heq, _⟩ := exists_append_of_mem_expand hpb
    rw [List.append_assoc, List.append_assoc] at heq
    exact hab (List.cons.inj (List.append_cancel_left heq)).1

theorem filterMap_expand_eq_nil (h : before.follow document = none) (path : Path) :
    (expand document before path).filterMap (follow · document) = [] := by
  apply List.filterMap_eq_nil_iff.2
  intro p hp
  obtain ⟨after, rfl, _⟩ := exists_append_of_mem_expand hp
  rw [follow_append, h]
  rfl

theorem follow_concat (h : before.follow document = some node) (segment : Segment) :
    (before ++ [segment]).follow document = segment.child? node := by
  simp [h, follow]

/-- What a path reaches below a node is what is found by the plain paths that it stands for. -/
theorem reach_eq_filterMap_expand (hd : document.Ordered) (h : before.follow document = some node)
    (path : Path) :
    reach path node = (expand document before path).filterMap (follow · document) := by
  induction path generalizing before node with
  | nil => simp [reach, expand, h]
  | cons segment path ih =>
    rw [reach_cons, expand, List.filterMap_flatMap]
    have hbelow (choice : Segment) (child : Json) (hc : choice.child? node = some child) :
        (expand document (before ++ [choice]) path).filterMap (follow · document) =
          reach path child := (ih ((follow_concat h choice).trans hc)).symm
    by_cases hs : segment = .wildcard
    · have hnames := Json.forall₂_names_children (hd.follow h)
      rw [hs, choices, h]
      have heq := List.rel_flatMap (P := Eq) hnames fun choice child hc =>
        List.forall₂_eq_eq_eq ▸ hbelow choice child hc
      rw [List.forall₂_eq_eq_eq] at heq
      exact heq.symm
    · rw [children_of_ne_wildcard hs, choices_of_ne_wildcard hs, List.flatMap_singleton]
      cases hc : segment.child? node with
      | none => exact (filterMap_expand_eq_nil ((follow_concat h segment).trans hc) path).symm
      | some child => exact (List.flatMap_singleton ..).trans (hbelow segment child hc).symm

theorem toInt_length_add {length : Nat} (hlength : length < 2 ^ 63) {i : Int} (hlow : -2 ^ 63 ≤ i)
    (hneg : i < 0) : (Int64.ofInt length + Int64.ofInt i).toInt = length + i := by
  have hl : (Int64.ofInt length).toInt = length := Int64.toInt_ofInt_of_le (by omega) (by omega)
  have hi : (Int64.ofInt i).toInt = i := Int64.toInt_ofInt_of_le hlow (by omega)
  rw [Int64.toInt_add, hl, hi]
  exact Int.bmod_eq_of_le (by omega) (by omega)

theorem wordPosition?_eq {length : Nat} (hlength : length < 2 ^ 63) {i : Int} (hlow : -2 ^ 63 ≤ i)
    (hhigh : i < 2 ^ 63) : wordPosition? length (.ofInt i) = position? length i := by
  have hi : (Int64.ofInt i).toInt = i := Int64.toInt_ofInt_of_le hlow hhigh
  have hsign : Int64.ofInt i < 0 ↔ i < 0 := by rw [Int64.lt_iff_toInt_lt, hi]; rfl
  rw [wordPosition?, position?]
  by_cases hneg : i < 0
  · have hadd := toInt_length_add hlength hlow hneg
    simp [hsign, hneg, Int64.le_iff_toInt_le, hadd]
  · simp [hsign, hneg, Int64.le_iff_toInt_le, hi]

/-- What a text finds in a document. A plain path finds the node that it leads to, if all its steps
exist. A path with wildcards finds what the plain paths that it stands for find, in their order. No
index leaves the signed integers of 64 bits, also when the length of an array is added to it, so
that the positions can be computed in them. -/
theorem extract_of_parse {document : Json} (hd : document.Ordered) {text : String} {path : Path}
    (hp : parse text = .ok path) :
    (.wildcard ∉ path →
      extract document text = .ok ((path.follow document).map .ofJson) ∧
      (path.follow document = none ↔ ∃ before segment after node,
        path = before ++ segment :: after ∧ follow before document = some node ∧
          segment.child? node = none)) ∧
    (.wildcard ∈ path →
      extract document text =
        .ok (some (.sequence ((expand document [] path).filterMap (select · document))))) ∧
    (∀ plain ∈ expand document [] path, .wildcard ∉ plain ∧ Instance path plain) ∧
    (expand document [] path).Nodup ∧
    ∀ i, .index i ∈ path → (Int64.ofInt i).toInt = i ∧
      ∀ length : Nat, length < 2 ^ 63 →
        (i < 0 → (Int64.ofInt length + Int64.ofInt i).toInt = length + i) ∧
        wordPosition? length (.ofInt i) = position? length i := by
  have hextract : extract document text = .ok (path.select document) := by rw [extract, hp]; rfl
  have hplain (plain : Path) (h : plain ∈ expand document [] path) : .wildcard ∉ plain :=
    wildcard_not_mem_of_mem_expand List.not_mem_nil h
  have hinstance (plain : Path) (h : plain ∈ expand document [] path) : Instance path plain := by
    obtain ⟨after, rfl, hafter⟩ := exists_append_of_mem_expand h
    exact hafter
  refine ⟨fun hno => ⟨?_, follow_eq_none_iff⟩, fun hw => ?_,
    fun plain h => ⟨hplain plain h, hinstance plain h⟩, nodup_expand hd [] path, fun i hi => ?_⟩
  · rw [hextract, select_of_plain hno]
  · have hreach := reach_eq_filterMap_expand hd (show follow [] document = some document from rfl) path
    rw [hextract, select, if_pos (by simpa using hw), hreach, List.map_filterMap]
    congr 3
    apply List.filterMap_congr
    intro plain hmem
    exact (select_of_plain (hplain plain hmem) document).symm
  · obtain ⟨hlow, hhigh⟩ := bounds_of_parse hp hi
    exact ⟨Int64.toInt_ofInt_of_le hlow hhigh, fun length hlength =>
      ⟨toInt_length_add hlength hlow, wordPosition?_eq hlength hlow hhigh⟩⟩

theorem extract_of_parse_mixed :
    let document := Json.sorted (.object [("b", .array [.object [("x", .null)], .bool true,
      .object [("x", .string "y")]]), ("a", .integer 1)])
    let path : Path := [.field "b", .wildcard, .field "x"]
    let last : Path := [.field "b", .index (-1), .field "x"]
    document.Ordered ∧ parse ".b[*].x" = .ok path ∧ parse ".b[-1].x" = .ok last ∧
      expand document [] path = [[.field "b", .index 0, .field "x"],
        [.field "b", .index 1, .field "x"], [.field "b", .index 2, .field "x"]] ∧
      extract document ".b[*].x" = .ok (some (.sequence [.null, .string "y"])) ∧
      extract document ".b[-1].x" = .ok (some (.string "y")) := by
  intro document path last
  have hd : document.Ordered := Json.ordered_sorted _
  have hpath : parse ".b[*].x" = .ok path := by decide +kernel
  have hlast : parse ".b[-1].x" = .ok last := by decide +kernel
  obtain ⟨_, hwild, _⟩ := extract_of_parse hd hpath
  obtain ⟨hplain, _⟩ := extract_of_parse hd hlast
  exact ⟨hd, hpath, hlast, rfl, hwild (by decide), (hplain (by decide)).1⟩

end Path

end LiveAssert
