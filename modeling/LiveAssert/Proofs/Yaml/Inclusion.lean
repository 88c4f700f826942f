import LiveAssert.Proofs.Yaml.Flow
import LiveAssert.Proofs.Yaml.Mapping

namespace LiveAssert.Json

open Yaml Node

mutual

def toNode {ι : Type} : Json → Node ι
  | .string s => .scalar .none s.toList false
  | .array items => .sequence .none (itemsToNodes items)
  | .object members => .mapping .none (membersToNodes members)
  | j => .scalar .none j.write true

def itemsToNodes {ι : Type} : List Json → List (Node ι)
  | [] => []
  | item :: items => item.toNode :: itemsToNodes items

def membersToNodes {ι : Type} : List (String × Json) → List (Node ι × Node ι)
  | [] => []
  | (name, value) :: members =>
    (.scalar .none name.toList false, value.toNode) :: membersToNodes members

end

mutual

def toTree : Json → Tree
  | .string s => .scalar none s.toList false
  | .array items => .sequence none (itemsToTrees items)
  | .object members => .mapping none (membersToTrees members)
  | j => .scalar none j.write true

def itemsToTrees : List Json → List Tree
  | [] => []
  | item :: items => item.toTree :: itemsToTrees items

def membersToTrees : List (String × Json) → List (Tree × Tree)
  | [] => []
  | (name, value) :: members =>
    (.scalar none name.toList false, value.toTree) :: membersToTrees members

end

/-! ### Tokens to nodes -/

section

variable {handles : Handles} {fuel : Nat} {pos : Position} {ts : List Yaml.Token}

theorem exists_tokens_eq (j : Json) : ∃ t ts, j.tokens = t :: ts ∧
    (t = .flowSequenceStart ∨ t = .flowMappingStart ∨ ∃ text plain, t = .scalar text plain) := by
  cases j <;> simp [tokens]

theorem read_scalar {text : List Char} {plain : Bool} (h : 0 < fuel) :
    read handles fuel pos (.scalar text plain :: ts) = some (.scalar .none text plain, ts) := by
  obtain ⟨fuel, rfl⟩ := Nat.exists_eq_add_one_of_ne_zero (Nat.ne_of_gt h)
  cases pos <;> rfl

theorem read_flowSequenceStart : read handles (fuel + 1) pos (.flowSequenceStart :: ts) =
    (flowItems handles fuel true ts).map fun (items, ts) => (.sequence .none items, ts) := by
  cases pos <;> rfl

theorem read_flowMappingStart : read handles (fuel + 1) pos (.flowMappingStart :: ts) =
    (flowEntries handles fuel true ts).map fun (entries, ts) => (.mapping .none entries, ts) := by
  cases pos <;> rfl

theorem flowItem_of_read {j : Json} {item : Node Name} {rest : List Yaml.Token}
    (h : read handles fuel .flow (j.tokens ++ ts) = some (item, rest)) :
    flowItem handles (fuel + 1) (j.tokens ++ ts) =
      (flowItems handles fuel false rest).map fun (items, ts) => (item :: items, ts) := by
  obtain ⟨t, more, htokens, rfl | rfl | ⟨text, plain, rfl⟩⟩ := exists_tokens_eq j <;>
  · rw [htokens, List.cons_append] at h ⊢
    simp only [flowItem, h]

theorem flowValue_of_read {j : Json} {value : Node Name} {rest : List Yaml.Token}
    (h : read handles fuel .flow (j.tokens ++ ts) = some (value, rest)) :
    flowValue handles (fuel + 2) (.value :: (j.tokens ++ ts)) = some (value, rest) := by
  obtain ⟨t, more, htokens, rfl | rfl | ⟨text, plain, rfl⟩⟩ := exists_tokens_eq j <;>
  · rw [htokens, List.cons_append] at h ⊢
    exact h

theorem flowEntry_of_read {name : List Char} {j : Json} {value : Node Name} {rest : List Yaml.Token}
    (h : read handles fuel .flow (j.tokens ++ ts) = some (value, rest)) :
    flowEntry handles (fuel + 3) (.key :: .scalar name false :: .value :: (j.tokens ++ ts)) =
      (flowEntries handles (fuel + 2) false rest).map fun (entries, ts) =>
        ((.scalar .none name false, value) :: entries, ts) := by
  have hname : readOr handles (fuel + 2) .flow
      (fun ts => endsFlowEntry ts || ts.head? == some .value)
      (.scalar name false :: .value :: (j.tokens ++ ts)) =
        some (.scalar .none name false, .value :: (j.tokens ++ ts)) := rfl
  simp only [flowEntry, hname, flowValue_of_read h]

/-- At the start of a collection its end is met in the same way as behind an entry. -/
theorem flowItems_true : flowItems handles (fuel + 2) true ts = flowItem handles (fuel + 1) ts := by
  cases ts with
  | nil => rfl
  | cons t ts => cases t <;> rfl

theorem flowEntries_true :
    flowEntries handles (fuel + 2) true ts = flowEntry handles (fuel + 1) ts := by
  cases ts with
  | nil => rfl
  | cons t ts => cases t <;> rfl

mutual

theorem read_tokens : (j : Json) → ∀ {fuel pos ts}, 3 * j.tokens.length ≤ fuel →
    read handles fuel pos (j.tokens ++ ts) = some (j.toNode, ts)
  | .null, _, _, _, h => read_scalar (Nat.lt_of_lt_of_le (Nat.succ_pos 2) h)
  | .bool _, _, _, _, h => read_scalar (Nat.lt_of_lt_of_le (Nat.succ_pos 2) h)
  | .integer _, _, _, _, h => read_scalar (Nat.lt_of_lt_of_le (Nat.succ_pos 2) h)
  | .float _, _, _, _, h => read_scalar (Nat.lt_of_lt_of_le (Nat.succ_pos 2) h)
  | .string _, _, _, _, h => read_scalar (Nat.lt_of_lt_of_le (Nat.succ_pos 2) h)
  | .array items, fuel, pos, ts, h => by
    rw [tokens, List.length_cons, List.length_append, List.length_singleton] at h
    obtain ⟨fuel, rfl⟩ := Nat.exists_eq_add_of_le' (Nat.le_trans (Nat.le_add_left 3 _) h)
    have hitems := flowItem_tokens items (fuel + 1) ts (by omega)
    rw [tokens, List.cons_append, List.append_assoc, List.singleton_append, read_flowSequenceStart,
      flowItems_true, hitems]
    rfl
  | .object members, fuel, pos, ts, h => by
    rw [tokens, List.length_cons, List.length_append, List.length_singleton] at h
    obtain ⟨fuel, rfl⟩ := Nat.exists_eq_add_of_le' (Nat.le_trans (Nat.le_add_left 3 _) h)
    have hmembers := flowEntry_tokens members (fuel + 1) ts (by omega)
    rw [tokens, List.cons_append, List.append_assoc, List.singleton_append, read_flowMappingStart,
      flowEntries_true, hmembers]
    rfl

theorem flowItem_tokens : (items : List Json) → ∀ fuel ts,
    3 * (itemTokens items).length + 2 ≤ fuel →
    flowItem handles fuel (itemTokens items ++ .flowSequenceEnd :: ts) =
      some (itemsToNodes items, ts)
  | [], fuel, ts, h => by
    obtain ⟨fuel, rfl⟩ := Nat.exists_eq_add_of_le' h
    rfl
  | [item], fuel, ts, h => by
    obtain ⟨fuel, rfl⟩ := Nat.exists_eq_add_of_le' (Nat.le_trans (Nat.le_add_left 2 _) h)
    rw [itemTokens] at h ⊢
    rw [flowItem_of_read (read_tokens item (by omega))]
    rfl
  | item :: next :: items, fuel, ts, h => by
    rw [itemTokens, List.length_append, List.length_cons] at h
    · obtain ⟨fuel, rfl⟩ := Nat.exists_eq_add_of_le' (Nat.le_trans (Nat.le_add_left 2 _) h)
      have hitems := flowItem_tokens (next :: items) fuel ts (by omega)
      rw [itemTokens, List.append_assoc, List.cons_append,
        flowItem_of_read (read_tokens item (by omega)), flowItems, hitems]
      · rfl
      · nofun
    · nofun

theorem flowEntry_tokens : (members : List (String × Json)) → ∀ fuel ts,
    3 * (memberTokens members).length + 2 ≤ fuel →
    flowEntry handles fuel (memberTokens members ++ .flowMappingEnd :: ts) =
      some (membersToNodes members, ts)
  | [], fuel, ts, h => by
    obtain ⟨fuel, rfl⟩ := Nat.exists_eq_add_of_le' h
    rfl
  | [(name, value)], fuel, ts, h => by
    rw [memberTokens, List.length_cons, List.length_cons, List.length_cons] at h
    obtain ⟨fuel, rfl⟩ : ∃ k, fuel = k + 3 := Nat.exists_eq_add_of_le' (by omega)
    rw [memberTokens, List.cons_append, List.cons_append, List.cons_append,
      flowEntry_of_read (read_tokens value (by omega))]
    rfl
  | (name, value) :: next :: members, fuel, ts, h => by
    rw [memberTokens, List.length_cons, List.length_cons, List.length_cons, List.length_append,
      List.length_cons] at h
    · obtain ⟨fuel, rfl⟩ : ∃ k, fuel = k + 3 := Nat.exists_eq_add_of_le' (by omega)
      have hmembers := flowEntry_tokens (next :: members) (fuel + 1) ts (by omega)
      rw [memberTokens, List.cons_append, List.cons_append, List.cons_append, List.append_assoc,
        List.cons_append, flowEntry_of_read (read_tokens value (by omega)), flowEntries, hmembers]
      · rfl
      · nofun
    · nofun

end

theorem ofTokens?_tokens (j : Json) : ofTokens? j.tokens = some (some j.toNode) := by
  have hread : read .default (4 * (j.tokens.length + 1)) .block (j.tokens ++ []) =
      some (j.toNode, []) := read_tokens j (by omega)
  rw [List.append_nil] at hread
  obtain ⟨t, ts, htokens, rfl | rfl | ⟨text, plain, rfl⟩⟩ := exists_tokens_eq j <;>
  · rw [htokens] at hread ⊢
    simp only [ofTokens?, document?, directives?, List.nil_append, Option.bind_eq_bind,
      Option.bind_some, if_true, hread]
    rfl

end

/-! ### Nodes to data -/

mutual

theorem number?_toNode {ns : Numbering} : (j : Json) → j.toNode.number? ns = some (j.toNode, ns)
  | .null => rfl
  | .bool _ => rfl
  | .integer _ => rfl
  | .float _ => rfl
  | .string _ => rfl
  | .array items => by
    simp only [toNode, number?, Props.number, Props.none, numberItems?_itemsToNodes items]
    rfl
  | .object members => by
    simp only [toNode, number?, Props.number, Props.none, numberEntries?_membersToNodes members]
    rfl

theorem numberItems?_itemsToNodes {ns : Numbering} : (items : List Json) →
    numberItems? ns (itemsToNodes items) = some (itemsToNodes items, ns)
  | [] => rfl
  | item :: items => by
    simp only [itemsToNodes, numberItems?, number?_toNode item, numberItems?_itemsToNodes items]
    rfl

theorem numberEntries?_membersToNodes {ns : Numbering} : (members : List (String × Json)) →
    numberEntries? ns (membersToNodes members) = some (membersToNodes members, ns)
  | [] => rfl
  | (name, value) :: members => by
    simp only [membersToNodes, numberEntries?, number?_toNode value,
      numberEntries?_membersToNodes members]
    rfl

end

section

variable {table : List (Nat × Node Nat)} {depth : Nat}

theorem mapM_expand_itemsToNodes {items : List Json}
    (h : ∀ item ∈ items, expand table depth item.toNode = pure item.toTree) :
    (itemsToNodes items).mapM (expand table depth) = pure (itemsToTrees items) := by
  induction items with
  | nil => rfl
  | cons item items ih =>
    obtain ⟨hitem, hitems⟩ := List.forall_mem_cons.1 h
    rw [itemsToNodes, List.mapM_cons, hitem, pure_bind, ih hitems, pure_bind]
    rfl

@[simp] theorem expand_scalar (text : List Char) (plain : Bool) :
    expand table depth (.scalar .none text plain) = pure (.scalar none text plain) := by
  cases depth <;> rfl

theorem mapM_expand_membersToNodes {members : List (String × Json)}
    (h : ∀ m ∈ members, expand table depth m.2.toNode = pure m.2.toTree) :
    ((membersToNodes members).mapM fun (k, v) => do
      let k ← expand table depth k
      let v ← expand table depth v
      return (k, v)) = pure (membersToTrees members) := by
  induction members with
  | nil => rfl
  | cons m members ih =>
    obtain ⟨hvalue, hvalues⟩ := List.forall_mem_cons.1 h
    simp only [membersToNodes, List.mapM_cons, expand_scalar, hvalue, pure_bind, ih hvalues]
    rfl

theorem Portable.expand_toNode {n : Nat} {j : Json} (h : Portable n j) (hdepth : n ≤ depth) :
    expand table depth j.toNode = pure j.toTree := by
  induction h generalizing depth with
  | null => exact expand_scalar ..
  | bool b => exact expand_scalar ..
  | integer k _ => exact expand_scalar ..
  | string s _ => exact expand_scalar ..
  | array items _ ih =>
    obtain ⟨depth, rfl⟩ := Nat.exists_eq_add_of_le' (Nat.le_trans (Nat.le_add_left 1 _) hdepth)
    have hitems := @mapM_expand_itemsToNodes table depth items fun item hitem =>
      ih item hitem (Nat.le_of_succ_le_succ hdepth)
    simp only [toNode, toTree, expand, target, pure_bind, hitems]
    rfl
  | object members _ _ _ ih =>
    obtain ⟨depth, rfl⟩ := Nat.exists_eq_add_of_le' (Nat.le_trans (Nat.le_add_left 1 _) hdepth)
    have hmembers := @mapM_expand_membersToNodes table depth members fun m hm =>
      ih m hm (Nat.le_of_succ_le_succ hdepth)
    simp only [toNode, toTree, expand, target, pure_bind, hmembers]
    rfl

theorem Portable.tree?_toNode {n : Nat} {j : Json} (h : Portable n j) (hn : n ≤ Node.depthLimit) :
    tree? j.toNode = some j.toTree := by
  rw [tree?, number?_toNode]
  simp only [Option.bind_eq_bind, Option.bind_some, h.expand_toNode hn]
  rfl

end

theorem Portable.read?_tree {n : Nat} {j : Json} (h : Portable n j) (hn : n ≤ Node.depthLimit) :
    Tree.read? j.write = some (some j.toTree) := by
  rw [Tree.read?, h.read?_write, Option.bind_eq_bind, Option.bind_some, ofTokens?_tokens]
  exact congrArg (Option.map some) (h.tree?_toNode hn)

/-! ### The data -/

def Denoted (j : Json) : Prop := ∃ d, Data.ofTree? false j.toTree = some d ∧ d.toValue = .ofJson j

theorem denoted_of_scalar {j : Json} {text : List Char} {plain : Bool} (scalar : Scalar)
    (htree : j.toTree = .scalar none text plain) (h : Scalar.resolve? none text plain = some scalar)
    (hvalue : (Data.ofScalar scalar).toValue = .ofJson j) : j.Denoted := by
  refine ⟨Data.ofScalar scalar, ?_, hvalue⟩
  rw [htree]
  exact congrArg (Option.map Data.ofScalar) h

theorem exists_items {items : List Json} (h : ∀ item ∈ items, item.Denoted) :
    ∃ ds, Data.ofItems? (itemsToTrees items) = some ds ∧
      Data.toItems ds = Value.ofJsonItems items := by
  induction items with
  | nil => exact ⟨[], rfl, rfl⟩
  | cons item items ih =>
    obtain ⟨⟨d, hd, hvalue⟩, hitems⟩ := List.forall_mem_cons.1 h
    obtain ⟨ds, hds, hvalues⟩ := ih hitems
    refine ⟨d :: ds, ?_, ?_⟩
    · simp only [itemsToTrees, Data.ofItems?, hd, hds, Option.map_some]
    · rw [Data.toItems, hvalue, hvalues, Value.ofJsonItems]

theorem exists_entries {members : List (String × Json)} (h : ∀ m ∈ members, m.2.Denoted) :
    ∃ es, Data.ofEntries? false (membersToTrees members) = some es ∧
      es.map (·.1) = (members.map (·.1)).map .string ∧
      Data.toEntries es = Value.ofJsonMembers members := by
  induction members with
  | nil => exact ⟨[], rfl, rfl, rfl⟩
  | cons m members ih =>
    obtain ⟨name, value⟩ := m
    obtain ⟨⟨d, hd, hvalue⟩, hmembers⟩ := List.forall_mem_cons.1 h
    obtain ⟨es, hes, hkeys, hvalues⟩ := ih hmembers
    have hname : Data.ofTree? false (.scalar none name.toList false) = some (.string name) :=
      congrArg (some <| Data.string ·) String.ofList_toList
    refine ⟨(.string name, d) :: es, ?_, ?_, ?_⟩
    · simp only [membersToTrees, Data.ofEntries?, hname, hd, hes, Option.map_some]
    · rw [List.map_cons, hkeys, List.map_cons, List.map_cons]
    · rw [Data.toEntries, hvalue, hvalues, Value.ofJsonMembers]

@[simp] theorem names_ofJsonMembers (members : List (String × Json)) :
    (Value.ofJsonMembers members).map (·.1) = members.map (·.1) := by
  induction members with
  | nil => rfl
  | cons m members ih => rw [Value.ofJsonMembers, List.map_cons, ih, List.map_cons]

theorem sorted_ofJsonMembers {members : Fields Json} (h : members.Sorted) :
    Fields.Sorted (Value.ofJsonMembers members) := by
  have hnames : (members.map (·.1)).Pairwise (· < ·) := List.pairwise_map.2 h
  rw [← names_ofJsonMembers] at hnames
  exact List.pairwise_map.1 hnames

theorem Portable.denoted {n : Nat} {j : Json} (h : Portable n j) : j.Denoted := by
  induction h with
  | null => exact denoted_of_scalar .null rfl (by decide) rfl
  | bool b =>
    cases b with
    | true => exact denoted_of_scalar (.bool true) rfl (by decide) rfl
    | false => exact denoted_of_scalar (.bool false) rfl (by decide) rfl
  | integer k hk =>
    exact denoted_of_scalar (.integer k) rfl (Scalar.ofPlain?_writeInt hk) rfl
  | string s _ =>
    exact denoted_of_scalar (.string s.toList) rfl rfl
      (congrArg Value.string String.ofList_toList)
  | array items _ ih =>
    obtain ⟨ds, hds, hvalues⟩ := exists_items ih
    refine ⟨.sequence ds, ?_, congrArg Value.sequence hvalues⟩
    rw [toTree, Data.ofTree?, hds]
    rfl
  | object members hsorted _ _ ih =>
    obtain ⟨es, hes, hkeys, hvalues⟩ := exists_entries ih
    have hdistinct := Data.distinctKeys_of_nodup hkeys hsorted.nodup_names
    refine ⟨.mapping es, ?_, ?_⟩
    · rw [toTree, Data.ofTree?]
      simp only [Bool.false_or, Data.isTagged, Option.map_none, Option.getD_none, hes,
        Option.bind_some, hdistinct, if_true]
      rfl
    · rw [Data.toValue, hvalues, Fields.ofList_of_sorted (sorted_ofJsonMembers hsorted),
        Value.ofJson]

/-- JSON text is YAML for the same value. -/
theorem Portable.coerce_text {n : Nat} {j : Json} (h : Portable n j) (hn : n ≤ Node.depthLimit) :
    Literal.coerce j.text = .ok (.ofJson j) := by
  obtain ⟨d, hd, hvalue⟩ := h.denoted
  have hread : Data.read? j.text = some d := by
    rw [Data.read?, text, String.toList_ofList, h.read?_tree hn]
    exact hd
  rw [Literal.coerce_of_read? hread, hvalue]

end LiveAssert.Json
