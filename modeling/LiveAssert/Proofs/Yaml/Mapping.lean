import LiveAssert.Literal
import Mathlib.Data.List.Dedup
import Mathlib.Data.List.Induction

namespace LiveAssert

namespace Fields

variable {entries : List (String × α)} {fs : Fields α} {name : String}

def last? (name : String) (entries : List (String × α)) : Option α :=
  (entries.filter (·.1 = name)).getLast?.map (·.2)

@[simp] theorem ofList_concat (entries : List (String × α)) (entry : String × α) :
    ofList (entries ++ [entry]) = insert entry.1 entry.2 (ofList entries) := by
  rw [ofList, List.foldl_append]
  rfl

@[simp] theorem get?_ofList (name : String) (entries : List (String × α)) :
    get? name (ofList entries) = last? name entries := by
  induction entries using List.reverseRecOn with
  | nil => rfl
  | append_singleton entries entry ih =>
    rw [ofList_concat, last?, List.filter_append]
    by_cases hname : entry.1 = name
    · subst hname
      simp
    · rw [get?_insert_of_ne (Ne.symm hname), ih, last?]
      simp [hname]

theorem mem_of_last? {x : α} (h : last? name entries = some x) : (name, x) ∈ entries := by
  obtain ⟨entry, hentry, rfl⟩ := Option.map_eq_some_iff.1 h
  obtain ⟨hmem, hname⟩ := List.mem_filter.1 (List.mem_of_getLast? hentry)
  rw [← of_decide_eq_true hname]
  exact hmem

theorem insert_of_forall_lt {x : α} (h : ∀ entry ∈ fs, entry.1 < name) :
    insert name x fs = fs ++ [(name, x)] := by
  induction fs with
  | nil => rfl
  | cons f fs ih =>
    obtain ⟨hlt, hfs⟩ := List.forall_mem_cons.1 h
    rw [insert, if_neg (String.lt_asymm hlt), if_neg (String.ne_of_lt hlt).symm,
      ih hfs, List.cons_append]

theorem ofList_of_sorted (h : Sorted entries) : ofList entries = entries := by
  induction entries using List.reverseRecOn with
  | nil => rfl
  | append_singleton entries entry ih =>
    obtain ⟨hentries, _, hlt⟩ := List.pairwise_append.1 h
    rw [ofList_concat, ih hentries,
      insert_of_forall_lt fun e he => hlt e he entry List.mem_cons_self]

theorem Sorted.nodup_names (h : Sorted fs) : (fs.map (·.1)).Nodup := by
  rw [List.nodup_iff_pairwise_ne, List.pairwise_map]
  apply h.imp
  intro a b hlt heq
  rw [heq] at hlt
  exact String.lt_irrefl _ hlt

@[simp] theorem mem_names_insert (other : String) (x : α) (fs : Fields α) :
    name ∈ (insert other x fs).map (·.1) ↔ name = other ∨ name ∈ fs.map (·.1) := by
  induction fs with
  | nil => simp [insert]
  | cons f fs ih =>
    simp only [insert]
    split
    · simp
    · split
      · next heq => simp [heq]
      · simp only [List.map_cons, List.mem_cons, ih]
        exact or_left_comm

@[simp] theorem mem_names_ofList (entries : List (String × α)) :
    name ∈ (ofList entries).map (·.1) ↔ name ∈ entries.map (·.1) := by
  induction entries using List.reverseRecOn with
  | nil => rfl
  | append_singleton entries entry ih =>
    rw [ofList_concat, mem_names_insert, ih, List.map_append, List.mem_append, or_comm]
    simp

theorem length_ofList (entries : List (String × α)) :
    (ofList entries).length = (entries.map (·.1)).dedup.length := by
  have hperm : ((ofList entries).map (·.1)).Perm (entries.map (·.1)).dedup := by
    rw [List.perm_ext_iff_of_nodup (sorted_ofList entries).nodup_names (List.nodup_dedup _)]
    intro name
    rw [mem_names_ofList, List.mem_dedup]
  rw [← hperm.length_eq, List.length_map]

theorem length_ofList_eq_iff (entries : List (String × α)) :
    (ofList entries).length = entries.length ↔ (entries.map (·.1)).Nodup := by
  have hlength : (entries.map (·.1)).length = entries.length := List.length_map _
  rw [length_ofList, ← List.dedup_eq_self, ← hlength]
  constructor
  · exact (List.dedup_sublist _).eq_of_length
  · intro h
    rw [h]

end Fields

inductive Place
  | item (i : Nat)
  | entry (name : String)

namespace Value

def items? : Value → Option (List Value)
  | .sequence items => some items
  | _ => none

def fields? : Value → Option (Fields Value)
  | .mapping fields => some fields
  | _ => none

def at? : List Place → Value → Option Value
  | [], v => some v
  | .item i :: path, v => v.items?.bind fun items => items[i]?.bind (at? path)
  | .entry name :: path, v => v.fields?.bind fun fields => (Fields.get? name fields).bind (at? path)

theorem eq_mapping_of_fields? {v : Value} {fields : Fields Value} (h : v.fields? = some fields) :
    v = .mapping fields := by
  cases v with
  | mapping => exact congrArg mapping (Option.some.inj h)
  | _ => nomatch h

end Value

namespace Yaml.Data

def keyText : Data → String
  | .string s => s
  | d => d.toValue.display

def items? : Data → Option (List Data)
  | .sequence items => some items
  | .tagged _ d => d.items?
  | _ => none

def entries? : Data → Option (List (Data × Data))
  | .mapping entries => some entries
  | .tagged _ d => d.entries?
  | _ => none

def named (entries : List (Data × Data)) : List (String × Data) :=
  entries.map fun (k, d) => (k.keyText, d)

/-- The data at a place. At the text of a key there is the last entry that has it. -/
def at? : List Place → Data → Option Data
  | [], d => some d
  | .item i :: path, d => d.items?.bind fun items => items[i]?.bind (at? path)
  | .entry name :: path, d =>
    d.entries?.bind fun entries => (Fields.last? name (named entries)).bind (at? path)

@[simp] theorem toItems_eq (items : List Data) : toItems items = items.map toValue := by
  induction items with
  | nil => rfl
  | cons d items ih => rw [toItems, ih, List.map_cons]

theorem toEntries_eq (entries : List (Data × Data)) :
    toEntries entries = (named entries).map fun (name, d) => (name, d.toValue) := by
  induction entries with
  | nil => rfl
  | cons entry entries ih =>
    obtain ⟨k, d⟩ := entry
    cases k <;> simp only [toEntries, ih, named, List.map_cons, keyText]

theorem items?_toValue : ∀ d : Data, d.toValue.items? = d.items?.map (·.map toValue)
  | .null => rfl
  | .bool _ => rfl
  | .integer _ => rfl
  | .float _ => rfl
  | .string _ => rfl
  | .sequence items => congrArg some (toItems_eq items)
  | .mapping _ => rfl
  | .tagged _ d => items?_toValue d

theorem fields?_toValue : ∀ d : Data,
    d.toValue.fields? = d.entries?.map fun entries => Fields.ofList (toEntries entries)
  | .null => rfl
  | .bool _ => rfl
  | .integer _ => rfl
  | .float _ => rfl
  | .string _ => rfl
  | .sequence _ => rfl
  | .mapping _ => rfl
  | .tagged _ d => fields?_toValue d

theorem get?_ofList_toEntries (name : String) (entries : List (Data × Data)) :
    Fields.get? name (Fields.ofList (toEntries entries)) =
      (Fields.last? name (named entries)).map toValue := by
  rw [Fields.get?_ofList, toEntries_eq, Fields.last?, Fields.last?, List.filter_map,
    List.getLast?_map]
  simp only [Option.map_map]
  rfl

@[simp] theorem at?_toValue (path : List Place) (d : Data) :
    d.toValue.at? path = (d.at? path).map toValue := by
  induction path generalizing d with
  | nil => rfl
  | cons place path ih =>
    cases place with
    | item i =>
      rw [Value.at?, at?, items?_toValue]
      cases d.items? with
      | none => rfl
      | some items =>
        simp only [Option.map_some, Option.bind_some, List.getElem?_map]
        cases items[i]? with
        | none => rfl
        | some d => exact ih d
    | entry name =>
      rw [Value.at?, at?, fields?_toValue]
      cases d.entries? with
      | none => rfl
      | some entries =>
        simp only [Option.map_some, Option.bind_some, get?_ofList_toEntries]
        cases Fields.last? name (named entries) with
        | none => rfl
        | some d => exact ih d

/-- No two keys of one mapping are equal, at every place. -/
inductive Distinct : Data → Prop
  | null : Distinct .null
  | bool : Distinct (.bool b)
  | integer : Distinct (.integer n)
  | float : Distinct (.float x)
  | string : Distinct (.string s)
  | sequence : (∀ d ∈ items, Distinct d) → Distinct (.sequence items)
  | mapping : distinctKeys entries → (∀ entry ∈ entries, Distinct entry.2) →
      Distinct (.mapping entries)
  | tagged : Distinct d → Distinct (.tagged tag d)

theorem distinct_ofScalar (scalar : Scalar) : (ofScalar scalar).Distinct := by
  cases scalar with
  | null => exact .null
  | bool => exact .bool
  | integer => exact .integer
  | float => exact .float
  | string => exact .string

theorem distinct_withTag {d : Data} (h : d.Distinct) (tag : Option (List Char)) :
    (withTag tag d).Distinct := by
  unfold withTag
  split
  · exact .tagged h
  · exact .tagged h
  · exact h

mutual

theorem distinct_of_ofTree? : ∀ (t : Tree) (silent : Bool) (d : Data),
    ofTree? silent t = some d → d.Distinct
  | .scalar tag text plain, silent, d, h => by
    rw [ofTree?] at h
    split at h
    · obtain ⟨scalar, _, rfl⟩ := Option.map_eq_some_iff.1 h
      exact distinct_withTag (distinct_ofScalar scalar) _
    · obtain ⟨scalar, _, rfl⟩ := Option.map_eq_some_iff.1 h
      exact distinct_ofScalar scalar
  | .sequence tag items, silent, d, h => by
    rw [ofTree?] at h
    obtain ⟨items', hitems, rfl⟩ := Option.map_eq_some_iff.1 h
    exact distinct_withTag (.sequence (distinct_of_ofItems? items items' hitems)) _
  | .mapping tag entries, silent, d, h => by
    rw [ofTree?] at h
    obtain ⟨entries', hentries, h⟩ := Option.bind_eq_some_iff.1 h
    split at h
    · next hkeys =>
      obtain rfl := Option.some.inj h
      exact distinct_withTag (.mapping hkeys (distinct_of_ofEntries? entries _ entries' hentries)) _
    · nomatch h

theorem distinct_of_ofItems? : ∀ (ts : List Tree) (ds : List Data),
    ofItems? ts = some ds → ∀ d ∈ ds, d.Distinct
  | [], ds, h => by
    obtain rfl := Option.some.inj h
    nofun
  | t :: ts, ds, h => by
    rw [ofItems?] at h
    split at h
    · nomatch h
    · next d ht =>
      obtain ⟨ds', hts, rfl⟩ := Option.map_eq_some_iff.1 h
      intro d' hm
      cases List.mem_cons.1 hm with
      | inl hm => rw [hm]; exact distinct_of_ofTree? t false d ht
      | inr hm => exact distinct_of_ofItems? ts ds' hts d' hm

theorem distinct_of_ofEntries? : ∀ (es : List (Tree × Tree)) (silentKeys : Bool)
    (entries : List (Data × Data)), ofEntries? silentKeys es = some entries →
      ∀ entry ∈ entries, entry.2.Distinct
  | [], _, entries, h => by
    obtain rfl := Option.some.inj h
    nofun
  | (k, v) :: es, silentKeys, entries, h => by
    rw [ofEntries?] at h
    split at h
    · next k' v' _ hv =>
      obtain ⟨entries', hes, rfl⟩ := Option.map_eq_some_iff.1 h
      intro entry hm
      cases List.mem_cons.1 hm with
      | inl hm => rw [hm]; exact distinct_of_ofTree? v false v' hv
      | inr hm => exact distinct_of_ofEntries? es silentKeys entries' hes entry hm
    · nomatch h

end

theorem distinct_of_read? {s : String} {d : Data} (h : read? s = some d) : d.Distinct := by
  obtain ⟨tree?, _, h⟩ := Option.bind_eq_some_iff.1 h
  cases tree? with
  | none =>
    obtain rfl := Option.some.inj h
    exact .null
  | some tree => exact distinct_of_ofTree? tree false d h

theorem Distinct.of_mem_items? {d : Data} (h : d.Distinct) {items : List Data}
    (hi : d.items? = some items) : ∀ part ∈ items, part.Distinct := by
  induction h with
  | sequence h =>
    obtain rfl := Option.some.inj hi
    exact h
  | tagged _ ih => exact ih hi
  | _ => nomatch hi

theorem Distinct.of_entries? {d : Data} (h : d.Distinct) {entries : List (Data × Data)}
    (he : d.entries? = some entries) :
    distinctKeys entries ∧ ∀ entry ∈ entries, entry.2.Distinct := by
  induction h with
  | mapping hkeys h =>
    obtain rfl := Option.some.inj he
    exact ⟨hkeys, h⟩
  | tagged _ ih => exact ih he
  | _ => nomatch he

theorem Distinct.at? {d part : Data} (h : d.Distinct) {path : List Place}
    (hp : d.at? path = some part) : part.Distinct := by
  induction path generalizing d with
  | nil =>
    obtain rfl := Option.some.inj hp
    exact h
  | cons place path ih =>
    cases place with
    | item i =>
      obtain ⟨items, hitems, hp⟩ := Option.bind_eq_some_iff.1 hp
      obtain ⟨d', hd', hp⟩ := Option.bind_eq_some_iff.1 hp
      exact ih (h.of_mem_items? hitems d' (List.mem_of_getElem? hd')) hp
    | entry name =>
      obtain ⟨entries, hentries, hp⟩ := Option.bind_eq_some_iff.1 hp
      obtain ⟨d', hd', hp⟩ := Option.bind_eq_some_iff.1 hp
      have hmem := Fields.mem_of_last? hd'
      rw [named, List.mem_map] at hmem
      obtain ⟨entry, hentry, heq⟩ := hmem
      cases heq
      exact ih ((h.of_entries? hentries).2 entry hentry) hp

theorem nodup_of_string_keys {entries : List (Data × Data)} (h : distinctKeys entries)
    (hs : ∀ entry ∈ entries, ∃ s, entry.1 = .string s) :
    ((named entries).map (·.1)).Nodup := by
  induction entries with
  | nil => exact .nil
  | cons entry entries ih =>
    obtain ⟨k, v⟩ := entry
    rw [List.forall_mem_cons] at hs
    obtain ⟨⟨s, rfl⟩, hs⟩ := hs
    rw [distinctKeys, Bool.and_eq_true, Bool.not_eq_true', List.any_eq_false] at h
    refine List.nodup_cons.2 ⟨fun hmem => ?_, ih h.2 hs⟩
    obtain ⟨_, hnamed, heq⟩ := List.mem_map.1 hmem
    obtain ⟨entry, hentry, rfl⟩ := List.mem_map.1 hnamed
    obtain ⟨t, ht⟩ := hs entry hentry
    have heq : entry.1.keyText = s := heq
    rw [ht] at heq
    have hne := h.1 entry hentry
    rw [ht, eq, beq_iff_eq] at hne
    exact hne heq.symm

theorem distinctKeys_of_nodup {names : List String} {entries : List (Data × Data)}
    (hkeys : entries.map (·.1) = names.map .string) (h : names.Nodup) : distinctKeys entries := by
  induction entries generalizing names with
  | nil => rfl
  | cons entry entries ih =>
    obtain ⟨name, names, rfl, hname, hkeys⟩ := List.map_eq_cons_iff.1 hkeys.symm
    obtain ⟨hmem, hnodup⟩ := List.nodup_cons.1 h
    have hname : entry.1 = .string name := hname.symm
    rw [distinctKeys, hname, Bool.and_eq_true, Bool.not_eq_true', List.any_eq_false]
    refine ⟨fun other hother => ?_, ih hkeys.symm hnodup⟩
    obtain ⟨t, ht, heq⟩ := List.mem_map.1 (hkeys ▸ List.mem_map_of_mem hother)
    rw [← heq, eq, beq_iff_eq]
    rintro rfl
    exact hmem ht

end Yaml.Data

namespace Literal

open Yaml (Data)

variable {literal : String} {d : Data} {v : Value}

theorem coerce_of_read? (h : Data.read? literal = some d) : coerce literal = .ok d.toValue := by
  rw [coerce, h]

theorem exists_of_coerce (h : coerce literal = .ok v) :
    ∃ d, Data.read? literal = some d ∧ d.toValue = v := by
  cases hd : Data.read? literal with
  | none =>
    rw [coerce, hd] at h
    nomatch h
  | some d =>
    rw [coerce_of_read? hd] at h
    exact ⟨d, rfl, Except.ok.inj h⟩

/-- The value of a literal has the parts of its document at the same places. A mapping there keeps
for each text of a key the last entry that has it, so it keeps all entries if and only if no two of
its keys come to the same text, as if they all are strings. -/
theorem fields_of_coerce (h : coerce literal = .ok v) :
    ∃ d, Data.read? literal = some d ∧
      ∀ path, v.at? path = (d.at? path).map Data.toValue ∧
        ∀ part entries, d.at? path = some part → part.entries? = some entries →
          let names := (Data.named entries).map (·.1)
          Data.distinctKeys entries ∧ ∃ fields, v.at? path = some (.mapping fields) ∧
            Fields.Sorted fields ∧ fields.length = names.dedup.length ∧
            (∀ name, Fields.get? name fields =
              (Fields.last? name (Data.named entries)).map Data.toValue) ∧
            (fields.length = entries.length ↔ names.Nodup) ∧
            ((∀ entry ∈ entries, ∃ s, entry.1 = .string s) → fields.length = entries.length) := by
  obtain ⟨d, hd, rfl⟩ := exists_of_coerce h
  refine ⟨d, hd, fun path => ⟨Data.at?_toValue path d, fun part entries hpart hentries => ?_⟩⟩
  have hkeys := (((Data.distinct_of_read? hd).at? hpart).of_entries? hentries).1
  have hvalue : d.toValue.at? path = some (.mapping (Fields.ofList (Data.toEntries entries))) := by
    rw [Data.at?_toValue, hpart]
    exact congrArg some (Value.eq_mapping_of_fields? (by rw [Data.fields?_toValue, hentries]; rfl))
  have hnames : (Data.toEntries entries).map (·.1) = (Data.named entries).map (·.1) := by
    rw [Data.toEntries_eq, List.map_map]
    rfl
  have hlength : (Data.toEntries entries).length = entries.length := by
    rw [Data.toEntries_eq, List.length_map, Data.named, List.length_map]
  have hall : (Fields.ofList (Data.toEntries entries)).length = entries.length ↔
      ((Data.named entries).map (·.1)).Nodup := by
    rw [← hnames, ← hlength]
    exact Fields.length_ofList_eq_iff _
  refine ⟨hkeys, _, hvalue, Fields.sorted_ofList _, ?_,
    fun name => Data.get?_ofList_toEntries name entries, hall, fun hs => ?_⟩
  · rw [Fields.length_ofList, hnames]
  · exact hall.2 (Data.nodup_of_string_keys hkeys hs)

theorem fields_of_coerce_nested :
    ∃ v fields, coerce "\x7ba: [\x7btrue: x, b: z, \"true\": y\x7d]\x7d" = .ok v ∧
      v.at? [.entry "a", .item 0] = some (.mapping fields) ∧ fields.length = 2 ∧
      (Fields.get? "true" fields).map Value.display = some "\"y\"" := by
  have hread : ((Data.read? "\x7ba: [\x7btrue: x, b: z, \"true\": y\x7d]\x7d").bind fun d =>
      (d.at? [.entry "a", .item 0]).bind fun part => part.entries?.map fun entries =>
        ((Data.named entries).map (·.1),
          (Fields.last? "true" (Data.named entries)).map (·.toValue.display))) =
      some (["true", "b", "true"], some "\"y\"") := by decide +kernel
  obtain ⟨d, hd, h⟩ := Option.bind_eq_some_iff.1 hread
  obtain ⟨part, hpart, h⟩ := Option.bind_eq_some_iff.1 h
  obtain ⟨entries, hentries, h⟩ := Option.map_eq_some_iff.1 h
  obtain ⟨hnames, hlast⟩ := Prod.mk.inj h
  obtain ⟨d', hd', hplaces⟩ := fields_of_coerce (coerce_of_read? hd)
  obtain rfl := Option.some.inj (hd.symm.trans hd')
  obtain ⟨_, fields, hvalue, _, hlength, hget, _⟩ := (hplaces _).2 part entries hpart hentries
  refine ⟨_, fields, coerce_of_read? hd, hvalue, ?_, ?_⟩
  · rw [hlength, hnames]
    decide
  · rw [hget, Option.map_map]
    exact hlast

theorem exists_lost_entry :
    ∃ d v, Data.read? "\x7b1: a, \"1\": b\x7d" = some d ∧ coerce "\x7b1: a, \"1\": b\x7d" = .ok v ∧
      d.entries?.map (fun entries => (entries.length, Data.distinctKeys entries)) =
        some (2, true) ∧
      v.fields?.map (·.map fun field => (field.1, field.2.display)) = some [("1", "\"b\"")] := by
  have hread : (Data.read? "\x7b1: a, \"1\": b\x7d").map (fun d =>
      (d.entries?.map fun entries => (entries.length, Data.distinctKeys entries),
        d.toValue.fields?.map (·.map fun field => (field.1, field.2.display)))) =
      some (some (2, true), some [("1", "\"b\"")]) := by decide +kernel
  obtain ⟨d, hd, heq⟩ := Option.map_eq_some_iff.1 hread
  obtain ⟨hentries, hfields⟩ := Prod.mk.inj heq
  exact ⟨d, d.toValue, hd, coerce_of_read? hd, hentries, hfields⟩

end Literal

end LiveAssert
