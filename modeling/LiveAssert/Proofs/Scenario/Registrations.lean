import LiveAssert.Proofs.Scenario.Operation
import LiveAssert.Proofs.Yaml.Mapping

namespace LiveAssert

namespace Json

variable {j : Json} {s : String}

def at? (path : List String) (j : Json) : Option Json :=
  path.foldlM (fun node key => node.member? key) j

def Has (j : Json) (path : List String) (s : String) : Prop :=
  j.at? path = some (.string s) ∧ s ≠ ""

theorem child?_eq_member? {key : String} (h : tokenIndex? key.toList = none) (j : Json) :
    child? key.toList j = j.member? key := by
  cases j with
  | object members => rw [child?, member?, String.ofList_toList]
  | array items => rw [child?, h]; rfl
  | _ => rfl

def keys (pointer : List Char) : List (List Char) :=
  ((pointerTokens pointer).1 :: (pointerTokens pointer).2).map unescapeToken

theorem foldlM_child? {path : List String}
    (hindex : ∀ key ∈ path, tokenIndex? key.toList = none) (j : Json) :
    (path.map String.toList).foldlM (fun node key => child? key node) j = j.at? path := by
  induction path generalizing j with
  | nil => rfl
  | cons key path ih =>
    obtain ⟨hkey, hpath⟩ := List.forall_mem_cons.1 hindex
    rw [at?, List.map_cons, List.foldlM_cons, List.foldlM_cons, child?_eq_member? hkey]
    exact bind_congr fun node => ih hpath node

theorem pointer?_eq_at? {pointer : List Char} {path : List String}
    (hkeys : keys pointer = path.map String.toList)
    (hindex : ∀ key ∈ path, tokenIndex? key.toList = none) (j : Json) :
    j.pointer? ('/' :: pointer) = j.at? path := by
  rw [← foldlM_child? hindex, ← hkeys, keys, List.foldlM_map]
  rfl

end Json

def ManifestError.rank : ManifestError → Nat
  | .invalid => 0
  | .missingApiVersion => 1
  | .missingKind => 2
  | .missingName => 3

namespace Manifest

/-- What is wrong with a manifest, each fault without regard to the others: it is no document, or
under a key there is no string, or an empty one. -/
inductive Faulty (manifest : String) : ManifestError → Prop
  | invalid : Yaml.Document.read? (expandTabs manifest) = none → Faulty manifest .invalid
  | missingApiVersion : Yaml.Document.read? (expandTabs manifest) = some document →
      (∀ s, ¬document.Has ["apiVersion"] s) → Faulty manifest .missingApiVersion
  | missingKind : Yaml.Document.read? (expandTabs manifest) = some document →
      (∀ s, ¬document.Has ["kind"] s) → Faulty manifest .missingKind
  | missingName : Yaml.Document.read? (expandTabs manifest) = some document →
      (∀ s, ¬document.Has ["metadata", "name"] s) → Faulty manifest .missingName

variable {document : Json} {s : String}

theorem field?_eq_some_iff {pointer : String} (keys : List Char) {path : List String}
    (hpointer : pointer.toList = '/' :: keys) (hkeys : Json.keys keys = path.map String.toList)
    (hindex : ∀ key ∈ path, Json.tokenIndex? key.toList = none) :
    field? pointer document = some s ↔ document.Has path s := by
  rw [field?, hpointer, Json.pointer?_eq_at? hkeys hindex, Option.filter_eq_some_iff,
    Option.bind_eq_some_iff, Json.Has]
  refine and_congr ?_ ?_
  · constructor
    · rintro ⟨j, hj, hs⟩
      cases j with
      | string t => cases hs; exact hj
      | _ => nomatch hs
    · exact fun h => ⟨_, h, rfl⟩
  · simp

theorem apiVersion?_eq_some_iff :
    field? "/apiVersion" document = some s ↔ document.Has ["apiVersion"] s :=
  field?_eq_some_iff "apiVersion".toList (by decide) (by decide) (by decide)

theorem kind?_eq_some_iff : field? "/kind" document = some s ↔ document.Has ["kind"] s :=
  field?_eq_some_iff "kind".toList (by decide) (by decide) (by decide)

theorem name?_eq_some_iff :
    field? "/metadata/name" document = some s ↔ document.Has ["metadata", "name"] s :=
  field?_eq_some_iff "metadata/name".toList (by decide) (by decide) (by decide)

theorem namespace?_eq_some_iff :
    field? "/metadata/namespace" document = some s ↔ document.Has ["metadata", "namespace"] s :=
  field?_eq_some_iff "metadata/namespace".toList (by decide) (by decide) (by decide)

structure Identifies (document : Json) (o : ObjectRef) : Prop where
  apiVersion : document.Has ["apiVersion"] o.apiVersion
  kind : document.Has ["kind"] o.kind
  name : document.Has ["metadata", "name"] o.name
  ns : ∀ s, o.ns = some s ↔ document.Has ["metadata", "namespace"] s

variable {manifest : String} {e : ManifestError} {o : ObjectRef}

@[simp] theorem require_eq_ok_iff {x? : Option α} {x : α} : require e x? = .ok x ↔ x? = some x := by
  cases x? <;> simp [require]

theorem identify_eq_ok_iff : identify document = .ok o ↔ Identifies document o := by
  constructor
  · intro h
    obtain ⟨apiVersion, hapiVersion, h⟩ := Phrase.exists_of_bind_eq_ok h
    obtain ⟨kind, hkind, h⟩ := Phrase.exists_of_bind_eq_ok h
    obtain ⟨name, hname, ⟨⟩⟩ := Phrase.exists_of_bind_eq_ok h
    rw [require_eq_ok_iff] at hapiVersion hkind hname
    exact ⟨apiVersion?_eq_some_iff.1 hapiVersion, kind?_eq_some_iff.1 hkind,
      name?_eq_some_iff.1 hname, fun s => namespace?_eq_some_iff⟩
  · intro h
    have hns : field? "/metadata/namespace" document = o.ns :=
      Option.ext fun s => namespace?_eq_some_iff.trans (h.ns s).symm
    rw [identify, apiVersion?_eq_some_iff.2 h.apiVersion, kind?_eq_some_iff.2 h.kind,
      name?_eq_some_iff.2 h.name, hns]
    rfl

theorem identify_eq_error_iff : identify document = .error e ↔
    e = .missingApiVersion ∧ field? "/apiVersion" document = none ∨
      e = .missingKind ∧ field? "/apiVersion" document ≠ none ∧ field? "/kind" document = none ∨
      e = .missingName ∧ field? "/apiVersion" document ≠ none ∧ field? "/kind" document ≠ none ∧
        field? "/metadata/name" document = none := by
  rw [identify]
  cases field? "/apiVersion" document with
  | none => simp [require, bind, Except.bind, eq_comm]
  | some apiVersion =>
    cases field? "/kind" document with
    | none => simp [require, bind, Except.bind, eq_comm]
    | some kind =>
      cases field? "/metadata/name" document with
      | none => simp [require, bind, Except.bind, eq_comm]
      | some name => simp [require, bind, Except.bind, pure, Except.pure]

theorem read_eq_ok_iff : read manifest = .ok o ↔
    ∃ document, Yaml.Document.read? (expandTabs manifest) = some document ∧
      Identifies document o := by
  simp only [← identify_eq_ok_iff]
  cases hread : Yaml.Document.read? (expandTabs manifest) with
  | none => simp [read, hread, require, Except.bind, bind]
  | some document => simp [read, hread, require, Except.bind, bind]

theorem faulty_iff (h : Yaml.Document.read? (expandTabs manifest) = some document) :
    Faulty manifest e ↔ e = .missingApiVersion ∧ field? "/apiVersion" document = none ∨
      e = .missingKind ∧ field? "/kind" document = none ∨
      e = .missingName ∧ field? "/metadata/name" document = none := by
  simp only [Option.eq_none_iff_forall_ne_some, ne_eq, apiVersion?_eq_some_iff, kind?_eq_some_iff,
    name?_eq_some_iff]
  constructor
  · rintro (h' | ⟨h', hs⟩ | ⟨h', hs⟩ | ⟨h', hs⟩) <;> cases h.symm.trans h'
    · exact .inl ⟨rfl, hs⟩
    · exact .inr (.inl ⟨rfl, hs⟩)
    · exact .inr (.inr ⟨rfl, hs⟩)
  · rintro (⟨rfl, hs⟩ | ⟨rfl, hs⟩ | ⟨rfl, hs⟩)
    · exact .missingApiVersion h hs
    · exact .missingKind h hs
    · exact .missingName h hs

def FirstFault (manifest : String) (e : ManifestError) : Prop :=
  Faulty manifest e ∧ ∀ e', Faulty manifest e' → e.rank ≤ e'.rank

theorem FirstFault.unique {e' : ManifestError} (h : FirstFault manifest e)
    (h' : FirstFault manifest e') : e = e' := by
  have hrank : e.rank = e'.rank := Nat.le_antisymm (h.2 e' h'.1) (h'.2 e h.1)
  cases e <;> cases e' <;> first | rfl | nomatch hrank

theorem firstFault_of_read_eq_error (h : read manifest = .error e) : FirstFault manifest e := by
  rw [read] at h
  cases hread : Yaml.Document.read? (expandTabs manifest) with
  | none =>
    rw [hread] at h
    cases h
    exact ⟨.invalid hread, fun e' _ => Nat.zero_le e'.rank⟩
  | some document =>
    rw [hread] at h
    have hfaulty {e} := faulty_iff (e := e) hread
    -- A fault that comes earlier is about a key that has been read.
    obtain ⟨rfl, hnone⟩ | ⟨rfl, hapiVersion, hnone⟩ | ⟨rfl, hapiVersion, hkind, hnone⟩ :=
      identify_eq_error_iff.1 h
    · refine ⟨hfaulty.2 (.inl ⟨rfl, hnone⟩), fun e' he' => ?_⟩
      obtain ⟨rfl, -⟩ | ⟨rfl, -⟩ | ⟨rfl, -⟩ := hfaulty.1 he' <;> decide
    · refine ⟨hfaulty.2 (.inr (.inl ⟨rfl, hnone⟩)), fun e' he' => ?_⟩
      obtain ⟨-, h'⟩ | ⟨rfl, -⟩ | ⟨rfl, -⟩ := hfaulty.1 he'
      · exact absurd h' hapiVersion
      all_goals decide
    · refine ⟨hfaulty.2 (.inr (.inr ⟨rfl, hnone⟩)), fun e' he' => ?_⟩
      obtain ⟨-, h'⟩ | ⟨-, h'⟩ | ⟨rfl, -⟩ := hfaulty.1 he'
      · exact absurd h' hapiVersion
      · exact absurd h' hkind
      · decide

theorem not_faulty_of_read_eq_ok (h : read manifest = .ok o) : ¬Faulty manifest e := by
  obtain ⟨document, hread, hidentifies⟩ := read_eq_ok_iff.1 h
  intro hfaulty
  cases hfaulty with
  | invalid h' => cases hread.symm.trans h'
  | missingApiVersion h' hnot => cases hread.symm.trans h'; exact hnot _ hidentifies.apiVersion
  | missingKind h' hnot => cases hread.symm.trans h'; exact hnot _ hidentifies.kind
  | missingName h' hnot => cases hread.symm.trans h'; exact hnot _ hidentifies.name

theorem read_eq_error_iff : read manifest = .error e ↔ FirstFault manifest e := by
  refine ⟨firstFault_of_read_eq_error, fun h => ?_⟩
  cases hread : read manifest with
  | ok o => exact absurd h.1 (not_faulty_of_read_eq_ok hread)
  | error e' => rw [h.unique (firstFault_of_read_eq_error hread)]

end Manifest

def Operation.registered? : Operation → Option (String × ObjectRef)
  | .register name o => some (name, o)
  | .registerManifest name manifest => (Manifest.read manifest).toOption.map fun o => (name, o)
  | _ => none

def registrations (ops : List Operation) : List (String × ObjectRef) :=
  ops.filterMap Operation.registered?

@[simp] theorem registrations_concat (ops : List Operation) (op : Operation) :
    registrations (ops ++ [op]) = registrations ops ++ op.registered?.toList := by
  rw [registrations, List.filterMap_append]
  cases hop : op.registered? <;> simp [hop, registrations]

namespace Registry

variable (r : Registry) (name : String) {manifest : String} {e : ManifestError} {o : ObjectRef}

theorem tryManifest_of_error (h : Manifest.read manifest = .error e) :
    r.tryManifest name manifest = (.error e, r) := by
  rw [tryManifest, registerManifest, h]
  rfl

theorem tryManifest_of_ok (h : Manifest.read manifest = .ok o) :
    r.tryManifest name manifest = (.ok o, r.register name o) := by
  rw [tryManifest, registerManifest, h]
  rfl

theorem onRegistry_eq (op : Operation) : op.onRegistry r =
    (op.registered?.map fun entry => r.register entry.1 entry.2).getD r := by
  cases op with
  | registerManifest name manifest =>
    rw [Operation.onRegistry, Operation.registered?]
    cases hread : Manifest.read manifest with
    | error e => rw [tryManifest_of_error _ _ hread]; rfl
    | ok o => rw [tryManifest_of_ok _ _ hread]; rfl
  | _ => rfl

theorem foldl_onRegistry (ops : List Operation) :
    ops.foldl Operation.onRegistry .empty = Fields.ofList (registrations ops) := by
  induction ops using List.reverseRecOn with
  | nil => rfl
  | append_singleton ops op ih =>
    rw [List.foldl_append, List.foldl_cons, List.foldl_nil, ih, onRegistry_eq,
      registrations_concat]
    cases op.registered? with
    | none => exact (congrArg Fields.ofList (List.append_nil _)).symm
    | some entry => exact (Fields.ofList_concat _ entry).symm

theorem isEmpty_iff_size : r.isEmpty ↔ r.size = 0 := by
  rw [isEmpty, size, List.isEmpty_iff, List.length_eq_zero_iff]

/-- How a registry takes a manifest: it refuses it for its first fault, and stays as it was, or it
gives the object that the manifest describes the name, and nothing else changes. -/
structure Takes (r : Registry) (name manifest : String) : Prop where
  refuses : ∀ e, (r.tryManifest name manifest).1 = .error e ↔ Manifest.FirstFault manifest e
  describes : ∀ o, (r.tryManifest name manifest).1 = .ok o ↔ ∃ document,
    Yaml.Document.read? (Manifest.expandTabs manifest) = some document ∧
      Manifest.Identifies document o
  unchanged : ∀ e, (r.tryManifest name manifest).1 = .error e → (r.tryManifest name manifest).2 = r
  stored : ∀ o, (r.tryManifest name manifest).1 = .ok o →
    (r.tryManifest name manifest).2.get? name = some o
  others : ∀ other ≠ name, (r.tryManifest name manifest).2.get? other = r.get? other

theorem takes (r : Registry) (name manifest : String) : r.Takes name manifest := by
  cases hread : Manifest.read manifest with
  | error e =>
    have htry := tryManifest_of_error r name hread
    exact {
      refuses := fun e' => by rw [htry, ← Manifest.read_eq_error_iff, hread]
      describes := fun o => by rw [htry, ← Manifest.read_eq_ok_iff, hread]
      unchanged := fun _ _ => by rw [htry]
      stored := fun o ho => by rw [htry] at ho; nomatch ho
      others := fun _ _ => by rw [htry] }
  | ok o =>
    have htry := tryManifest_of_ok r name hread
    exact {
      refuses := fun e' => by rw [htry, ← Manifest.read_eq_error_iff, hread]
      describes := fun o => by rw [htry, ← Manifest.read_eq_ok_iff, hread]
      unchanged := fun e he => by rw [htry] at he; nomatch he
      stored := fun o' ho => by
        rw [htry] at ho ⊢
        cases ho
        exact r.get?_register_self name o
      others := fun other hother => by rw [htry]; exact r.get?_register_of_ne hother o }

/-- What a registry remembers of the operations on it, whatever else is done between them. Under
each name it has the object that was registered last, and it counts the names. A manifest that is
refused has no part in this, and one that is not is registered as what it describes. -/
theorem remembers_registrations (ops : List Operation) :
    let r := ops.foldl Operation.onRegistry .empty
    (∀ name, r.get? name = Fields.last? name (registrations ops)) ∧
      r.size = ((registrations ops).map (·.1)).dedup.length ∧
      (r.isEmpty ↔ registrations ops = []) ∧
      ∀ name manifest, r.Takes name manifest := by
  intro r
  have hr : r = Fields.ofList (registrations ops) := foldl_onRegistry ops
  have hsize : r.size = ((registrations ops).map (·.1)).dedup.length := by
    rw [hr]
    exact Fields.length_ofList (registrations ops)
  refine ⟨fun name => ?_, hsize, ?_, r.takes⟩
  · rw [hr]
    exact Fields.get?_ofList name (registrations ops)
  · rw [isEmpty_iff_size, hsize, List.length_eq_zero_iff, List.dedup_eq_nil, List.map_eq_nil_iff]

theorem remembers_registrations_replaced :
    let ops : List Operation := [
      .registerManifest "pod" "apiVersion: v1\nkind: Pod\nmetadata:\n\tname: first\n",
      .registerManifest "pod" "apiVersion: v1\nkind: Pod\nmetadata:\n\tname: ''\n",
      .get "pod",
      .register "pod" ⟨"v1", "Pod", "last", some "testing"⟩]
    let r := ops.foldl Operation.onRegistry .empty
    r.get? "pod" = some ⟨"v1", "Pod", "last", some "testing"⟩ ∧ r.size = 1 ∧ ¬r.isEmpty ∧
      (r.tryManifest "pod" "kind: Pod").2 = r := by
  intro ops r
  have hlog : registrations ops = [("pod", ⟨"v1", "Pod", "first", none⟩),
      ("pod", ⟨"v1", "Pod", "last", some "testing"⟩)] := by
    decide +kernel
  obtain ⟨hget, hsize, hempty, htakes⟩ := remembers_registrations ops
  rw [hlog] at hget hsize hempty
  have hread : Manifest.read "kind: Pod" = .error .missingApiVersion := by decide +kernel
  have hrefused := (htakes "pod" "kind: Pod").refuses .missingApiVersion
  refine ⟨hget "pod", hsize, fun h => absurd (hempty.1 h) nofun, ?_⟩
  exact (htakes "pod" "kind: Pod").unchanged _ (hrefused.2 (Manifest.read_eq_error_iff.1 hread))

end Registry

end LiveAssert
