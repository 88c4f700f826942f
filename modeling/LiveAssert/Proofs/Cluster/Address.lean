import LiveAssert.Cluster
import Mathlib.Data.List.Basic
import Mathlib.Data.List.TakeWhile

/-!
The path of an object tells it from all other objects of its kind. Slashes cut the path into the
group, the version, the namespace, the kind and the name, whatever words stand there.
-/

namespace LiveAssert.Cluster

def segments (path : String) : List String := (path.toList.splitOn '/').map String.ofList

/-- The namespace with which segments begin, behind the word for it. The kind and the name follow,
so in `namespaces/default` the word is a kind. -/
def leadingNamespace? : List String → Option String
  | "namespaces" :: ns :: rest => if 2 ≤ rest.length then some ns else none
  | _ => none

def namespaceIn? (path : String) : Option String :=
  match segments path with
  | "" :: "api" :: _ :: rest => leadingNamespace? rest
  | "" :: "apis" :: _ :: _ :: rest => leadingNamespace? rest
  | _ => none

def IsPlain (s : String) : Prop := ∀ c ∈ s.toList, isPathChar c

structure IsSegment (s : String) : Prop where
  ne_empty : s ≠ ""
  isPlain : IsPlain s
  not_mem : '/' ∉ s.toList

instance : DecidablePred IsPlain := fun s => List.decidableBAll _ s.toList

instance : DecidablePred IsSegment := fun s =>
  decidable_of_iff (s ≠ "" ∧ IsPlain s ∧ '/' ∉ s.toList)
    ⟨fun ⟨h, h', h''⟩ => ⟨h, h', h''⟩, fun h => ⟨h.ne_empty, h.isPlain, h.not_mem⟩⟩

example : IsSegment "ABCDEFGHIJKLMNOPQRSTUVWXYZabcdefghijklmnopqrstuvwxyz0123456789-." := by decide

structure Addressable (o : ObjectRef) : Prop where
  group : IsPlain o.groupVersion.1
  version : IsSegment o.groupVersion.2
  name : IsSegment o.name
  ns : ∀ ns ∈ o.ns, IsSegment ns

variable {s t fallback kind : String} {o p : ObjectRef}

section Segments

@[simp]
theorem segments_append (s t : String) : segments (s ++ "/" ++ t) = segments s ++ segments t := by
  have hlist : (s ++ "/" ++ t).toList = s.toList ++ '/' :: t.toList := by simp
  rw [segments, hlist, List.splitOn_append_cons_self, List.map_append]
  rfl

theorem segments_of_not_mem (h : '/' ∉ s.toList) : segments s = [s] := by
  rw [segments, List.splitOn_eq_singleton h, List.map_singleton, String.ofList_toList]

theorem segments_ne_nil (s : String) : segments s ≠ [] := by
  simp [segments, List.splitOn_ne_nil]

theorem segments_injective : Function.Injective segments := by
  intro s t h
  have hjoin (u : String) : ['/'].intercalate (u.toList.splitOn '/') = u.toList :=
    List.intercalate_splitOn '/'
  have hsplit : s.toList.splitOn '/' = t.toList.splitOn '/' :=
    List.map_injective_iff.2 (fun _ _ => String.ofList_injective) h
  rw [← String.toList_inj, ← hjoin s, hsplit, hjoin t]

def rootSegments : String × String → List String
  | (group, version) => if group = "" then ["", "api", version] else ["", "apis", group, version]

def namespaceSegments : Option String → List String
  | some ns => "namespaces" :: segments ns
  | none => []

theorem rootSegments_append_inj {gv gv' : String × String} {rest rest' : List String}
    (h : rootSegments gv ++ rest = rootSegments gv' ++ rest') : gv = gv' ∧ rest = rest' := by
  obtain ⟨group, version⟩ := gv
  obtain ⟨group', version'⟩ := gv'
  by_cases hg : group = "" <;> by_cases hg' : group' = "" <;> simp_all [rootSegments]

theorem namespaceSegments_injective : Function.Injective namespaceSegments := by
  intro ns ns' h
  cases ns <;> cases ns' <;> simp_all [namespaceSegments, segments_injective.eq_iff]

theorem not_mem_group (o : ObjectRef) : '/' ∉ o.groupVersion.1.toList := by
  rw [ObjectRef.groupVersion]
  split
  · exact List.not_mem_nil
  · rw [String.toList_ofList]
    exact fun h => absurd (List.mem_takeWhile_imp h) (by decide)

theorem segments_root (h : '/' ∉ o.groupVersion.2.toList) :
    segments (root o) = rootSegments o.groupVersion := by
  have hgroup := not_mem_group o
  rw [root]
  split
  · next version hgv =>
    rw [hgv] at h
    rw [hgv, rootSegments, if_pos rfl, show "/api/" = "/api" ++ "/" from rfl, segments_append,
      segments_of_not_mem h]
    rfl
  · next group version hne hgv =>
    rw [hgv] at h hgroup
    rw [hgv, rootSegments, if_neg hne, show "/apis/" = "/apis" ++ "/" from rfl, segments_append,
      segments_append, segments_of_not_mem h, segments_of_not_mem hgroup]
    rfl

@[simp] theorem segments_append_namespace (s ns : String) :
    segments (s ++ ("/namespaces/" ++ ns)) = segments s ++ namespaceSegments (some ns) := by
  have hslash : s ++ ("/namespaces/" ++ ns) = s ++ "/" ++ "namespaces" ++ "/" ++ ns := by
    simp [← String.toList_inj]
  rw [hslash, segments_append, segments_append, List.append_assoc]
  rfl

theorem segments_path (fallback : String) (h : Addressable o) :
    segments (path fallback o) = rootSegments o.groupVersion ++
      (namespaceSegments (effectiveNamespace? fallback o) ++
        (segments (resource o.kind) ++ [o.name])) := by
  have hroot := segments_root h.version.not_mem
  rw [path, segments_append, segments_append, segments_of_not_mem h.name.not_mem]
  cases effectiveNamespace? fallback o with
  | none => rw [String.append_empty, hroot, List.append_assoc, namespaceSegments, List.nil_append]
  | some ns => rw [segments_append_namespace, hroot, List.append_assoc, List.append_assoc]

end Segments

theorem effectiveNamespace?_eq_iff (hkind : o.kind = p.kind) :
    effectiveNamespace? fallback o = effectiveNamespace? fallback p ↔
      o.kind ∈ clusterScoped ∨ o.ns.getD fallback = p.ns.getD fallback := by
  rw [effectiveNamespace?, effectiveNamespace?, ← hkind]
  by_cases hscope : o.kind ∈ clusterScoped <;> simp [hscope]

theorem isSome_effectiveNamespace?_iff (fallback : String) :
    (effectiveNamespace? fallback o).isSome ↔ o.kind ∉ clusterScoped := by
  by_cases hscope : o.kind ∈ clusterScoped <;> simp [effectiveNamespace?, hscope]

theorem eq_of_path_eq (ho : Addressable o) (hp : Addressable p) (hkind : o.kind = p.kind)
    (h : path fallback o = path fallback p) :
    o.groupVersion = p.groupVersion ∧ o.name = p.name ∧
      effectiveNamespace? fallback o = effectiveNamespace? fallback p := by
  have hsegments := congrArg segments h
  rw [segments_path fallback ho, segments_path fallback hp, ← hkind] at hsegments
  obtain ⟨hroot, hrest⟩ := rootSegments_append_inj hsegments
  obtain ⟨hns, hend⟩ := List.append_inj' hrest (by simp)
  have hname : [o.name] = [p.name] := List.append_cancel_left hend
  exact ⟨hroot, List.singleton_inj.1 hname, namespaceSegments_injective hns⟩

theorem path_eq_of_eq (hkind : o.kind = p.kind) (hroot : o.groupVersion = p.groupVersion)
    (hname : o.name = p.name)
    (hns : effectiveNamespace? fallback o = effectiveNamespace? fallback p) :
    path fallback o = path fallback p := by
  rw [path, path, root, root, hkind, hroot, hname, hns]

theorem namespaceIn?_of_segments {path : String} {gv : String × String} {rest : List String}
    (h : segments path = rootSegments gv ++ rest) :
    namespaceIn? path = leadingNamespace? rest := by
  obtain ⟨group, version⟩ := gv
  rw [namespaceIn?, h, rootSegments]
  by_cases hgroup : group = ""
  · rw [if_pos hgroup]
    rfl
  · rw [if_neg hgroup]
    rfl

theorem not_mem_resource : ∀ kind ∈ clusterScoped, '/' ∉ (resource kind).toList := by decide

theorem namespaceIn?_path (fallback : String) (h : Addressable o) :
    namespaceIn? (path fallback o) =
      (effectiveNamespace? fallback o).bind fun ns => (segments ns).head? := by
  rw [namespaceIn?_of_segments (segments_path fallback h)]
  cases hns : effectiveNamespace? fallback o with
  | none =>
    have hscope : o.kind ∈ clusterScoped := by simpa [effectiveNamespace?] using hns
    rw [segments_of_not_mem (not_mem_resource o.kind hscope)]
    -- The kind is one word and may be the word for namespaces: then the name alone is left.
    by_cases hword : resource o.kind = "namespaces" <;>
      simp [namespaceSegments, leadingNamespace?, hword]
  | some ns =>
    obtain ⟨first, more, hfirst⟩ := List.exists_cons_of_ne_nil (segments_ne_nil ns)
    have hresource := List.length_pos_of_ne_nil (segments_ne_nil (resource o.kind))
    rw [namespaceSegments, hfirst, List.cons_append, List.cons_append, leadingNamespace?, if_pos]
    · rw [Option.bind_some, hfirst, List.head?_cons]
    · simp only [List.length_append, List.length_singleton]
      omega

theorem isSome_namespaceIn?_path_iff (fallback : String) (h : Addressable o) :
    (namespaceIn? (path fallback o)).isSome ↔ o.kind ∉ clusterScoped := by
  rw [← isSome_effectiveNamespace?_iff fallback, namespaceIn?_path fallback h]
  cases effectiveNamespace? fallback o with
  | none => rfl
  | some ns => simp [Option.isSome_iff_ne_none, segments_ne_nil]

section Plain

theorem IsPlain.append (hs : IsPlain s) (ht : IsPlain t) : IsPlain (s ++ t) := by
  intro c hc
  rw [String.toList_append, List.mem_append] at hc
  exact hc.elim (hs c) (ht c)

theorem isPathChar_toLower {c : Char} (h : isPathChar c) : isPathChar c.toLower := by
  by_cases hupper : 65 ≤ c.toNat ∧ c.toNat ≤ 90
  · have hletters : ∀ k < 26, isPathChar (Char.ofNat (65 + k)).toLower := by decide
    have hlower := hletters (c.toNat - 65) (by omega)
    rwa [Nat.add_sub_cancel' hupper.1, Char.ofNat_toNat] at hlower
  · have hsame : c.toLower = c := by
      apply dif_neg
      exact fun h => hupper ⟨UInt32.le_iff_toNat_le.1 h.1, UInt32.le_iff_toNat_le.1 h.2⟩
    rwa [hsame]

theorem IsPlain.plural (h : IsPlain s) : IsPlain (plural s) := by
  rw [Cluster.plural]
  split
  · next other hother =>
    have hall : ∀ entry ∈ irregular, IsPlain entry.2 := by decide
    obtain ⟨before, after, heq, _⟩ := List.lookup_eq_some_iff.1 hother
    exact hall (s, other) (heq ▸ List.mem_append_cons_self)
  · dsimp only
    split
    · exact h.append (by decide)
    · split
      · refine .append (fun c hc => h c ?_) (by decide)
        rw [String.toList_ofList] at hc
        exact List.dropLast_subset _ hc
      · exact h.append (by decide)

theorem IsPlain.resource (h : IsPlain kind) : IsPlain (resource kind) := by
  apply IsPlain.plural
  intro c hc
  rw [String.toList_ofList, List.mem_map] at hc
  obtain ⟨d, hd, rfl⟩ := hc
  exact isPathChar_toLower (h d hd)

theorem Addressable.isPlain_root (h : Addressable o) : IsPlain (root o) := by
  have hgroup := h.group
  have hversion := h.version.isPlain
  rw [root]
  split
  · next hgv =>
    rw [hgv] at hversion
    exact .append (by decide) hversion
  · next hgv =>
    rw [hgv] at hgroup hversion
    exact .append (.append (.append (by decide) hgroup) (by decide)) hversion

theorem Addressable.isPlain_namespace {ns : String} (h : Addressable o)
    (hfallback : IsPlain fallback) (hns : effectiveNamespace? fallback o = some ns) :
    IsPlain ns := by
  rw [effectiveNamespace?] at hns
  split at hns
  · nomatch hns
  · rw [← Option.some.inj hns]
    cases hstated : o.ns with
    | none => exact hfallback
    | some ns => exact (h.ns ns hstated).isPlain

theorem Addressable.isPlain_path (h : Addressable o) (hkind : IsPlain o.kind)
    (hfallback : IsPlain fallback) : IsPlain (path fallback o) := by
  rw [path]
  refine .append (.append (.append (.append (.append h.isPlain_root ?_) (by decide))
    hkind.resource) (by decide)) h.name.isPlain
  cases hns : effectiveNamespace? fallback o with
  | none => decide
  | some ns => exact .append (by decide) (h.isPlain_namespace hfallback hns)

theorem targetPath?_of_isPlain (h : IsPlain s) : targetPath? s.toList = some s.toList := by
  have hne {d : Char} (hd : isPathChar d = false) : ∀ c ∈ s.toList, (c != d) = true :=
    fun c hc => bne_iff_ne.2 fun he => Bool.false_ne_true (hd.symm.trans (he ▸ h c hc))
  have htarget := List.takeWhile_eq_self_iff.2 (hne (d := '#') (by decide))
  have hpath := List.takeWhile_eq_self_iff.2 (hne (d := '?') (by decide))
  have hquery := List.dropWhile_eq_nil_iff.2 (hne (d := '?') (by decide))
  have hall : s.toList.all isPathChar := List.all_eq_true.2 h
  simp only [targetPath?, htarget, hpath, hquery, hall]
  rfl

theorem requests_eq (h : Addressable o) (hkind : IsPlain o.kind) (hfallback : IsPlain fallback)
    (response : Response) : (resolve fallback response o).1 = [path fallback o] := by
  have hname : o.name.isEmpty = false := by simpa using h.name.ne_empty
  have hrequest : requestPath? fallback o = some (path fallback o) := by
    rw [requestPath?, hname, if_neg Bool.false_ne_true,
      targetPath?_of_isPlain (h.isPlain_path hkind hfallback), Option.map_some,
      String.ofList_toList]
  rw [resolve, hrequest]

end Plain

/-- Two objects of a kind have one path if and only if they have the same group, version and name
and, unless the kind is outside of namespaces, are looked for in the same namespace. The path has a
part for the namespace unless the kind is outside of them. If the kind and the default namespace are
plain, then an object is asked for once, and by its path as it is. -/
theorem path_eq_path_iff (fallback : String) (ho : Addressable o) (hp : Addressable p)
    (hkind : o.kind = p.kind) :
    (path fallback o = path fallback p ↔
      o.groupVersion = p.groupVersion ∧ o.name = p.name ∧
        (o.kind ∈ clusterScoped ∨ o.ns.getD fallback = p.ns.getD fallback)) ∧
      ((namespaceIn? (path fallback o)).isSome ↔ o.kind ∉ clusterScoped) ∧
      (IsPlain o.kind → IsPlain fallback → ∀ response,
        (resolve fallback response o).1 = [path fallback o] ∧
          (resolve fallback response p).1 = [path fallback p]) := by
  refine ⟨?_, isSome_namespaceIn?_path_iff fallback ho, fun hplain hfallback response => ?_⟩
  · rw [← effectiveNamespace?_eq_iff hkind]
    exact ⟨eq_of_path_eq ho hp hkind,
      fun ⟨hroot, hname, hns⟩ => path_eq_of_eq hkind hroot hname hns⟩
  · exact ⟨requests_eq ho hplain hfallback response,
      requests_eq hp (hkind ▸ hplain) hfallback response⟩

theorem path_eq_path_iff_lookalikes :
    let o : ObjectRef := ⟨"v1", "Pod", "namespaces", some "pods"⟩
    let p : ObjectRef := ⟨"/v1", "Pod", "namespaces", none⟩
    let q : ObjectRef := ⟨"v1", "Pod", "pods", some "namespaces"⟩
    Addressable o ∧ Addressable p ∧ Addressable q ∧ path "pods" o = path "pods" p ∧
      path "pods" o ≠ path "pods" q ∧ (namespaceIn? (path "pods" o)).isSome ∧
      (resolve "pods" ⟨200, ""⟩ p).1 = ["/api/v1/namespaces/pods/pods/namespaces"] := by
  intro o p q
  have ho : Addressable o := ⟨by decide, by decide, by decide, by decide⟩
  have hp : Addressable p := ⟨by decide, by decide, by decide, by decide⟩
  have hq : Addressable q := ⟨by decide, by decide, by decide, by decide⟩
  obtain ⟨hpath, hns, hrequests⟩ := path_eq_path_iff "pods" ho hp rfl
  obtain ⟨hpath', _⟩ := path_eq_path_iff "pods" ho hq rfl
  have hrequest := (hrequests (by decide) (by decide) ⟨200, ""⟩).2
  have htext : path "pods" p = "/api/v1/namespaces/pods/pods/namespaces" := by decide
  refine ⟨ho, hp, hq, hpath.2 ⟨by decide, rfl, .inr rfl⟩, fun h => ?_, hns.2 (by decide),
    htext ▸ hrequest⟩
  exact absurd (hpath'.1 h).2.1 (by decide)

end LiveAssert.Cluster
