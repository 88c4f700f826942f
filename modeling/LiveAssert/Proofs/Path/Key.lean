import LiveAssert.Proofs.Path.Spelling
import LiveAssert.Proofs.Path.Wildcard

namespace LiveAssert

namespace Text

theorem trimRight_cons {c : Char} (h : isBlank c = false) (s : List Char) :
    trimRight (c :: s) = c :: trimRight s := by
  have hd : (s.reverse ++ [c]).dropWhile isBlank = s.reverse.dropWhile isBlank ++ [c] := by
    rw [List.dropWhile_append]
    split
    · next hs => rw [List.isEmpty_iff.1 hs, List.dropWhile_cons_of_neg (by simp [h])]; rfl
    · rfl
  rw [trimRight, List.reverse_cons, hd, List.reverse_append]
  rfl

theorem trim_cons {c : Char} (h : isBlank c = false) (s : List Char) :
    trim (c :: s) = c :: trimRight s := by
  rw [trim, trimLeft, List.dropWhile_cons_of_neg (by simp [h]), trimRight_cons h]

theorem trimRight_subset (s : List Char) : trimRight s ⊆ s := by
  intro c hc
  rw [trimRight, List.mem_reverse] at hc
  exact List.mem_reverse.1 (trimLeft_subset _ hc)

end Text

namespace Path

variable {path : Path} {quote : Char} {key : String} {members : List (String × Json)}

def keyed (quote : Char) (key : String) : String :=
  "[" ++ quote.toString ++ key ++ quote.toString ++ "]"

@[simp] theorem toList_keyed (quote : Char) (key : String) :
    (keyed quote key).toList = '[' :: quote :: (key.toList ++ quote :: [']']) := by
  simp [keyed]

theorem parse_of_body {text : String} (h : Body path text.toList)
    (hlast : ∀ c ∈ text.toList.getLast?, Text.isBlank c = false) : parse text = .ok path := by
  rw [parse, parseChars, Text.trim_of_ends h.isBlank_head? hlast, h.insideBraces_eq]
  dsimp only [bind, Except.bind]
  rw [h.segments_dropRoot]
  rfl

theorem isBlank_getLast?_keyed (quote : Char) (key : String) :
    ∀ c ∈ (keyed quote key).toList.getLast?, Text.isBlank c = false := by
  rw [keyed, String.toList_append, show "]".toList = [']'] from rfl, List.getLast?_concat]
  rintro _ ⟨⟩
  rfl

theorem parse_keyed (hquote : quote = '\'' ∨ quote = '"') (hkey : ']' ∉ key.toList) :
    parse (keyed quote key) = .ok [.field key] := by
  have hjoined := Joined.cons (.unspaced (.quoted hquote hkey)) .nil
  apply parse_of_body _ (isBlank_getLast?_keyed quote key)
  rw [toList_keyed]
  simpa using Body.joined hjoined

theorem quotedKey_of_not_mem {s : List Char} (h : quote ∉ s) :
    quotedKey quote s = .error .unterminatedKey := by
  rw [quotedKey]
  split
  · next c t hs =>
    have hc : c ∈ s := List.mem_reverse.1 (hs ▸ List.mem_cons_self)
    rw [if_neg (ne_of_mem_of_not_mem hc h)]
  · rfl

theorem bracket_quote (hquote : quote = '\'' ∨ quote = '"') (s : List Char) :
    bracket (quote :: s) = quotedKey quote s := by
  obtain rfl | rfl := hquote
  · rfl
  · rfl

theorem isBlank_of_quote (hquote : quote = '\'' ∨ quote = '"') : Text.isBlank quote = false := by
  obtain rfl | rfl := hquote
  · rfl
  · rfl

theorem bracket_of_not_mem {s : List Char} (hquote : quote = '\'' ∨ quote = '"') (h : quote ∉ s) :
    bracket (Text.trim (quote :: s)) = .error .unterminatedKey := by
  rw [Text.trim_cons (isBlank_of_quote hquote), bracket_quote hquote]
  exact quotedKey_of_not_mem fun hm => h (Text.trimRight_subset s hm)

theorem parse_keyed_of_mem (hquote : quote = '\'' ∨ quote = '"') (hm : ']' ∈ key.toList)
    (hkey : quote ∉ key.toList) :
    parse (keyed quote key) = .error ⟨keyed quote key, "unterminated quoted key"⟩ := by
  obtain ⟨inner, after, hsplit, hinner⟩ := List.eq_append_cons_of_mem hm
  have hne : quote ≠ ']' := by
    rintro rfl
    exact hkey hm
  have hfirst : ∀ c ∈ quote :: inner, (c != ']') = true :=
    List.forall_mem_cons.2 ⟨bne_iff_ne.2 hne, fun c hc =>
      bne_iff_ne.2 (ne_of_mem_of_not_mem hc hinner)⟩
  have htake : (quote :: (key.toList ++ quote :: [']'])).takeWhile (· != ']') = quote :: inner := by
    have heq : quote :: (key.toList ++ quote :: [']']) =
        (quote :: inner) ++ ']' :: (after ++ quote :: [']']) := by simp [hsplit]
    rw [heq, List.takeWhile_append_of_pos hfirst, List.takeWhile_cons_of_neg (by simp),
      List.append_nil]
  have hbracket : bracket (Text.trim (quote :: inner)) = .error .unterminatedKey := by
    apply bracket_of_not_mem hquote
    intro hq
    apply hkey
    rw [hsplit]
    exact List.mem_append_left _ hq
  have hcontains : (quote :: (key.toList ++ quote :: [']'])).contains ']' = true := by simp
  have htrim : Text.trim (keyed quote key).toList = (keyed quote key).toList := by
    apply Text.trim_of_ends _ (isBlank_getLast?_keyed quote key)
    rw [toList_keyed]
    rintro _ ⟨⟩
    rfl
  rw [parse, parseChars, htrim, toList_keyed, insideBraces]
  · dsimp only [bind, Except.bind]
    rw [dropRoot, segments, if_pos hcontains, htake, hbracket]
    · rfl
    · simp
  · simp

@[simp] theorem select_field (key : String) (members : List (String × Json)) :
    select [.field key] (.object members) = (Fields.get? key members).map .ofJson := by
  rw [select_of_plain (by simp), follow]
  cases h : Fields.get? key members with
  | none => simp [Segment.child?, h]
  | some value => simp [Segment.child?, h, follow]

/-- A key between quotes finds the value of the key, or nothing if the object has no such key,
whatever the key, if only it holds no closing bracket. A key that does is an unterminated one,
though it has other spellings. -/
theorem extract_keyed (hs : Fields.Sorted members) (hquote : quote = '\'' ∨ quote = '"')
    (key : String) :
    (']' ∉ key.toList →
      (∀ value, (key, value) ∈ members →
        extract (.object members) (keyed quote key) = .ok (some (.ofJson value))) ∧
      ((∀ value, (key, value) ∉ members) →
        extract (.object members) (keyed quote key) = .ok none)) ∧
    (']' ∈ key.toList → quote ∉ key.toList →
      extract (.object members) (keyed quote key) =
        .error ⟨keyed quote key, "unterminated quoted key"⟩) ∧
    ∃ text, parse text = .ok [.field key] := by
  refine ⟨fun hkey => ?_, fun hm hkey => ?_, ?_⟩
  · have hextract : extract (.object members) (keyed quote key) =
        .ok ((Fields.get? key members).map .ofJson) := by
      rw [extract, parse_keyed hquote hkey, ← select_field]
      rfl
    constructor
    · intro value hvalue
      rw [hextract, hs.get?_of_mem hvalue]
      rfl
    · intro hnone
      rw [hextract, Fields.get?_eq_none hnone]
      rfl
  · rw [extract, parse_keyed_of_mem hquote hm hkey]
    rfl
  · have hrange : ∀ i, Segment.index i ∈ [Segment.field key] → -2 ^ 63 ≤ i ∧ i < 2 ^ 63 := by simp
    obtain ⟨text, htext, _⟩ := exists_joined hrange
    exact ⟨_, parse_of_joined htext⟩

theorem extract_keyed_punctuation :
    let members : List (String × Json) :=
      [("", .null), (" *\\\x7b$.[\t", .bool true), ("a'b", .integer 1), ("a]b", .integer 2)]
    Fields.Sorted members ∧
      extract (.object members) "['']" = .ok (some .null) ∧
      extract (.object members) "[\" *\\\x7b$.[\t\"]" = .ok (some (.bool true)) ∧
      extract (.object members) "['a'b']" = .ok (some (.number (.ofInt 1))) ∧
      extract (.object members) "['app.kubernetes.io/name']" = .ok none ∧
      extract (.object members) "[\"a]b\"]" = .error ⟨"[\"a]b\"]", "unterminated quoted key"⟩ := by
  intro members
  have hs : Fields.Sorted members := by
    rw [Fields.Sorted]
    decide +kernel
  obtain ⟨hempty, _⟩ := extract_keyed hs (.inl rfl) ""
  obtain ⟨hblank, _⟩ := extract_keyed hs (.inr rfl) " *\\\x7b$.[\t"
  obtain ⟨hquote, _⟩ := extract_keyed hs (.inl rfl) "a'b"
  obtain ⟨habsent, _⟩ := extract_keyed hs (.inl rfl) "app.kubernetes.io/name"
  obtain ⟨_, hbracket, _⟩ := extract_keyed hs (.inr rfl) "a]b"
  exact ⟨hs, (hempty (by decide)).1 .null (by simp [members]),
    (hblank (by decide)).1 (.bool true) (by simp [members]),
    (hquote (by decide)).1 (.integer 1) (by simp [members]),
    (habsent (by decide)).2 (by simp [members]), hbracket (by decide) (by decide)⟩

theorem exists_extract_keyed_eq_error :
    let document : Json := .object [("a]b", .bool true)]
    extract document "['a]b']" = .error ⟨"['a]b']", "unterminated quoted key"⟩ ∧
      extract document ".a]b" = .ok (some (.bool true)) :=
  ⟨rfl, rfl⟩

end Path

end LiveAssert
