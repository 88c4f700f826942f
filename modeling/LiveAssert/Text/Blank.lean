namespace LiveAssert.Text

/-- The characters with the Unicode property White_Space. -/
def isBlank (c : Char) : Bool :=
  let n := c.toNat
  (9 ≤ n && n ≤ 13) || n == 0x20 || n == 0x85 || n == 0xA0 || n == 0x1680
    || (0x2000 ≤ n && n ≤ 0x200A) || n == 0x2028 || n == 0x2029 || n == 0x202F
    || n == 0x205F || n == 0x3000

def trimLeft (s : List Char) : List Char := s.dropWhile isBlank

def trimRight (s : List Char) : List Char := (s.reverse.dropWhile isBlank).reverse

def trim (s : List Char) : List Char := trimRight (trimLeft s)

/-- The blank-free run that the text begins with, and the runs that follow a blank. -/
def runs : List Char → List Char × List (List Char)
  | [] => ([], [])
  | c :: s =>
    let (run, rest) := runs s
    if isBlank c then ([], run :: rest) else (c :: run, rest)

def words (s : List Char) : List (List Char) :=
  ((runs s).1 :: (runs s).2).filter (!·.isEmpty)

theorem isBlank_of_isDigit {c : Char} (h : c.isDigit) : isBlank c = false := by
  simp only [Char.isDigit, Bool.and_eq_true, decide_eq_true_eq] at h
  have hlow : 48 ≤ c.toNat := h.1
  have hhigh : c.toNat ≤ 57 := h.2
  simp [isBlank]
  omega

theorem trimLeft_of_head? {s : List Char} (h : ∀ c ∈ s.head?, isBlank c = false) :
    trimLeft s = s := by
  cases s with
  | nil => rfl
  | cons c s => rw [trimLeft, List.dropWhile_cons_of_neg (by simp [h c rfl])]

theorem trimRight_of_getLast? {s : List Char} (h : ∀ c ∈ s.getLast?, isBlank c = false) :
    trimRight s = s := by
  have hr : trimLeft s.reverse = s.reverse := trimLeft_of_head? (by rwa [List.head?_reverse])
  rw [trimRight, ← trimLeft, hr, List.reverse_reverse]

theorem trim_of_ends {s : List Char} (hfirst : ∀ c ∈ s.head?, isBlank c = false)
    (hlast : ∀ c ∈ s.getLast?, isBlank c = false) : trim s = s := by
  rw [trim, trimLeft_of_head? hfirst, trimRight_of_getLast? hlast]

theorem isBlank_of_getLast?_trim {s : List Char} :
    ∀ c ∈ (trim s).getLast?, isBlank c = false := by
  intro c hc
  rw [trim, trimRight, List.getLast?_reverse, Option.mem_def] at hc
  have h := List.head?_dropWhile_not isBlank (trimLeft s).reverse
  rwa [hc] at h

def Blank (s : List Char) : Prop := ∀ c ∈ s, isBlank c = true

variable {s before after : List Char}

theorem blank_nil : Blank [] := nofun

theorem blank_singleton {c : Char} (h : isBlank c = true) : Blank [c] := by
  intro d hd
  rw [List.mem_singleton.1 hd]
  exact h

@[simp] theorem trimLeft_append (h : Blank before) : trimLeft (before ++ s) = trimLeft s :=
  List.dropWhile_append_of_pos h

@[simp] theorem trimRight_append (h : Blank after) : trimRight (s ++ after) = trimRight s := by
  have hr : ∀ c ∈ after.reverse, isBlank c = true := by simpa [Blank] using h
  rw [trimRight, List.reverse_append, List.dropWhile_append_of_pos hr, trimRight]

theorem trim_append (hb : Blank before) (ha : Blank after)
    (hfirst : ∀ c ∈ s.head?, isBlank c = false) (hlast : ∀ c ∈ s.getLast?, isBlank c = false) :
    trim (before ++ s ++ after) = s := by
  rw [List.append_assoc, trim, trimLeft_append hb]
  cases s with
  | nil =>
    have h : trimLeft (after ++ []) = [] := trimLeft_append ha
    rw [List.append_nil] at h
    rw [List.nil_append, h]
    rfl
  | cons c s =>
    have h : trimLeft (c :: s ++ after) = c :: s ++ after := trimLeft_of_head? hfirst
    rw [h, trimRight_append ha, trimRight_of_getLast? hlast]

end LiveAssert.Text
