import LiveAssert.Yaml.Token

namespace LiveAssert.Yaml

structure Props (ι : Type) where
  anchor : Option ι
  tag : Option (List Char)

def Props.none : Props ι := ⟨.none, .none⟩

inductive Node (ι : Type)
  | alias (name : ι)
  | scalar (props : Props ι) (text : List Char) (plain : Bool)
  | sequence (props : Props ι) (items : List (Node ι))
  | mapping (props : Props ι) (entries : List (Node ι × Node ι))

def Node.empty : Node ι := .scalar .none [] true

abbrev Name := List Char

abbrev Handles := List (List Char × List Char)

def Handles.default : Handles := [(['!'], ['!']), (['!', '!'], "tag:yaml.org,2002:".toList)]

def Tag.resolve? (handles : Handles) (t : Tag) : Option (List Char) :=
  if t.handle.isEmpty then some t.suffix
  else (handles.find? (·.1 == t.handle)).map (·.2 ++ t.suffix)

namespace Node

/-- Where a node stands: in a block collection, in a block mapping, where a sequence need not be
indented, or in a flow collection. -/
inductive Position
  | block
  | blockEntry
  | flow
deriving DecidableEq

def props? (handles : Handles) : List Token → Option (Props Name × List Token)
  | .anchor a :: .tag t :: ts => (t.resolve? handles).map fun tag => (⟨some a, some tag⟩, ts)
  | .anchor a :: ts => some (⟨some a, none⟩, ts)
  | .tag t :: .anchor a :: ts => (t.resolve? handles).map fun tag => (⟨some a, some tag⟩, ts)
  | .tag t :: ts => (t.resolve? handles).map fun tag => (⟨none, some tag⟩, ts)
  | ts => some (.none, ts)

def Props.ofScalar (p : Props Name) : Props Name :=
  if p.tag = some ['!'] then { p with tag := none } else p

def endsBlockItem : List Token → Bool
  | .blockEntry :: _ => true
  | .blockEnd :: _ => true
  | _ => false

def endsBlockEntry : List Token → Bool
  | .key :: _ => true
  | .value :: _ => true
  | .blockEnd :: _ => true
  | _ => false

def endsIndentless (ts : List Token) : Bool := endsBlockItem ts || endsBlockEntry ts

def endsFlowItem : List Token → Bool
  | .flowEntry :: _ => true
  | .flowSequenceEnd :: _ => true
  | _ => false

def endsFlowEntry : List Token → Bool
  | .flowEntry :: _ => true
  | .flowMappingEnd :: _ => true
  | _ => false

abbrev Items := List (Node Name)

abbrev Entries := List (Node Name × Node Name)

mutual

def read (handles : Handles) : Nat → Position → List Token → Option (Node Name × List Token)
  | 0, _, _ => none
  | fuel + 1, pos, ts =>
    match ts with
    | .alias name :: ts => some (.alias name, ts)
    | ts =>
      match props? handles ts with
      | none => none
      | some (props, ts) =>
        match pos, ts with
        | .blockEntry, .blockEntry :: ts =>
          (indentlessItems handles fuel (.blockEntry :: ts)).map fun (items, ts) =>
            (.sequence props items, ts)
        | _, .scalar text plain :: ts => some (.scalar (Props.ofScalar props) text plain, ts)
        | _, .flowSequenceStart :: ts =>
          (flowItems handles fuel true ts).map fun (items, ts) => (.sequence props items, ts)
        | _, .flowMappingStart :: ts =>
          (flowEntries handles fuel true ts).map fun (entries, ts) => (.mapping props entries, ts)
        | .flow, ts => emptyWith props ts
        | _, .blockSequenceStart :: ts =>
          (blockItems handles fuel ts).map fun (items, ts) => (.sequence props items, ts)
        | _, .blockMappingStart :: ts =>
          (blockEntries handles fuel ts).map fun (entries, ts) => (.mapping props entries, ts)
        | _, ts => emptyWith props ts

def emptyWith (props : Props Name) (ts : List Token) : Option (Node Name × List Token) :=
  if props.anchor.isSome || props.tag.isSome then some (.scalar props [] true, ts) else none

def readOr (handles : Handles) : Nat → Position → (List Token → Bool) → List Token →
    Option (Node Name × List Token)
  | 0, _, _, _ => none
  | fuel + 1, pos, ends, ts => if ends ts then some (.empty, ts) else read handles fuel pos ts

def blockItems (handles : Handles) : Nat → List Token → Option (Items × List Token)
  | fuel + 1, .blockEntry :: ts =>
    match readOr handles fuel .block endsBlockItem ts with
    | some (item, ts) => (blockItems handles fuel ts).map fun (items, ts) => (item :: items, ts)
    | none => none
  | _ + 1, .blockEnd :: ts => some ([], ts)
  | _, _ => none

def indentlessItems (handles : Handles) : Nat → List Token → Option (Items × List Token)
  | 0, _ => none
  | fuel + 1, .blockEntry :: ts =>
    match readOr handles fuel .block endsIndentless ts with
    | some (item, ts) =>
      (indentlessItems handles fuel ts).map fun (items, ts) => (item :: items, ts)
    | none => none
  | _ + 1, ts => some ([], ts)

def blockEntries (handles : Handles) : Nat → List Token → Option (Entries × List Token)
  | fuel + 1, .key :: ts =>
    match readOr handles fuel .blockEntry endsBlockEntry ts with
    | none => none
    | some (k, ts) =>
      match blockValue handles fuel ts with
      | none => none
      | some (v, ts) =>
        (blockEntries handles fuel ts).map fun (entries, ts) => ((k, v) :: entries, ts)
  | _ + 1, .blockEnd :: ts => some ([], ts)
  | _, _ => none

def blockValue (handles : Handles) : Nat → List Token → Option (Node Name × List Token)
  | 0, _ => none
  | fuel + 1, .value :: ts => readOr handles fuel .blockEntry endsBlockEntry ts
  | _ + 1, ts => some (.empty, ts)

def flowItems (handles : Handles) : Nat → Bool → List Token → Option (Items × List Token)
  | 0, _, _ => none
  | _ + 1, _, .flowSequenceEnd :: ts => some ([], ts)
  | fuel + 1, true, ts => flowItem handles fuel ts
  | fuel + 1, false, .flowEntry :: ts => flowItem handles fuel ts
  | _ + 1, false, _ => none

def flowItem (handles : Handles) : Nat → List Token → Option (Items × List Token)
  | 0, _ => none
  | _ + 1, .flowSequenceEnd :: ts => some ([], ts)
  | fuel + 1, .key :: ts =>
    match pairKey handles fuel ts with
    | none => none
    | some (k, ts) =>
      match pairValue handles fuel ts with
      | none => none
      | some (v, ts) =>
        (flowItems handles fuel false ts).map fun (items, ts) =>
          (.mapping .none [(k, v)] :: items, ts)
  | fuel + 1, ts =>
    match read handles fuel .flow ts with
    | none => none
    | some (item, ts) =>
      (flowItems handles fuel false ts).map fun (items, ts) => (item :: items, ts)

/-- The key of a single pair. Where it is left out, the token in its place is passed over. -/
def pairKey (handles : Handles) : Nat → List Token → Option (Node Name × List Token)
  | 0, _ => none
  | fuel + 1, ts =>
    match ts with
    | .value :: ts => some (.empty, ts)
    | .flowEntry :: ts => some (.empty, ts)
    | .flowSequenceEnd :: ts => some (.empty, ts)
    | ts => read handles fuel .flow ts

def pairValue (handles : Handles) : Nat → List Token → Option (Node Name × List Token)
  | 0, _ => none
  | fuel + 1, .value :: ts => readOr handles fuel .flow endsFlowItem ts
  | _ + 1, ts => some (.empty, ts)

def flowEntries (handles : Handles) : Nat → Bool → List Token → Option (Entries × List Token)
  | 0, _, _ => none
  | _ + 1, _, .flowMappingEnd :: ts => some ([], ts)
  | fuel + 1, true, ts => flowEntry handles fuel ts
  | fuel + 1, false, .flowEntry :: ts => flowEntry handles fuel ts
  | _ + 1, false, _ => none

def flowEntry (handles : Handles) : Nat → List Token → Option (Entries × List Token)
  | 0, _ => none
  | _ + 1, .flowMappingEnd :: ts => some ([], ts)
  | fuel + 1, .key :: ts =>
    match readOr handles fuel .flow (fun ts => endsFlowEntry ts || ts.head? == some .value) ts with
    | none => none
    | some (k, ts) =>
      match flowValue handles fuel ts with
      | none => none
      | some (v, ts) =>
        (flowEntries handles fuel false ts).map fun (entries, ts) => ((k, v) :: entries, ts)
  | fuel + 1, ts =>
    match read handles fuel .flow ts with
    | none => none
    | some (k, ts) =>
      (flowEntries handles fuel false ts).map fun (entries, ts) => ((k, .empty) :: entries, ts)

def flowValue (handles : Handles) : Nat → List Token → Option (Node Name × List Token)
  | 0, _ => none
  | fuel + 1, .value :: ts => readOr handles fuel .flow endsFlowEntry ts
  | _ + 1, ts => some (.empty, ts)

end

def directives? : Bool → Handles → List Token → Option (Handles × List Token)
  | versioned, handles, .directive d :: ts =>
    match d with
    | .version major minor =>
      if versioned ∨ major ≠ 1 ∨ (minor ≠ 1 ∧ minor ≠ 2) then none
      else directives? true handles ts
    | .shorthand h meaning =>
      if (handles.find? (·.1 == h)).isSome then none
      else directives? versioned ((h, meaning) :: handles) ts
  | _, handles, ts => some (handles ++ .default, ts)

def isMarker : Token → Bool
  | .documentStart => true
  | .documentEnd => true
  | .directive _ => true
  | _ => false

def content? (handles : Handles) (ts : List Token) : Option (Node Name × List Token) :=
  match ts with
  | [] => some (.empty, [])
  | t :: ts =>
    if isMarker t then some (.empty, t :: ts)
    else read handles (4 * (ts.length + 2)) .block (t :: ts)

def document? (ts : List Token) : Option (Node Name × List Token) := do
  let (handles, rest) ← directives? false [] ts
  match rest with
  | .documentStart :: rest => content? handles rest
  | _ => if rest.length = ts.length then read handles (4 * (ts.length + 1)) .block ts else none

def ofTokens? (ts : List Token) : Option (Option (Node Name)) :=
  if ts.isEmpty then some none
  else (document? ts).bind fun (node, rest) =>
    if rest.all (· == .documentEnd) then some (some node) else none

end Node

end LiveAssert.Yaml
