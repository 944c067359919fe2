import Courier.Text.Blank
import Courier.Yaml.Token

/-!
YAML documents as trees. Of a stream only the first document is read. An alias carries the node its
anchor stands for; an anchor cannot be used inside the node it names.
-/

namespace Courier.Yaml

inductive Node
  | scalar (tag text : String) (plain : Bool)
  | sequence (items : List Node)
  | mapping (entries : List (Node × Node))
  | alias (name : String) (target : Node)
  deriving Inhabited

/-- A node with nothing in it. -/
def Node.empty : Node := .scalar "" "" true

/-- An anchor: its name, a number of its own, and its node once that is read. -/
structure Anchor where
  name : String
  number : Nat
  node : Option Node

/-- Tokens still to be read, with what is known of anchors and tag handles. -/
structure Reader where
  tokens : List Token
  stop : Option Error
  anchors : List Anchor := []
  handles : List (String × String) := []

namespace Reader

/-- The next token. Two more behind it must be readable too. -/
def peek (r : Reader) : Except Error Token :=
  match r.stop, r.tokens with
  | some e, [] => .error e
  | some e, [_] => .error e
  | some e, [_, _] => .error e
  | _, t :: _ => .ok t
  | none, [] => .ok .streamEnd

def skip (r : Reader) : Reader := { r with tokens := r.tokens.drop 1 }

/-- Notes an anchor before its node is read. -/
def openAnchor (r : Reader) (name : String) : Reader × Nat :=
  ({ r with anchors := ⟨name, r.anchors.length, none⟩ :: r.anchors }, r.anchors.length)

def closeAnchor (r : Reader) (number : Nat) (n : Node) : Reader :=
  { r with anchors := r.anchors.map fun a =>
      if a.number = number then { a with node := some n } else a }

def target (r : Reader) (name : String) : Except Error Node :=
  match r.anchors.find? fun a => a.name = name with
  | some ⟨_, _, some n⟩ => .ok n
  | _ => .error (.unknownAnchor name)

/-- The tag a handle and a suffix stand for, in its short form. -/
def resolveTag (r : Reader) (handle suffix : String) : Except Error String :=
  let known := r.handles ++ [("!", "!"), ("!!", "tag:yaml.org,2002:")]
  let long : Except Error String :=
    if handle = "" then .ok suffix
    else
      match known.find? fun h => h.1 = handle with
      | some h => .ok (h.2 ++ suffix)
      | none => .error (.unknownHandle handle)
  long.map fun t =>
    match Text.afterStart? "tag:yaml.org,2002:".toList t.toList with
    | some rest => "!!" ++ String.ofList rest
    | none => if t = "!" then "" else t

/-- Anchor and tag in front of a node. -/
structure Properties where
  anchor : Option String := none
  tag : Option String := none

def readProperty (r : Reader) (p : Properties) : Except Error (Reader × Properties) := do
  match ← r.peek with
  | .anchor name => if p.anchor.isNone then .ok (r.skip, { p with anchor := some name }) else .ok (r, p)
  | .tag h s =>
    if p.tag.isNone then
      let t ← r.resolveTag h s
      .ok (r.skip, { p with tag := some t })
    else .ok (r, p)
  | _ => .ok (r, p)

/-- Reads at most one anchor and one tag, in either order. -/
def readProperties (r : Reader) : Except Error (Reader × Properties) := do
  let (r, p) ← r.readProperty {}
  if p.anchor.isNone ∧ p.tag.isNone then .ok (r, p) else r.readProperty p

mutual
/-- Reads a node. In a `block` it may be a block of its own; an `indentless` one may be a sequence at
the column of the mapping around it. -/
def readNode : Nat → Bool → Bool → Reader → Except Error (Node × Reader)
  | 0, _, _, _ => .error (.unexpected "node content")
  | fuel + 1, block, indentless, r => do
    match ← r.peek with
    | .alias name =>
      let n ← r.target name
      .ok (.alias name n, r.skip)
    | _ =>
      let (r, p) ← r.readProperties
      let (r, number) := match p.anchor with
        | some name => r.openAnchor name
        | none => (r, 0)
      let (n, r) ← readContent fuel block indentless p r
      .ok (n, if p.anchor.isSome then r.closeAnchor number n else r)
/-- Reads what a node holds. -/
def readContent : Nat → Bool → Bool → Properties → Reader → Except Error (Node × Reader)
  | 0, _, _, _, _ => .error (.unexpected "node content")
  | fuel + 1, block, indentless, p, r => do
    match ← r.peek with
    | .scalar t plain => .ok (.scalar (p.tag.getD "") t plain, r.skip)
    | .flowSequenceStart =>
      let (items, r) ← readFlowItems fuel true r.skip
      .ok (.sequence items, r)
    | .flowMappingStart =>
      let (entries, r) ← readFlowEntries fuel true r.skip
      .ok (.mapping entries, r)
    | t =>
      if indentless ∧ t = .blockEntry then
        let (items, r) ← readIndentless fuel r
        .ok (.sequence items, r)
      else if block ∧ t = .sequenceStart then
        let (items, r) ← readItems fuel r.skip
        .ok (.sequence items, r)
      else if block ∧ t = .mappingStart then
        let (entries, r) ← readEntries fuel r.skip
        .ok (.mapping entries, r)
      else if p.anchor.isSome ∨ p.tag.isSome then .ok (.scalar (p.tag.getD "") "" true, r)
      else .error (.unexpected "node content")
/-- Reads a node unless one of some tokens stands in its place. -/
def readUnless : Nat → List Token → Bool → Bool → Reader → Except Error (Node × Reader)
  | 0, _, _, _, _ => .error (.unexpected "node content")
  | fuel + 1, enders, block, indentless, r => do
    let t ← r.peek
    if t ∈ enders then .ok (.empty, r) else readNode fuel block indentless r
/-- Reads the items of a block sequence. -/
def readItems : Nat → Reader → Except Error (List Node × Reader)
  | 0, _ => .error (.unexpected "'-' indicator")
  | fuel + 1, r => do
    match ← r.peek with
    | .blockEntry =>
      let (n, r) ← readUnless fuel [.blockEntry, .blockEnd] true false r.skip
      let (ns, r) ← readItems fuel r
      .ok (n :: ns, r)
    | .blockEnd => .ok ([], r.skip)
    | _ => .error (.unexpected "'-' indicator")
/-- Reads the items of a sequence at the column of the mapping around it. -/
def readIndentless : Nat → Reader → Except Error (List Node × Reader)
  | 0, _ => .error (.unexpected "'-' indicator")
  | fuel + 1, r => do
    match ← r.peek with
    | .blockEntry =>
      let (n, r) ← readUnless fuel [.blockEntry, .key, .value, .blockEnd] true false r.skip
      let (ns, r) ← readIndentless fuel r
      .ok (n :: ns, r)
    | _ => .ok ([], r)
/-- Reads the entries of a block mapping. -/
def readEntries : Nat → Reader → Except Error (List (Node × Node) × Reader)
  | 0, _ => .error (.unexpected "key")
  | fuel + 1, r => do
    match ← r.peek with
    | .key =>
      let (k, r) ← readUnless fuel [.key, .value, .blockEnd] true true r.skip
      let (v, r) ← readBlockValue fuel r
      let (es, r) ← readEntries fuel r
      .ok ((k, v) :: es, r)
    | .value =>
      let (v, r) ← readBlockValue fuel r
      let (es, r) ← readEntries fuel r
      .ok ((.empty, v) :: es, r)
    | .blockEnd => .ok ([], r.skip)
    | _ => .error (.unexpected "key")
/-- Reads the value of a block mapping entry, which may be missing. -/
def readBlockValue : Nat → Reader → Except Error (Node × Reader)
  | 0, _ => .error (.unexpected "value")
  | fuel + 1, r => do
    match ← r.peek with
    | .value => readUnless fuel [.key, .value, .blockEnd] true true r.skip
    | _ => .ok (.empty, r)
/-- Reads the items of a flow sequence. -/
def readFlowItems : Nat → Bool → Reader → Except Error (List Node × Reader)
  | 0, _, _ => .error (.unexpected "',' or ']'")
  | fuel + 1, first, r => do
    match ← r.peek with
    | .flowSequenceEnd => .ok ([], r.skip)
    | t =>
      if !first ∧ t ≠ .flowEntry then .error (.unexpected "',' or ']'")
      else
        let r := if first then r else r.skip
        match ← r.peek with
        | .flowSequenceEnd => .ok ([], r.skip)
        | .key =>
          let (k, r) ← readPairKey fuel r.skip
          let (v, r) ← readFlowValue fuel .flowSequenceEnd r
          let (ns, r) ← readFlowItems fuel false r
          .ok (.mapping [(k, v)] :: ns, r)
        | _ =>
          let (n, r) ← readNode fuel false false r
          let (ns, r) ← readFlowItems fuel false r
          .ok (n :: ns, r)
/-- Reads the key of a single pair inside a flow sequence. -/
def readPairKey : Nat → Reader → Except Error (Node × Reader)
  | 0, _ => .error (.unexpected "key")
  | fuel + 1, r => do
    let t ← r.peek
    if t = .value ∨ t = .flowEntry ∨ t = .flowSequenceEnd then .ok (.empty, r.skip)
    else readNode fuel false false r
/-- Reads the value of a flow entry, which may be missing. -/
def readFlowValue : Nat → Token → Reader → Except Error (Node × Reader)
  | 0, _, _ => .error (.unexpected "value")
  | fuel + 1, closer, r => do
    match ← r.peek with
    | .value => readUnless fuel [.flowEntry, closer] false false r.skip
    | _ => .ok (.empty, r)
/-- Reads the entries of a flow mapping. -/
def readFlowEntries : Nat → Bool → Reader → Except Error (List (Node × Node) × Reader)
  | 0, _, _ => .error (.unexpected "',' or '\x7d'")
  | fuel + 1, first, r => do
    match ← r.peek with
    | .flowMappingEnd => .ok ([], r.skip)
    | t =>
      if !first ∧ t ≠ .flowEntry then .error (.unexpected "',' or '\x7d'")
      else
        let r := if first then r else r.skip
        match ← r.peek with
        | .flowMappingEnd => .ok ([], r.skip)
        | .key =>
          let (k, r) ← readUnless fuel [.value, .flowEntry, .flowMappingEnd] false false r.skip
          let (v, r) ← readFlowValue fuel .flowMappingEnd r
          let (es, r) ← readFlowEntries fuel false r
          .ok ((k, v) :: es, r)
        | _ =>
          let (k, r) ← readNode fuel false false r
          let (es, r) ← readFlowEntries fuel false r
          .ok ((k, .empty) :: es, r)
end

/-- Reads the directives in front of a document. -/
def readDirectives : Nat → Bool → Reader → Except Error Reader
  | 0, _, r => .ok r
  | fuel + 1, versioned, r => do
    match ← r.peek with
    | .version major minor =>
      if versioned ∨ major ≠ 1 ∨ minor ≠ 1 then .error .version
      else readDirectives fuel true r.skip
    | .tagHandle h t =>
      if r.handles.any fun x => x.1 = h then .error .directive
      else readDirectives fuel versioned { r.skip with handles := r.handles ++ [(h, t)] }
    | _ => .ok r

/-- Reads the first document; none when the stream has none. -/
def readDocument (r : Reader) : Except Error (Option Node) := do
  let fuel := 4 * r.tokens.length + 8
  match ← r.peek with
  | .streamEnd => .ok none
  | t =>
    let explicit := match t with
      | .version .. => true
      | .tagHandle .. => true
      | .documentStart => true
      | _ => false
    if explicit then
      let r ← readDirectives r.tokens.length false r
      match ← r.peek with
      | .documentStart =>
        let r := r.skip
        let t ← r.peek
        let bare := match t with
          | .version .. => true
          | .tagHandle .. => true
          | .documentStart => true
          | .documentEnd => true
          | .streamEnd => true
          | _ => false
        if bare then .ok (some .empty)
        else
          let (n, r) ← readNode fuel true false r
          let _ ← r.peek
          .ok (some n)
      | _ => .error (.unexpected "<document start>")
    else
      let (n, r) ← readNode fuel true false r
      let _ ← r.peek
      .ok (some n)

end Reader

/-- The first document of a text. -/
def Node.parse (s : String) : Except Error (Option Node) :=
  let (tokens, stop) := Token.ofText s.toList
  Reader.readDocument { tokens, stop }

end Courier.Yaml
