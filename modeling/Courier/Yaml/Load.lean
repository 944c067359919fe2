import Courier.Text.Base64
import Courier.Text.Utf8
import Courier.Value.Compare
import Courier.Yaml.Node
import Courier.Yaml.Plain

/-!
The value of a YAML tree. A mapping whose keys are all texts is a record, any other is a table. A merge
key `<<` fills in the entries of other mappings where the mapping has none of its own; of several
mappings the first one wins.
-/

namespace Courier.Yaml

/-- The tag a value has by itself. -/
def tagOf : Value → String
  | .null => "!!null"
  | .bool _ => "!!bool"
  | .int .. => "!!int"
  | .float _ => "!!float"
  | .time _ => "!!timestamp"
  | _ => "!!str"

/-- The tags that ask for a reading of the text; others leave it as it is. -/
def isReadingTag (tag : String) : Bool :=
  tag = "!!bool" || tag = "!!int" || tag = "!!float" || tag = "!!null" || tag = "!!timestamp"

/-- The value of a scalar. A tag must fit what its text stands for; an integer also fits a float. A text is
a sequence of characters, so binary content that is not in UTF-8 is not kept byte by byte: replacement
characters stand for what is no character, and different contents of this kind can become one text. -/
def scalarValue (tag text : String) (plain : Bool) : Except Error Value :=
  if tag = "" then .ok (if plain ∧ text ≠ "<<" then Plain.value text else .text text)
  else if tag = "!!binary" then
    match Base64.decode? text with
    | some bs => .ok (.text (Text.ofUtf8 bs))
    | none => .error (.badScalar text tag)
  else if isReadingTag tag then
    let v := Plain.value text
    if tagOf v = tag then .ok v
    else
      match v with
      | .int .int n =>
        if tag = "!!float" then .ok (.float (Binary.ofInt .double n)) else .error (.badScalar text tag)
      | _ => .error (.badScalar text tag)
  else .ok (.text text)

namespace Node

/-- Whether a key asks for a merge. -/
def isMerge : Node → Bool
  | .scalar tag text plain => text = "<<" && (tag = "!!merge" || (tag = "" && plain))
  | _ => false

/-- Whether a key stands for a text by its tag. -/
def isText : Node → Bool
  | .scalar tag text plain =>
    tag = "!!str" || (tag = "" && (!plain || tagOf (Plain.value text) = "!!str"))
  | .alias _ t => t.isText
  | _ => false

/-- Whether two keys of one mapping repeat each other: the same kind of node and the same text. -/
def repeats : Node → Node → Bool
  | .scalar _ a _, .scalar _ b _ => a = b
  | .sequence _, .sequence _ => true
  | .mapping _, .mapping _ => true
  | .alias a _, .alias b _ => a = b
  | _, _ => false

/-- The text a key is told by. -/
def label : Node → String
  | .scalar _ text _ => text
  | .alias name _ => name
  | _ => ""

/-- Refuses a mapping in which a key is repeated. -/
def checkKeys : List (Node × Node) → Except Error Unit
  | [] => .ok ()
  | (k, _) :: es => if es.any fun e => repeats k e.1 then .error (.repeatedKey k.label) else checkKeys es

/-- The text a scalar key stands for where keys are texts; null stands for none. -/
def keyText? : Node → Except Error (Option String)
  | .scalar tag text plain =>
    (scalarValue tag text plain).map fun v =>
      match v with
      | .null => none
      | .text t => some t
      | _ => some text
  | .alias _ t => t.keyText?
  | _ => .error .badKey

/-- The value a scalar key stands for. -/
def keyValue : Node → Except Error Value
  | .scalar tag text plain => scalarValue tag text plain
  | .alias _ t => t.keyValue
  | _ => .error .badKey

end Node

/-- A mapping while it is filled: whether its keys are texts, the keys that merged entries cannot set
any more, and the entries so far. -/
structure Filling where
  texts : Bool
  taken : Option (List Value)
  entries : List (Value × Value)

namespace Filling

def holds (f : Filling) (key : Value) : Bool :=
  match f.taken with
  | some ks => ks.any fun k => k.same key
  | none => false

def add (f : Filling) (key value : Value) : Filling :=
  { f with taken := f.taken.map (key :: ·), entries := f.entries ++ [(key, value)] }

/-- The key of an entry; none for an entry that is passed over. -/
def key? (f : Filling) (k : Node) : Except Error (Option Value) :=
  if f.texts then k.keyText?.map fun t => t.map Value.text
  else k.keyValue.map some

/-- The mapping ready for merging: the keys of its own entries are taken. -/
def merging (f : Filling) (es : List (Node × Node)) : Filling :=
  match f.taken with
  | some _ => f
  | none => { f with taken := some (es.filterMap fun e => (e.1.keyValue).toOption) }

def fields (f : Filling) : List (String × Value) :=
  f.entries.filterMap fun e =>
    match e.1 with
    | .text k => some (k, e.2)
    | _ => none

def value (f : Filling) : Value := if f.texts then .ofFields f.fields else .ofEntries f.entries

end Filling

namespace Node

/-- Whether a node is a mapping itself. -/
def isPlainMapping : Node → Bool
  | .mapping _ => true
  | _ => false

/-- Whether a node is a mapping or stands for one. -/
def isMapping : Node → Bool
  | .mapping _ => true
  | .alias _ t => t.isPlainMapping
  | _ => false

mutual
/-- The value of a tree. -/
def value : Node → Except Error Value
  | .scalar tag text plain => scalarValue tag text plain
  | .sequence items => (values items).map Value.list
  | .mapping es => do
    checkKeys es
    let f ← fillOwn es ⟨es.all fun e => e.1.isMerge || e.1.isText, none, []⟩
    let f ← fillMerged es (f.merging es)
    .ok f.value
  | .alias _ t => t.value
def values : List Node → Except Error (List Value)
  | [] => .ok []
  | n :: ns => do
    let v ← n.value
    let vs ← values ns
    .ok (v :: vs)
/-- Adds the entries of a mapping other than its merge. -/
def fillOwn : List (Node × Node) → Filling → Except Error Filling
  | [], f => .ok f
  | (k, v) :: es, f =>
    if k.isMerge then fillOwn es f
    else do
      match ← f.key? k with
      | none => fillOwn es f
      | some key =>
        if f.holds key then fillOwn es f
        else
          let v ← v.value
          fillOwn es (f.add key v)
/-- Adds what the merge key of a mapping asks for. -/
def fillMerged : List (Node × Node) → Filling → Except Error Filling
  | [], f => .ok f
  | (k, v) :: es, f => if k.isMerge then v.mergeInto f else fillMerged es f
/-- Adds the entries of a mapping, or of each mapping in a sequence. -/
def mergeInto : Node → Filling → Except Error Filling
  | .mapping es, f => do
    checkKeys es
    let f ← fillOwn es f
    fillMerged es f
  | .alias _ t, f => if t.isPlainMapping then t.mergeInto f else .error .badMerge
  | .sequence ns, f => mergeAll ns f
  | .scalar .., _ => .error .badMerge
/-- Adds the entries of mappings, the first one first. -/
def mergeAll : List Node → Filling → Except Error Filling
  | [], f => .ok f
  | n :: ns, f => do
    if n.isMapping then
      let f ← n.mergeInto f
      mergeAll ns f
    else .error .badMerge
end

end Node

/-- The fields of a document whose root is a mapping, with every key as the text it is written as;
none for a document with nothing in it. -/
def load (s : String) : Except Error (Option (Keyed Value)) := do
  match ← Node.parse s with
  | none => .ok none
  | some root =>
    match root with
    | .mapping es =>
      Node.checkKeys es
      let f ← Node.fillOwn es ⟨true, none, []⟩
      let f ← Node.fillMerged es (f.merging es)
      .ok (some (Keyed.ofList f.fields))
    | .scalar tag text plain =>
      match ← scalarValue tag text plain with
      | .null => .ok none
      | _ => .error (.wrongType "a scalar")
    | _ => .error (.wrongType "a sequence")

end Courier.Yaml
