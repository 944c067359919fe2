import Courier.Config.Basic
import Courier.Time.Duration
import Courier.Yaml.Load

/-!
Settings from a YAML document. Every field that can be read is set, also when others cannot; a scalar
whose tag does not fit it ends the reading there.
-/

namespace Courier.Config

/-- A value read for a field, if any; whether its node was of the wrong type; and what ended the
reading. -/
structure Got (α : Type) where
  value : Option α := none
  mismatch : Bool := false
  stop : Option Yaml.Error := none

/-- Reads a scalar that is not null. -/
def readScalar {α : Type} (read : String → String → Value → Option α) : Yaml.Node → Got α
  | .scalar tag text plain =>
    match Yaml.scalarValue tag text plain with
    | .error e => { stop := some e }
    | .ok .null => {}
    | .ok v =>
      match read tag text v with
      | some a => { value := some a }
      | none => { mismatch := true }
  | .alias _ t => readScalar read t
  | _ => { mismatch := true }

/-- The text of a scalar, as it is written. -/
def readText : Yaml.Node → Got String :=
  readScalar fun tag text v =>
    match v with
    | .text t => some (if tag = "!!binary" then t else text)
    | _ => some text

/-- The integer of a number; a fraction is dropped, and what is too far below zero is the least
integer. -/
def readInt : Yaml.Node → Got Int :=
  readScalar fun _ _ v =>
    match v with
    | .int .int n => some n
    | .float x =>
      match x with
      | .infinite true => some (-9223372036854775808)
      | x =>
        match x.truncate with
        | none => none
        | some n =>
          if 9223372036854775808 < n then none
          else if n = 9223372036854775808 ∨ n < -9223372036854775808 then some (-9223372036854775808)
          else some n
    | _ => none

/-- A length of time, which must be written with a unit. -/
def readDuration : Yaml.Node → Got Int :=
  readScalar fun _ _ v =>
    match v with
    | .text t => Duration.ofText? t
    | _ => none

/-- The texts of a sequence. Elements that are null or of the wrong type are left out; when the reading
ends inside, the rest is empty. -/
def readItems : List Yaml.Node → Got (List String)
  | [] => { value := some [] }
  | n :: ns =>
    let g := readText n
    match g.stop with
    | some e => { value := some (List.replicate (ns.length + 1) ""), stop := some e }
    | none =>
      let r := readItems ns
      let missing := if g.value.isNone ∧ r.stop.isSome then [""] else []
      { value := r.value.map fun l => g.value.toList ++ l ++ missing,
        mismatch := g.mismatch || r.mismatch, stop := r.stop }

/-- A list of texts; null empties it. -/
def readTexts : Yaml.Node → Got (Option (List String))
  | .sequence ns =>
    let g := readItems ns
    { value := g.value.map some, mismatch := g.mismatch, stop := g.stop }
  | .scalar tag text plain =>
    match Yaml.scalarValue tag text plain with
    | .error e => { stop := some e }
    | .ok .null => { value := some none }
    | .ok _ => { mismatch := true }
  | .alias _ t => readTexts t
  | .mapping _ => { mismatch := true }

/-- Settings while they are read: whether something was of the wrong type, and what ended the
reading. -/
structure Reading where
  config : Config
  mismatch : Bool := false
  stop : Option Yaml.Error := none

namespace Reading

/-- Sets a field from what was read for it. -/
def take {α : Type} (r : Reading) (g : Got α) (set : Config → α → Config) : Reading :=
  { config := match g.value with
      | some a => set r.config a
      | none => r.config
    mismatch := r.mismatch || g.mismatch
    stop := g.stop }

end Reading

/-- What a field of a mapping does to the settings. -/
abbrev Setter := String → Yaml.Node → Reading → Reading

/-- Settings while a mapping is read, with the fields that merged entries cannot set any more. -/
structure Filling where
  reading : Reading
  taken : Option (List String) := none

/-- Sets the fields of a mapping other than its merge. -/
def setOwn (set : Setter) : List (Yaml.Node × Yaml.Node) → Filling → Filling
  | [], f => f
  | (k, v) :: es, f =>
    if f.reading.stop.isSome then f
    else if k.isMerge then setOwn set es f
    else
      let key := readText k
      let r := { f.reading with mismatch := f.reading.mismatch || key.mismatch, stop := key.stop }
      match key.value with
      | none => setOwn set es { f with reading := r }
      | some name =>
        if (f.taken.getD []).contains name then setOwn set es { f with reading := r }
        else setOwn set es ⟨set name v r, f.taken.map (name :: ·)⟩

/-- The fields of a mapping are taken once it merges others. -/
def Filling.merging (f : Filling) (es : List (Yaml.Node × Yaml.Node)) : Filling :=
  match f.taken with
  | some _ => f
  | none =>
    { f with taken := some (es.filterMap fun e =>
        match e.1.keyValue with
        | .ok (.text t) => some t
        | _ => none) }

def Filling.halt (f : Filling) (e : Yaml.Error) : Filling :=
  { f with reading := { f.reading with stop := some e } }

def Filling.mismatched (f : Filling) : Filling :=
  { f with reading := { f.reading with mismatch := true } }

/-- Whether no key of a mapping is repeated. -/
def distinctKeys (es : List (Yaml.Node × Yaml.Node)) : Bool :=
  match Yaml.Node.checkKeys es with
  | .ok _ => true
  | .error _ => false

mutual
/-- Sets what the merge of a mapping asks for. -/
def setMerged (set : Setter) : List (Yaml.Node × Yaml.Node) → Filling → Filling
  | [], f => f
  | (k, v) :: es, f =>
    if f.reading.stop.isSome then f
    else if k.isMerge then mergeInto set v f
    else setMerged set es f
def mergeInto (set : Setter) : Yaml.Node → Filling → Filling
  | .mapping es, f =>
    if distinctKeys es then setMerged set es (setOwn set es f) else f.mismatched
  | .alias _ t, f => if t.isPlainMapping then mergeInto set t f else f.halt .badMerge
  | .sequence ns, f => mergeAll set ns f
  | .scalar .., f => f.halt .badMerge
def mergeAll (set : Setter) : List Yaml.Node → Filling → Filling
  | [], f => f
  | n :: ns, f =>
    if f.reading.stop.isSome then f
    else if n.isMapping then mergeAll set ns (mergeInto set n f)
    else f.halt .badMerge
end

/-- Sets the fields of a mapping; a mapping with a repeated key sets none. -/
def setMapping (set : Setter) (es : List (Yaml.Node × Yaml.Node)) (r : Reading) : Reading :=
  if distinctKeys es then
    let f := setOwn set es ⟨r, none⟩
    (setMerged set es (f.merging es)).reading
  else { r with mismatch := true }

/-- Sets fields from a node that should be a mapping; null sets none. -/
def setNode (set : Setter) : Yaml.Node → Reading → Reading
  | .mapping es, r => setMapping set es r
  | .alias _ t, r => setNode set t r
  | .sequence _, r => { r with mismatch := true }
  | .scalar tag text plain, r =>
    match Yaml.scalarValue tag text plain with
    | .error e => { r with stop := some e }
    | .ok .null => r
    | .ok _ => { r with mismatch := true }

def setRedis : Setter := fun name n r =>
  let put {α : Type} (g : Got α) (set : RedisConfig → α → RedisConfig) : Reading :=
    r.take g fun c a => { c with redis := set c.redis a }
  if name = "addr" then put (readText n) fun c a => { c with addr := a }
  else if name = "password" then put (readText n) fun c a => { c with password := a }
  else if name = "db" then put (readInt n) fun c a => { c with db := a }
  else if name = "prefix" then put (readText n) fun c a => { c with keyStart := a }
  else if name = "ttl" then put (readDuration n) fun c a => { c with ttl := a }
  else r

def setResults : Setter := fun name n r =>
  let put {α : Type} (g : Got α) (set : ResultsConfig → α → ResultsConfig) : Reading :=
    r.take g fun c a => { c with results := set c.results a }
  if name = "encryption_key" then put (readText n) fun c a => { c with encryptionKey := a }
  else if name = "fallback_keys" then put (readTexts n) fun c a => { c with fallbackKeys := a }
  else if name = "pii_patterns" then put (readTexts n) fun c a => { c with piiPatterns := a }
  else r

/-- The fields at the root; unknown ones do not count. -/
def setRoot : Setter := fun name n r =>
  if name = "workers" then r.take (readInt n) fun c a => { c with workers := some a }
  else if name = "queue_capacity" then r.take (readInt n) fun c a => { c with queueCapacity := a }
  else if name = "max_steps" then r.take (readInt n) fun c a => { c with maxSteps := a }
  else if name = "programs" then r.take (readText n) fun c a => { c with programsDir := a }
  else if name = "addr" then r.take (readText n) fun c a => { c with addr := a }
  else if name = "log_level" then r.take (readText n) fun c a => { c with logLevel := a }
  else if name = "wait_timeout" then r.take (readDuration n) fun c a => { c with waitTimeout := a }
  else if name = "dedup_ttl" then r.take (readDuration n) fun c a => { c with dedupTtl := a }
  else if name = "redis" then setNode setRedis n r
  else if name = "results" then setNode setResults n r
  else r

/-- Reads settings over given ones: the settings, and what was wrong with the document. -/
def ofDocument (base : Config) (text : String) : Config × Option Yaml.Error :=
  match Yaml.Node.parse text with
  | .error e => (base, some e)
  | .ok none => (base, none)
  | .ok (some n) =>
    let r := setNode setRoot n ⟨base, false, none⟩
    match r.stop with
    | some e => (r.config, some e)
    | none => (r.config, if r.mismatch then some (.wrongType "a field") else none)

end Courier.Config
