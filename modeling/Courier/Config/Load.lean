import Courier.Config.Document
import Courier.Files
import Courier.Text.Quoted

/-!
Settings of a process: the defaults, a file over them, and environment variables over both. A variable
that cannot be read leaves its setting as it was.
-/

namespace Courier.Config

/-- The values of environment variables. -/
abbrev Environment := String → Option String

/-- A variable that could not be read. -/
inductive EnvError
  | integer (key value : String)
  | duration (key value : String)
  deriving DecidableEq

def EnvError.message : EnvError → String
  | .integer k v => "invalid integer for " ++ k ++ ": " ++ Text.quote v
  | .duration k v => "invalid duration for " ++ k ++ ": " ++ Text.quote v

/-- A decimal integer of 64 bits with an optional sign. -/
def integer? (s : String) : Option Int :=
  let (negative, ds) := match s.toList with
    | '-' :: cs => (true, cs)
    | '+' :: cs => (false, cs)
    | cs => (false, cs)
  if ds.isEmpty ∨ !ds.all Duration.isDigit then none
  else
    let n : Nat := ds.foldl (fun n c => n * 10 + (c.toNat - 48)) 0
    if negative then if n ≤ 9223372036854775808 then some (-(n : Int)) else none
    else if n < 9223372036854775808 then some n else none

/-- The pieces of a list between commas that are not blank. -/
def listItems (s : String) : Option (List String) :=
  match (Text.split ',' s).map Text.trim |>.filter (· ≠ "") with
  | [] => none
  | items => some items

/-- One variable and how it is set. -/
inductive Override
  | text (key : String) (set : Config → String → Config)
  | list (key : String) (set : Config → Option (List String) → Config)
  | integer (key : String) (set : Config → Int → Config)
  | duration (key : String) (set : Config → Int → Config)

def Override.key : Override → String
  | .text k _ => k
  | .list k _ => k
  | .integer k _ => k
  | .duration k _ => k

/-- Sets a variable that is not blank. -/
def Override.apply (o : Override) (env : Environment) (c : Config) : Config × List EnvError :=
  match env o.key with
  | none => (c, [])
  | some v =>
    let t := Text.trim v
    if t = "" then (c, [])
    else
      match o with
      | .text _ set => (set c t, [])
      | .list _ set => (set c (listItems v), [])
      | .integer k set =>
        match integer? t with
        | some n => (set c n, [])
        | none => (c, [.integer k v])
      | .duration k set =>
        match Duration.ofText? t with
        | some n => (set c n, [])
        | none => (c, [.duration k v])

def overrides : List Override :=
  [.integer "WEFT_WORKERS" fun c a => { c with workers := some a },
    .integer "WEFT_QUEUE_CAPACITY" fun c a => { c with queueCapacity := a },
    .integer "WEFT_MAX_STEPS" fun c a => { c with maxSteps := a },
    .text "WEFT_PROGRAMS" fun c a => { c with programsDir := a },
    .text "WEFT_ADDR" fun c a => { c with addr := a },
    .text "WEFT_LOG_LEVEL" fun c a => { c with logLevel := a },
    .duration "WEFT_WAIT_TIMEOUT" fun c a => { c with waitTimeout := a },
    .duration "WEFT_DEDUP_TTL" fun c a => { c with dedupTtl := a },
    .text "WEFT_REDIS_ADDR" fun c a => { c with redis := { c.redis with addr := a } },
    .text "WEFT_REDIS_PASSWORD" fun c a => { c with redis := { c.redis with password := a } },
    .integer "WEFT_REDIS_DB" fun c a => { c with redis := { c.redis with db := a } },
    .text "WEFT_REDIS_PREFIX" fun c a => { c with redis := { c.redis with keyStart := a } },
    .duration "WEFT_REDIS_TTL" fun c a => { c with redis := { c.redis with ttl := a } },
    .text "WEFT_RESULT_KEY" fun c a => { c with results := { c.results with encryptionKey := a } },
    .list "WEFT_RESULT_FALLBACK_KEYS" fun c a =>
      { c with results := { c.results with fallbackKeys := a } },
    .list "WEFT_PII_PATTERNS" fun c a => { c with results := { c.results with piiPatterns := a } }]

/-- Sets all variables in their order and collects what could not be read. -/
def applyAll (env : Environment) : List Override → Config → Config × List EnvError
  | [], c => (c, [])
  | o :: os, c =>
    let (c, errs) := o.apply env c
    let (c, more) := applyAll env os c
    (c, errs ++ more)

def envFault : List EnvError → Option Fault
  | [] => none
  | es => some ⟨String.intercalate "\n" (es.map EnvError.message), []⟩

/-- The settings of a process. The file is left out when its path is empty; a file that cannot be
read or is no settings document keeps the environment from being looked at. -/
def load (fs : Files) (env : Environment) (path : String) : Config × Option Fault :=
  let withEnv := fun (c : Config) =>
    let (c, es) := applyAll env overrides c
    (c, envFault es)
  if path = "" then withEnv .default
  else
    match fs.read path with
    | .error f => (.default, some (f.within ("failed to read config " ++ path ++ ": ")))
    | .ok text =>
      match ofDocument .default text with
      | (c, some e) => (c, some ⟨"failed to parse config " ++ path ++ ": " ++ e.message, []⟩)
      | (c, none) => withEnv c

end Courier.Config
