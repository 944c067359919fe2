/-!
The settings of a process, and their defaults.
-/

namespace Courier

/-- Where results are kept outside the process; without an address they are not. -/
structure RedisConfig where
  addr : String := ""
  password : String := ""
  db : Int := 0
  keyStart : String := "weft:result:"
  ttl : Int := 0

/-- How results are protected before they are kept. -/
structure ResultsConfig where
  encryptionKey : String := ""
  fallbackKeys : Option (List String) := none
  piiPatterns : Option (List String) := none

/-- All settings. Times are in nanoseconds; without a number of workers there is one for each
processor. -/
structure Config where
  workers : Option Int := none
  queueCapacity : Int := 1024
  maxSteps : Int := 10000
  programsDir : String := "programs"
  addr : String := ":8080"
  logLevel : String := "info"
  waitTimeout : Int := 30000000000
  dedupTtl : Int := 0
  redis : RedisConfig := {}
  results : ResultsConfig := {}

namespace Config

def default : Config := {}

end Config
end Courier
