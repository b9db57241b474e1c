/-!
# Errors of configuration
-/

namespace GuidedDecoding

/-- Why a configuration cannot be used. -/
inductive ConfigError where
  | fileNotFound (path : String)
  | unreadable (path reason : String)
  | invalidValue (field reason : String)
deriving DecidableEq, Repr

namespace ConfigError

/-- The one stable word for these errors. -/
def code (_ : ConfigError) : String := "CONFIG_ERROR"

def message : ConfigError → String
  | .fileNotFound path => s!"config file not found: {path}"
  | .unreadable path reason => s!"failed to parse config {path}: {reason}"
  | .invalidValue field reason => s!"invalid config value for {field}: {reason}"

end ConfigError

end GuidedDecoding
