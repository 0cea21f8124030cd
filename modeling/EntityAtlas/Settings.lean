import EntityAtlas.Document
import EntityAtlas.Text.Blank
import EntityAtlas.Text.Case

/-!
# Settings

The settings of the service, read from environment variables. A variable that is not set has a
default.
-/

set_option autoImplicit false

namespace EntityAtlas

/-- The settings of the service. -/
structure Settings where
  /-- The module of the mappings that are published. -/
  modelsModule : String := "models"
  /-- The name in that module under which the mappings are found. -/
  baseName : String := "Base"
  orphanDelete : Bool := false
  comparisonOptions : String := defaultComparisonOptions
  /-- The origins whose pages may call the service. -/
  origins : List String := ["*"]
  logLevel : String := "INFO"

namespace Settings

/-- Whether a text switches a setting on. -/
def isOn (text : String) : Bool :=
  ["1", "true", "yes", "on"].contains
    (String.ofList (Text.lower (Text.trimBlanks text).toList))

/-- The items of a list separated by commas, without blanks around them and without empty ones. -/
def items (text : String) : List String :=
  ((text.toList.splitOnP (· == ',')).map fun item => Text.trimBlanks (String.ofList item)).filter
    (· ≠ "")

/-- The settings that environment variables make. -/
def ofEnvironment (environment : List (String × String)) : Settings :=
  let value (name default : String) := (environment.lookup name).getD default
  { modelsModule := value "METADATA_MODELS_MODULE" "models"
    baseName := value "METADATA_BASE_ATTR" "Base"
    orphanDelete := isOn (value "BREEZE_ORPHAN_DELETE_ENABLED" "false")
    comparisonOptions := value "LOCAL_QUERY_COMPARISON_OPTIONS" defaultComparisonOptions
    origins := items (value "CORS_ORIGINS" "*")
    logLevel := String.ofList (Text.upper (value "LOG_LEVEL" "INFO").toList) }

end Settings

end EntityAtlas
