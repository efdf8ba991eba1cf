import EntityCatalog.Diagnostic.Basic
import EntityCatalog.Label.Key
import EntityCatalog.OrderedMap

/-!
The labels that a module provides for a locale.

A module's labels are taken over under the keys of the batch where those are expected.  The others
are reported; so are, for the reference locale, the expected keys for which there is no label.
Every expected key ends up with a text: the one that is provided, or else the one that it has by
itself.
-/

namespace EntityCatalog.Label

/-- The locale that must provide every label. -/
def referenceLocale : String := "en"

/-- The locales for which labels are expected. -/
def expectedLocales : List String :=
  ["ar", "ber", "ca", "cs_CZ", "da", "de", "en_GB", "en_SE", "en_US", "en", "es_419", "es_ES",
   "es", "fr_FR", "fr", "he", "hi_IN", "hu", "it_IT", "ja", "ko", "nb", "nl", "nn", "pl", "pt_BR",
   "pt_PT", "ru", "sk", "sv", "uk", "ur", "zh_CN", "zh_TW", "zu"]

/-- The key of the batch for a key that a module writes, if the batch expects it. -/
def expectedKey? (moduleName : String) (expected : List String) (key : String) : Option String :=
  (toBatch? moduleName key).filter expected.contains

/-- The labels that a module writes, as far as they are meant for entity types. -/
def external (labels : OrderedMap String) : List (String × String) :=
  labels.entries.filter fun e => Text.startsWith externalPrefix e.1

/-- The labels of a module that are expected, under the keys of the batch. -/
def provided (labels : OrderedMap String) (moduleName : String) (expected : List String) :
    OrderedMap String :=
  OrderedMap.ofList <|
    (external labels).filterMap fun e =>
      (expectedKey? moduleName expected e.1).map fun key => (key, e.2)

/-- The keys of a module's labels that are not expected. -/
def extra (labels : OrderedMap String) (moduleName : String) (expected : List String) :
    List String :=
  ((external labels).map (·.1)).filter fun key =>
    (expectedKey? moduleName expected key).isNone

/-- What is reported about keys that are not expected. -/
def extraIssue? (keys : List String) : Option Issue :=
  if keys.isEmpty then none
  else
    some
      { severity := .warning
        kind := .labelsExtra keys
        message :=
          "Translations with no matching entity type or field: " ++ ", ".intercalate keys }

/-- The expected keys for which there is no label. -/
def missing (inferred provided : OrderedMap String) : List String :=
  inferred.keys.filter fun key => !provided.contains key

/-- What is reported about keys for which there is no label. -/
def missingIssue? (keys : List String) : Option Issue :=
  if keys.isEmpty then none
  else
    some
      { severity := .warning
        kind := .labelsMissing keys
        message :=
          toString keys.length ++ " translations missing: " ++ ", ".intercalate keys }

/-- The texts of a locale: those that are provided, over those that keys have by themselves. -/
def merge (inferred provided : OrderedMap String) : OrderedMap String := inferred.extend provided

end EntityCatalog.Label
