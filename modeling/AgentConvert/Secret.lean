/-!
# Secrets

Texts that are written into documents but never shown otherwise.
-/

namespace AgentConvert

/-- A text that is not to be shown. -/
structure Secret where
  text : String
  deriving DecidableEq, Inhabited

namespace Secret

/-- Whether there is nothing to hide. -/
def isEmpty (s : Secret) : Bool := s.text == ""

/-- What is shown in place of a secret. -/
def shown (_ : Secret) : String := "Secret(<redacted>)"

end Secret

end AgentConvert
