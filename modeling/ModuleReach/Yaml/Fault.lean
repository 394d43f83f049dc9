import ModuleReach.Text.Quoted

/-!
# Faults of documents

A text can fail to be a document, and a scalar in a document can carry an explicit tag that its text does not fit.  A date can be
spelled correctly without being on the calendar.

## Main definitions

* `Yaml.ScalarFault` — what can be wrong with a scalar's text; `Yaml.ScalarFault.message` says it in words.
* `Yaml.DocumentFault` — a text that is no document, or a document with such a scalar.
-/

namespace ModuleReach.Yaml

/-- What can be wrong with a scalar's text. -/
inductive ScalarFault
  /-- The text is not an integer in the base it announces. -/
  | notInteger (base : Nat) (text : String)
  /-- The text is an integer of too many digits. -/
  | tooManyDigits (count : Nat)
  /-- The text is not a decimal number. -/
  | notFloat (text : String)
  /-- A number is asked for and nothing is left of the text. -/
  | noDigits
  /-- The text is no word for a truth value. -/
  | notBoolean
  /-- The text is not spelled as a date. -/
  | notTimestamp
  /-- The text is spelled as a date that does not exist. -/
  | noSuchDate (reason : String)
  /-- An escape gives a number that is no character. -/
  | noSuchCharacter
  deriving DecidableEq, Repr

/-- The fault in words. -/
def ScalarFault.message : ScalarFault → String
  | .notInteger base text =>
    "invalid literal for int() with base " ++ toString base ++ ": " ++ Text.quote text
  | .tooManyDigits count =>
    "Exceeds the limit (4300 digits) for integer string conversion: value has " ++ toString count ++
      " digits; use sys.set_int_max_str_digits() to increase the limit"
  | .notFloat text => "could not convert string to float: " ++ Text.quote text
  | .noDigits => "no digits"
  | .notBoolean => "no truth value"
  | .notTimestamp => "no date"
  | .noSuchDate reason => reason
  | .noSuchCharacter => "chr() arg not in range(0x110000)"

/-- Why a text gives no value. -/
inductive DocumentFault
  /-- The text is not a document, or has a tag, a reference or a merge that means nothing. -/
  | malformed
  /-- A scalar has no value. -/
  | scalar (cause : ScalarFault)
  deriving DecidableEq, Repr

end ModuleReach.Yaml
