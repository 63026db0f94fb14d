import PlanCode.Convert.Basic

/-!
# Converting response assertions

The test type of an assertion is a bit mask: a kind of check, and whether it is
negated and whether one match is enough.
-/
namespace PlanCode.Convert

def testFieldKey : String := "Assertion.test_field"
def testTypeKey : String := "Assertion.test_type"
def assumeSuccessKey : String := "Assertion.assume_success"
/-- JMeter stores the test strings under this misspelled name. -/
def testStringsKey : String := "Asserion.test_strings"

def targetFieldType : String := "TargetField"
def targetFieldClass : String :=
  "us.abstracta.jmeter.javadsl.core.assertions.DslResponseAssertion.TargetField"

def targetFields : Entries String := [
  ("Assertion.response_data", "RESPONSE_BODY"),
  ("Assertion.response_code", "RESPONSE_CODE"),
  ("Assertion.response_message", "RESPONSE_MESSAGE"),
  ("Assertion.response_headers", "RESPONSE_HEADERS"),
  ("Assertion.request_headers", "REQUEST_HEADERS"),
  ("Assertion.sample_label", "REQUEST_URL"),
  ("Assertion.request_data", "REQUEST_BODY"),
  ("Assertion.response_data_as_document", "RESPONSE_BODY_AS_DOCUMENT")]

/-- Whether a bit of a mask is set; negative masks are in two's complement. -/
def hasBit (mask : Int) (bit : Nat) : Bool := mask / (Nat.pow 2 bit : Nat) % 2 == 1

def matchBit : Nat := 0
def containsBit : Nat := 1
def notBit : Nat := 2
def equalsBit : Nat := 3
def substringBit : Nat := 4
def orBit : Nat := 5

/-- The method for the kind of check. -/
def checkMethod (mask : Int) : String :=
  if hasBit mask substringBit then "containsSubstrings"
  else if hasBit mask equalsBit then "equalsToStrings"
  else if hasBit mask matchBit then "matchesRegexes"
  else "containsRegexes"

/-- The test type; a search for matches where it is blank or no number. -/
def testType (e : Element) : Int :=
  let stored := Text.trim (e.textAt testTypeKey "2")
  (Number.readWhole? (if stored = "" then "2" else stored)).getD (Nat.pow 2 containsBit : Nat)

/-- The test strings; an entry that is null is the word for it. -/
def testStrings (e : Element) : List String :=
  (e.listAt testStringsKey).filterMap fun value => match value with
    | .text s => some s
    | .null => some "None"
    | _ => none

def responseAssertion (surface : Surface) (e : Element) : Conversion := do
  let d ← start surface "responseAssertion" (literals [e.nameLiteral "Response Assertion"])
  let field := e.enumLiteral testFieldKey targetFieldType targetFieldClass targetFields
    (some "RESPONSE_BODY")
  let d ← chain surface "fieldToTest" [field] d
  let d ← chain surface "ignoreStatus" [e.boolLiteral assumeSuccessKey] d
  let mask := testType e
  let strings := testStrings e
  let d ← if strings.isEmpty then pure d else chain surface (checkMethod mask) [.strings strings] d
  let d ← if hasBit mask notBit then chain surface "invertCheck" [] d else pure d
  if hasBit mask orBit then chain surface "anyMatch" [] d else pure d

end PlanCode.Convert
