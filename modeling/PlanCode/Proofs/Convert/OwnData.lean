import PlanCode.Convert.Kind

/-!
# What conversions read of an element

The call of an element is built from its name and its properties, never from
what is below it. Each reader of properties gets its congruence; the conversions
follow.

* `ElementKind.convert_eq`: elements of one name with the same properties have the same call.
-/
namespace PlanCode

open PlanCode.Text

namespace Element

theorem pathNames_ne_nil (path : String) : pathNames path ≠ [] := by
  unfold pathNames
  rw [ne_eq, List.map_eq_nil_iff]
  exact splitOnChar_ne_nil '/' _

/-! ## Elements with the same text at a path -/

section

variable {e d : Element} {path : String} (h : e.trimmedAt path = d.trimmedAt path)

include h

theorem flagAt_congr (default : Bool) : e.flagAt path default = d.flagAt path default := by
  rw [flagAt, flagAt, h]

theorem intLiteral_congr (default : Option Int) :
    e.intLiteral path default = d.intLiteral path default := by
  rw [intLiteral, intLiteral, h]

theorem durationLiteral?_congr (default : Option Duration) (unit : Duration) :
    e.durationLiteral? path default unit = d.durationLiteral? path default unit := by
  rw [durationLiteral?, durationLiteral?, h]

end

/-! ## Elements with the same properties -/

section

variable {e d : Element} (h : e.properties = d.properties)

include h

/-- Values of properties do not depend on the children of the element. -/
theorem get_eq (path : String) : e.get path = d.get path := by
  unfold get
  obtain ⟨name, names, hn⟩ := List.exists_cons_of_ne_nil (pathNames_ne_nil path)
  rw [hn, List.foldl_cons, List.foldl_cons, Property.member, Property.member, h]

theorem textAt_eq (path default : String) : e.textAt path default = d.textAt path default := by
  rw [textAt, textAt, get_eq h]

theorem trimmedAt_eq (path : String) : e.trimmedAt path = d.trimmedAt path := by
  rw [trimmedAt, trimmedAt, textAt_eq h]

theorem flagAt_eq (path : String) (default : Bool) :
    e.flagAt path default = d.flagAt path default :=
  flagAt_congr (trimmedAt_eq h path) default

theorem listAt_eq (path : String) : e.listAt path = d.listAt path := by
  rw [listAt, listAt, get_eq h]

theorem stringLiteral_eq (path : String) (default : Option String) :
    e.stringLiteral path default = d.stringLiteral path default := by
  rw [stringLiteral, stringLiteral, textAt_eq h]

theorem intLiteral_eq (path : String) (default : Option Int) :
    e.intLiteral path default = d.intLiteral path default :=
  intLiteral_congr (trimmedAt_eq h path) default

theorem boolLiteral_eq (path : String) (default : Bool) :
    e.boolLiteral path default = d.boolLiteral path default := by
  rw [boolLiteral, boolLiteral, trimmedAt_eq h]

theorem durationLiteral?_eq (path : String) (default : Option Duration) (unit : Duration) :
    e.durationLiteral? path default unit = d.durationLiteral? path default unit :=
  durationLiteral?_congr (trimmedAt_eq h path) default unit

theorem enumLiteral_eq (path type qualified : String) (constants : Entries String)
    (default : Option String) : e.enumLiteral path type qualified constants default =
      d.enumLiteral path type qualified constants default := by
  rw [enumLiteral, enumLiteral, trimmedAt_eq h]

end

end Element

theorem Element.nameLiteral_eq {e d : Element} (h : e.name = d.name) (default : String) :
   e.nameLiteral default = d.nameLiteral default := by
  rw [nameLiteral, nameLiteral, h]

namespace Convert

open Element

variable {e d : Element} (h : e.properties = d.properties)

include h

theorem elementsAt_eq (path : String) : elementsAt e path = elementsAt d path := by
  rw [elementsAt, elementsAt, listAt_eq h]

theorem requestUrl_eq : requestUrl e = requestUrl d := by
  unfold requestUrl
  rw [trimmedAt_eq h protocolKey, trimmedAt_eq h domainKey, trimmedAt_eq h portKey,
    trimmedAt_eq h pathKey]

theorem testType_eq : testType e = testType d := by
  unfold testType
  rw [textAt_eq h]

theorem testStrings_eq : testStrings e = testStrings d := by
  unfold testStrings
  rw [listAt_eq h]

theorem moduleCall?_eq : moduleCall? e = moduleCall? d := by
  rw [moduleCall?, moduleCall?, referredName?, referredName?, listAt_eq h]

end Convert

open Element in
/-- What is below an element has no part in its own call. -/
theorem ElementKind.convert_eq {surface : Surface} {e d : Element} (hn : e.name = d.name)
    (hp : e.properties = d.properties) (k : ElementKind) :
    k.convert surface e = k.convert surface d := by
  cases k with
  | testPlan => simp only [convert, Convert.testPlan, boolLiteral_eq hp]
  | threadGroup =>
    simp only [convert, Convert.threadGroup, Convert.threadGroupArguments, nameLiteral_eq hn,
      flagAt_eq hp, intLiteral_eq hp, durationLiteral?_eq hp]
  | transaction => simp only [convert, Convert.transaction, hn, boolLiteral_eq hp]
  | testFragment => simp only [convert, Convert.testFragment, nameLiteral_eq hn]
  | moduleController => simp only [convert, Convert.moduleCall?_eq hp]
  | httpSampler =>
    simp only [convert, Convert.httpSampler, nameLiteral_eq hn, Convert.requestUrl_eq hp,
      Convert.elementsAt_eq hp, stringLiteral_eq hp, boolLiteral_eq hp, flagAt_eq hp]
  | httpHeaders => simp only [convert, Convert.httpHeaders, Convert.elementsAt_eq hp]
  | httpDefaults => simp only [convert, Convert.httpDefaults, Convert.requestUrl_eq hp]
  | responseAssertion =>
    simp only [convert, Convert.responseAssertion, nameLiteral_eq hn, enumLiteral_eq hp,
      boolLiteral_eq hp, Convert.testType_eq hp, Convert.testStrings_eq hp]
  | constantTimer => simp only [convert, Convert.constantTimer, durationLiteral?_eq hp]
  | resultsTree => simp only [convert, Convert.resultsTree]
end PlanCode
