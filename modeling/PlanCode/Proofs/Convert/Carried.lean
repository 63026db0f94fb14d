import Mathlib.Data.Int.Bitwise
import PlanCode.Proofs.Convert.Links
import PlanCode.Proofs.Convert.LoadProfile

/-!
# What calls carry over from an element

The flags and lists of an element are read back from the chain of its call, in the
way in which the DSL takes the calls: a flag that is not chained has its default, one
that is chained without an argument is on, and a call that is made for each entry of
a list carries that entry. Defaults are not chained and flags may lose their argument,
so what is read depends on which methods there are.

* `hasBit_eq_testBit`: the bits of a test type are those of the number.
* `flag_of_link`: a flag is read back as its property.
* `carries_of_convert`: the flags and lists of an element survive its conversion.
-/
namespace PlanCode

open PlanCode.Convert

/-! ## Reading a chain -/

namespace Draft

/-- What a segment is given if it is a call of one of some names. -/
def givenIn? (names : List String) : Segment Node → Option (List Literal)
  | .call name _ arguments =>
    if name ∈ names then some (LoadProfile.given arguments) else none
  | _ => none

/-- What the chained calls of some names are given, in order. -/
def givenTo (d : Draft Node) (names : List String) : List (List Literal) :=
  d.chain.filterMap (givenIn? names)

/-- A flag that is set at most once: its default where it is not set, and on where it is set without
an argument. -/
def flagOf? (default : Bool) : List (List Literal) → Option Bool
  | [] => some default
  | [[]] => some true
  | [[.bool v _]] => v
  | _ => none

/-- A text that is set at most once. -/
def textOf? (default : String) : List (List Literal) → Option String
  | [] => some default
  | [[.string v _ _]] => v
  | _ => none

/-- A name with a value. -/
def pairOf? : List Literal → Option (String × String)
  | [.string (some name) _ _, .string (some value) _ _] => some (name, value)
  | _ => none

/-- Strings that are set at most once, all of them together. -/
def stringsOf? : List (List Literal) → Option (List String)
  | [] => some []
  | [[.strings values]] => some values
  | _ => none

def flag? (d : Draft Node) (name : String) (default : Bool) : Option Bool :=
  flagOf? default (d.givenTo [name])

def text? (d : Draft Node) (name default : String) : Option String :=
  textOf? default (d.givenTo [name])

def pairs? (d : Draft Node) (name : String) : Option (List (String × String)) :=
  (d.givenTo [name]).mapM pairOf?

/-- The methods of an assertion that take the strings to look for. -/
def checkNames : List String :=
  ["containsSubstrings", "equalsToStrings", "matchesRegexes", "containsRegexes"]

def strings? (d : Draft Node) : Option (List String) := stringsOf? (d.givenTo checkNames)

end Draft

/-! ## What is to be read -/

namespace Element

/-- The names and values in a list of nested elements. -/
def pairsAt (e : Element) (path nameKey valueKey : String) : List (String × String) :=
  (elementsAt e path).map fun a => (a.textAt nameKey, a.textAt valueKey)

/-- The texts in a list of values. -/
def textsAt (e : Element) (path : String) : List String := (e.listAt path).filterMap Property.text?

/-- A whole number, or another where the property is blank or writes none. -/
def numberAt (e : Element) (path : String) (default : Int) : Int :=
  (Number.readWhole? (e.trimmedAt path)).getD default

end Element

/-- The call of an element carries over the flags and the lists of its properties. -/
def Carries (k : ElementKind) (e : Element) (d : Draft Node) : Prop :=
  match k with
  | .testPlan =>
    d.flag? "sequentialThreadGroups" false = some (e.flagAt serializeKey) ∧
    d.flag? "tearDownOnlyAfterMainThreadsDone" false = some (e.flagAt tearDownKey)
  | .transaction => d.flag? "generateParentSample" false = some (e.flagAt parentSampleKey)
  | .httpSampler =>
    d.text? "method" "GET" =
      some (if e.textAt methodKey = "" then "GET" else e.textAt methodKey) ∧
    (if e.flagAt rawBodyKey then
      d.text? "body" "" = some (String.join
        ((elementsAt e argumentsKey).map (·.textAt argumentValueKey))) ∧
      d.pairs? "param" = some []
    else
      d.text? "body" "" = some "" ∧
      d.pairs? "param" = some (e.pairsAt argumentsKey argumentNameKey argumentValueKey)) ∧
    d.flag? "followRedirects" true = some (e.flagAt followRedirectsKey true)
  | .httpHeaders => d.pairs? "header" = some (e.pairsAt headersKey headerNameKey headerValueKey)
  | .responseAssertion =>
    d.flag? "ignoreStatus" false = some (e.flagAt assumeSuccessKey) ∧
    d.flag? "invertCheck" false = some ((e.numberAt testTypeKey 2).testBit 2) ∧
    d.flag? "anyMatch" false = some ((e.numberAt testTypeKey 2).testBit 5) ∧
    d.strings? = some (e.textsAt testStringsKey)
  | _ => True

/-! ## What properties become -/

/-- A flag that is one becomes the literal for it. -/
theorem Element.boolLiteral_of_clear {e : Element} {key : String} (h : e.isUnclear key = false)
    (default : Bool) :
    e.boolLiteral key default = .bool (some (e.flagAt key default)) (some default) := by
  simp only [isUnclear, Bool.not_eq_false', List.contains_iff_mem, List.mem_cons,
    List.not_mem_nil, or_false] at h
  unfold boolLiteral flagAt
  dsimp only
  by_cases he : e.trimmedAt key = ""
  · simp [he, Text.lower_eq_empty.2 rfl]
  · have hl : Text.lower (e.trimmedAt key) ≠ "" := mt Text.lower_eq_empty.1 he
    rcases (or_iff_right hl).1 h with ht | hf
    · simp [he, ht]
    · simp [he, hf]

namespace Convert

theorem hasBit_eq_testBit (mask : Int) (bit : Nat) : hasBit mask bit = mask.testBit bit := by
  unfold hasBit
  cases mask with
  | ofNat n =>
    simp [Int.testBit, Nat.testBit_eq_decide_div_mod_eq, Bool.beq_eq_decide_eq]
    norm_cast
  | negSucc n =>
    obtain ⟨p, hp⟩ := Nat.exists_eq_succ_of_ne_zero (Nat.two_pow_pos bit).ne'
    have hd : Int.negSucc n / (Nat.pow 2 bit : Nat) = Int.negSucc (n / 2 ^ bit) := by
      rw [hp, Nat.pow_eq, hp]
      rfl
    rw [hd, Int.testBit, Nat.testBit_eq_decide_div_mod_eq, Bool.beq_eq_decide_eq,
      ← decide_not, decide_eq_decide]
    omega

theorem testType_eq_numberAt (e : Element) : testType e = e.numberAt testTypeKey 2 := by
  have h2 : Number.readWhole? "2" = some 2 := by decide
  unfold testType Element.numberAt Element.trimmedAt Element.textAt
  cases (e.get testTypeKey).text? with
  | none =>
    have ht : Text.trim "2" = "2" := by decide
    have he : Text.trim "" = "" := by decide
    simp [ht, he, h2, Element.readWhole?_empty]
  | some s =>
    by_cases hs : Text.trim s = ""
    · simp [hs, h2, Element.readWhole?_empty]
    · simp [hs, containsBit]

theorem testStrings_eq_textsAt {e : Element}
    (h : ∀ p ∈ e.listAt testStringsKey, p.isNull = false) :
    testStrings e = e.textsAt testStringsKey := by
  unfold testStrings Element.textsAt
  refine List.filterMap_congr fun p hp => ?_
  have hn := h p hp
  cases p <;> first | rfl | cases hn

/-! ## What links say -/

/-- What a link gives to the calls of some names. -/
def Link.given (surface : Surface) (target : String) (names : List String) :
    Link → List (List Literal)
  | .remark _ => []
  | .call name values =>
    if name ∈ names ∧ isElided values = false then
      [LoadProfile.given (kept surface target name values)]
    else []

section

variable {surface : Surface} {target name : String} {names : List String} {values : List Literal}
  {links : List Link}

theorem filterMap_segments {l : Link} (h : l.Resolves surface target) :
    (l.segments surface target).filterMap (Draft.givenIn? names) =
      l.given surface target names := by
  cases l with
  | remark text => rfl
  | call name values =>
    cases he : isElided values with
    | true => simp [segments_elided he, Link.given, he]
    | false =>
      obtain ⟨m, hm⟩ := Option.isSome_iff_exists.1 (h he)
      rw [segments_of_overload he hm]
      by_cases hn : name ∈ names <;> simp [Draft.givenIn?, Link.given, he, hn]

/-- What the calls of some names are given is what the links say one by one. -/
theorem givenTo_extend (h : ∀ l ∈ links, l.Resolves surface target) {d : Draft Node}
    (hd : d.chain = []) (names : List String) :
    (d.extend (links.flatMap (·.segments surface target))).givenTo names =
      links.flatMap (·.given surface target names) := by
  unfold Draft.givenTo Draft.extend
  rw [hd, List.nil_append, List.filterMap_flatMap]
  exact List.flatMap_congr fun l hl => filterMap_segments (h l hl)

theorem given_other (h : name ∉ names) :
    (Link.call name values).given surface target names = [] := if_neg (mt And.left h)

theorem given_elided (h : isElided values = true) :
    (Link.call name values).given surface target names = [] := if_neg (by simp [h])

theorem given_self (h : isElided values = false) :
    (Link.call name values).given surface target [name] =
      [LoadProfile.given (kept surface target name values)] :=
  if_pos ⟨List.mem_singleton_self name, h⟩

/-- A call with two arguments is given both, of each entry of a list in turn. -/
theorem given_pairs (nameKey valueKey : String) (entries : List Element) :
    (entries.map (pairLink name nameKey valueKey)).flatMap (·.given surface target [name]) =
      entries.map fun a => [.text (a.textAt nameKey), .text (a.textAt valueKey)] := by
  rw [List.flatMap_map, List.map_eq_flatMap]
  refine List.flatMap_congr fun a _ => ?_
  exact given_self rfl

theorem given_pairs_other (h : name ∉ names) (nameKey valueKey : String)
    (entries : List Element) :
    (entries.map (pairLink name nameKey valueKey)).flatMap (·.given surface target names) = [] := by
  rw [List.flatMap_map]
  exact List.flatMap_eq_nil_iff.2 fun _ _ => given_other h

/-- **Flags.** A flag is read back as its property, whether or not it keeps its argument. -/
theorem flag_of_link {e : Element} {key : String} {default : Bool}
    (h : e.isUnclear key = false)
    (hbare : default = true → surface.findMethod target name [] = .ok none) :
    Draft.flagOf? default ((Link.call name [e.boolLiteral key default]).given surface target
      [name]) = some (e.flagAt key default) := by
  rw [Element.boolLiteral_of_clear h]
  generalize e.flagAt key default = on
  by_cases hd : on = default
  · have he : isElided [.bool (some on) (some default)] = true := by
      simp [isElided, Literal.isDefault, hd]
    rw [given_elided he, hd]
    rfl
  · have he : isElided [.bool (some on) (some default)] = false := by
      simp [isElided, Literal.isDefault, hd]
    have hflag : (Argument.literal (.bool (some on) (some default)) : Argument Node).isBool =
        true := rfl
    rw [given_self he, kept, hflag, Bool.true_and]
    split
    · -- only a flag that is off by default can be called without an argument
      rename_i hb
      cases default with
      | true =>
        rw [hbare rfl] at hb
        cases hb
      | false => exact congrArg some (Bool.eq_true_of_not_eq_false hd).symm
    · rfl

/-- A text is read back, whether or not it is the default. -/
theorem text_of_link (value default : String) :
    Draft.textOf? default ((Link.call name [.string (some value) (some default) false]).given
      surface target [name]) = some value := by
  by_cases hv : value = default
  · rw [given_elided (by simp [isElided, Literal.isDefault, hv]), hv]
    rfl
  · rw [given_self (by simp [isElided, Literal.isDefault, hv])]
    rfl

/-- A property that is no flag is a text, for which there is no method. -/
theorem isUnclear_of_resolves (hf : (target, name) ∈ flagCalls) {e : Element} {key : String}
    {default : Bool}
    (h : (Link.call name [e.boolLiteral key default]).Resolves Surface.standard target) :
    e.isUnclear key = false := by
  obtain ⟨hu, -⟩ | ⟨-, hl⟩ := e.boolLiteral_cases key default
  · exact hu
  · rw [hl] at h
    have ho := h rfl
    have hn : overload? Surface.standard target name [.text (Text.lower (e.trimmedAt key))] =
        none := by
      have hm := (flag_declared hf).2
      unfold overload?
      change (Surface.standard.findMethod target name ["String"]).toOption.bind id = none
      rw [hm]
      rfl
    rw [hn] at ho
    cases ho

/-- A flag that is off by default may lose its argument: it is on where it is chained. -/
theorem flag_of_resolves (hf : (target, name) ∈ flagCalls) {e : Element} {key : String}
    (h : (Link.call name [e.boolLiteral key]).Resolves Surface.standard target) :
    Draft.flagOf? false ((Link.call name [e.boolLiteral key]).given Surface.standard target
      [name]) = some (e.flagAt key) :=
  flag_of_link (isUnclear_of_resolves hf h) fun hd => absurd hd Bool.false_ne_true

end

/-! ## Elements -/

section

variable {e : Element} {d : Draft Node}

/-- The chain of a converted element, link by link. -/
theorem givenTo_of_convert {k : ElementKind} {name : String} (hk : k.factoryMethod? = some name)
    (h : k.convert Surface.standard e = .ok (some d)) : ∃ p, partsOf? e k = some p ∧
      (∀ l ∈ p.links, l.Resolves Surface.standard k.target) ∧
      ∀ names, d.givenTo names = p.links.flatMap (·.given Surface.standard k.target names) := by
  obtain ⟨p, m, hp, -, hl, hd⟩ := yields_linked e hk _ h
  obtain rfl := Option.some.inj hd
  exact ⟨p, hp, hl, givenTo_extend hl rfl⟩

theorem carries_testPlan (h : ElementKind.testPlan.convert Surface.standard e = .ok (some d)) :
    Carries .testPlan e d := by
  obtain ⟨_, hp, hl, hg⟩ := givenTo_of_convert rfl h
  obtain rfl := Option.some.inj hp
  simp only [testPlanLinks, List.forall_mem_cons] at hl
  obtain ⟨serial, down, -⟩ := hl
  have hg : ∀ names, d.givenTo names = _ ++ (_ ++ []) := hg
  constructor
  · rw [Draft.flag?, hg]
    simp (disch := decide) only [given_other, List.append_nil]
    exact flag_of_resolves (by decide) serial
  · rw [Draft.flag?, hg]
    simp (disch := decide) only [given_other, List.nil_append, List.append_nil]
    exact flag_of_resolves (by decide) down

theorem carries_transaction
    (h : ElementKind.transaction.convert Surface.standard e = .ok (some d)) :
    Carries .transaction e d := by
  obtain ⟨_, hp, hl, hg⟩ := givenTo_of_convert rfl h
  obtain rfl := Option.some.inj hp
  rw [transactionLinks, List.forall_mem_singleton] at hl
  change Draft.flagOf? _ (d.givenTo _) = _
  rw [hg, transactionLinks, List.flatMap_singleton]
  exact flag_of_resolves (by decide) hl

/-- Nothing but flags can be chained to a sampler under this name, so no argument is dropped. -/
theorem bare_followRedirects :
    Surface.standard.findMethod ElementKind.httpSampler.target "followRedirects" [] = .ok none := by
  decide +kernel

theorem stringLiteral_method (e : Element) : e.stringLiteral methodKey (some "GET") =
    .string (some (if e.textAt methodKey = "" then "GET" else e.textAt methodKey)) (some "GET")
      false := by
  unfold Element.stringLiteral
  dsimp only
  split
  · rfl
  · rfl

section

variable {surface : Surface} {target : String} {names : List String}

theorem given_requestLinks_raw (hr : e.flagAt rawBodyKey = true) :
    (requestLinks e).flatMap (·.given surface target names) =
      (Link.call "body" [.string (some (String.join ((elementsAt e argumentsKey).map
        (·.textAt argumentValueKey)))) (some "") false]).given surface target names := by
  rw [requestLinks, if_pos hr, List.flatMap_singleton]

theorem requestLinks_pairs (hr : e.flagAt rawBodyKey = false) : requestLinks e =
    (elementsAt e argumentsKey).map (pairLink "param" argumentNameKey argumentValueKey) :=
  if_neg (by simp [hr])

/-- Neither the text nor the arguments that are sent are given to other calls. -/
theorem given_requestLinks (hb : "body" ∉ names) (hp : "param" ∉ names) :
    (requestLinks e).flatMap (·.given surface target names) = [] := by
  cases hr : e.flagAt rawBodyKey with
  | true => rw [given_requestLinks_raw hr, given_other hb]
  | false => rw [requestLinks_pairs hr, given_pairs_other hp]

end

theorem carries_httpSampler
    (h : ElementKind.httpSampler.convert Surface.standard e = .ok (some d)) :
    Carries .httpSampler e d := by
  obtain ⟨_, hp, hl, hg⟩ := givenTo_of_convert rfl h
  obtain rfl := Option.some.inj hp
  have hg : ∀ names, d.givenTo names = (httpSamplerLinks e).flatMap _ := hg
  simp only [httpSamplerLinks, List.cons_append, List.flatMap_append, List.flatMap_cons,
    List.flatMap_nil, List.append_nil] at hg
  have follow := hl (.call "followRedirects" [e.boolLiteral followRedirectsKey true])
    (by simp [httpSamplerLinks])
  refine ⟨?_, ?_, ?_⟩
  · rw [Draft.text?, hg, stringLiteral_method]
    simp (disch := decide) only [given_other, given_requestLinks, List.append_nil]
    exact text_of_link _ _
  · rw [Draft.text?, Draft.pairs?, hg, hg]
    simp (disch := decide) only [given_other, List.nil_append, List.append_nil]
    cases hr : e.flagAt rawBodyKey with
    | true =>
      rw [if_pos rfl, given_requestLinks_raw hr, given_requestLinks_raw hr]
      exact ⟨text_of_link _ _, rfl⟩
    | false =>
      rw [if_neg (by simp), requestLinks_pairs hr, given_pairs, given_pairs_other (by decide),
        List.mapM_map]
      exact ⟨rfl, List.mapM_pure⟩
  · rw [Draft.flag?, hg]
    simp (disch := decide) only [given_other, given_requestLinks, List.nil_append]
    exact flag_of_link (isUnclear_of_resolves (by decide) follow) fun _ => bare_followRedirects

theorem carries_httpHeaders
    (h : ElementKind.httpHeaders.convert Surface.standard e = .ok (some d)) :
    Carries .httpHeaders e d := by
  obtain ⟨_, hp, hl, hg⟩ := givenTo_of_convert rfl h
  obtain rfl := Option.some.inj hp
  change (d.givenTo ["header"]).mapM Draft.pairOf? = _
  rw [hg, httpHeadersLinks, given_pairs, List.mapM_map]
  exact List.mapM_pure

theorem checkMethod_mem_checkNames (mask : Int) : checkMethod mask ∈ Draft.checkNames := by
  unfold checkMethod
  split
  · decide
  split
  · decide
  split
  · decide
  · decide

section

variable {surface : Surface} {target : String} {names : List String}

theorem given_checkLinks (h : ∀ name ∈ Draft.checkNames, name ∉ names) :
    (checkLinks e).flatMap (·.given surface target names) = [] := by
  unfold checkLinks
  split
  · rfl
  · rw [List.flatMap_singleton, given_other (h _ (checkMethod_mem_checkNames _))]

/-- The strings are read back from the one call that checks them. -/
theorem strings_of_checkLinks : Draft.stringsOf? ((checkLinks e).flatMap
    (·.given surface target Draft.checkNames)) = some (testStrings e) := by
  unfold checkLinks
  split
  · rename_i he
    rw [List.isEmpty_iff.1 he]
    rfl
  · rename_i he
    have hv : isElided [.strings (testStrings e)] = false := by
      simpa [isElided, Literal.isDefault] using he
    rw [List.flatMap_singleton, Link.given, if_pos ⟨checkMethod_mem_checkNames _, hv⟩]
    rfl

theorem given_bitLinks (name : String) (bit : Nat) (h : name ∉ names) :
    (bitLinks e name bit).flatMap (·.given surface target names) = [] := by
  unfold bitLinks
  split
  · rw [List.flatMap_singleton, given_other h]
  · rfl

/-- A call without arguments that is made where a bit is set says whether it is. -/
theorem flag_of_bitLinks (name : String) (bit : Nat) :
    Draft.flagOf? false ((bitLinks e name bit).flatMap (·.given surface target [name])) =
      some ((e.numberAt testTypeKey 2).testBit bit) := by
  rw [← testType_eq_numberAt, ← hasBit_eq_testBit]
  unfold bitLinks
  cases hasBit (testType e) bit with
  | true =>
    rw [if_pos rfl, List.flatMap_singleton, given_self rfl]
    rfl
  | false => rfl

end

theorem carries_responseAssertion (hs : ∀ p ∈ e.listAt testStringsKey, p.isNull = false)
    (h : ElementKind.responseAssertion.convert Surface.standard e = .ok (some d)) :
    Carries .responseAssertion e d := by
  obtain ⟨_, hp, hl, hg⟩ := givenTo_of_convert rfl h
  obtain rfl := Option.some.inj hp
  have hg : ∀ names, d.givenTo names = (responseAssertionLinks e).flatMap _ := hg
  simp only [responseAssertionLinks, List.flatMap_append, List.flatMap_cons, List.flatMap_nil,
    List.append_nil] at hg
  have ignore := hl (.call "ignoreStatus" [e.boolLiteral assumeSuccessKey])
    (by simp [responseAssertionLinks])
  refine ⟨?_, ?_, ?_, ?_⟩
  · rw [Draft.flag?, hg]
    simp (disch := decide) only [given_other, given_checkLinks, given_bitLinks, List.nil_append,
      List.append_nil]
    exact flag_of_resolves (by decide) ignore
  · rw [Draft.flag?, hg]
    simp (disch := decide) only [given_other, given_checkLinks, given_bitLinks, List.nil_append,
      List.append_nil]
    exact flag_of_bitLinks _ _
  · rw [Draft.flag?, hg]
    simp (disch := decide) only [given_other, given_checkLinks, given_bitLinks, List.nil_append,
      List.append_nil]
    exact flag_of_bitLinks _ _
  · rw [Draft.strings?, hg]
    simp (disch := decide) only [given_other, given_bitLinks, List.nil_append, List.append_nil]
    rw [strings_of_checkLinks, testStrings_eq_textsAt hs]

/-- **Survival.** The flags and lists of a converted element are read back from its call. -/
theorem carries_of_convert (k : ElementKind)
    (hs : k = .responseAssertion → ∀ p ∈ e.listAt testStringsKey, p.isNull = false)
    (h : k.convert Surface.standard e = .ok (some d)) : Carries k e d := by
  cases k with
  | testPlan => exact carries_testPlan h
  | transaction => exact carries_transaction h
  | httpSampler => exact carries_httpSampler h
  | httpHeaders => exact carries_httpHeaders h
  | responseAssertion => exact carries_responseAssertion (hs rfl) h
  | _ => trivial

end

/-- A negated search for one of two strings. -/
def negatedAssertion : Element where
  kind := "ResponseAssertion"
  properties := [(assumeSuccessKey, .text " TRUE "), (testTypeKey, .text "38"),
    (testStringsKey, .list [.text "error", .text "a, b"])]

theorem carries_of_convert_negatedAssertion :
    (∀ p ∈ negatedAssertion.listAt testStringsKey, p.isNull = false) ∧
      ∃ d, ElementKind.responseAssertion.convert Surface.standard negatedAssertion =
        .ok (some d) ∧ Carries .responseAssertion negatedAssertion d := by
  have hs : ∀ p ∈ negatedAssertion.listAt testStringsKey, p.isNull = false := by
    decide +kernel
  have hd : ((ElementKind.responseAssertion.convert Surface.standard
      negatedAssertion).toOption.bind id).isSome = true := by decide +kernel
  cases hc : ElementKind.responseAssertion.convert Surface.standard negatedAssertion with
  | error _ =>
    rw [hc] at hd
    cases hd
  | ok call =>
    rw [hc] at hd
    obtain ⟨d, rfl⟩ := Option.isSome_iff_exists.1 (show call.isSome = true from hd)
    exact ⟨hs, d, rfl, carries_of_convert .responseAssertion (fun _ => hs) hc⟩

end Convert
end PlanCode
