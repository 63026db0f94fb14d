import PlanCode.Surface.Basic

/-!
# The shipped surface

The types of the DSL that plans are converted to: the factory with its static
methods, the interfaces of children, and the builders with their fluent methods.
-/
namespace PlanCode.Surface.Default

/-- A package of the DSL, by what follows the common part of its name. -/
def inPackage (rest : String) : String := "us.abstracta.jmeter.javadsl" ++ rest

/-- The type whose static methods start every call. -/
def factoryType : String := "JmeterDsl"

def factory (name : String) (parameters : List String) (returns : String) : Method :=
  { name, owner := factoryType, parameters, returns := some returns, isStatic := true }

def fluent (owner name : String) (parameters : List String) : Method :=
  { name, owner, parameters }

def guarded (owner name : String) (parameters : List String) (returns visibility : String) :
    Method :=
  { name, owner, parameters, returns := some returns, visibility := some visibility }

def jmeterDsl : DslType where
  name := "JmeterDsl"
  package := inPackage ""
  methods := [
    factory "testPlan" ["TestPlanChild[]"] "DslTestPlan",
    factory "threadGroup" [] "DslDefaultThreadGroup",
    factory "threadGroup" ["String"] "DslDefaultThreadGroup",
    factory "threadGroup" ["int", "int", "ThreadGroupChild[]"] "DslDefaultThreadGroup",
    factory "threadGroup" ["String", "int", "int", "ThreadGroupChild[]"] "DslDefaultThreadGroup",
    factory "threadGroup" ["int", "Duration", "ThreadGroupChild[]"] "DslDefaultThreadGroup",
    factory "threadGroup" ["String", "int", "Duration", "ThreadGroupChild[]"]
      "DslDefaultThreadGroup",
    factory "transaction" ["String", "ThreadGroupChild[]"] "DslTransactionController",
    factory "fragment" ["ThreadGroupChild[]"] "DslTestFragmentController",
    factory "fragment" ["String", "ThreadGroupChild[]"] "DslTestFragmentController",
    factory "httpSampler" ["String"] "DslHttpSampler",
    factory "httpSampler" ["String", "String"] "DslHttpSampler",
    factory "httpHeaders" [] "HttpHeaders",
    factory "httpDefaults" [] "DslHttpDefaults",
    factory "responseAssertion" [] "DslResponseAssertion",
    factory "responseAssertion" ["String"] "DslResponseAssertion",
    factory "constantTimer" ["Duration"] "DslConstantTimer",
    factory "constantTimer" ["String"] "DslConstantTimer",
    factory "resultsTreeVisualizer" [] "DslViewResultsTree"]

def testPlanChild : DslType where
  name := "TestPlanChild"
  package := inPackage ".core.DslTestPlan"

def threadGroupChild : DslType where
  name := "ThreadGroupChild"
  package := inPackage ".core.threadgroups.BaseThreadGroup"

def samplerChild : DslType where
  name := "SamplerChild"
  package := inPackage ".core.samplers.BaseSampler"

def baseTestElement : DslType where
  name := "BaseTestElement"
  package := inPackage ".core.testelements"
  methods := [
    guarded "BaseTestElement" "buildTestElement" [] "TestElement" "protected"]

def testElementContainer : DslType where
  name := "TestElementContainer"
  package := inPackage ".core.testelements"
  parent := some "BaseTestElement"

def multiLevelTestElement : DslType where
  name := "MultiLevelTestElement"
  package := inPackage ".core.testelements"
  parent := some "BaseTestElement"
  interfaces := ["TestPlanChild", "ThreadGroupChild", "SamplerChild"]

def dslTestPlan : DslType where
  name := "DslTestPlan"
  package := inPackage ".core"
  parent := some "TestElementContainer"
  methods := [
    fluent "DslTestPlan" "children" ["TestPlanChild[]"],
    fluent "DslTestPlan" "sequentialThreadGroups" [],
    fluent "DslTestPlan" "sequentialThreadGroups" ["boolean"],
    fluent "DslTestPlan" "tearDownOnlyAfterMainThreadsDone" [],
    fluent "DslTestPlan" "tearDownOnlyAfterMainThreadsDone" ["boolean"]]

def baseThreadGroup : DslType where
  name := "BaseThreadGroup"
  package := inPackage ".core.threadgroups"
  parent := some "TestElementContainer"
  interfaces := ["TestPlanChild"]
  methods := [
    fluent "BaseThreadGroup" "children" ["ThreadGroupChild[]"]]

def dslDefaultThreadGroup : DslType where
  name := "DslDefaultThreadGroup"
  package := inPackage ".core.threadgroups"
  parent := some "BaseThreadGroup"
  methods := [
    fluent "DslDefaultThreadGroup" "rampTo" ["int", "Duration"],
    fluent "DslDefaultThreadGroup" "rampTo" ["String", "String"],
    fluent "DslDefaultThreadGroup" "holdFor" ["Duration"],
    fluent "DslDefaultThreadGroup" "holdFor" ["String"],
    fluent "DslDefaultThreadGroup" "holdIterating" ["int"],
    fluent "DslDefaultThreadGroup" "holdIterating" ["String"],
    fluent "DslDefaultThreadGroup" "upTo" ["Duration"],
    fluent "DslDefaultThreadGroup" "upTo" ["String"],
    fluent "DslDefaultThreadGroup" "rampToAndHold" ["int", "Duration", "Duration"],
    fluent "DslDefaultThreadGroup" "rampToAndHold" ["String", "String", "String"]]

def baseController : DslType where
  name := "BaseController"
  package := inPackage ".core.controllers"
  parent := some "TestElementContainer"
  interfaces := ["ThreadGroupChild"]
  methods := [
    fluent "BaseController" "children" ["ThreadGroupChild[]"]]

def dslTransactionController : DslType where
  name := "DslTransactionController"
  package := inPackage ".core.controllers"
  parent := some "BaseController"
  methods := [
    fluent "DslTransactionController" "generateParentSample" [],
    fluent "DslTransactionController" "generateParentSample" ["boolean"]]

def dslTestFragmentController : DslType where
  name := "DslTestFragmentController"
  package := inPackage ".core.controllers"
  parent := some "BaseController"

def baseSampler : DslType where
  name := "BaseSampler"
  package := inPackage ".core.samplers"
  parent := some "TestElementContainer"
  interfaces := ["ThreadGroupChild"]
  methods := [
    fluent "BaseSampler" "children" ["SamplerChild[]"]]

def dslHttpSampler : DslType where
  name := "DslHttpSampler"
  package := inPackage ".http"
  parent := some "BaseSampler"
  methods := [
    fluent "DslHttpSampler" "method" ["String"],
    fluent "DslHttpSampler" "header" ["String", "String"],
    fluent "DslHttpSampler" "body" ["String"],
    fluent "DslHttpSampler" "param" ["String", "String"],
    fluent "DslHttpSampler" "followRedirects" ["boolean"]]

def httpHeaders : DslType where
  name := "HttpHeaders"
  package := inPackage ".http"
  parent := some "MultiLevelTestElement"
  methods := [
    fluent "HttpHeaders" "header" ["String", "String"]]

def dslHttpDefaults : DslType where
  name := "DslHttpDefaults"
  package := inPackage ".http"
  parent := some "BaseTestElement"
  interfaces := ["TestPlanChild", "ThreadGroupChild"]
  methods := [
    fluent "DslHttpDefaults" "url" ["String"]]

def dslResponseAssertion : DslType where
  name := "DslResponseAssertion"
  package := inPackage ".core.assertions"
  parent := some "MultiLevelTestElement"
  methods := [
    fluent "DslResponseAssertion" "fieldToTest" ["TargetField"],
    fluent "DslResponseAssertion" "containsSubstrings" ["String[]"],
    fluent "DslResponseAssertion" "equalsToStrings" ["String[]"],
    fluent "DslResponseAssertion" "containsRegexes" ["String[]"],
    fluent "DslResponseAssertion" "matchesRegexes" ["String[]"],
    fluent "DslResponseAssertion" "ignoreStatus" [],
    fluent "DslResponseAssertion" "ignoreStatus" ["boolean"],
    fluent "DslResponseAssertion" "invertCheck" [],
    fluent "DslResponseAssertion" "invertCheck" ["boolean"],
    fluent "DslResponseAssertion" "anyMatch" [],
    fluent "DslResponseAssertion" "anyMatch" ["boolean"]]

def dslConstantTimer : DslType where
  name := "DslConstantTimer"
  package := inPackage ".core.timers"
  parent := some "MultiLevelTestElement"

def dslViewResultsTree : DslType where
  name := "DslViewResultsTree"
  package := inPackage ".core.listeners"
  parent := some "MultiLevelTestElement"

def types : List DslType := [
  jmeterDsl, testPlanChild, threadGroupChild, samplerChild, baseTestElement,
  testElementContainer, multiLevelTestElement, dslTestPlan, baseThreadGroup, dslDefaultThreadGroup,
  baseController, dslTransactionController, dslTestFragmentController, baseSampler, dslHttpSampler,
  httpHeaders, dslHttpDefaults, dslResponseAssertion, dslConstantTimer, dslViewResultsTree]

end PlanCode.Surface.Default

namespace PlanCode

/-- The surface that conversions use when none is given. -/
def Surface.standard : Surface := ⟨Surface.Default.types⟩

end PlanCode
