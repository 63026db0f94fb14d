import PlanCode.Convert.Basic

/-!
# Converting HTTP elements

Samplers, header managers and request defaults. The address of a request is put
together from protocol, domain, port and path; without a domain only the path is
left, which is then relative to the defaults.
-/
namespace PlanCode.Convert

def protocolKey : String := "HTTPSampler.protocol"
def domainKey : String := "HTTPSampler.domain"
def portKey : String := "HTTPSampler.port"
def pathKey : String := "HTTPSampler.path"
def methodKey : String := "HTTPSampler.method"
def followRedirectsKey : String := "HTTPSampler.follow_redirects"
def rawBodyKey : String := "HTTPSampler.postBodyRaw"
def argumentsKey : String := "HTTPsampler.Arguments/Arguments.arguments"
def argumentNameKey : String := "Argument.name"
def argumentValueKey : String := "Argument.value"
def headersKey : String := "HeaderManager.headers"
def headerNameKey : String := "Header.name"
def headerValueKey : String := "Header.value"

/-- The port that a protocol implies. -/
def defaultPort? (protocol : String) : Option String :=
  match Text.lower protocol with
  | "http" => some "80"
  | "https" => some "443"
  | _ => none

/-- The address of an HTTP element. The protocol is `http` where it is blank, the port is left out
where the protocol implies it, and the path starts with a slash. -/
def requestUrl (e : Element) : String :=
  let given := e.trimmedAt protocolKey
  let protocol := if given = "" then "http" else given
  let domain := e.trimmedAt domainKey
  let port := e.trimmedAt portKey
  let path := e.trimmedAt pathKey
  if domain = "" then path
  else
    let port := if port = "" || defaultPort? protocol == some port then "" else ":" ++ port
    let path := if path = "" || path.toList.head? = some '/' then path else "/" ++ path
    protocol ++ "://" ++ domain ++ port ++ path

/-- The elements in a list of values. -/
def elementsAt (e : Element) (path : String) : List Element :=
  (e.listAt path).filterMap Property.element?

def httpSampler (surface : Surface) (e : Element) : Conversion := do
  let d ← start surface "httpSampler"
    (literals [e.nameLiteral "HTTP Request", .text (requestUrl e)])
  let d ← chain surface "method" [e.stringLiteral methodKey (some "GET")] d
  let arguments := elementsAt e argumentsKey
  let d ←
    if e.flagAt rawBodyKey then
      let body := String.join (arguments.map (·.textAt argumentValueKey))
      chain surface "body" [.string (some body) (some "") false] d
    else
      arguments.foldlM (fun d a =>
        chain surface "param"
          [.text (a.textAt argumentNameKey), .text (a.textAt argumentValueKey)] d) d
  chain surface "followRedirects" [e.boolLiteral followRedirectsKey true] d

def httpHeaders (surface : Surface) (e : Element) : Conversion := do
  let d ← start surface "httpHeaders" []
  (elementsAt e headersKey).foldlM (fun d h =>
    chain surface "header" [.text (h.textAt headerNameKey), .text (h.textAt headerValueKey)] d) d

def httpDefaults (surface : Surface) (e : Element) : Conversion := do
  let d ← start surface "httpDefaults" []
  let url := requestUrl e
  if url = "" then return d else chain surface "url" [.text url] d

end PlanCode.Convert
