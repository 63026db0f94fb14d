import PlanCode.Entries
import PlanCode.Xml.Token

/-!
# Declarations of an XML document

Before its root element a document may declare entities and the attributes that
elements have without writing them. Of two declarations of one thing the first
counts. Where declarations may be missing, because some stand outside the
document, an unknown entity in an attribute value is empty instead of an error.

* `find?_declareEntity_of_known`: a second declaration of an entity changes nothing.
-/
namespace PlanCode.Xml

structure AttributeRule where
  element : String
  name : Name
  /-- The value is a list of words, so blanks between them do not count. -/
  isWords : Bool
  default : Option (List Char)

structure Declarations where
  /-- The text of each entity; none for one that is no text of this document. -/
  entities : Entries (Option (List Char)) := []
  attributes : List AttributeRule := []
  /-- Some declarations stand outside the document. -/
  incomplete : Bool := false
  /-- The document says that it needs nothing from outside. -/
  standalone : Bool := false

namespace Declarations

def declareEntity (d : Declarations) (name : String) (text : Option (List Char)) : Declarations :=
  match Entries.find? name d.entities with
  | some _ => d
  | none => { d with entities := d.entities ++ [(name, text)] }

def declareAttribute (d : Declarations) (r : AttributeRule) : Declarations :=
  if d.attributes.any fun s => s.element == r.element && s.name == r.name then d
  else { d with attributes := d.attributes ++ [r] }

theorem find?_declareEntity_of_known {d : Declarations} {name : String} {t : Option (List Char)}
    (h : Entries.find? name d.entities = some t) (text : Option (List Char)) :
    d.declareEntity name text = d := by
  simp [declareEntity, h]

/-- The characters of an attribute value. Entities may use each other; more levels than there are
entities mean that one uses itself. -/
def valueFrom? (d : Declarations) : Nat → List Reference → Option (List Char)
  | 0, _ => none
  | fuel + 1, parts => do
    let texts ← parts.mapM fun part => match part with
      | .char c => some [c]
      | .entity name =>
        match Entries.find? name d.entities with
        | some (some text) => (readValue? text).bind (d.valueFrom? fuel)
        | some none => none
        | none => if d.incomplete && !d.standalone then some [] else none
    return texts.flatten

def value? (d : Declarations) (parts : List Reference) : Option (List Char) :=
  d.valueFrom? (d.entities.length + 1) parts

/-- Tokens with every reference to an entity replaced by the tokens of its text, which opens and
closes elements of its own only. -/
def expandFrom? (d : Declarations) : Nat → List Token → Option (List Token)
  | 0, _ => none
  | fuel + 1, tokens => do
    let parts ← tokens.mapM fun t => match t with
      | .entity name =>
        match Entries.find? name d.entities with
        | some (some text) => do
          let inner ← readTokens? text
          if isBalanced 0 inner then d.expandFrom? fuel inner else none
        | _ => none
      | t => some [t]
    return parts.flatten
where
  /-- Whether tags close exactly the elements that they open. -/
  isBalanced : Nat → List Token → Bool
    | depth, [] => depth == 0
    | depth, .opening _ _ false :: rest => isBalanced (depth + 1) rest
    | 0, .closing _ :: _ => false
    | depth + 1, .closing _ :: rest => isBalanced depth rest
    | depth, _ :: rest => isBalanced depth rest

def expand? (d : Declarations) (tokens : List Token) : Option (List Token) :=
  d.expandFrom? (d.entities.length + 1) tokens

end Declarations

/-! ## Words of a declaration -/

inductive Word where
  | name (n : Name) (suffix : Option Char)
  /-- Name characters that make no name. -/
  | token
  /-- A name after `#`. -/
  | keyword (s : String)
  | literal (s : List Char)
  | mark (c : Char)
  | close (suffix : Option Char)

/-- Whether a text goes on with a blank or one of some characters. -/
def goesOnWith (marks : List Char) : List Char → Bool
  | [] => false
  | c :: _ => isBlank c || marks.contains c

/-- The sign of repetition at the start of a text, if one is there. -/
def readSuffix : List Char → Option Char × List Char
  | c :: rest => if c = '?' || c = '*' || c = '+' then (some c, rest) else (none, c :: rest)
  | [] => (none, [])

def readWord? : List Char → Option (Word × List Char)
  | [] => none
  | c :: rest =>
    if c = '"' || c = '\'' then do
      let (body, rest) ← readQuoted? (c :: rest)
      if goesOnWith ['>', '%', '['] rest then return (.literal body, rest) else none
    else if c = '#' then do
      let (name, rest) ← readPlainName? rest
      if goesOnWith [')', '>', '%', '|'] rest then return (.keyword name, rest) else none
    else if c = '(' || c = ',' || c = '|' then some (.mark c, rest)
    else if c = '%' then if goesOnWith [] rest then some (.mark c, rest) else none
    else if c = ')' then
      match readSuffix rest with
      | (some s, rest) => some (.close (some s), rest)
      | (none, rest) =>
        if goesOnWith ['>', ',', '|', ')'] rest then some (.close none, rest) else none
    else
      let (body, rest) := (c :: rest).span fun c => isNameChar c || c == ':'
      if body.isEmpty then none
      else
        let (suffix, rest) := readSuffix rest
        if suffix.isNone && !goesOnWith ['>', ')', ',', '|', '[', '%'] rest then none
        else match readName? body with
          | some (n, []) => some (.name n suffix, rest)
          | _ => if suffix.isNone then some (.token, rest) else none

/-- The words of a declaration up to `>` or `[`, that mark, and the text after it. -/
def readWords? : Nat → List Char → Option (List Word × Char × List Char)
  | 0, _ => none
  | fuel + 1, s =>
    match skipBlanks s with
    | '>' :: rest => some ([], '>', rest)
    | '[' :: rest => some ([], '[', rest)
    | s => do
      let (w, rest) ← readWord? s
      let (more, stop, rest) ← readWords? fuel rest
      return (w :: more, stop, rest)

/-! ## Declarations by kind -/

def isPublicChar (c : Char) : Bool :=
  c.isAlphanum || c == ' ' || c == '\n' || "-'()+,./:=?;!*#@$_%".toList.contains c

/-- Where something outside the document is found, and the words after that. -/
def readLocation? : List Word → Option (List Word)
  | .name ⟨none, "SYSTEM"⟩ none :: .literal _ :: rest => some rest
  | .name ⟨none, "PUBLIC"⟩ none :: .literal id :: .literal _ :: rest =>
    if id.all isPublicChar then some rest else none
  | _ => none

/-- The text of an entity as its declaration gives it: character references are replaced, other
references stay, parameter references are refused. -/
def entityText? : Nat → List Char → Option (List Char)
  | _, [] => some []
  | 0, _ => none
  | fuel + 1, c :: rest =>
    if c = '%' then none
    else if c = '&' then
      match readReference? rest with
      | none => none
      | some (r, after) =>
        let kept : List Char := match rest, r with
          | '#' :: _, .char c => [c]
          | _, _ => c :: rest.take (rest.length - after.length)
        (entityText? fuel after).map (kept ++ ·)
    else (entityText? fuel rest).map (c :: ·)

def readEntity? (d : Declarations) (words : List Word) : Option Declarations :=
  match words with
  | [.mark '%', .name ⟨none, _⟩ none, .literal v] => (entityText? v.length v).map fun _ => d
  | .mark '%' :: .name ⟨none, _⟩ none :: place =>
    match readLocation? place with
    | some [] => some d
    | _ => none
  | [.name ⟨none, n⟩ none, .literal v] =>
    (entityText? v.length v).map fun text => d.declareEntity n (some text)
  | .name ⟨none, n⟩ none :: place =>
    match readLocation? place with
    | some [] => some (d.declareEntity n none)
    | some [.name ⟨none, "NDATA"⟩ none, .name ⟨none, _⟩ none] => some (d.declareEntity n none)
    | _ => none
  | _ => none

def isNotation (words : List Word) : Bool :=
  match words with
  | [.name ⟨none, _⟩ none, .name ⟨none, "PUBLIC"⟩ none, .literal id] => id.all isPublicChar
  | .name ⟨none, _⟩ none :: place =>
    match readLocation? place with
    | some [] => true
    | _ => false
  | _ => false

/-- The words after a list of choices whose opening is already read. -/
def skipChoices? (namesOnly : Bool) : List Word → Option (List Word)
  | .name n none :: .close none :: rest =>
    if namesOnly && n.qualifier.isSome then none else some rest
  | .name n none :: .mark '|' :: rest =>
    if namesOnly && n.qualifier.isSome then none else skipChoices? namesOnly rest
  | .token :: .close none :: rest => if namesOnly then none else some rest
  | .token :: .mark '|' :: rest => if namesOnly then none else skipChoices? namesOnly rest
  | _ => none

def wordTypes : List String :=
  ["ID", "IDREF", "IDREFS", "ENTITY", "ENTITIES", "NMTOKEN", "NMTOKENS"]

/-- Whether an attribute type is a list of words, and the words after the type. -/
def readAttributeType? : List Word → Option (Bool × List Word)
  | .mark '(' :: rest => (skipChoices? false rest).map (true, ·)
  | .name ⟨none, "NOTATION"⟩ none :: .mark '(' :: rest => (skipChoices? true rest).map (true, ·)
  | .name ⟨none, n⟩ none :: rest =>
    if n = "CDATA" then some (false, rest)
    else if wordTypes.contains n then some (true, rest)
    else none
  | _ => none

def readDefault? : List Word → Option (Option (List Char) × List Word)
  | .keyword "REQUIRED" :: rest | .keyword "IMPLIED" :: rest => some (none, rest)
  | .keyword "FIXED" :: .literal v :: rest | .literal v :: rest => some (some v, rest)
  | _ => none

def readAttributeRules? (element : String) : Nat → Declarations → List Word → Option Declarations
  | _, d, [] => some d
  | 0, _, _ => none
  | fuel + 1, d, .name name none :: rest => do
    let (isWords, rest) ← readAttributeType? rest
    let (written, rest) ← readDefault? rest
    let default ← written.mapM fun v => do
      let v ← d.value? (← readValue? v)
      pure (if isWords then joinWords v else v)
    readAttributeRules? element fuel (d.declareAttribute { element, name, isWords, default }) rest
  | _, _, _ => none

/-- Whether words are a model of content: for each open group the mark between its members is
kept, once one is written. -/
def isModel : List (Option Char) → Bool → List Word → Bool
  | [], _, words => words.isEmpty
  | groups, true, .mark '(' :: rest => isModel (none :: groups) true rest
  | groups, true, .name _ _ :: rest => isModel groups false rest
  | _ :: groups, false, .close _ :: rest => isModel groups false rest
  | group :: groups, false, .mark c :: rest =>
    (c == ',' || c == '|') && (group.isNone || group == some c) &&
      isModel (some c :: groups) true rest
  | _, _, _ => false

/-- The rest of a model that mixes text with elements. -/
def isMixed : List Word → Bool
  | [.close (some '*')] => true
  | .mark '|' :: .name _ none :: rest => isMixed rest
  | _ => false

def isElementRule : List Word → Bool
  | [.name _ none, .name ⟨none, "EMPTY"⟩ none] | [.name _ none, .name ⟨none, "ANY"⟩ none] => true
  | [.name _ none, .mark '(', .keyword "PCDATA", .close none] => true
  | .name _ none :: .mark '(' :: .keyword "PCDATA" :: rest => isMixed rest
  | .name _ none :: .mark '(' :: rest => isModel [none] true rest
  | _ => false

/-- The declarations between brackets, and the text after the closing one. After a reference to a
parameter entity, whose declarations are not at hand, nothing counts, unless the document is
standalone. -/
def readSubset? (counts : Bool) (d : Declarations) :
    Nat → List Char → Option (Declarations × List Char)
  | 0, _ => none
  | fuel + 1, s =>
    match skipBlanks s with
    | ']' :: rest => some (d, rest)
    | '%' :: rest => do
      match ← readPlainName? rest with
      | (_, ';' :: rest) => readSubset? d.standalone { d with incomplete := true } fuel rest
      | _ => none
    | '<' :: '?' :: rest => do readSubset? counts d fuel (← skipInstruction? rest)
    | '<' :: '!' :: '-' :: '-' :: rest => do readSubset? counts d fuel (← skipComment? rest)
    | '<' :: '!' :: rest => do
      let (kind, rest) := rest.span Char.isAlpha
      if !goesOnWith [] rest then none
      let (words, stop, rest) ← readWords? fuel rest
      if stop != '>' then none
      match String.ofList kind with
      | "ENTITY" =>
        let next ←
          if counts then readEntity? d words
          else (readEntity? {} (withoutText words)).map fun _ => d
        readSubset? counts next fuel rest
      | "ATTLIST" =>
        match words with
        | .name element none :: rules =>
          let next ← readAttributeRules? element.text rules.length
            (if counts then d else {}) (if counts then rules else withoutText rules)
          readSubset? counts (if counts then next else d) fuel rest
        | _ => none
      | "NOTATION" => if isNotation words then readSubset? counts d fuel rest else none
      | "ELEMENT" => if isElementRule words then readSubset? counts d fuel rest else none
      | _ => none
    | _ => none
where
  /-- The words with empty values: what values hold is not looked at where nothing counts. -/
  withoutText (words : List Word) : List Word := words.map fun w => match w with
    | .literal _ => .literal []
    | w => w

/-- A document type whose `<!DOCTYPE` is already read. -/
def readDoctype? (d : Declarations) (s : List Char) : Option (Declarations × List Char) := do
  if !goesOnWith [] s then none
  let (words, stop, rest) ← readWords? (s.length + 1) s
  let d ← match words with
    | [.name _ none] => some d
    | .name _ none :: place =>
      match readLocation? place with
      | some [] => some { d with incomplete := true }
      | _ => none
    | _ => none
  if stop = '>' then return (d, rest)
  let (d, rest) ← readSubset? true d (rest.length + 1) rest
  match skipBlanks rest with
  | '>' :: rest => some (d, rest)
  | _ => none

end PlanCode.Xml
