import PlanCode.Xml.Reference

/-!
# Tokens of XML content

Content is a sequence of tags, text and references to entities. Comments and
processing instructions are checked and leave no token, so the text around them
joins. Text that is written as it is and text from references or marked sections
are kept apart: outside the root element only blanks of the first kind may stand.

* `skipComment?_append`: a comment without hyphens ends at its mark.
-/
namespace PlanCode.Xml

inductive Token where
  | opening (name : Name) (attributes : List (Name × List Reference)) (closed : Bool)
  | closing (name : Name)
  | text (s : List Char)
  /-- Text from a marked section or a reference. -/
  | marked (s : List Char)
  | entity (name : String)

/-- The text before the first occurrence of a word, last character first, and the text after it. -/
def splitAt? (word : List Char) (seen : List Char) : List Char → Option (List Char × List Char)
  | [] => none
  | c :: rest =>
    if word.isPrefixOf (c :: rest) then some (seen, (c :: rest).drop word.length)
    else splitAt? word (c :: seen) rest

/-- The text after a comment whose opening is already read; two hyphens can only end it. -/
def skipComment? : List Char → Option (List Char)
  | [] => none
  | '-' :: '-' :: '>' :: rest => some rest
  | '-' :: '-' :: _ => none
  | _ :: rest => skipComment? rest

theorem skipComment?_append {s : List Char} (h : '-' ∉ s) (rest : List Char) :
    skipComment? (s ++ '-' :: '-' :: '>' :: rest) = some rest := by
  induction s with
  | nil => simp [skipComment?]
  | cons c s ih =>
    simp only [List.mem_cons, not_or] at h
    rw [List.cons_append, skipComment?, ih h.2]
    · exact fun _ e _ => h.1 e.symm
    · exact fun _ e _ => h.1 e.symm

/-- The text after an instruction whose `<?` is already read. The target `xml` is reserved. -/
def skipInstruction? (s : List Char) : Option (List Char) := do
  let (target, rest) ← readPlainName? s
  if target.toLower == "xml" then none
  match rest with
  | '?' :: '>' :: rest => some rest
  | c :: rest => if isBlank c then (splitAt? ['?', '>'] [] rest).map (·.2) else none
  | [] => none

/-- What is left of an opening tag after its name: attributes, whether it also closes the element,
and the text after it. -/
def readAttributes? : Nat → List Char → Option (List (Name × List Reference) × Bool × List Char)
  | 0, _ => none
  | fuel + 1, s =>
    match skipBlanks s with
    | '>' :: rest => some ([], false, rest)
    | '/' :: '>' :: rest => some ([], true, rest)
    | inside =>
      if !s.head?.any isBlank then none
      else do
        let (name, rest) ← readName? inside
        match skipBlanks rest with
        | '=' :: rest =>
          let (value, rest) ← readQuotedValue? (skipBlanks rest)
          let (more, closed, rest) ← readAttributes? fuel rest
          return ((name, value) :: more, closed, rest)
        | _ => none

/-- One piece of markup whose `<` is already read. -/
def readMarkup? (fuel : Nat) (s : List Char) : Option (Option Token × List Char) :=
  match s with
  | '/' :: rest => do
    let (name, rest) ← readName? rest
    match skipBlanks rest with
    | '>' :: rest => some (some (.closing name), rest)
    | _ => none
  | '?' :: rest => (skipInstruction? rest).map (none, ·)
  | '!' :: '-' :: '-' :: rest => (skipComment? rest).map (none, ·)
  | '!' :: rest => do
    let rest ← expect? "[CDATA[" rest
    let (seen, rest) ← splitAt? [']', ']', '>'] [] rest
    return (some (.marked seen.reverse), rest)
  | s => do
    let (name, rest) ← readName? s
    let (attributes, closed, rest) ← readAttributes? fuel rest
    return (some (.opening name attributes closed), rest)

/-- The tokens of a content, added in reverse to those seen. -/
def readTokensFrom? (seen : List Token) : Nat → List Char → Option (List Token)
  | _, [] => some seen
  | 0, _ => none
  | fuel + 1, c :: rest =>
    if c = '<' then
      match readMarkup? fuel rest with
      | some (some t, rest) => readTokensFrom? (t :: seen) fuel rest
      | some (none, rest) => readTokensFrom? seen fuel rest
      | none => none
    else if c = '&' then
      match readReference? rest with
      | some (.char c, rest) => readTokensFrom? (.marked [c] :: seen) fuel rest
      | some (.entity name, rest) => readTokensFrom? (.entity name :: seen) fuel rest
      | none => none
    else
      let (run, rest) := (c :: rest).span fun c => c != '<' && c != '&'
      if Text.occursIn [']', ']', '>'] run then none
      else readTokensFrom? (.text run :: seen) fuel rest

/-- The tokens of a content with normalized line ends. -/
def readTokens? (s : List Char) : Option (List Token) :=
  (readTokensFrom? [] s.length s).map List.reverse

end PlanCode.Xml
