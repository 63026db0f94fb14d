import PlanCode.Number.Numeral
import PlanCode.Text.Hex
import PlanCode.Text.Identifier

/-!
# Values of marks

A mark whose name begins with `@` may hand on a value, which stands after `=`: the name of an action
with its arguments in brackets, or arguments alone. The arguments are constants: numbers and sums of
a number and an imaginary one, texts and bytes, the words `True`, `False` and `None`, and groups,
sets and mappings of constants. Members of a set and keys of a mapping may not hold sets or
mappings.

* `isValue_nil`: an action without brackets has no arguments.
-/
namespace PlanCode.CommandLine.MarkValue

/-- What is known of a constant. -/
inductive Kind where
  /-- A number without a sign, or an imaginary one. -/
  | number (isImaginary : Bool)
  /-- A number with a sign. -/
  | signed (isImaginary : Bool)
  /-- Another constant, which may or may not be a member of a set. -/
  | other (isMember : Bool)
deriving DecidableEq, Repr

def Kind.isMember : Kind → Bool
  | .other b => b
  | _ => true

/-! ## Words and numbers -/

def isWordChar (c : Char) : Bool := Text.isIdentifierContinue c

/-- A text without the line that its first comment takes. -/
def skipComment (s : List Char) : List Char := s.dropWhile fun c => c != '\n' && c != '\r'

/-- The text after blanks; inside brackets lines may end and comments may stand. -/
def skipBlanks (inside : Bool) : Nat → List Char → List Char
  | 0, s => s
  | fuel + 1, s =>
    match s with
    | '\\' :: '\n' :: rest => skipBlanks inside fuel rest
    | c :: rest =>
      if c = ' ' || c = '\t' || c = '\x0c' || (inside && (c = '\n' || c = '\r')) then
        skipBlanks inside fuel rest
      else if inside && c = '#' then skipBlanks inside fuel (skipComment rest)
      else s
    | [] => []

def skip (inside : Bool) (s : List Char) : List Char := skipBlanks inside (s.length + 1) s

/-- Digits of some kind, with single low lines between them. -/
def readDigits? (isDigit : Char → Bool) : Nat → List Char → Option (List Char × List Char)
  | 0, _ => none
  | fuel + 1, c :: rest =>
    if !isDigit c then none
    else
      let after := match rest with
        | '_' :: rest => readDigits? isDigit fuel rest
        | rest => if rest.head?.any isDigit then readDigits? isDigit fuel rest else some ([], rest)
      after.map fun (digits, rest) => (c :: digits, rest)
  | _, [] => none

/-- A whole number whose base is marked. -/
def readMarked? (s : List Char) : Option (Kind × List Char) :=
  let digits? (isDigit : Char → Bool) (rest : List Char) : Option (Kind × List Char) :=
    let rest := if rest.head? == some '_' then rest.tail else rest
    (readDigits? isDigit rest.length rest).map fun (_, rest) => (.number false, rest)
  match s with
  | '0' :: mark :: rest =>
    if mark = 'x' || mark = 'X' then digits? (fun c => (Text.hexValue? c).isSome) rest
    else if mark = 'o' || mark = 'O' then digits? (fun c => '0' ≤ c && c ≤ '7') rest
    else if mark = 'b' || mark = 'B' then digits? (fun c => c == '0' || c == '1') rest
    else none
  | _ => none

/-- An exponent, or nothing; whether there is one. -/
def spanExponent (s : List Char) : Bool × List Char :=
  match s with
  | e :: rest =>
    let (_, digits) := Number.spanSign rest
    match readDigits? Char.isDigit digits.length digits with
    | some (_, after) => if e = 'e' || e = 'E' then (true, after) else (false, s)
    | none => (false, s)
  | [] => (false, [])

/-- A decimal number. A whole number begins with no needless zero, and has no more digits than can
be read. -/
def readDecimal? (s : List Char) : Option (Kind × List Char) := do
  let (whole, rest) := (readDigits? Char.isDigit s.length s).getD ([], s)
  let (fraction?, rest) : Option (List Char) × List Char := match rest with
    | '.' :: rest =>
      match readDigits? Char.isDigit rest.length rest with
      | some (digits, rest) => (some digits, rest)
      | none => (some [], rest)
    | rest => (none, rest)
  if whole.isEmpty && (fraction?.getD []).isEmpty then none
  let (hasExponent, rest) := spanExponent rest
  let isReal := hasExponent || fraction?.isSome
  match rest with
  | 'j' :: rest | 'J' :: rest => some (.number true, rest)
  | rest =>
    let isPlain := whole.head? != some '0' || whole.all (· == '0')
    if isReal || (isPlain && whole.length ≤ Number.maxWholeDigits) then some (.number false, rest)
    else none

/-- A number that no further word characters follow. -/
def readNumber? (s : List Char) : Option (Kind × List Char) :=
  ((readMarked? s).or (readDecimal? s)).filter fun (_, rest) => !rest.head?.any isWordChar

/-! ## Texts -/

/-- How a text is written. -/
structure Spelling where
  isRaw : Bool
  isBytes : Bool
  /-- One quote, or three. -/
  quote : List Char
deriving DecidableEq, Repr

/-- The spellings by the letters before the quote. -/
def spellings : List (String × Bool × Bool) := [
  ("", false, false), ("r", true, false), ("u", false, false), ("b", false, true),
  ("br", true, true), ("rb", true, true)]

def readSpelling? (s : List Char) : Option (Spelling × List Char) := do
  let (letters, rest) := s.span Char.isAlpha
  let word := String.ofList (letters.map Char.toLower)
  let (_, isRaw, isBytes) ← spellings.find? (·.1 == word)
  match rest with
  | a :: b :: c :: more =>
    if !(a == '\'' || a == '"') then none
    if a = b && b = c then some ({ isRaw, isBytes, quote := [a, b, c] }, more)
    else some ({ isRaw, isBytes, quote := [a] }, b :: c :: more)
  | a :: more =>
    if a == '\'' || a == '"' then some ({ isRaw, isBytes, quote := [a] }, more) else none
  | [] => none

/-- Some hexadecimal digits that number a character. -/
def isCode (count : Nat) (s : List Char) : Bool :=
  (s.take count).length == count && match Text.readHex? (s.take count) with
    | some n => n ≤ 0x10FFFF
    | none => false

/-- A name of a character in braces. -/
def isNamed (s : List Char) : Bool :=
  match s with
  | '\x7b' :: rest =>
    let (name, after) := rest.span fun c => c.isAlphanum || c == ' ' || c == '-'
    !name.isEmpty && after.head? == some '\x7d'
  | _ => false

/-- Whether what follows a backslash is an escape; most characters stand for themselves. -/
def isEscape (isBytes : Bool) (s : List Char) : Bool :=
  match s with
  | 'x' :: rest => isCode 2 rest
  | 'u' :: rest => isBytes || isCode 4 rest
  | 'U' :: rest => isBytes || isCode 8 rest
  | 'N' :: rest => isBytes || isNamed rest
  | s => !s.isEmpty

/-- The text after the closing quote. -/
def closeText? (p : Spelling) : Nat → List Char → Option (List Char)
  | 0, _ => none
  | fuel + 1, s =>
    if p.quote.isPrefixOf s then some (s.drop p.quote.length)
    else match s with
      | '\\' :: rest =>
        if (p.isRaw && !rest.isEmpty) || isEscape p.isBytes rest then
          closeText? p fuel (rest.drop 1)
        else none
      | c :: rest =>
        if (p.quote.length = 1 && (c = '\n' || c = '\r')) || (p.isBytes && 0x80 ≤ c.toNat) then none
        else closeText? p fuel rest
      | [] => none

/-- One text, or several of one kind one after another. -/
def readTexts? (inside : Bool) (isBytes : Option Bool) : Nat → List Char → Option (Kind × List Char)
  | 0, _ => none
  | fuel + 1, s => do
    let (p, body) ← readSpelling? s
    if isBytes == some !p.isBytes then none
    let rest ← closeText? p (body.length + 1) body
    let next := skip inside rest
    if (readSpelling? next).isSome then readTexts? inside (some p.isBytes) fuel next
    else some (.other true, rest)

/-! ## Constants -/

/-- The words that are constants, and the one for an empty set. -/
def constantWords : List String := ["True", "False", "None"]

def readWord? (inside : Bool) (s : List Char) : Option (Kind × List Char) :=
  let (word, rest) := s.span isWordChar
  if constantWords.contains (String.ofList word) then some (.other true, rest)
  else if word == "set".toList then
    match skip inside rest with
    | '(' :: rest =>
      match skip true rest with
      | ')' :: rest => some (.other false, rest)
      | _ => none
    | _ => none
  else none

mutual

/-- A constant: a signed one, or one to which an imaginary one may be added. -/
def readConstant? (inside : Bool) : Nat → List Char → Option (Kind × List Char)
  | 0, _ => none
  | fuel + 1, s => do
    let (first, rest) ← readTerm? inside fuel s
    match first, skip inside rest with
    | .number false, sign :: more | .signed false, sign :: more =>
      if sign = '+' || sign = '-' then
        match ← readAtom? inside fuel (skip inside more) with
        | (.number true, rest) => some (.other true, rest)
        | _ => none
      else some (first, rest)
    | _, _ => some (first, rest)

/-- A constant with a sign, if it is a number, or without one. -/
def readTerm? (inside : Bool) : Nat → List Char → Option (Kind × List Char)
  | 0, _ => none
  | fuel + 1, s =>
    match s with
    | '+' :: rest | '-' :: rest =>
      match readAtom? inside fuel (skip inside rest) with
      | some (.number isImaginary, rest) => some (.signed isImaginary, rest)
      | _ => none
    | s => readAtom? inside fuel s

def readAtom? (inside : Bool) : Nat → List Char → Option (Kind × List Char)
  | 0, _ => none
  | fuel + 1, s =>
    match s with
    | '.' :: '.' :: '.' :: rest => some (.other true, rest)
    | '(' :: rest => readGroup? fuel (skip true rest)
    | '\x7b' :: rest => readMembers? fuel (skip true rest)
    | s => ((readTexts? inside none s.length s).or (readNumber? s)).or (readWord? inside s)

/-- What stands in round brackets: one constant, or any number of them. -/
def readGroup? : Nat → List Char → Option (Kind × List Char)
  | 0, _ => none
  | fuel + 1, s =>
    match s with
    | ')' :: rest => some (.other true, rest)
    | s => do
      let (first, rest) ← readConstant? true fuel s
      match skip true rest with
      | ')' :: rest => some (first, rest)
      | ',' :: rest =>
        let (isMember, rest) ← readItems? fuel (skip true rest)
        some (.other (first.isMember && isMember), rest)
      | _ => none

/-- The further constants up to the closing bracket, and whether all may be members of a set. -/
def readItems? : Nat → List Char → Option (Bool × List Char)
  | 0, _ => none
  | fuel + 1, s =>
    match s with
    | ')' :: rest => some (true, rest)
    | s => do
      let (first, rest) ← readConstant? true fuel s
      match skip true rest with
      | ')' :: rest => some (first.isMember, rest)
      | ',' :: rest =>
        let (isMember, rest) ← readItems? fuel (skip true rest)
        some (first.isMember && isMember, rest)
      | _ => none

/-- What stands in braces: the members of a set or the entries of a mapping. -/
def readMembers? : Nat → List Char → Option (Kind × List Char)
  | 0, _ => none
  | fuel + 1, s =>
    match s with
    | '\x7d' :: rest => some (.other false, rest)
    | s => do
      let (first, rest) ← readConstant? true fuel s
      if !first.isMember then none
      match skip true rest with
      | ':' :: rest =>
        let (_, rest) ← readConstant? true fuel (skip true rest)
        closeMembers? true fuel (skip true rest)
      | rest => closeMembers? false fuel rest

/-- The further members of a set, or entries of a mapping, up to the closing brace. -/
def closeMembers? (isMap : Bool) : Nat → List Char → Option (Kind × List Char)
  | 0, _ => none
  | fuel + 1, s =>
    match s with
    | '\x7d' :: rest => some (.other false, rest)
    | ',' :: rest =>
      match skip true rest with
      | '\x7d' :: rest => some (.other false, rest)
      | s => do
        let (first, rest) ← readConstant? true fuel s
        if !first.isMember then none
        if !isMap then closeMembers? isMap fuel (skip true rest)
        else match skip true rest with
          | ':' :: rest =>
            let (_, rest) ← readConstant? true fuel (skip true rest)
            closeMembers? isMap fuel (skip true rest)
          | _ => none
    | _ => none

end

/-- Constants after one another up to the end of the text. -/
def endsWell (fuel : Nat) : Nat → List Char → Bool
  | 0, _ => false
  | n + 1, s =>
    match skip false s with
    | ',' :: rest =>
      if (skip true rest).isEmpty then true
      else match readConstant? false fuel (skip false rest) with
        | some (_, rest) => endsWell fuel n rest
        | none => false
    | rest => (skip true rest).isEmpty

/-- Whether a text is one constant or several. -/
def isConstant (s : List Char) : Bool :=
  let fuel := 4 * s.length + 4
  match readConstant? false fuel (skip true s) with
  | some (_, rest) => endsWell fuel fuel rest
  | none => false

/-- The arguments of an action, in brackets; an action without brackets has none, and without an
action everything is arguments. -/
def argumentsOf (s : List Char) : List Char :=
  match s.dropWhile fun c => isWordChar c || c == '.' with
  | [] => ['(', ')']
  | rest =>
    if rest.head? == some '(' && rest.getLast? == some ')' && !rest.contains '\n' then rest else s

def isValue (s : List Char) : Bool :=
  s.isEmpty || (!s.contains '\x00' && isConstant (argumentsOf (Text.trimChars s)))

theorem isValue_nil : isValue [] = true ∧ isValue "app.bell".toList = true := by decide +kernel

end PlanCode.CommandLine.MarkValue
