/-
  CodeFigure/Toml/Document.lean
  =============================
  **Reading a TOML document (version 1.1).**

  Readers take a list of characters and return what they read together with the
  characters that are left.  Strings and white space end where their own rules
  say, so these readers recurse on what is left of the text.  Values nest, and
  the readers of values are given the number of steps that they may take
  (`fuel`), which the length of the text bounds.

  A document is read line by line, each line changing the table that the lines
  before it have made; the line of the first problem is part of the error.
-/
import CodeFigure.Toml.Scalar

namespace CodeFigure.Toml

/-! ### White space and comments -/

/-- `c` separates the parts of a line. -/
def isSpace (c : Char) : Bool := c == ' ' || c == '\t'

def skipSpaces (s : List Char) : List Char := s.dropWhile isSpace

/-- `c` can stand in a line of text: a tab, or no control character. -/
def isTextChar (c : Char) : Bool := c == '\t' || (decide (0x20 ≤ c.toNat) && c.toNat != 0x7F)

def afterNewline? : List Char → Option (List Char)
  | '\n' :: rest => some rest
  | '\r' :: '\n' :: rest => some rest
  | _ => none

/-- `s` without spaces and a comment at its start. -/
def skipComment (s : List Char) : List Char :=
  match skipSpaces s with
  | '#' :: rest => rest.dropWhile isTextChar
  | s => s

def lineEnd (s : List Char) : Except Problem (List Char) :=
  match skipComment s with
  | [] => .ok []
  | s =>
    match afterNewline? s with
    | some rest => .ok rest
    | none => .error (.expected "the end of the line")

/-- `s` without spaces, line ends and comments at its start.  In a comment only
    the line end is looked for. -/
def skipLines (inComment : Bool) : List Char → Except Problem (List Char)
  | [] => .ok []
  | '\r' :: '\n' :: rest => skipLines false rest
  | c :: rest =>
    if c = '\n' then skipLines false rest
    else if inComment then
      if isTextChar c then skipLines true rest else .error (.expected "printable text in a comment")
    else if isSpace c then skipLines false rest
    else if c = '#' then skipLines true rest
    else .ok (c :: rest)

/-! ### Strings -/

def codePoint? (digits : List Char) : Option Char :=
  let value := Scalar.valueOf 16 digits
  if digits.all Scalar.isHexDigit = true ∧ value.isValidChar then some (Char.ofNat value) else none

def hexEscape? (count : Nat) (s : List Char) : Option (Char × Nat) :=
  if (s.take count).length = count then (codePoint? (s.take count)).map fun c => (c, count + 1)
  else none

/-- What the characters behind a backslash stand for, and how many of them
    belong to the escape. -/
def escape? : List Char → Option (Char × Nat)
  | 'b' :: _ => some ('\x08', 1)
  | 't' :: _ => some ('\t', 1)
  | 'n' :: _ => some ('\n', 1)
  | 'f' :: _ => some ('\x0C', 1)
  | 'r' :: _ => some ('\r', 1)
  | 'e' :: _ => some ('\x1B', 1)
  | '\x22' :: _ => some ('\x22', 1)
  | '\\' :: _ => some ('\\', 1)
  | 'x' :: rest => hexEscape? 2 rest
  | 'u' :: rest => hexEscape? 4 rest
  | 'U' :: rest => hexEscape? 8 rest
  | _ => none

/-- How a string is written: its quote, and whether it may span lines. -/
structure QuoteStyle where
  quote : Char
  multiline : Bool

/-- Only strings in double quotes have escapes. -/
def QuoteStyle.hasEscapes (style : QuoteStyle) : Bool := style.quote == '\x22'

def isLineRest (s : List Char) : Bool := (afterNewline? (skipSpaces s)).isSome

def skipBlanks : List Char → List Char
  | [] => []
  | '\r' :: '\n' :: rest => skipBlanks rest
  | c :: rest => if isSpace c || c == '\n' then skipBlanks rest else c :: rest

theorem length_skipBlanks_le (s : List Char) : (skipBlanks s).length ≤ s.length := by
  fun_induction skipBlanks s with
  | case1 => exact Nat.le_refl _
  | case2 rest ih =>
    simp only [List.length_cons]
    omega
  | case3 c rest _ _ ih =>
    simp only [List.length_cons]
    omega
  | case4 => exact Nat.le_refl _

def startsWithNewline (s : List Char) : Bool := (afterNewline? s).isSome

/-- The quotes at the start of `s` that can belong to the end of a string of
    many lines: three that end it, and up to two more in front of them. -/
def closingQuotes (quote : Char) (s : List Char) : Nat :=
  ((s.take 5).takeWhile (· == quote)).length

/-- The content of a string, from behind its opening quotes.  Line ends belong to
    the content as they are written; a backslash at the end of a line takes the
    white space behind it away. -/
def stringBody (style : QuoteStyle) (s : List Char) : Except Problem (List Char × List Char) :=
  match s with
  | [] => .error (.expected "closing quotes")
  | c :: rest =>
    if c = style.quote then
      if !style.multiline then .ok ([], rest)
      else
        let quotes := closingQuotes style.quote (c :: rest)
        if 3 ≤ quotes then .ok (List.replicate (quotes - 3) c, (c :: rest).drop quotes)
        else do
          let (content, left) ← stringBody style rest
          pure (c :: content, left)
    else if c = '\\' ∧ style.hasEscapes = true then
      if style.multiline && isLineRest rest then stringBody style (skipBlanks rest)
      else
        match escape? rest with
        | none => .error (.expected "an escape sequence")
        | some (escaped, length) => do
          let (content, left) ← stringBody style (rest.drop length)
          pure (escaped :: content, left)
    else if isTextChar c || (style.multiline && startsWithNewline (c :: rest)) then do
      let (content, left) ← stringBody style rest
      pure (c :: content, left)
    else .error (.expected "printable text in a string")
termination_by s.length
decreasing_by
  all_goals simp only [List.length_cons]
  all_goals first
    | exact Nat.lt_succ_of_le (length_skipBlanks_le _)
    | simp only [List.length_drop]; omega
    | omega

def lineString (quote : Char) (s : List Char) : Except Problem (String × List Char) := do
  let (content, rest) ← stringBody ⟨quote, false⟩ s
  pure (String.ofList content, rest)

/-- The string whose first quote has been read.  A line end directly behind the
    opening quotes of a string of many lines does not count. -/
def anyString (quote : Char) (s : List Char) : Except Problem (String × List Char) :=
  match s with
  | c :: d :: rest =>
    if c = quote ∧ d = quote then do
      let (content, left) ← stringBody ⟨quote, true⟩ ((afterNewline? rest).getD rest)
      pure (String.ofList content, left)
    else lineString quote s
  | _ => lineString quote s

/-! ### Keys -/

/-- How deep values may nest, and how many parts a key may have. -/
def maxDepth : Nat := 80

def isBareKeyChar (c : Char) : Bool := c.isAlphanum || c == '_' || c == '-'

def keyPart (s : List Char) : Except Problem (String × List Char) :=
  match s with
  | '\x22' :: rest => lineString '\x22' rest
  | '\x27' :: rest => lineString '\x27' rest
  | _ =>
    match s.takeWhile isBareKeyChar with
    | [] => .error (.expected "a key")
    | key => .ok (String.ofList key, s.dropWhile isBareKeyChar)

/-- A key of so many parts at most: the parts before the last, the last, and what
    follows behind spaces. -/
def keyPath : Nat → List Char → Except Problem ((List String × String) × List Char)
  | 0, _ => .error .tooDeep
  | parts + 1, s => do
    let (key, rest) ← keyPart s
    match skipSpaces rest with
    | '.' :: rest => do
      let ((path, last), left) ← keyPath parts (skipSpaces rest)
      pure ((key :: path, last), left)
    | rest => pure (([], key), rest)

/-! ### Values -/

def isScalarChar (c : Char) : Bool :=
  c.isAlphanum || c == '_' || c == '+' || c == '-' || c == '.' || c == ':'

def scalar (s : List Char) : Except Problem (Value × List Char) := do
  let written := s.takeWhile isScalarChar
  let rest := s.dropWhile isScalarChar
  match Scalar.afterDate? written, rest with
  | some [], ' ' :: c :: more =>
    if c.isDigit then
      let value ← Scalar.read (written ++ 'T' :: (c :: more).takeWhile isScalarChar)
      pure (value, (c :: more).dropWhile isScalarChar)
    else do
      let value ← Scalar.read written
      pure (value, rest)
  | _, _ =>
    let value ← Scalar.read written
    pure (value, rest)

mutual

def value : Nat → Nat → List Char → Except Problem (Value × List Char)
  | 0, _, _ => .error .tooDeep
  | fuel + 1, depth, s =>
    match s with
    | '\x22' :: rest => do
      let (content, left) ← anyString '\x22' rest
      pure (.text content, left)
    | '\x27' :: rest => do
      let (content, left) ← anyString '\x27' rest
      pure (.text content, left)
    | '[' :: rest =>
      match depth with
      | 0 => .error .tooDeep
      | depth + 1 => do
        let (items, left) ← arrayItems fuel depth rest
        pure (.array items, left)
    | '{' :: rest =>
      match depth with
      | 0 => .error .tooDeep
      | depth + 1 => do
        let (entries, left) ← inlineEntries fuel depth [] rest
        pure (.table .inline entries, left)
    | _ => scalar s

def arrayItems : Nat → Nat → List Char → Except Problem (List Value × List Char)
  | 0, _, _ => .error .tooDeep
  | fuel + 1, depth, s => do
    match ← skipLines false s with
    | ']' :: rest => pure ([], rest)
    | s => do
      let (item, rest) ← value fuel depth s
      match ← skipLines false rest with
      | ',' :: rest => do
        let (items, left) ← arrayItems fuel depth rest
        pure (item :: items, left)
      | ']' :: rest => pure ([item], rest)
      | _ => .error (.expected "a comma or the end of the array")

/-- The entries of a table that is one value, added to `table`, up to its closing
    brace.  They may be spread over lines, between a key and its value as well. -/
def inlineEntries : Nat → Nat → Table → List Char → Except Problem (Table × List Char)
  | 0, _, _, _ => .error .tooDeep
  | fuel + 1, depth, table, s => do
    match ← skipLines false s with
    | '}' :: rest => pure (table, rest)
    | s => do
      let ((path, key), rest) ← keyPath maxDepth s
      match ← skipLines false rest with
      | '=' :: rest => do
        let (given, rest) ← value fuel depth (← skipLines false rest)
        let (_, table) ← Table.giveDotted path key given .inline table
        match ← skipLines false rest with
        | ',' :: rest => inlineEntries fuel depth table rest
        | '}' :: rest => pure (table, rest)
        | _ => .error (.expected "a comma or the end of the table")
      | _ => .error (.expected "an equals sign")

end

/-! ### Lines -/

/-- What has been read: the document, and the path of the header that the
    following keys belong to. -/
structure Progress where
  root : Table
  current : List String

def Progress.change (progress : Progress) (change : Table.Change) (path current : List String) :
    Except Problem Progress := do
  let (_, root) ← Table.changeAt .implied change path .header progress.root
  pure ⟨root, current⟩

def headerLine (progress : Progress) (s : List Char) :
    Except Problem (Progress × List Char) := do
  let ((path, key), rest) ← keyPath maxDepth (skipSpaces s)
  match rest with
  | ']' :: rest => do
    let progress ← progress.change (Table.openTable key) path (path ++ [key])
    pure (progress, rest)
  | _ => .error (.expected "a closing bracket")

def elementLine (progress : Progress) (s : List Char) :
    Except Problem (Progress × List Char) := do
  let ((path, key), rest) ← keyPath maxDepth (skipSpaces s)
  match rest with
  | ']' :: ']' :: rest => do
    let progress ← progress.change (Table.openElement key) path (path ++ [key])
    pure (progress, rest)
  | _ => .error (.expected "two closing brackets")

def keyLine (fuel : Nat) (progress : Progress) (s : List Char) :
    Except Problem (Progress × List Char) := do
  let ((path, key), rest) ← keyPath maxDepth s
  match rest with
  | '=' :: rest => do
    let (given, rest) ← value fuel maxDepth (skipSpaces rest)
    let progress ← progress.change (Table.giveDotted path key given) progress.current
      progress.current
    pure (progress, rest)
  | _ => .error (.expected "an equals sign")

def lineContent (fuel : Nat) (progress : Progress) (s : List Char) :
    Except Problem (Progress × List Char) :=
  match skipSpaces s with
  | [] => .ok (progress, [])
  | '#' :: rest => .ok (progress, '#' :: rest)
  | '[' :: '[' :: rest => elementLine progress rest
  | '[' :: rest => headerLine progress rest
  | s => if (afterNewline? s).isSome then .ok (progress, s) else keyLine fuel progress s

def line (fuel : Nat) (progress : Progress) (s : List Char) :
    Except Problem (Progress × List Char) := do
  let (progress, rest) ← lineContent fuel progress s
  let rest ← lineEnd rest
  pure (progress, rest)

/-! ### Documents -/

/-- Why a text is no document: the problem, and how many characters were left
    at the start of its line. -/
structure ReadError where
  problem : Problem
  left : Nat
deriving DecidableEq, Repr

/-- All lines, after `progress`.  Every line takes a character at least, so fuel
    that exceeds the length of the text still does on the next line. -/
def readLines : Nat → Progress → List Char → Except ReadError Table
  | _, progress, [] => .ok progress.root
  | 0, _, s => .error ⟨.tooDeep, s.length⟩
  | fuel + 1, progress, s =>
    match line (fuel + 1) progress s with
    | .ok (progress, rest) => readLines fuel progress rest
    | .error problem => .error ⟨problem, s.length⟩

def skipMark : List Char → List Char
  | '\uFEFF' :: rest => rest
  | s => s

structure Error where
  line : Option Nat
  problem : Problem
deriving DecidableEq, Repr

def Error.message (error : Error) : String :=
  match error.line with
  | some line => "line " ++ toString line ++ ": " ++ error.problem.message
  | none => error.problem.message

def lineNumber (s : List Char) (left : Nat) : Nat := (s.take (s.length - left)).count '\n' + 1

def parse (source : String) : Except Error Table :=
  let s := skipMark source.toList
  match readLines (s.length + 1) ⟨[], []⟩ s with
  | .ok table => .ok table
  | .error error => .error ⟨some (lineNumber s error.left), error.problem⟩

end CodeFigure.Toml
