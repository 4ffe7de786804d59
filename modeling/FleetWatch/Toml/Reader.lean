import FleetWatch.Toml.Scalar
import FleetWatch.Toml.Tree

/-! # Reading TOML

A document is a sequence of lines, each a header, a key with its value, or nothing, with perhaps a
comment behind it. Arrays and tables in braces may go on over lines and nest up to eighty levels,
and no key has more parts than that. The functions that read along a document take a bound on their
steps, which the length of the document gives.
-/

namespace FleetWatch.Toml

/-- How deep arrays and tables in braces may nest, and how many parts a key may have. -/
def nesting : Nat := 80

/-- A text without the blanks it begins with. -/
def skipBlanks (text : List Char) : List Char := text.dropWhile fun c => c = ' ' || c = '\t'

/-- A text without the blanks, line ends and comments it begins with; nothing when a comment holds
a character that it may not hold. -/
def skipLines? (inComment : Bool) : List Char → Option (List Char)
  | [] => some []
  | '\n' :: rest => skipLines? false rest
  | '\r' :: '\n' :: rest => skipLines? false rest
  | c :: rest =>
    if inComment then (if isPlain c then skipLines? true rest else none)
    else if c = '#' then skipLines? true rest
    else if c = ' ' || c = '\t' then skipLines? false rest
    else some (c :: rest)

/-- The text behind the end of a line on which nothing more stands than a comment. -/
def endLine? (inComment : Bool) : List Char → Option (List Char)
  | [] => some []
  | '\n' :: rest => some rest
  | '\r' :: '\n' :: rest => some rest
  | c :: rest =>
    if inComment then (if isPlain c then endLine? true rest else none)
    else if c = '#' then endLine? true rest
    else if c = ' ' || c = '\t' then endLine? false rest
    else none

/-- Whether a character may stand in a key without quotes. -/
def isKeyChar (c : Char) : Bool := c.isAlphanum || c = '_' || c = '-'

def keyPart? : List Char → Option (String × List Char)
  | '"' :: rest => (basic? rest).map fun (cs, rest) => (String.ofList cs, rest)
  | '\'' :: rest => (literal? rest).map fun (cs, rest) => (String.ofList cs, rest)
  | cs =>
    let bare := cs.takeWhile isKeyChar
    if bare.isEmpty then none else some (String.ofList bare, cs.dropWhile isKeyChar)

/-- The parts of a key, with dots between them; there may be so many of them. -/
def keyParts? : Nat → List Char → Option (List String × List Char)
  | 0, _ => none
  | room + 1, cs => do
    let (part, rest) ← keyPart? (skipBlanks cs)
    match skipBlanks rest with
    | '.' :: more =>
      let (parts, rest) ← keyParts? room more
      return (part :: parts, rest)
    | rest => return ([part], rest)

/-- A key and the text behind it. -/
def key? (cs : List Char) : Option (List String × List Char) := keyParts? nesting cs

/-- A value in one or three quotes, and the text behind it. -/
def quoted? : List Char → Option (Toml × List Char)
  | '"' :: '"' :: '"' :: rest => text? (basicLines? false (withoutFirstBreak rest))
  | '\'' :: '\'' :: '\'' :: rest => text? (literalLines? (withoutFirstBreak rest))
  | '"' :: rest => text? (basic? rest)
  | '\'' :: rest => text? (literal? rest)
  | _ => none
where
  /-- The value of a string that was read. -/
  text? (found : Option (List Char × List Char)) : Option (Toml × List Char) :=
    found.map fun (cs, rest) => (text (String.ofList cs), rest)

mutual

/-- A value and the text behind it; `depth` levels may still be opened. -/
def value? : Nat → Nat → List Char → Option (Toml × List Char)
  | 0, _, _ => none
  | _ + 1, 0, '[' :: _ => none
  | _ + 1, 0, '{' :: _ => none
  | fuel + 1, depth + 1, '[' :: rest => items? fuel depth [] rest
  | fuel + 1, depth + 1, '{' :: rest => pairs? fuel depth Node.root rest
  | _ + 1, _, cs =>
    match quoted? cs with
    | some found => some found
    | none =>
      let (word, rest) := cutWord cs
      (word? word).map (·, rest)

/-- The items of an array behind those already found, which are given in reverse. -/
def items? : Nat → Nat → List Toml → List Char → Option (Toml × List Char)
  | 0, _, _, _ => none
  | fuel + 1, depth, found, cs => do
    match ← skipLines? false cs with
    | ']' :: rest => return (array found.reverse, rest)
    | start =>
      let (v, rest) ← value? fuel depth start
      match ← skipLines? false rest with
      | ',' :: more => items? fuel depth (v :: found) more
      | ']' :: more => return (array (v :: found).reverse, more)
      | _ => none

/-- The keys of a table in braces behind those already in it. -/
def pairs? : Nat → Nat → Node → List Char → Option (Toml × List Char)
  | 0, _, _, _ => none
  | fuel + 1, depth, node, cs => do
    match ← skipLines? false cs with
    | '}' :: rest => return (node.toToml, rest)
    | start =>
      let (path, rest) ← key? start
      match ← skipLines? false rest with
      | '=' :: rest =>
        let (v, rest) ← value? fuel depth (← skipLines? false rest)
        let node ← node.assign? path v
        match ← skipLines? false rest with
        | ',' :: more => pairs? fuel depth node more
        | '}' :: more => return (node.toToml, more)
        | _ => none
      | _ => none

end

/-- The brackets that end a header, and the text behind them. -/
def closeHeader? (isArray : Bool) : List Char → Option (List Char)
  | ']' :: ']' :: rest => if isArray then some rest else none
  | ']' :: rest => if isArray then none else some rest
  | _ => none

/-- The lines of a document, those before them being in the tree already; `current` is the table
that the last header named. -/
def lines? : Nat → List String → Node → List Char → Option Node
  | 0, _, _, _ => none
  | fuel + 1, current, node, cs => do
    match ← skipLines? false cs with
    | [] => return node
    | '[' :: rest =>
      let isArray := rest.head? = some '['
      let (path, rest) ← key? (if isArray then rest.drop 1 else rest)
      let node ← node.header? isArray path
      lines? fuel path node (← endLine? false (← closeHeader? isArray rest))
    | start =>
      let (path, rest) ← key? start
      match rest with
      | '=' :: rest =>
        let (v, rest) ← value? fuel nesting (skipBlanks rest)
        let node ← node.alter? false (Node.assign? path v) current
        lines? fuel current node (← endLine? false rest)
      | _ => none

/-- A text without the byte order mark it may begin with. -/
def withoutMark : List Char → List Char
  | '\uFEFF' :: rest => rest
  | cs => cs

def read? (document : String) : Option (List (String × Toml)) :=
  let text := withoutMark document.toList
  match (lines? (2 * text.length + 2) [] Node.root text).map Node.toToml with
  | some (.table entries) => some entries
  | _ => none

end FleetWatch.Toml
