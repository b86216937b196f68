import AuditedStore.Pattern.Flags

/-!
# Escapes in patterns

`readEscape?` reads what follows a backslash: a character, which may be given by its
hexadecimal number, an assertion, or a class of characters, which may be given by the name
of a property.
-/

namespace AuditedStore.Pattern

/-- What an escape stands for. -/
inductive Escape where
  /-- A character; `byte` is set when it was given as a byte of two hexadecimal digits. -/
  | char (c : Char) (byte : Bool)
  | look (l : Look)
  | chars (r : CharClass)

/-- The character with a code point, if there is one. -/
def charOf? (n : Nat) : Option Char := if n.isValidChar then some (Char.ofNat n) else none

/-- Reads `count` hexadecimal digits. -/
def readHexDigits? (f : Flags) (value : Nat) :
    (count : Nat) → List Char → Option (Nat × List Char)
  | 0, cs => some (value, cs)
  | count + 1, cs =>
    match f.skip cs with
    | [] => none
    | c :: cs => (Text.hexDigit? c).bind fun d => readHexDigits? f (16 * value + d) count cs

/-- Reads hexadecimal digits up to a closing brace. -/
def readHexBraces? (f : Flags) (digits : List Nat) :
    (fuel : Nat) → List Char → Option (Nat × List Char)
  | 0, _ => none
  | fuel + 1, cs =>
    match f.skip cs with
    | [] => none
    | '\x7d' :: cs =>
      if digits.isEmpty then none else some (digits.foldr (fun d n => 16 * n + d) 0, cs)
    | c :: cs => (Text.hexDigit? c).bind fun d => readHexBraces? f (d :: digits) fuel cs

/-- Reads the hexadecimal number of a character after `\x`, `\u` or `\U`. -/
def readHex? (f : Flags) (count : Nat) (cs : List Char) : Option (Escape × List Char) :=
  match f.skip cs with
  | '\x7b' :: cs => do
    let (n, cs) ← readHexBraces? f [] (cs.length + 1) cs
    let c ← charOf? n
    pure (.char c false, cs)
  | cs => do
    let (n, cs) ← readHexDigits? f 0 count cs
    let c ← charOf? n
    pure (.char c (count == 2), cs)

/-- Reads characters up to a closing brace. -/
def readBraces? (f : Flags) (name : List Char) :
    (fuel : Nat) → List Char → Option (String × List Char)
  | 0, _ => none
  | fuel + 1, cs =>
    match f.skip cs with
    | [] => none
    | '\x7d' :: cs => some (String.ofList name.reverse, cs)
    | c :: cs => readBraces? f (c :: name) fuel cs

/-- The class of a property given as `name`, `name=value`, `name:value` or
`name!=value`.  Only the letter of the escape says whether the class is negated; the three
signs mean the same. -/
def propertyClass? (f : Flags) (negated : Bool) (name : String) : Option CharClass :=
  match Text.cut "!=" name <|> Text.cut ":" name <|> Text.cut "=" name with
  | some (property, value) => (CharClass.valued? property value).bind (f.finish? negated)
  | none => (CharClass.named? name).bind (f.finish? negated)

/-- Reads the property after `\p` or `\P`. -/
def readProperty? (f : Flags) (negated : Bool) (cs : List Char) : Option (Escape × List Char) :=
  if !f.unicode then none
  else match f.skip cs with
    | [] => none
    | '\x7b' :: cs => do
      let (name, cs) ← readBraces? f [] (cs.length + 1) cs
      let r ← propertyClass? f negated name
      pure (.chars r, cs)
    | c :: cs => do
      if c == '\\' then none
      let r ← (CharClass.named? (String.singleton c)).bind (f.finish? negated)
      pure (.chars r, cs)

/-- The class of `\d`, `\s`, `\w` and their complements, which need Unicode. -/
def shorthand? (f : Flags) (negated : Bool) (unicode ascii : CharClass) : Option Escape :=
  if f.unicode then some (.chars (CharClass.negatedIf negated unicode))
  else if negated then none
  else some (.chars ascii)

/-- The assertion with a name in braces after `\b`. -/
def namedBoundary? : String → Option Look
  | "start" => some .wordStart
  | "end" => some .wordEnd
  | "start-half" => some .wordStartHalf
  | "end-half" => some .wordEndHalf
  | _ => none

/-- The characters of the names of boundaries. -/
def isBoundaryChar (c : Char) : Bool := c.isAlpha || c == '-'

/-- Reads the name of a boundary up to its closing brace. -/
def readBoundaryName? (f : Flags) (name : List Char) :
    (fuel : Nat) → List Char → Option (String × List Char)
  | 0, _ => none
  | fuel + 1, cs =>
    match f.skip cs with
    | [] => none
    | c :: cs =>
      if isBoundaryChar c then readBoundaryName? f (c :: name) fuel cs
      else if c == '\x7d' then some (String.ofList name.reverse, cs)
      else none

/-- Reads what follows `\b`: the name of a boundary in braces, or nothing. -/
def readBoundary? (f : Flags) : List Char → Option (Escape × List Char)
  | '\x7b' :: cs =>
    match f.skip cs with
    | [] => none
    | c :: _ =>
      if isBoundaryChar c then do
        let (name, rest) ← readBoundaryName? f [] (cs.length + 1) cs
        let l ← namedBoundary? name
        pure (.look l, rest)
      else some (.look .wordBoundary, '\x7b' :: cs)
  | cs => some (.look .wordBoundary, cs)

/-- Whether a backslash makes a character stand for itself. -/
def isEscapable (c : Char) : Bool :=
  c.toNat < 128 && !c.isAlphanum && c != '<' && c != '>'

/-- Reads an escape after its backslash. -/
def readEscape? (f : Flags) : List Char → Option (Escape × List Char)
  | [] => none
  | c :: cs =>
    match c with
    | 'x' => readHex? f 2 cs
    | 'u' => readHex? f 4 cs
    | 'U' => readHex? f 8 cs
    | 'p' => readProperty? f false cs
    | 'P' => readProperty? f true cs
    | 'd' => (shorthand? f false .decimalDigit .asciiDigit).map (·, cs)
    | 'D' => (shorthand? f true .decimalDigit .asciiDigit).map (·, cs)
    | 's' => (shorthand? f false .whiteSpace .asciiSpace).map (·, cs)
    | 'S' => (shorthand? f true .whiteSpace .asciiSpace).map (·, cs)
    | 'w' => (shorthand? f false .word .asciiWord).map (·, cs)
    | 'W' => (shorthand? f true .word .asciiWord).map (·, cs)
    | 'a' => some (.char '\x07' false, cs)
    | 'f' => some (.char '\x0c' false, cs)
    | 't' => some (.char '\t' false, cs)
    | 'n' => some (.char '\n' false, cs)
    | 'r' => some (.char '\r' false, cs)
    | 'v' => some (.char '\x0b' false, cs)
    | 'A' => some (.look .textStart, cs)
    | 'z' => some (.look .textEnd, cs)
    | 'b' => readBoundary? f cs
    | 'B' => some (.look .notWordBoundary, cs)
    | '<' => some (.look .wordStart, cs)
    | '>' => some (.look .wordEnd, cs)
    | c => if isEscapable c then some (.char c false, cs) else none

end AuditedStore.Pattern
