import AuditedStore.Pattern.Bracket
import AuditedStore.Numeral

/-!
# Reading patterns

`readExpr?` reads the text of a pattern, from left to right with a stack of open groups.
The flags set in a group hold up to its end.  Texts outside the grammar, patterns nested
too deeply and patterns that grow too large when their repetitions are written out are
refused.
-/

namespace AuditedStore.Pattern

/-! ### Repetitions -/

/-- Reads the digits of a count. -/
def readDigits (f : Flags) (digits : List Char) :
    (fuel : Nat) → List Char → List Char × List Char
  | 0, cs => (digits.reverse, cs)
  | fuel + 1, c :: cs =>
    if Numeral.isDigit c then readDigits f (c :: digits) fuel (f.skip cs)
    else (digits.reverse, c :: cs)
  | _ + 1, [] => (digits.reverse, [])

/-- Counts are below this number. -/
def countLimit : Nat := 2 ^ 32

/-- Reads a count with white space around it. -/
def readCount? (f : Flags) (cs : List Char) : Option (Nat × List Char) := do
  let (digits, rest) := readDigits f [] (cs.length + 1) (Text.trimLeft cs)
  let n ← Numeral.readNat? digits
  if n < countLimit then pure (n, Text.trimLeft rest) else none

/-- Skips the mark that asks for the shortest match. -/
def skipLazyMark : List Char → List Char
  | '?' :: cs => cs
  | cs => cs

/-- Reads counts after an opening brace. -/
def readCounts? (f : Flags) (cs : List Char) : Option (Nat × Option Nat × List Char) := do
  let (least, cs) ← readCount? f (f.skip cs)
  match cs with
  | '\x7d' :: cs => pure (least, some least, skipLazyMark (f.skip cs))
  | ',' :: cs =>
    match f.skip cs with
    | '\x7d' :: cs => pure (least, none, skipLazyMark (f.skip cs))
    | cs =>
      let (most, cs) ← readCount? f cs
      match cs with
      | '\x7d' :: cs =>
        if least ≤ most then pure (least, some most, skipLazyMark (f.skip cs)) else none
      | _ => none
  | _ => none

/-! ### Groups -/

/-- A part of a sequence: a pattern, or flags, which cannot be repeated. -/
inductive Item where
  | pattern (p : Nested Expr)
  | flags

/-- The pattern of an item. -/
def Item.expr : Item → Nested Expr
  | pattern p => p
  | flags => ⟨.empty, 0⟩

/-- What has been read of a group, last first: the finished alternatives, and the items of
the current one. -/
structure Branches where
  finished : List (Nested Expr) := []
  items : List Item := []

/-- The sequence of items of the current alternative. -/
def Branches.sequence (b : Branches) : Nested Expr :=
  match b.items.reverse.map Item.expr with
  | [] => ⟨.empty, 0⟩
  | [p] => p
  | ps => ⟨.sequence (ps.map (·.value)), 1 + (ps.map (·.depth)).foldl max 0⟩

/-- The pattern of a group. -/
def Branches.close (b : Branches) : Nested Expr :=
  match b.finished with
  | [] => b.sequence
  | ps =>
    let ps := (b.sequence :: ps).reverse
    ⟨.choice (ps.map (·.value)), 1 + (ps.map (·.depth)).foldl max 0⟩

/-- Adds an item to the current alternative. -/
def Branches.add (b : Branches) (i : Item) : Branches := { b with items := i :: b.items }

/-- Repeats the last item. -/
def Branches.repeatLast? (b : Branches) (least : Nat) (most : Option Nat) : Option Branches :=
  match b.items with
  | .pattern p :: items =>
    some { b with items := .pattern ⟨.many p.value least most, p.depth + 1⟩ :: items }
  | _ => none

/-- A group that waits for the end of one inside it, with its flags. -/
structure Outer where
  flags : Flags
  branches : Branches

/-- The state of reading a pattern. -/
structure State where
  flags : Flags
  branches : Branches := {}
  outer : List Outer := []
  names : List String := []

/-- Adds a pattern that nests nothing. -/
def State.add (s : State) (p : Expr) : State :=
  { s with branches := s.branches.add (.pattern ⟨p, 0⟩) }

/-- Opens a group whose inside has the given flags. -/
def State.openGroup (s : State) (inside : Flags) : State :=
  { s with flags := inside, branches := {}, outer := ⟨s.flags, s.branches⟩ :: s.outer }

/-- Closes the innermost group. -/
def State.closeGroup? (s : State) : Option State :=
  match s.outer with
  | [] => none
  | o :: outer =>
    let p := s.branches.close
    some { s with
      flags := o.flags, outer := outer,
      branches := o.branches.add (.pattern ⟨p.value, p.depth + 1⟩) }

/-- Whether a character may stand in the name of a group. -/
def isNameChar (first : Bool) (c : Char) : Bool :=
  let letter := c == '_' || Unicode.Property.alphabetic.contains c
  if first then letter
  else
    letter || c == '.' || c == '[' || c == ']' || CharClass.decimalDigit.contains c
      || Unicode.Category.letterNumber.contains c || Unicode.Category.otherNumber.contains c

/-- Reads the name of a group, which no other group may have. -/
def State.readName? (s : State) (cs : List Char) : Option (State × List Char) :=
  let name := cs.takeWhile (· != '>')
  match cs.dropWhile (· != '>') with
  | [] => none
  | _ :: rest =>
    let text := String.ofList name
    if (name.head?.any (isNameChar true)) && name.tail.all (isNameChar false)
      && !s.names.contains text
    then some ({ s with names := text :: s.names }.openGroup s.flags, rest)
    else none

/-- Reads the letters of flags up to a colon or a parenthesis, which is returned.  `seen`
holds the letters and the minus sign that have been read. -/
def readFlags? (f : Flags) (seen : List Char) (on : Bool) :
    List Char → Option (Flags × List Char × Char × List Char)
  | [] => none
  | c :: cs =>
    if c == ':' || c == ')' then
      if seen.head? == some '-' then none else some (f, seen, c, cs)
    else if seen.contains c then none
    else if c == '-' then readFlags? f (c :: seen) false cs
    else (f.set? on c).bind fun f => readFlags? f (c :: seen) on cs

/-- Reads what follows an opening parenthesis. -/
def State.readGroup? (s : State) (cs : List Char) : Option (State × List Char) :=
  match s.flags.skip cs with
  | '?' :: '=' :: _ => none
  | '?' :: '!' :: _ => none
  | '?' :: '<' :: '=' :: _ => none
  | '?' :: '<' :: '!' :: _ => none
  | '?' :: 'P' :: '<' :: cs => s.readName? cs
  | '?' :: '<' :: cs => s.readName? cs
  | '?' :: cs => do
    let (f, seen, mark, cs) ← readFlags? s.flags [] true cs
    if mark == ':' then pure (s.openGroup f, cs)
    else if seen.isEmpty then none
    else pure ({ s with flags := f, branches := s.branches.add .flags }, cs)
  | cs => some (s.openGroup s.flags, cs)

/-- The pattern of an escape. -/
def escapeExpr? (f : Flags) : Escape → Option Expr
  | .char c byte =>
    if !f.unicode && byte && 128 ≤ c.toNat then none else some (.one (f.literal c))
  | .look l => some (.look f.word l)
  | .chars r => some (.one r)

/-- Reads on from one character and the text after it. -/
def State.read? (s : State) (c : Char) (cs : List Char) : Option (State × List Char) :=
  let repeated (least : Nat) (most : Option Nat) :=
    (s.branches.repeatLast? least most).map fun b => ({ s with branches := b }, skipLazyMark cs)
  match c with
  | '(' => s.readGroup? cs
  | ')' => s.closeGroup?.map (·, cs)
  | '|' =>
    let b := s.branches
    some ({ s with branches := { finished := b.sequence :: b.finished } }, cs)
  | '[' => (readClass? s.flags cs).map fun (r, rest) =>
    ({ s with branches := s.branches.add (.pattern ⟨.one r.value, r.depth⟩) }, rest)
  | '?' => repeated 0 (some 1)
  | '*' => repeated 0 none
  | '+' => repeated 1 none
  | '\x7b' => do
    let (least, most, rest) ← readCounts? s.flags cs
    let b ← s.branches.repeatLast? least most
    pure ({ s with branches := b }, rest)
  | '\\' => do
    let (e, rest) ← readEscape? s.flags cs
    let p ← escapeExpr? s.flags e
    pure (s.add p, rest)
  | '.' => s.flags.dot?.map fun r => (s.add (.one r), cs)
  | '^' => some (s.add (.look s.flags.word s.flags.start), cs)
  | '$' => some (s.add (.look s.flags.word s.flags.stop), cs)
  | c => some (s.add (.one (s.flags.literal c)), cs)

/-- Reads to the end of a text. -/
def State.readAll? : (fuel : Nat) → State → List Char → Option State
  | 0, _, _ => none
  | fuel + 1, s, cs =>
    match s.flags.skip cs with
    | [] => some s
    | c :: cs => (s.read? c cs).bind fun (s, cs) => readAll? fuel s cs

/-- Patterns may be nested this deeply. -/
def depthLimit : Nat := 250

/-- Patterns may take this much space. -/
def weightLimit : Nat := 10 * 2 ^ 20

/-- Reads the text of a pattern. -/
def readExpr? (f : Flags) (text : String) : Option Expr := do
  let cs := text.toList
  let s ← State.readAll? (cs.length + 1) { flags := f } cs
  let p := s.branches.close
  if s.outer.isEmpty && p.depth ≤ depthLimit && p.value.weight ≤ weightLimit then pure p.value
  else none

end AuditedStore.Pattern
