import AuditedStore.Pattern.Escape

/-!
# Classes in brackets

`readClass?` reads a class between brackets: characters, ranges of them, named classes and
classes in brackets of their own, joined by operators on sets.  A text is read from left to
right with a stack of open brackets and pending operators.
-/

namespace AuditedStore.Pattern

/-- An operator between two parts of a class. -/
inductive SetOperator where
  | intersection
  | difference
  | symmetricDifference

/-- The class that an operator makes of two classes. -/
def SetOperator.apply (o : SetOperator) (r s : CharClass) : CharClass :=
  match o with
  | intersection => .intersection r s
  | difference => .difference r s
  | symmetricDifference => .symmetricDifference r s

/-- A class or a pattern, with the depth of its nesting. -/
structure Nested (α : Type) where
  value : α
  depth : Nat

/-- The parts of a class read so far, last first. -/
abbrev Parts := List (Nested CharClass)

/-- The union of the parts. -/
def Parts.close (parts : Parts) : Nested CharClass :=
  match parts with
  | [] => ⟨.empty, 0⟩
  | [r] => r
  | rs => ⟨.unionAll (rs.reverse.map (·.value)), 1 + (rs.map (·.depth)).foldl max 0⟩

/-- What waits while a part of a class is read. -/
inductive SetFrame where
  /-- An open bracket, with the parts read before it. -/
  | bracket (negated : Bool) (outer : Parts)
  /-- An operator with its left side. -/
  | operand (o : SetOperator) (left : Nested CharClass)

/-- Applies a pending operator to the side that has been read. -/
def closeOperand (f : Flags) (right : Nested CharClass) :
    List SetFrame → Nested CharClass × List SetFrame
  | .operand o left :: frames =>
    (⟨o.apply (f.fold left.value) (f.fold right.value), 1 + max left.depth right.depth⟩, frames)
  | frames => (right, frames)

/-- Reads hyphens at the start of a class. -/
def readHyphens (f : Flags) (parts : Parts) : (fuel : Nat) → List Char → Parts × List Char
  | 0, cs => (parts, cs)
  | fuel + 1, '-' :: cs => readHyphens f (⟨.single '-', 0⟩ :: parts) fuel (f.skip cs)
  | _ + 1, cs => (parts, cs)

/-- Reads what may stand after an opening bracket: a sign of negation, hyphens, and a
closing bracket that stands for itself. -/
def openBracket (f : Flags) (cs : List Char) : Bool × Parts × List Char :=
  let cs := f.skip cs
  let (negated, cs) := match cs with
    | '^' :: cs => (true, f.skip cs)
    | cs => (false, cs)
  let (parts, cs) := readHyphens f [] (cs.length + 1) cs
  match parts, cs with
  | [], ']' :: cs => (negated, [⟨.single ']', 0⟩], f.skip cs)
  | parts, cs => (negated, parts, cs)

/-- Reads a named class such as `[:alpha:]`, after its opening bracket. -/
def readPosix? (f : Flags) : List Char → Option (CharClass × List Char)
  | ':' :: cs => do
    let (negated, cs) := match cs with
      | '^' :: cs => (true, cs)
      | cs => (false, cs)
    let name := cs.takeWhile (· != ':')
    match cs.dropWhile (· != ':') with
    | ':' :: ']' :: rest =>
      let r ← CharClass.posix? (String.ofList name)
      pure (CharClass.negatedIf negated (f.fold r), rest)
    | _ => none
  | _ => none

/-- Reads one end of a range, or a class given by an escape. -/
def readSetItem? (f : Flags) : List Char → Option (Escape × List Char)
  | [] => none
  | '\\' :: cs => readEscape? f cs
  | c :: cs => some (.char c false, cs)

/-- The character of a literal in a class; without Unicode it is an ASCII character. -/
def setChar? (f : Flags) : Escape → Option Char
  | .char c _ => if f.unicode || c.toNat < 128 then some c else none
  | _ => none

/-- Reads a character, a range of characters or an escaped class. -/
def readSetRange? (f : Flags) (cs : List Char) : Option (CharClass × List Char) := do
  let (first, cs) ← readSetItem? f cs
  let single := match first with
    | .chars r => some r
    | e => (setChar? f e).map CharClass.single
  match f.skip cs with
  | [] => none
  | '-' :: rest =>
    match f.skip rest with
    | [] => none
    | ']' :: _ => single.map (·, '-' :: rest)
    | '-' :: _ => single.map (·, '-' :: rest)
    | rest =>
      let (last, rest) ← readSetItem? f rest
      let a ← setChar? f first
      let b ← setChar? f last
      if a ≤ b then pure (.range a b, rest) else none
  | cs => single.map (·, cs)

/-- Reads the rest of a class, with the brackets and operators that are open. -/
def readSet? (f : Flags) :
    (fuel : Nat) → List SetFrame → Parts → List Char → Option (Nested CharClass × List Char)
  | 0, _, _, _ => none
  | fuel + 1, frames, parts, cs =>
    let operator (o : SetOperator) (rest : List Char) :=
      let (left, frames) := closeOperand f parts.close frames
      readSet? f fuel (.operand o left :: frames) [] rest
    match f.skip cs with
    | [] => none
    | '[' :: cs =>
      match readPosix? f cs with
      | some (r, rest) =>
        if f.unicode || r.isAscii then readSet? f fuel frames (⟨r, 0⟩ :: parts) rest else none
      | none =>
        let (negated, inner, rest) := openBracket f cs
        readSet? f fuel (.bracket negated parts :: frames) inner rest
    | ']' :: cs =>
      match closeOperand f parts.close frames with
      | (r, .bracket negated outer :: frames) => do
        let closed ← f.finish? negated r.value
        let whole : Nested CharClass := ⟨closed, r.depth + 1⟩
        if frames.isEmpty then some (whole, cs)
        else readSet? f fuel frames (whole :: outer) cs
      | _ => none
    | '&' :: '&' :: cs => operator .intersection cs
    | '-' :: '-' :: cs => operator .difference cs
    | '~' :: '~' :: cs => operator .symmetricDifference cs
    | cs => do
      let (r, rest) ← readSetRange? f cs
      readSet? f fuel frames (⟨r, 0⟩ :: parts) rest

/-- Reads a class after its opening bracket. -/
def readClass? (f : Flags) (cs : List Char) : Option (Nested CharClass × List Char) :=
  let (negated, parts, rest) := openBracket f cs
  readSet? f (cs.length + 1) [.bracket negated []] parts rest

end AuditedStore.Pattern
