import AuditedStore.Pattern.Expr

/-!
# Flags of patterns

The flags in force at a place of a pattern decide how the text after it is read: whether
letter case counts, which characters end a line, whether classes are those of Unicode, and
whether white space and comments are passed over.
-/

namespace AuditedStore.Pattern

/-- The flags in force at a place of a pattern. -/
structure Flags where
  ignoreCase : Bool := false
  multiLine : Bool := false
  dotAll : Bool := false
  unicode : Bool := true
  verbose : Bool := false
  anyLineEnd : Bool := false

namespace Flags

/-- Switches the flag with a given letter; `U` is accepted and concerns only which of
several matches is preferred. -/
def set? (f : Flags) (on : Bool) : Char → Option Flags
  | 'i' => some { f with ignoreCase := on }
  | 'm' => some { f with multiLine := on }
  | 's' => some { f with dotAll := on }
  | 'u' => some { f with unicode := on }
  | 'x' => some { f with verbose := on }
  | 'R' => some { f with anyLineEnd := on }
  | 'U' => some f
  | _ => none

/-- The characters of words under the flags. -/
def word (f : Flags) : CharClass := if f.unicode then .word else .asciiWord

/-- Closes a class under letter case, if the flags ask for it. -/
def fold (f : Flags) (r : CharClass) : CharClass :=
  if !f.ignoreCase then r else if f.unicode then .folded r else .asciiFolded r

/-- The class of a literal character. -/
def literal (f : Flags) (c : Char) : CharClass :=
  if f.ignoreCase && f.unicode then .anyCase c else f.fold (.single c)

/-- Closes a class under letter case and then negates it.  Without Unicode the result may
hold ASCII characters only. -/
def finish? (f : Flags) (negated : Bool) (r : CharClass) : Option CharClass :=
  let r := CharClass.negatedIf negated (f.fold r)
  if f.unicode || r.isAscii then some r else none

/-- The class of `.`. -/
def dot? (f : Flags) : Option CharClass :=
  if !f.unicode then none
  else if f.dotAll then some .any
  else if f.anyLineEnd then some (.complement (.union (.single '\r') (.single '\n')))
  else some (.complement (.single '\n'))

/-- The assertion of `^`. -/
def start (f : Flags) : Look :=
  if !f.multiLine then .textStart else if f.anyLineEnd then .anyLineStart else .lineStart

/-- The assertion of `$`. -/
def stop (f : Flags) : Look :=
  if !f.multiLine then .textEnd else if f.anyLineEnd then .anyLineEnd else .lineEnd

end Flags

/-! ### White space and comments -/

/-- Skips white space and comments; `fuel` bounds the number of steps. -/
def skipBlanks : (fuel : Nat) → List Char → List Char
  | 0, cs => cs
  | _ + 1, [] => []
  | fuel + 1, c :: cs =>
    if Text.isBlankChar c then skipBlanks fuel cs
    else if c == '#' then skipBlanks fuel ((cs.dropWhile (· != '\n')).drop 1)
    else c :: cs

/-- Skips white space and comments where the flags say that they do not count. -/
def Flags.skip (f : Flags) (cs : List Char) : List Char :=
  if f.verbose then skipBlanks (cs.length + 1) cs else cs

end AuditedStore.Pattern
