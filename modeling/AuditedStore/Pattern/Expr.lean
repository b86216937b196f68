import AuditedStore.Numeral
import AuditedStore.Pattern.CharClass

/-!
# Patterns over a text

A pattern is a regular expression with assertions about the neighbours of a position.
Matching works on sets of positions of a text, a position being a place between two
characters or at an end.  `Plan.reach p s` is the set of positions where a match of `p`
can end that begins in `s`; so a pattern occurs in a text when the positions reached from
all positions are not empty.  Sets of positions are natural numbers, read as bits.
-/

namespace AuditedStore.Pattern

/-- An assertion about the characters beside a position. -/
inductive Look where
  | textStart
  | textEnd
  | lineStart
  | lineEnd
  /-- The start of a line when lines end with `\r`, `\n` or `\r\n`. -/
  | anyLineStart
  | anyLineEnd
  | wordBoundary
  | notWordBoundary
  | wordStart
  | wordEnd
  | wordStartHalf
  | wordEndHalf
deriving DecidableEq

/-- Whether an assertion holds between two neighbours, which are absent at the ends of the
text. -/
def Look.holds (isWord : Char → Bool) (before after : Option Char) : Look → Bool
  | textStart => before.isNone
  | textEnd => after.isNone
  | lineStart => before.isNone || before == some '\n'
  | lineEnd => after.isNone || after == some '\n'
  | anyLineStart =>
    before.isNone || before == some '\n' || (before == some '\r' && after != some '\n')
  | anyLineEnd =>
    after.isNone || after == some '\r' || (after == some '\n' && before != some '\r')
  | wordBoundary => before.any isWord != after.any isWord
  | notWordBoundary => before.any isWord == after.any isWord
  | wordStart => !before.any isWord && after.any isWord
  | wordEnd => before.any isWord && !after.any isWord
  | wordStartHalf => !before.any isWord
  | wordEndHalf => !after.any isWord

/-- A pattern. -/
inductive Expr where
  /-- The empty text. -/
  | empty
  /-- One character of a class. -/
  | one (r : CharClass)
  /-- The empty text where an assertion holds; words consist of the characters of
  `word`. -/
  | look (word : CharClass) (l : Look)
  | seq (p q : Expr)
  | alt (p q : Expr)
  /-- At least `least` and at most `most` times, without limit if that is absent. -/
  | many (p : Expr) (least : Nat) (most : Option Nat)

namespace Expr

/-- One pattern after the other. -/
def sequence : List Expr → Expr
  | [] => empty
  | [p] => p
  | p :: ps => seq p (sequence ps)

/-- One of the patterns. -/
def choice : List Expr → Expr
  | [] => empty
  | [p] => p
  | p :: ps => alt p (choice ps)

/-- Whether a pattern can match the empty text only, by its shape. -/
def isBlank : Expr → Bool
  | empty => true
  | one _ => false
  | look _ _ => true
  | seq p q => p.isBlank && q.isBlank
  | alt p q => p.isBlank && q.isBlank
  | many p _ most => most == some 0 || p.isBlank

/-- An estimate of the space that a pattern takes with its repetitions written out, which
those of a blank pattern are not. -/
def weight : Expr → Nat
  | empty => 0
  | one r => 64 + r.weight
  | look _ _ => 0
  | seq p q => p.weight + q.weight
  | alt p q => p.weight + q.weight + 40
  | many p least most =>
    if p.isBlank then p.weight
    else match most with
      | none => max least 1 * p.weight + 40
      | some most => most * p.weight + (most - least) * 40

end Expr

/-- A set of positions: position `i` is in it when bit `i` is set. -/
abbrev Positions := Nat

/-- The positions whose entry in the list is true. -/
def Positions.ofList (bs : List Bool) : Positions :=
  bs.foldr (fun b s => 2 * s + b.toNat) 0

/-- A pattern over a fixed text, where classes and assertions are sets of positions. -/
inductive Plan where
  /-- Stays at the positions of `s`. -/
  | stay (s : Positions)
  /-- Passes the character after the positions of `s`. -/
  | pass (s : Positions)
  | seq (p q : Plan)
  | alt (p q : Plan)
  | many (p : Plan) (least : Nat) (most : Option Nat)

/-- Applies `f` to `s` exactly `n` times, stopping at a fixed point. -/
def Positions.iterate (f : Positions → Positions) : Nat → Positions → Positions
  | 0, s => s
  | n + 1, s =>
    let t := f s
    if t = s then s else iterate f n t

/-- Collects what `f` makes of `s` when applied at most `n` times. -/
def Positions.grow (f : Positions → Positions) : Nat → Positions → Positions
  | 0, s => s
  | n + 1, s =>
    let t := s ||| f s
    if t = s then s else grow f n t

/-- The positions where a match that begins in a set can end.  A text with fewer than
`size` positions is left unchanged by more than `size` repetitions. -/
def Plan.reach (size : Nat) : Plan → Positions → Positions
  | stay s, t => t &&& s
  | pass s, t => (t &&& s) <<< 1
  | seq p q, t => q.reach size (p.reach size t)
  | alt p q, t => p.reach size t ||| q.reach size t
  | many p least most, t =>
    let t := Positions.iterate (p.reach size) least t
    Positions.grow (p.reach size) (most.elim size (· - least)) t

/-- The neighbours of every position of a text. -/
def neighbours (cs : List Char) : List (Option Char × Option Char) :=
  (none :: cs.map some).zip (cs.map some ++ [none])

/-- The plan of a pattern over a text. -/
def Expr.plan (cs : List Char) : Expr → Plan
  | empty => .stay (Positions.ofList (List.replicate (cs.length + 1) true))
  | one r => .pass (Positions.ofList (cs.map r.contains))
  | look word l =>
    .stay (Positions.ofList ((neighbours cs).map fun (b, a) => l.holds word.contains b a))
  | seq p q => .seq (p.plan cs) (q.plan cs)
  | alt p q => .alt (p.plan cs) (q.plan cs)
  | many p least most => .many (p.plan cs) least most

/-- Whether a pattern occurs in a text. -/
def Expr.occursIn (p : Expr) (cs : List Char) : Bool :=
  (p.plan cs).reach (cs.length + 1) (2 ^ (cs.length + 1) - 1) != 0

end AuditedStore.Pattern
