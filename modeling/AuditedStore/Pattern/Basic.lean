import AuditedStore.Pattern.Reader

/-!
# Search patterns

A search pattern is a regular expression that ignores letter case, kept with the text it
was read from.  Two patterns are equal when their texts are.
-/

namespace AuditedStore

/-- A regular expression that ignores letter case, with its text. -/
structure SearchPattern where
  source : String
  expr : Pattern.Expr

namespace SearchPattern

/-- Reads a pattern; the result is absent when the text is not one. -/
def read? (source : String) : Option SearchPattern :=
  (Pattern.readExpr? { ignoreCase := true } source).map (⟨source, ·⟩)

/-- Whether the pattern occurs anywhere in a text. -/
def matchesText (p : SearchPattern) (text : String) : Bool := p.expr.occursIn text.toList

instance : BEq SearchPattern := ⟨fun p q => p.source == q.source⟩

end SearchPattern

end AuditedStore
