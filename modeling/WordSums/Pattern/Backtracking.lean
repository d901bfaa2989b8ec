import WordSums.Pattern.Engine
import WordSums.Pattern.Reading
import WordSums.Proofs.Pattern.Advance

/-!
# An engine

Patterns in the usual notation, matched by trying one way after the other. Only part of the notation is read,
so this is one engine among those that the recognizers can work with; the standard patterns and many others
mean the same to all of them.
-/

namespace WordSums

def Pattern.search (pattern : Pattern) : Search where
  find? := pattern.search?
  within _ _ _ := Pattern.search?_bounds

def Engine.backtracking : Engine where
  compile? written := (Pattern.read? written.toList).map Pattern.search

end WordSums
