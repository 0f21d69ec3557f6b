import PadGraph.Token

/-!
# Splitting tokens at a separator

Branches, chains and arguments are all found in the same way: a list of tokens is cut at every
plain separator and empty pieces are dropped, so a separator too many never makes a part.

* `split` — the non-empty pieces between plain separators.
* `branches`, `chains`, `arguments` — the three levels.
* `split_nil`, `split_append_cons`, `split_of_separator_free` — no tokens have no pieces, a
  separator cuts a list in two that are split on their own, and a list without separators is one
  piece.
-/

namespace PadGraph

/-- The character between the branches of a graph. -/
def branchSeparator : Char := ';'

/-- The character between the chains of a branch. -/
def chainSeparator : Char := ','

/-- The character between the arguments of a filter. -/
def argumentSeparator : Char := ':'

/-- The non-empty pieces of `tokens` between its plain `separator`s, in order. -/
def split (separator : Char) (tokens : List Token) : List (List Token) :=
  (tokens.splitOnP (·.isPlain separator)).filter (!·.isEmpty)

@[simp] theorem split_nil (separator : Char) : split separator [] = [] := by
  simp [split]

/-- A separator cuts a list in two that are split on their own. -/
theorem split_append_cons (separator : Char) (front back : List Token) :
    split separator (front ++ .plain separator :: back) =
      split separator front ++ split separator back := by
  rw [split, List.splitOnP_append_cons _ _ (by simp [Token.isPlain]), List.filter_append]
  rfl

/-- A non-empty list without separators is one piece. -/
theorem split_of_separator_free {separator : Char} {tokens : List Token} (hne : tokens ≠ [])
    (free : ∀ t ∈ tokens, t.isPlain separator = false) : split separator tokens = [tokens] := by
  rw [split, List.splitOnP_eq_singleton free]
  simp [hne]

/-- The branches of a graph. -/
def branches (tokens : List Token) : List (List Token) := split branchSeparator tokens

/-- The chains of one branch. -/
def chains (branch : List Token) : List (List Token) := split chainSeparator branch

/-- The pieces of the argument part of a filter. -/
def arguments (tokens : List Token) : List (List Token) := split argumentSeparator tokens

end PadGraph
