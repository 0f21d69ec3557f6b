import PadGraph.Proofs.Graph.Parse
import PadGraph.Proofs.Token.Restart

/-!
# Reading joined texts

Two texts joined by a separator are read one after the other, when nothing is left open where they
are joined: a semicolon puts the branches of the one before those of the other, and a comma joins two
texts of at most one branch into one branch. What cannot be read in the first text comes before what
cannot be read in the second.

* `chainsOf_append_cons`, `readTokens_append_cons` — tokens on both sides of a semicolon.
* `chains_append_cons`, `flatten_readTokens` — tokens on both sides of a comma, and the nodes of
  tokens without semicolons.
* **`parse_joined`** — texts joined by a semicolon or by a comma.
-/

namespace PadGraph

/-! ### Behind a semicolon -/

theorem chainsOf_append_cons (front back : List Token) :
    chainsOf (front ++ .plain branchSeparator :: back) = chainsOf front ++ chainsOf back := by
  rw [chainsOf, branches, split_append_cons, List.map_append]
  rfl

/-- Tokens on both sides of a semicolon are read one after the other. -/
theorem readTokens_append_cons (front back : List Token) :
    readTokens (front ++ .plain branchSeparator :: back) = (do
      let before ← readTokens front
      let behind ← readTokens back
      return before ++ behind) := by
  rw [readTokens_eq, readTokens_eq, readTokens_eq, chainsOf_append_cons, List.mapM_append]

/-! ### Behind a comma -/

theorem chains_append_cons (front back : List Token) :
    chains (front ++ .plain chainSeparator :: back) = chains front ++ chains back :=
  split_append_cons chainSeparator front back

/-- Tokens without semicolons make at most one branch, and its nodes are those of the chains. -/
theorem flatten_readTokens {tokens : List Token} (h : FreeOf [branchSeparator] tokens) :
    (readTokens tokens).map List.flatten = (chains tokens).mapM readNode := by
  rw [readTokens_eq]
  by_cases hne : tokens = []
  · subst hne
    rfl
  · rw [chainsOf_branch hne h, List.mapM_cons, List.mapM_nil]
    cases (chains tokens).mapM readNode with
    | error e => rfl
    | ok nodes =>
        show Except.ok [nodes].flatten = Except.ok nodes
        rw [List.flatten_singleton]

/-- Tokens on both sides of a comma are read into one branch. -/
theorem readTokens_append_chain {front back : List Token}
    (hf : FreeOf [branchSeparator] front) (hb : FreeOf [branchSeparator] back) :
    readTokens (front ++ .plain chainSeparator :: back) = (do
      let before ← readTokens front
      let behind ← readTokens back
      return [before.flatten ++ behind.flatten]) := by
  have hfree : FreeOf [branchSeparator] (front ++ .plain chainSeparator :: back) := by
    apply freeOf_append.mpr
    exact ⟨hf, freeOf_cons.mpr ⟨Token.isPlain_of_notMem (by decide), hb⟩⟩
  have hnodes : (chains (front ++ .plain chainSeparator :: back)).mapM readNode = (do
      let before ← (readTokens front).map List.flatten
      let behind ← (readTokens back).map List.flatten
      return before ++ behind) := by
    rw [flatten_readTokens hf, flatten_readTokens hb, chains_append_cons, List.mapM_append]
  rw [readTokens_eq, chainsOf_branch (by simp) hfree, List.mapM_cons, List.mapM_nil, hnodes]
  cases readTokens front with
  | error e => rfl
  | ok before =>
      cases readTokens back with
      | error e => rfl
      | ok behind => rfl

/-! ### Texts -/

/-- **Joined texts.** A text in which nothing is left open and another one behind a semicolon are read
as the branches of the one and then those of the other; and behind a comma, when neither holds a
semicolon, as one branch with the nodes of the one and then those of the other. The first text that
cannot be read gives its error. -/
theorem parse_joined (front back : Text) (h : Complete front) :
    parse (front ++ branchSeparator :: back) = (do
      let before ← parse front
      let behind ← parse back
      return before ++ behind) ∧
    (FreeOf [branchSeparator] (tokenize front) → FreeOf [branchSeparator] (tokenize back) →
      parse (front ++ chainSeparator :: back) = (do
        let before ← parse front
        let behind ← parse back
        return [before.flatten ++ behind.flatten])) := by
  simp only [parse_eq_readTokens]
  constructor
  · rw [h.tokenize_append_mark (by decide), readTokens_append_cons]
  · intro hf hb
    rw [h.tokenize_append_mark (by decide), readTokens_append_chain hf hb]

/-- A quoted and an escaped semicolon separate nothing, and commas too many on both sides of the place
where the texts are joined make no chain. -/
theorem parse_joined_opaque :
    parse "a='x;y'\\;,".toList = .ok [[⟨[], "a".toList, [⟨"'x;y'\\;".toList, none⟩], []⟩]] ∧
    parse ",[v]b".toList = .ok [[⟨["v".toList], "b".toList, [], []⟩]] ∧
    parse ("a='x;y'\\;,".toList ++ ';' :: ",[v]b".toList) =
      .ok [[⟨[], "a".toList, [⟨"'x;y'\\;".toList, none⟩], []⟩],
        [⟨["v".toList], "b".toList, [], []⟩]] ∧
    parse ("a='x;y'\\;,".toList ++ ',' :: ",[v]b".toList) =
      .ok [[⟨[], "a".toList, [⟨"'x;y'\\;".toList, none⟩], []⟩,
        ⟨["v".toList], "b".toList, [], []⟩]] := by
  have hfront : parse "a='x;y'\\;,".toList =
      .ok [[⟨[], "a".toList, [⟨"'x;y'\\;".toList, none⟩], []⟩]] := by
    decide +kernel
  have hback : parse ",[v]b".toList = .ok [[⟨["v".toList], "b".toList, [], []⟩]] := by
    decide +kernel
  have hcomplete : Complete "a='x;y'\\;,".toList := by
    decide +kernel
  obtain ⟨hbranches, hchains⟩ := parse_joined _ ",[v]b".toList hcomplete
  have hone := hchains (by decide +kernel) (by decide +kernel)
  rw [hfront, hback] at hbranches hone
  exact ⟨hfront, hback, hbranches, hone⟩

end PadGraph
