import PadGraph.Graph.Parse
import PadGraph.Proofs.Token.Split
import PadGraph.Proofs.Token.WellFormed

/-!
# Reading a graph chain by chain

A text is read into a graph by reading each of its chains alone: no chain is read differently
because of what stands around it. So a chain or a branch that is written alone reads as it does in
its graph, and a chain that cannot be read gives the same error when it is all there is.

* `Node.ofParts`, `readNode` — the node of one chain.
* `readTokens`, `readTokens_eq`, `parse_eq` — a graph is read node by node, up to the first chain that
  cannot be read.
* `parse_render` — the same for a well-formed list of tokens in its written form.
* `mapM_eq_ok_iff`, `mapM_eq_error_iff` — what a list of results is, and where its error comes from.
* `run_bind`, `run_mapM` — steps with a state, one after the other.
* `chainsOf_chain`, `chainsOf_branch` — a chain is not cut any further, and a branch into its chains.
* **`parse_local`** — chains, branches and errors of a text, read alone.
-/

namespace PadGraph

/-! ### Lists of results -/

section Results

variable {ε σ α β : Type}

theorem mapM_eq_ok_iff {f : α → Except ε β} {items : List α} {results : List β} :
    items.mapM f = .ok results ↔ List.Forall₂ (fun a b => f a = .ok b) items results := by
  induction items generalizing results with
  | nil => cases results <;> simp [pure, Except.pure]
  | cons a items ih =>
      rw [List.mapM_cons]
      cases ha : f a with
      | error e => cases results <;> simp [bind, Except.bind, ha]
      | ok b =>
          cases hi : items.mapM f with
          | error e => cases results <;> simp [bind, Except.bind, ha, ← ih, hi]
          | ok bs => cases results <;> simp [bind, Except.bind, pure, Except.pure, ha, ← ih, hi]

theorem mapM_of_first_error {f : α → Except ε β} {before : List α} {a : α} {e : ε}
    (hbefore : ∀ earlier ∈ before, ∃ b, f earlier = .ok b) (ha : f a = .error e)
    (behind : List α) : (before ++ a :: behind).mapM f = .error e := by
  induction before with
  | nil =>
      rw [List.nil_append, List.mapM_cons, ha]
      rfl
  | cons first before ih =>
      obtain ⟨b, hb⟩ := hbefore first (by simp)
      rw [List.cons_append, List.mapM_cons, hb, ih fun other ho => hbefore other (by simp [ho])]
      rfl

theorem exists_first_error {f : α → Except ε β} {items : List α} {e : ε}
    (h : items.mapM f = .error e) : ∃ before a behind, items = before ++ a :: behind ∧
      (∀ earlier ∈ before, ∃ b, f earlier = .ok b) ∧ f a = .error e := by
  induction items with
  | nil => cases h
  | cons a items ih =>
      rw [List.mapM_cons] at h
      cases ha : f a with
      | error e' =>
          rw [ha] at h
          obtain rfl := Except.error.inj h
          exact ⟨[], a, items, rfl, by simp, ha⟩
      | ok b =>
          cases hi : items.mapM f with
          | ok bs =>
              rw [ha, hi] at h
              cases h
          | error e' =>
              rw [ha, hi] at h
              obtain rfl := Except.error.inj h
              obtain ⟨before, first, behind, rfl, hbefore, hfirst⟩ := ih hi
              exact ⟨a :: before, first, behind, rfl, by simpa [ha] using hbefore, hfirst⟩

/-- The error of a list of results is that of the first item that gives one. -/
theorem mapM_eq_error_iff {f : α → Except ε β} {items : List α} {e : ε} :
    items.mapM f = .error e ↔ ∃ before a behind, items = before ++ a :: behind ∧
      (∀ earlier ∈ before, ∃ b, f earlier = .ok b) ∧ f a = .error e := by
  constructor
  · exact exists_first_error
  · rintro ⟨before, a, behind, rfl, hbefore, ha⟩
    exact mapM_of_first_error hbefore ha behind

theorem mapM_eq_error {f : α → Except ε β} {items : List α} {e : ε}
    (h : items.mapM f = .error e) : ∃ a ∈ items, f a = .error e := by
  obtain ⟨before, a, behind, rfl, -, ha⟩ := exists_first_error h
  exact ⟨a, by simp, ha⟩

/-- Rows of results one below the other are the results of all their items. -/
theorem flatten_mapM {m : Type → Type} [Monad m] [LawfulMonad m] (f : α → m β)
    (rows : List (List α)) :
    (do let results ← rows.mapM (fun row => row.mapM f); pure results.flatten) =
      rows.flatten.mapM f := by
  induction rows with
  | nil => simp
  | cons row rows ih => simp [← ih]

theorem mapM_mapM_eq_error_iff {f : α → Except ε β} {rows : List (List α)} {e : ε} :
    (rows.mapM fun row => row.mapM f) = .error e ↔
      ∃ before a behind, rows.flatten = before ++ a :: behind ∧
        (∀ earlier ∈ before, ∃ b, f earlier = .ok b) ∧ f a = .error e := by
  rw [← mapM_eq_error_iff, ← flatten_mapM]
  cases rows.mapM (fun row => row.mapM f) <;> simp [bind, Except.bind, pure, Except.pure]

/-- A step goes on from the state that the step before it left, or ends with its error. -/
theorem run_bind (x : ExceptT ε (StateM σ) α) (f : α → ExceptT ε (StateM σ) β) (s : σ) :
    (x >>= f).run.run s =
      match x.run.run s with
      | (.ok a, s') => (f a).run.run s'
      | (.error e, s') => (.error e, s') := by
  rw [ExceptT.run_bind, StateT.run_bind]
  obtain ⟨result, s'⟩ := x.run.run s
  cases result <;> rfl

/-- Steps that leave the state alone do so one after the other. -/
theorem run_mapM {f : α → ExceptT ε (StateM σ) β} {g : α → Except ε β}
    (h : ∀ a s, (f a).run.run s = (g a, s)) (items : List α) (s : σ) :
    (items.mapM f).run.run s = (items.mapM g, s) := by
  induction items with
  | nil => rfl
  | cons a items ih =>
      rw [List.mapM_cons, List.mapM_cons, run_bind, h]
      cases g a with
      | error e => rfl
      | ok b =>
          show ((do let bs ← items.mapM f; pure (b :: bs) : ExceptT ε (StateM σ) _).run).run s = _
          rw [run_bind, ih]
          cases items.mapM g <;> rfl

end Results

/-! ### Node by node -/

/-- With a factory that always supplies the same, and settings that leave the state alone, chains are
read one by one, up to the first that cannot be read. -/
theorem run_assemble_pure {σ δ : Type} [Definition σ δ] {blank : δ} {filled : ChainParts → δ}
    (h : ∀ parts (s : σ), (Definition.fill parts blank).run s = (filled parts, s))
    (graph : List (List (List Token))) (s : σ) :
    (assemble (pure blank : StateM σ δ) graph).run.run s =
      (graph.mapM fun branch => branch.mapM fun chain => (decompose chain).map filled, s) := by
  have hchain : ∀ (chain : List Token) (s : σ),
      (define (pure blank : StateM σ δ) chain).run.run s = ((decompose chain).map filled, s) := by
    intro chain s
    rw [define]
    cases decompose chain with
    | error e => rfl
    | ok parts =>
        show (Except.ok ((Definition.fill parts blank).run s).1,
          ((Definition.fill parts blank).run s).2) = _
        rw [h]
        rfl
  exact run_mapM (run_mapM hchain) graph s

/-- The node that a chain with given parts contributes. -/
def Node.ofParts (parts : ChainParts) : Node where
  sourceLabels := parts.sourceLabels
  name := (FilterSpec.ofTokens parts.filter).name
  arguments := (FilterSpec.ofTokens parts.filter).arguments
  destinationLabels := parts.destinationLabels

/-- Filling a node sets all that is in it. -/
theorem Node.run_fill {σ : Type} (node : Node) (parts : ChainParts) (s : σ) :
    (Definition.fill parts node).run s = (Node.ofParts parts, s) := rfl

/-- The node of one chain. -/
def readNode (chain : List Token) : Except ChainError Node := (decompose chain).map Node.ofParts

/-- Reads tokens into a graph. -/
def readTokens (tokens : List Token) : Except ChainError Graph :=
  ((assemble (pure {} : StateM Unit Node) (chainsOf tokens)).run.run ()).1

theorem parse_eq_readTokens (text : Text) : parse text = readTokens (tokenize text) := rfl

/-- **A graph is read node by node**, up to the first chain that cannot be read. -/
theorem readTokens_eq (tokens : List Token) :
    readTokens tokens = (chainsOf tokens).mapM fun branch => branch.mapM readNode := by
  rw [readTokens, run_assemble_pure (Node.run_fill {})]
  rfl

theorem parse_eq (text : Text) :
    parse text = (chainsOf (tokenize text)).mapM fun branch => branch.mapM readNode := by
  rw [parse_eq_readTokens, readTokens_eq]

theorem parse_render {tokens : List Token} (h : WellFormed tokens) :
    parse (render tokens) = (chainsOf tokens).mapM fun branch => branch.mapM readNode := by
  rw [parse_eq, tokenize_render h]

/-- An error carries the written form of the chain in which it was found. -/
theorem chain_of_decompose_eq_error {chain : List Token} {e : ChainError}
    (h : decompose chain = .error e) : e.chain = render chain := by
  rw [decompose, readSources] at h
  cases hs : Labels.read chain with
  | none =>
      obtain rfl : _ = e := by simpa [hs, bind, Except.bind] using h
      rfl
  | some found =>
      obtain ⟨sources, behind⟩ := found
      simp only [hs, readDestinations] at h
      cases hd : Labels.read (behindFilter behind) with
      | none =>
          obtain rfl : _ = e := by simpa [hd, bind, Except.bind] using h
          rfl
      | some found =>
          obtain ⟨destinations, rest⟩ := found
          cases rest with
          | nil => simp [hd, bind, Except.bind, pure, Except.pure] at h
          | cons t ts =>
              obtain rfl : _ = e := by simpa [hd, bind, Except.bind] using h
              rfl

theorem readNode_eq_error {chain : List Token} {e : ChainError} :
    readNode chain = .error e ↔ decompose chain = .error e := by
  rw [readNode]
  cases decompose chain <;> simp [Except.map]

theorem exists_parts_of_readNode {chain : List Token} {node : Node}
    (h : readNode chain = .ok node) : ∃ parts, decompose chain = .ok parts := by
  rw [readNode] at h
  cases hparts : decompose chain with
  | ok parts => exact ⟨parts, rfl⟩
  | error e =>
      rw [hparts] at h
      cases h

/-! ### Chains and branches alone -/

/-- A chain, cut again, is the only chain of the only branch. -/
theorem chainsOf_chain {chain : List Token} (hne : chain ≠ [])
    (hfree : FreeOf [branchSeparator, chainSeparator] chain) : chainsOf chain = [[chain]] := by
  have hb : FreeOf [branchSeparator] chain := hfree.fewer (by simp)
  have hc : FreeOf [chainSeparator] chain := hfree.fewer (by simp)
  rw [chainsOf, branches, hb.split_eq hne, List.map_singleton, chains, hc.split_eq hne]

theorem chainsOf_branch {branch : List Token} (hne : branch ≠ [])
    (hfree : FreeOf [branchSeparator] branch) : chainsOf branch = [chains branch] := by
  rw [chainsOf, branches, hfree.split_eq hne, List.map_singleton]

theorem mem_branches {text : Text} {branch : List Token} (h : branch ∈ branches (tokenize text)) :
    WellFormed branch ∧ branch ≠ [] ∧ FreeOf [branchSeparator] branch :=
  ⟨(wellFormed_tokenize text).sublist (sublist_of_mem_split h), mem_split h⟩

/-- What is known of a chain of a branch. -/
theorem mem_chains {branch chain : List Token} (hbranch : WellFormed branch)
    (hfree : FreeOf [branchSeparator] branch) (h : chain ∈ chains branch) :
    WellFormed chain ∧ chain ≠ [] ∧ FreeOf [branchSeparator, chainSeparator] chain := by
  obtain ⟨hne, hc⟩ := mem_split h
  have hs : chain.Sublist branch := sublist_of_mem_split h
  have hb : FreeOf [branchSeparator] chain := hfree.subset hs.subset
  exact ⟨hbranch.sublist hs, hne, hb.append_marks hc⟩

/-- A chain in its written form is read as the only node of a graph. -/
theorem parse_render_chain {chain : List Token} (hwell : WellFormed chain) (hne : chain ≠ [])
    (hfree : FreeOf [branchSeparator, chainSeparator] chain) :
    parse (render chain) = (readNode chain).map fun node => [[node]] := by
  rw [parse_render hwell, chainsOf_chain hne hfree]
  simp only [List.mapM_cons, List.mapM_nil]
  cases readNode chain <;> rfl

theorem parse_render_branch {branch : List Token} (hwell : WellFormed branch) (hne : branch ≠ [])
    (hfree : FreeOf [branchSeparator] branch) :
    parse (render branch) = ((chains branch).mapM readNode).map fun nodes => [nodes] := by
  rw [parse_render hwell, chainsOf_branch hne hfree]
  simp only [List.mapM_cons, List.mapM_nil]
  cases (chains branch).mapM readNode <;> rfl

/-- The chain in which an error was found, read alone, gives the error again. -/
theorem parse_chain_of_error {text : Text} {e : ChainError} (h : parse text = .error e) :
    parse e.chain = .error e := by
  rw [parse_eq, chainsOf] at h
  obtain ⟨_, hmem, hnodes⟩ := mapM_eq_error h
  obtain ⟨branch, hbranch, rfl⟩ := List.mem_map.mp hmem
  obtain ⟨chain, hchain, hnode⟩ := mapM_eq_error hnodes
  obtain ⟨hwb, -, hfb⟩ := mem_branches hbranch
  obtain ⟨hwell, hne, hfree⟩ := mem_chains hwb hfb hchain
  rw [chain_of_decompose_eq_error (readNode_eq_error.mp hnode),
    parse_render_chain hwell hne hfree, hnode]
  rfl

/-- The branches of a text that can be read are read alone as in their graph, and so are their
chains. -/
theorem parse_branches_of_ok {text : Text} {graph : Graph} (h : parse text = .ok graph) :
    List.Forall₂
      (fun branch nodes => parse (render branch) = .ok [nodes] ∧
        List.Forall₂ (fun chain node => parse (render chain) = .ok [[node]]) (chains branch) nodes)
      (branches (tokenize text)) graph := by
  rw [parse_eq, chainsOf, mapM_eq_ok_iff, List.forall₂_map_left_iff] at h
  refine ((List.forall₂_and_left _ _).mpr ⟨fun _ hmem => mem_branches hmem, h⟩).imp ?_
  rintro branch nodes ⟨⟨hwb, hne, hfb⟩, hnodes⟩
  constructor
  · rw [parse_render_branch hwb hne hfb, hnodes]
    rfl
  · rw [mapM_eq_ok_iff] at hnodes
    refine ((List.forall₂_and_left _ _).mpr ⟨fun _ hmem => mem_chains hwb hfb hmem, hnodes⟩).imp ?_
    rintro chain node ⟨⟨hwell, hne, hfree⟩, hnode⟩
    rw [parse_render_chain hwell hne hfree, hnode]
    rfl

/-- **Chains, branches and errors of a text, read alone.** Each chain of a text is read alone as
what it can be cut into, or gives the error with which it cannot. Hence the chain of an error gives
the error again; and when a text is read into a graph, each branch alone is read into its branch of
the graph, and each chain alone into its node. -/
theorem parse_local (text : Text) :
    (∀ branch ∈ chainsOf (tokenize text), ∀ chain ∈ branch,
      parse (render chain) = (decompose chain).map fun parts => [[Node.ofParts parts]]) ∧
    (∀ e, parse text = .error e → parse e.chain = .error e) ∧
    (∀ graph, parse text = .ok graph → List.Forall₂
      (fun branch nodes => parse (render branch) = .ok [nodes] ∧
        List.Forall₂ (fun chain node => parse (render chain) = .ok [[node]]) (chains branch) nodes)
      (branches (tokenize text)) graph) := by
  refine ⟨fun _ hmem chain hchain => ?_, fun e => parse_chain_of_error,
    fun graph => parse_branches_of_ok⟩
  obtain ⟨branch, hbranch, rfl⟩ := List.mem_map.mp hmem
  obtain ⟨hwb, -, hfb⟩ := mem_branches hbranch
  obtain ⟨hwell, hne, hfree⟩ := mem_chains hwb hfb hchain
  rw [parse_render_chain hwell hne hfree, readNode]
  cases decompose chain <;> rfl

/-- The second of three branches holds the chain that cannot be read, and read alone it gives the same
error, which has none of the blanks; and a branch of commas is read alone as one without nodes. -/
theorem parse_local_corners :
    let e := ChainError.trailingContent "[a]b[c]'d e'".toList "'d e'".toList
    (parse "x,y; [a] b, [a]b [c]'d e';]".toList = .error e ∧
      parse "[a]b[c]'d e'".toList = .error e) ∧
    parse "x;,,;'y".toList = .ok [[.named ['x']], [], [.named ['\'', 'y']]] ∧
      parse ",,".toList = .ok [[]] ∧ parse "'y".toList = .ok [[.named ['\'', 'y']]] := by
  intro e
  have herror : parse "x,y; [a] b, [a]b [c]'d e';]".toList = .error e := by decide +kernel
  have hok : parse "x;,,;'y".toList = .ok [[.named ['x']], [], [.named ['\'', 'y']]] := by
    decide +kernel
  have hbranches : branches (tokenize "x;,,;'y".toList) =
      [[.plain 'x'], [.plain ',', .plain ','], [.quoted ['\'', 'y']]] := by
    decide +kernel
  obtain ⟨-, halone, -⟩ := parse_local "x,y; [a] b, [a]b [c]'d e';]".toList
  obtain ⟨-, -, hrows⟩ := parse_local "x;,,;'y".toList
  have hread := hrows _ hok
  rw [hbranches] at hread
  obtain ⟨-, hread⟩ := List.forall₂_cons.mp hread
  obtain ⟨⟨hcommas, -⟩, hread⟩ := List.forall₂_cons.mp hread
  obtain ⟨⟨hquote, -⟩, -⟩ := List.forall₂_cons.mp hread
  exact ⟨⟨herror, halone e herror⟩, hok, hcommas, hquote⟩

end PadGraph
