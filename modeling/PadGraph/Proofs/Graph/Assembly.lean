import PadGraph.Proofs.Graph.Parse

/-!
# Assembling a graph with a factory

A factory supplies one blank definition for each chain that can be cut, in the order in which the
chains are written, and none once a chain cannot. What is done to a blank definition is always the
same four settings, and they are done before the next is asked for. The factory and the settings
share a state, so the state behind a parse tells in which order all of them were called.

* `Setting`, `ChainParts.settings`, `replay` — the settings of a chain, recorded and done again.
* `supply`, `stateBehind`, `filled` — one chain, the state behind a row of chains, and what comes of
  the row.
* `Call`, `Logged`, `logged` — the calls of a factory and of the settings, logged.
* `run_mapM_define_ok`, `run_mapM_define_error` — a row of chains, up to its end or up to the first
  that cannot be cut.
* `run_assemble_flatten`, `run_assemble_length` — a graph is assembled as the row of its chains, and
  keeps its branches.
* **`parseWith_run`** — one call for each chain in the order of the text, up to the first that cannot
  be cut.
-/

namespace PadGraph

/-! ### Settings -/

/-- One setting of a definition, with what is set. -/
inductive Setting where
  | sourceLabels (labels : List Text)
  | destinationLabels (labels : List Text)
  | name (name : Text)
  | arguments (arguments : List Argument)
  deriving DecidableEq, Repr, Inhabited

section Settings

variable {σ δ : Type} [Definition σ δ]

/-- Does one setting. -/
def Setting.apply : Setting → δ → StateM σ δ
  | .sourceLabels labels => Definition.setSourceLabels labels
  | .destinationLabels labels => Definition.setDestinationLabels labels
  | .name text => Definition.setName text
  | .arguments list => Definition.setArguments list

/-- Does settings one after the other. -/
def replay (settings : List Setting) (definition : δ) : StateM σ δ :=
  settings.foldlM (fun definition setting => setting.apply definition) definition

/-- The settings that the parts of a chain call for. -/
def ChainParts.settings (parts : ChainParts) : List Setting :=
  [.sourceLabels parts.sourceLabels, .destinationLabels parts.destinationLabels,
    .name (FilterSpec.ofTokens parts.filter).name,
    .arguments (FilterSpec.ofTokens parts.filter).arguments]

/-- To fill a definition is to do the settings in their order. -/
theorem fill_eq_replay (parts : ChainParts) (definition : δ) :
    (Definition.fill parts definition : StateM σ δ) = replay parts.settings definition := rfl

end Settings

/-- A record of settings is a definition to which each setting is added. -/
instance {σ : Type} : Definition σ (List Setting) where
  setSourceLabels labels record := return record ++ [.sourceLabels labels]
  setDestinationLabels labels record := return record ++ [.destinationLabels labels]
  setName name record := return record ++ [.name name]
  setArguments arguments record := return record ++ [.arguments arguments]

/-- The settings that a text calls for, chain by chain. -/
def record (text : Text) : Except ChainError (List (List (List Setting))) :=
  ((parseWith (pure [] : StateM Unit (List Setting)) text).run.run ()).1

/-- The node in which settings are done, when nothing is set in it before. -/
def Node.ofSettings (settings : List Setting) : Node :=
  ((replay settings ({} : Node) : StateM Unit Node).run ()).1

theorem map_mapM {ε α β γ : Type} (f : α → Except ε β) (g : β → γ) (items : List α) :
    (items.mapM f).map (List.map g) = items.mapM fun a => (f a).map g := by
  induction items with
  | nil => rfl
  | cons a items ih =>
      rw [List.mapM_cons, List.mapM_cons, ← ih]
      cases f a with
      | error e => rfl
      | ok b => cases items.mapM f <;> rfl

/-- A graph is read by doing what was recorded to nodes in which nothing is set. -/
theorem parse_eq_replay (text : Text) :
    parse text = (record text).map (List.map (List.map Node.ofSettings)) := by
  have hrecord : ∀ parts (s : Unit),
      (Definition.fill parts ([] : List Setting)).run s = (parts.settings, s) := fun _ _ => rfl
  rw [record, parseWith, run_assemble_pure hrecord, parse_eq, map_mapM]
  congr 1
  funext branch
  rw [map_mapM]
  congr 1
  funext chain
  rw [readNode]
  cases decompose chain <;> rfl

/-! ### Chains in their order -/

/-- All chains of a text in the order in which they are written, whatever their branches. -/
def chainRow (text : Text) : List (List Token) := (chainsOf (tokenize text)).flatten

/-- Chains are cut into given parts, one after the other. -/
def CutInto (chains : List (List Token)) (row : List ChainParts) : Prop :=
  List.Forall₂ (fun chain parts => decompose chain = .ok parts) chains row

/-- Chains are cut in one way only. -/
theorem CutInto.unique {chains : List (List Token)} {row row' : List ChainParts}
    (h : CutInto chains row) (h' : CutInto chains row') : row = row' :=
  Except.ok.inj ((mapM_eq_ok_iff.mpr h).symm.trans (mapM_eq_ok_iff.mpr h'))

theorem exists_cutInto {chains : List (List Token)}
    (h : ∀ chain ∈ chains, ∃ parts, decompose chain = .ok parts) : ∃ row, CutInto chains row := by
  induction chains with
  | nil => exact ⟨[], .nil⟩
  | cons chain chains ih =>
      obtain ⟨parts, hparts⟩ := h chain (by simp)
      obtain ⟨row, hrow⟩ := ih fun other ho => h other (by simp [ho])
      exact ⟨parts :: row, .cons hparts hrow⟩

/-! ### Factories -/

section Factory

variable {σ δ : Type} [Definition σ δ]

/-- What a chain with given parts calls for: a blank definition, and then its settings. -/
def supply (factory : StateM σ δ) (parts : ChainParts) : StateM σ δ := do
  replay parts.settings (← factory)

/-- The state behind chains with given parts. -/
def stateBehind (factory : StateM σ δ) (row : List ChainParts) (s : σ) : σ :=
  row.foldl (fun s parts => ((supply factory parts).run s).2) s

/-- The definitions made of chains with given parts: each chain finds the state that the chains
before it have left. -/
def filled (factory : StateM σ δ) (row : List ChainParts) (s : σ) : List δ :=
  row.mapIdx fun k parts => ((supply factory parts).run (stateBehind factory (row.take k) s)).1

theorem filled_cons (factory : StateM σ δ) (parts : ChainParts) (row : List ChainParts) (s : σ) :
    filled factory (parts :: row) s = ((supply factory parts).run s).1 ::
      filled factory row ((supply factory parts).run s).2 := by
  rw [filled, List.mapIdx_cons]
  rfl

end Factory

/-! ### Calls -/

/-- What is called while a graph is assembled. -/
inductive Call where
  /-- The factory is asked for a blank definition. -/
  | make
  | set (setting : Setting)
  deriving DecidableEq, Repr, Inhabited

/-- What the parts of a chain call for. -/
def ChainParts.calls (parts : ChainParts) : List Call := .make :: parts.settings.map .set

/-- A definition whose calls are logged. -/
structure Logged (δ : Type) where
  definition : δ
  deriving DecidableEq, Repr, Inhabited

section Calls

variable {σ δ : Type}

/-- Runs a call and logs it behind the calls before it. -/
def logging (call : Call) (run : StateM σ δ) : StateM (σ × List Call) (Logged δ) := fun (s, log) =>
  (⟨(run.run s).1⟩, (run.run s).2, log ++ [call])

/-- The same factory with its calls logged. -/
def logged (factory : StateM σ δ) : StateM (σ × List Call) (Logged δ) := logging .make factory

variable [Definition σ δ]

instance : Definition (σ × List Call) (Logged δ) where
  setSourceLabels labels logged :=
    logging (.set (.sourceLabels labels)) (Definition.setSourceLabels labels logged.definition)
  setDestinationLabels labels logged :=
    logging (.set (.destinationLabels labels))
      (Definition.setDestinationLabels labels logged.definition)
  setName name logged := logging (.set (.name name)) (Definition.setName name logged.definition)
  setArguments arguments logged :=
    logging (.set (.arguments arguments)) (Definition.setArguments arguments logged.definition)

theorem run_apply_logged (setting : Setting) (definition : δ) (s : σ) (log : List Call) :
    (setting.apply (Logged.mk definition)).run (s, log) =
      (⟨((setting.apply definition).run s).1⟩, ((setting.apply definition).run s).2,
        log ++ [.set setting]) := by
  cases setting with
  | sourceLabels labels => rfl
  | destinationLabels labels => rfl
  | name text => rfl
  | arguments list => rfl

theorem run_replay_logged (settings : List Setting) (definition : δ) (s : σ) (log : List Call) :
    (replay settings (Logged.mk definition)).run (s, log) =
      (⟨((replay settings definition).run s).1⟩, ((replay settings definition).run s).2,
        log ++ settings.map .set) := by
  induction settings generalizing definition s log with
  | nil =>
      rw [List.map_nil, List.append_nil]
      rfl
  | cons setting settings ih =>
      show (replay settings ((setting.apply (Logged.mk definition)).run (s, log)).1).run
        ((setting.apply (Logged.mk definition)).run (s, log)).2 = _
      rw [run_apply_logged, ih, List.append_assoc]
      rfl

/-- One chain gives the same with its calls logged: for a blank definition first, and then its
settings. -/
theorem run_supply_logged (factory : StateM σ δ) (parts : ChainParts) (s : σ) (log : List Call) :
    (supply (logged factory) parts).run (s, log) =
      (⟨((supply factory parts).run s).1⟩, ((supply factory parts).run s).2,
        log ++ parts.calls) := by
  show (replay parts.settings (Logged.mk (factory.run s).1)).run
    ((factory.run s).2, log ++ [.make]) = _
  rw [run_replay_logged, List.append_assoc]
  rfl

theorem stateBehind_logged (factory : StateM σ δ) (row : List ChainParts) (s : σ)
    (log : List Call) :
    stateBehind (logged factory) row (s, log) =
      (stateBehind factory row s, log ++ row.flatMap ChainParts.calls) := by
  induction row generalizing s log with
  | nil => simp [stateBehind]
  | cons parts row ih =>
      show stateBehind (logged factory) row ((supply (logged factory) parts).run (s, log)).2 = _
      rw [run_supply_logged, ih, List.flatMap_cons, ← List.append_assoc]
      rfl

theorem filled_logged (factory : StateM σ δ) (row : List ChainParts) (s : σ) (log : List Call) :
    filled (logged factory) row (s, log) = (filled factory row s).map Logged.mk := by
  induction row generalizing s log with
  | nil => rfl
  | cons parts row ih => rw [filled_cons, filled_cons, run_supply_logged, ih, List.map_cons]

/-- The factory is called once for each chain. -/
theorem count_make_calls (row : List ChainParts) :
    (row.flatMap ChainParts.calls).count .make = row.length := by
  induction row with
  | nil => rfl
  | cons parts row ih =>
      have hparts : parts.calls.count .make = 1 := rfl
      rw [List.flatMap_cons, List.count_append, hparts, ih, List.length_cons, Nat.add_comm]

end Calls

/-! ### Rows of chains -/

section Rows

variable {σ δ : Type} [Definition σ δ] (factory : StateM σ δ)

theorem run_define_ok {chain : List Token} {parts : ChainParts} (h : decompose chain = .ok parts)
    (s : σ) :
    (define factory chain).run.run s =
      (.ok ((supply factory parts).run s).1, ((supply factory parts).run s).2) := by
  rw [define, h]
  show (Except.ok ((Definition.fill parts (factory.run s).1).run (factory.run s).2).1,
    ((Definition.fill parts (factory.run s).1).run (factory.run s).2).2) = _
  rw [fill_eq_replay]
  rfl

theorem run_define_error {chain : List Token} {e : ChainError} (h : decompose chain = .error e)
    (s : σ) : (define factory chain).run.run s = (.error e, s) := by
  rw [define, h]
  rfl

/-- Chains that can all be cut are each given one definition. -/
theorem run_mapM_define_ok {chains : List (List Token)} {row : List ChainParts}
    (h : CutInto chains row) (s : σ) :
    (chains.mapM (define factory)).run.run s =
      (.ok (filled factory row s), stateBehind factory row s) := by
  induction h generalizing s with
  | nil => rfl
  | @cons chain parts chains row hchain _ ih =>
      rw [List.mapM_cons, run_bind, run_define_ok factory hchain, filled_cons]
      show ((do let ds ← chains.mapM (define factory); pure (_ :: ds) :
        ExceptT ChainError (StateM σ) (List δ)).run).run ((supply factory parts).run s).2 = _
      rw [run_bind, ih]
      rfl

/-- The first chain that cannot be cut ends a row, and nothing is called any more. -/
theorem run_mapM_define_error {before : List (List Token)} {chain : List Token}
    {row : List ChainParts} {e : ChainError} (hbefore : CutInto before row)
    (hchain : decompose chain = .error e) (behind : List (List Token)) (s : σ) :
    ((before ++ chain :: behind).mapM (define factory)).run.run s =
      (.error e, stateBehind factory row s) := by
  rw [List.mapM_append, run_bind, run_mapM_define_ok factory hbefore]
  show ((do let ds ← (chain :: behind).mapM (define factory); pure (_ ++ ds) :
    ExceptT ChainError (StateM σ) (List δ)).run).run (stateBehind factory row s) = _
  rw [run_bind, List.mapM_cons, run_bind, run_define_error factory hchain]

end Rows

/-! ### From rows to graphs -/

/-- Whatever steps do to a state, each gives one result. -/
theorem forall₂_of_run_mapM {ε σ α β : Type} {f : α → ExceptT ε (StateM σ) β} {items : List α}
    {results : List β} {s s' : σ} (h : (items.mapM f).run.run s = (.ok results, s')) :
    List.Forall₂ (fun a b => ∃ s s', (f a).run.run s = (.ok b, s')) items results := by
  induction items generalizing results s s' with
  | nil =>
      obtain ⟨hresults, -⟩ := Prod.mk.inj h
      obtain rfl := Except.ok.inj hresults
      exact .nil
  | cons a items ih =>
      rw [List.mapM_cons, run_bind] at h
      split at h
      · next b s₁ hb =>
        rw [run_bind] at h
        split at h
        · next bs s₂ hbs =>
          obtain ⟨hresults, -⟩ := Prod.mk.inj h
          obtain rfl := Except.ok.inj hresults
          exact .cons ⟨s, s₁, hb⟩ (ih hbs)
        · cases (Prod.mk.inj h).1
      · cases (Prod.mk.inj h).1

section Graphs

variable {σ δ : Type} [Definition σ δ] (factory : StateM σ δ)

/-- A graph is assembled as the row of all its chains is. -/
theorem run_assemble_flatten (graph : List (List (List Token))) (s : σ) :
    (graph.flatten.mapM (define factory)).run.run s =
      match (assemble factory graph).run.run s with
      | (.ok definitions, s') => (.ok definitions.flatten, s')
      | (.error e, s') => (.error e, s') := by
  have hbind := run_bind (assemble factory graph) (fun definitions => pure definitions.flatten) s
  rw [← flatten_mapM]
  refine hbind.trans ?_
  obtain ⟨result, s'⟩ := (assemble factory graph).run.run s
  cases result <;> rfl

/-- What is assembled has the branches of the graph. -/
theorem run_assemble_length {graph : List (List (List Token))} {definitions : List (List δ)}
    {s s' : σ} (h : (assemble factory graph).run.run s = (.ok definitions, s')) :
    definitions.map List.length = graph.map List.length := by
  have hlength : List.Forall₂ (fun branch ds => branch.length = ds.length) graph definitions := by
    refine (forall₂_of_run_mapM h).imp ?_
    rintro branch ds ⟨s₁, s₂, hbranch⟩
    exact (forall₂_of_run_mapM hbranch).length_eq
  rw [← List.forall₂_eq_eq_eq, List.forall₂_map_left_iff, List.forall₂_map_right_iff]
  exact hlength.flip.imp fun _ _ h => h.symm

/-- Where all chains can be cut, the definitions are filled with their parts in the order of the
text. -/
theorem parseWith_ok {text : Text} {row : List ChainParts} (h : CutInto (chainRow text) row)
    (s : σ) :
    ∃ definitions,
      (parseWith factory text).run.run s = (.ok definitions, stateBehind factory row s) ∧
      definitions.map List.length = (chainsOf (tokenize text)).map List.length ∧
      definitions.flatten = filled factory row s := by
  have hrow := run_mapM_define_ok factory h s
  rw [chainRow, run_assemble_flatten] at hrow
  cases hrun : (assemble factory (chainsOf (tokenize text))).run.run s with
  | mk result s' =>
      rw [hrun] at hrow
      cases result with
      | error e => cases (Prod.mk.inj hrow).1
      | ok definitions =>
          obtain ⟨hresult, rfl⟩ := Prod.mk.inj hrow
          exact ⟨definitions, hrun, run_assemble_length factory hrun, Except.ok.inj hresult⟩

theorem parseWith_error {text : Text} {before behind : List (List Token)} {chain : List Token}
    {row : List ChainParts} {e : ChainError} (hchains : chainRow text = before ++ chain :: behind)
    (hbefore : CutInto before row) (hchain : decompose chain = .error e) (s : σ) :
    (parseWith factory text).run.run s = (.error e, stateBehind factory row s) := by
  have hrow := run_mapM_define_error factory hbefore hchain behind s
  rw [← hchains, chainRow, run_assemble_flatten] at hrow
  cases hrun : (assemble factory (chainsOf (tokenize text))).run.run s with
  | mk result s' =>
      rw [hrun] at hrow
      cases result with
      | ok definitions => cases (Prod.mk.inj hrow).1
      | error e' =>
          obtain ⟨hresult, rfl⟩ := Prod.mk.inj hrow
          obtain rfl := Except.error.inj hresult
          exact hrun

end Graphs

/-- **One call for each chain.** When all chains of a text can be cut, the factory is called once
for each; the branches stay as they are, and each chain gives what the factory supplies for it in the
state that the chains before it have left, with the four settings of the chain done in their order.
Otherwise the first chain that cannot be cut gives its error, and the factory has been called, and
the settings have been done, for each chain before it and for no other. The log tells all calls: for
each chain, one of the factory and then its settings. A graph is what the settings of a text make of
blank nodes. -/
theorem parseWith_run {σ δ : Type} [Definition σ δ] (factory : StateM σ δ) (text : Text) (s : σ) :
    ((∀ chain ∈ chainRow text, ∃ parts, decompose chain = .ok parts) →
      ∃ (row : List ChainParts) (definitions : List (List δ)), CutInto (chainRow text) row ∧
        (parseWith factory text).run.run s = (.ok definitions, stateBehind factory row s) ∧
        (parseWith (logged factory) text).run.run (s, []) =
          (.ok (definitions.map (List.map Logged.mk)), stateBehind factory row s,
            row.flatMap ChainParts.calls) ∧
        (row.flatMap ChainParts.calls).count .make = (chainRow text).length ∧
        definitions.map List.length = (chainsOf (tokenize text)).map List.length ∧
        definitions.flatten = row.mapIdx fun k parts =>
          ((supply factory parts).run (stateBehind factory (row.take k) s)).1) ∧
    (∀ (before : List (List Token)) (chain : List Token) (behind : List (List Token))
        (e : ChainError), chainRow text = before ++ chain :: behind →
      (∀ earlier ∈ before, ∃ parts, decompose earlier = .ok parts) →
      decompose chain = .error e →
        ∃ row, CutInto before row ∧
          (parseWith factory text).run.run s = (.error e, stateBehind factory row s) ∧
          (parseWith (logged factory) text).run.run (s, []) =
            (.error e, stateBehind factory row s, row.flatMap ChainParts.calls) ∧
          (row.flatMap ChainParts.calls).count .make = before.length) ∧
    parse text = (record text).map (List.map (List.map Node.ofSettings)) := by
  refine ⟨?_, ?_, parse_eq_replay text⟩
  · intro hall
    obtain ⟨row, hrow⟩ := exists_cutInto hall
    obtain ⟨definitions, hrun, hlength, hflatten⟩ := parseWith_ok factory hrow s
    obtain ⟨calls, hcalls, hlength', hflatten'⟩ := parseWith_ok (logged factory) hrow (s, [])
    -- the log changes none of the definitions, and so none of the branches
    have hsame : calls = definitions.map (List.map Logged.mk) := by
      refine List.eq_iff_flatten_eq.mpr ⟨?_, ?_⟩
      · rw [hflatten', filled_logged, ← hflatten, List.map_flatten]
      · rw [hlength', ← hlength]
        simp
    rw [stateBehind_logged, List.nil_append, hsame] at hcalls
    refine ⟨row, definitions, hrow, hrun, hcalls, ?_, hlength, hflatten⟩
    rw [count_make_calls, hrow.length_eq]
  · intro before chain behind e hchains hbefore hchain
    obtain ⟨row, hrow⟩ := exists_cutInto hbefore
    have hcalls := parseWith_error (logged factory) hchains hrow hchain (s, [])
    rw [stateBehind_logged, List.nil_append] at hcalls
    refine ⟨row, hrow, parseWith_error factory hchains hrow hchain s, hcalls, ?_⟩
    rw [count_make_calls, hrow.length_eq]

/-- A factory that numbers what it supplies. In the first text two chains can be cut, with a branch of
commas between them; in the second a chain comes behind them that cannot, and one that is never
looked at. -/
theorem parseWith_run_numbered :
    let factory : StateM Nat (List Setting) := fun n => ([.name (Text.decimal n)], n + 1)
    let first : List Setting :=
      [.sourceLabels [], .destinationLabels [['b']], .name ['a'], .arguments []]
    let second : List Setting :=
      [.sourceLabels [['v']], .destinationLabels [], .name ['c'], .arguments [⟨['1'], none⟩]]
    let calls : List Call := .make :: first.map .set ++ .make :: second.map .set
    let definitions : List (List (List Setting)) :=
      [[.name ['0'] :: first], [], [.name ['1'] :: second]]
    ((parseWith factory "a[b],;,;[v]c=1".toList).run.run 0 = (.ok definitions, 2) ∧
      (parseWith (logged factory) "a[b],;,;[v]c=1".toList).run.run (0, []) =
        (.ok (definitions.map (List.map Logged.mk)), 2, calls)) ∧
    (parseWith factory "a[b],;,;[v]c=1,d[e]f;g".toList).run.run 0 =
        (.error (.trailingContent "d[e]f".toList ['f']), 2) ∧
      (parseWith (logged factory) "a[b],;,;[v]c=1,d[e]f;g".toList).run.run (0, []) =
        (.error (.trailingContent "d[e]f".toList ['f']), 2, calls) ∧
    calls.count .make = 2 := by
  intro factory first second calls definitions
  have ha : decompose (tokenize "a[b]".toList) = .ok ⟨[], [.plain 'a'], [['b']]⟩ := by
    decide +kernel
  have hc : decompose (tokenize "[v]c=1".toList) = .ok ⟨[['v']], tokenize "c=1".toList, []⟩ := by
    decide +kernel
  have hd : decompose (tokenize "d[e]f".toList) =
      .error (.trailingContent "d[e]f".toList ['f']) := by
    decide +kernel
  have hcut : CutInto [tokenize "a[b]".toList, tokenize "[v]c=1".toList]
      [⟨[], [.plain 'a'], [['b']]⟩, ⟨[['v']], tokenize "c=1".toList, []⟩] :=
    .cons ha (.cons hc .nil)
  have hall : ∀ chain ∈ [tokenize "a[b]".toList, tokenize "[v]c=1".toList],
      ∃ parts, decompose chain = .ok parts :=
    List.forall_mem_cons.mpr ⟨⟨_, ha⟩, List.forall_mem_singleton.mpr ⟨_, hc⟩⟩
  have hwhole : chainRow "a[b],;,;[v]c=1".toList =
      [tokenize "a[b]".toList, tokenize "[v]c=1".toList] := by
    decide +kernel
  have hbroken : chainRow "a[b],;,;[v]c=1,d[e]f;g".toList =
      [tokenize "a[b]".toList, tokenize "[v]c=1".toList] ++
        tokenize "d[e]f".toList :: [tokenize "g".toList] := by
    decide +kernel
  obtain ⟨hok, -, -⟩ := parseWith_run factory "a[b],;,;[v]c=1".toList 0
  obtain ⟨-, herror, -⟩ := parseWith_run factory "a[b],;,;[v]c=1,d[e]f;g".toList 0
  refine ⟨?_, ?_⟩
  · obtain ⟨row, read, hrow, hrun, hlog, -, hlength, hflatten⟩ := hok (hwhole ▸ hall)
    rw [hwhole] at hrow
    obtain rfl := hrow.unique hcut
    have hread : read = definitions := List.eq_iff_flatten_eq.mpr
      ⟨hflatten.trans (by decide +kernel), hlength.trans (by decide +kernel)⟩
    rw [hread] at hrun hlog
    exact ⟨hrun, hlog⟩
  · obtain ⟨row, hrow, hrun, hlog, hcount⟩ := herror _ _ _ _ hbroken hall hd
    obtain rfl := hrow.unique hcut
    exact ⟨hrun, hlog, hcount⟩

end PadGraph
