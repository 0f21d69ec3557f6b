import PadGraph.Command
import PadGraph.Proofs.Config.Bounds
import PadGraph.Proofs.Expression.Routes

/-!
# Commands that read the same expression

Three commands read an expression and print something of its graph. They look for the configuration,
the expression and its graph in the same order, and print nothing before they have all three. So what
one of them refuses the others refuse too, with the same report, and what they print is of one graph.

* `Action.outcome_bind_error`, `Action.outcome_bind_ok`, `Action.outcome_print_bind` — what actions
  leave, step by step.
* `Action.liftM_bind` — steps that print nothing are one such step.
* `Outcome.Prints`, `Outcome.FailsWith` — a success with all that it prints, and a failure without
  anything printed.
* `readGraph` — the configuration and the graph that a command has before it prints.
* `readGraph_eq_ok_iff`, `readGraph_eq_error_iff` — how a graph comes about, and how it fails to.
* `reportGraph_eq`, `countGraph_eq`, `writeGraph_eq` — each of the three commands reads a graph first.
* **`commands_agree`** — all commands that read an expression succeed or fail together.
-/

namespace PadGraph

/-! ### Actions -/

namespace Action

variable {α : Type} {result : Except Failure α}

/-- A failure leaves nothing printed when nothing has been printed before it. -/
theorem outcome_bind_error {failure : Failure} (h : result = .error failure)
    (next : α → Action Unit) :
    outcome (liftM result >>= next) = ⟨[], some failure⟩ := by
  rw [h]
  rfl

/-- A step that prints nothing and succeeds leaves all to the next. -/
theorem outcome_bind_ok {a : α} (h : result = .ok a) (next : α → Action Unit) :
    outcome (liftM result >>= next) = (next a).outcome := by
  rw [h]
  rfl

/-- Steps that print nothing are one step that prints nothing. -/
theorem liftM_bind {β : Type} (first : Except Failure α) (next : α → Except Failure β)
    (last : β → Action Unit) :
    (liftM (first >>= next) >>= last : Action Unit) =
      liftM first >>= fun a => liftM (next a) >>= last := by
  cases first with
  | error failure => rfl
  | ok a => rfl

/-- A step that does nothing may be left out. -/
theorem liftM_pure (a : α) (next : α → Action Unit) :
    (liftM (pure a : Except Failure α) >>= next : Action Unit) = next a := rfl

theorem outcome_print (text : Text) : (print text).outcome = ⟨text, none⟩ := rfl

/-- What has been printed stands before what is printed next. -/
theorem outcome_print_bind (text : Text) (next : Unit → Action Unit) :
    outcome (print text >>= next) =
      ⟨text ++ (next ()).outcome.printed, (next ()).outcome.failure⟩ := rfl

end Action

namespace Outcome

/-- The command has succeeded, and has printed `text` and nothing else. -/
structure Prints (outcome : Outcome) (text : Text) : Prop where
  status_eq : outcome.status = 0
  printed_eq : outcome.printed = text
  errors_eq : outcome.errors = []
  failure_eq : outcome.failure = none

/-- The command has failed before anything was printed, and the report of `failure` is all that is
told. -/
structure FailsWith (outcome : Outcome) (failure : Failure) : Prop where
  status_eq : outcome.status = 1
  printed_eq : outcome.printed = []
  errors_eq : outcome.errors = failure.report
  failure_eq : outcome.failure = some failure

theorem prints_iff {outcome : Outcome} {text : Text} :
    outcome.Prints text ↔ outcome = ⟨text, none⟩ := by
  constructor
  · intro h
    obtain ⟨printed, failure⟩ := outcome
    obtain rfl : printed = text := h.printed_eq
    obtain rfl : failure = none := h.failure_eq
    rfl
  · rintro rfl
    exact ⟨rfl, rfl, rfl, rfl⟩

theorem failsWith_mk (failure : Failure) : FailsWith ⟨[], some failure⟩ failure :=
  ⟨rfl, rfl, rfl, rfl⟩

end Outcome

/-! ### Reading a graph -/

/-- The configuration that holds and the graph of an expression read under it. -/
def readGraph (world : World) (config : Option Text) (source : Source) :
    Except Failure (Config × Graph) := do
  let config ← findConfig world.files world.home config
  let text ← readExpression world.files world.stdin config.parser source
  let graph ← parseExpression config.parser text
  return (config, graph)

section Reading

variable {world : World} {config : Option Text} {source : Source}

/-- The configuration is found before anything of the expression is looked at. -/
theorem readGraph_eq :
    readGraph world config source = (do
      let settings ← findConfig world.files world.home config
      let graph ← expressionGraph world.files world.stdin settings.parser source
      return (settings, graph)) := by
  simp only [readGraph, expressionGraph, bind_assoc]

theorem readGraph_eq_error_iff {failure : Failure} :
    readGraph world config source = .error failure ↔
      findConfig world.files world.home config = .error failure ∨
        ∃ settings, findConfig world.files world.home config = .ok settings ∧
          expressionGraph world.files world.stdin settings.parser source = .error failure := by
  rw [readGraph_eq]
  cases findConfig world.files world.home config with
  | error e => simp [bind, Except.bind]
  | ok settings =>
      cases hg : expressionGraph world.files world.stdin settings.parser source with
      | error e => simp [bind, Except.bind, hg]
      | ok graph => simp [bind, Except.bind, pure, Except.pure, hg]

theorem readGraph_eq_ok_iff {settings : Config} {graph : Graph} :
    readGraph world config source = .ok (settings, graph) ↔
      findConfig world.files world.home config = .ok settings ∧
        expressionGraph world.files world.stdin settings.parser source = .ok graph := by
  rw [readGraph_eq]
  constructor
  · intro h
    obtain ⟨found, hfound, h⟩ := exists_of_bind_eq_ok h
    obtain ⟨read, hread, h⟩ := exists_of_bind_eq_ok h
    obtain ⟨rfl, rfl⟩ := Prod.mk.inj (Except.ok.inj h)
    exact ⟨hfound, hread⟩
  · rintro ⟨hfound, hread⟩
    rw [hfound]
    show (do
      let graph ← expressionGraph world.files world.stdin settings.parser source
      return (settings, graph) : Except Failure (Config × Graph)) = _
    rw [hread]
    rfl

/-! ### The three commands -/

/-- That JSON is asked for changes the report, and nothing of how its graph is read. -/
theorem reportGraph_eq (json : Bool) :
    reportGraph world config source json =
      (do
        let (settings, graph) ← readGraph world config source
        let report := graph.report (settings.output.orJson json)
        Action.print report
        if report.getLast? ≠ some '\n' then Action.print ['\n']) := by
  simp only [reportGraph, readGraph, Action.liftM_bind, Action.liftM_pure]

theorem countGraph_eq :
    countGraph world config source =
      (do
        let (_, graph) ← readGraph world config source
        Action.print (lit "ok: " ++ graph.summary ++ ['\n'])) := by
  simp only [countGraph, readGraph, Action.liftM_bind, Action.liftM_pure]

theorem writeGraph_eq :
    writeGraph world config source =
      (do
        let (_, graph) ← readGraph world config source
        Action.print (graph.render ++ ['\n'])) := by
  simp only [writeGraph, readGraph, Action.liftM_bind, Action.liftM_pure]

/-- Without a graph a command leaves nothing but the failure. -/
theorem run_of_readGraph_error {failure : Failure} (h : readGraph world config source = .error failure)
    (verbose : Bool) {command : Command} (hc : command.source? = some source) :
    (Invocation.mk config verbose command).run world = ⟨[], some failure⟩ := by
  cases command with
  | parse given json =>
      obtain rfl := Option.some.inj hc
      show (reportGraph world config given json).outcome = _
      rw [reportGraph_eq, Action.outcome_bind_error h]
  | check given =>
      obtain rfl := Option.some.inj hc
      show (countGraph world config given).outcome = _
      rw [countGraph_eq, Action.outcome_bind_error h]
  | format given =>
      obtain rfl := Option.some.inj hc
      show (writeGraph world config given).outcome = _
      rw [writeGraph_eq, Action.outcome_bind_error h]
  | validate path => cases hc
  | version => cases hc

variable {settings : Config} {graph : Graph}

theorem run_check (h : readGraph world config source = .ok (settings, graph)) (verbose : Bool) :
    (Invocation.mk config verbose (.check source)).run world =
      ⟨lit "ok: " ++ graph.summary ++ ['\n'], none⟩ := by
  show (countGraph world config source).outcome = _
  rw [countGraph_eq, Action.outcome_bind_ok h, Action.outcome_print]

theorem run_format (h : readGraph world config source = .ok (settings, graph)) (verbose : Bool) :
    (Invocation.mk config verbose (.format source)).run world = ⟨graph.render ++ ['\n'], none⟩ := by
  show (writeGraph world config source).outcome = _
  rw [writeGraph_eq, Action.outcome_bind_ok h, Action.outcome_print]

/-- A report is printed with one newline behind it, which may be its own. -/
theorem run_parse (h : readGraph world config source = .ok (settings, graph)) (verbose json : Bool)
    {report : Text} (hr : graph.report (settings.output.orJson json) = report) :
    (Invocation.mk config verbose (.parse source json)).run world =
      ⟨if report.getLast? = some '\n' then report else report ++ ['\n'], none⟩ := by
  show (reportGraph world config source json).outcome = _
  rw [reportGraph_eq, Action.outcome_bind_ok h]
  simp only [hr]
  rw [Action.outcome_print_bind]
  by_cases hend : report.getLast? = some '\n'
  · rw [if_pos hend, if_neg (by simp [hend])]
    simp [Action.outcome, pure]
  · rw [if_neg hend, if_pos hend, Action.outcome_print]

end Reading

/-- **Commands that read an expression agree.** Whatever files and standard input there are, and
whatever configuration and expression are named: either no graph can be read, and every command that
reads one fails in the same way, with nothing printed; or there is one graph, and every command
succeeds and prints what it has to tell of it and nothing else. -/
theorem commands_agree (world : World) (config : Option Text) (source : Source) :
    (∃ failure,
      (findConfig world.files world.home config = .error failure ∨
        ∃ settings, findConfig world.files world.home config = .ok settings ∧
          expressionGraph world.files world.stdin settings.parser source = .error failure) ∧
      ∀ verbose command, command.source? = some source →
        ((Invocation.mk config verbose command).run world).FailsWith failure) ∨
    ∃ settings graph,
      findConfig world.files world.home config = .ok settings ∧
      expressionGraph world.files world.stdin settings.parser source = .ok graph ∧
      ∀ verbose,
        ((Invocation.mk config verbose (.check source)).run world).Prints
          (lit "ok: " ++ graph.summary ++ ['\n']) ∧
        ((Invocation.mk config verbose (.format source)).run world).Prints
          (graph.render ++ ['\n']) ∧
        ∀ json,
          let report :=
            if json then graph.jsonText settings.output.pretty else graph.report settings.output
          ((Invocation.mk config verbose (.parse source json)).run world).Prints
            (if report.getLast? = some '\n' then report else report ++ ['\n']) := by
  cases hread : readGraph world config source with
  | error failure =>
      left
      refine ⟨failure, readGraph_eq_error_iff.mp hread, fun verbose command hc => ?_⟩
      rw [run_of_readGraph_error hread verbose hc]
      exact Outcome.failsWith_mk failure
  | ok found =>
      right
      obtain ⟨settings, graph⟩ := found
      obtain ⟨hfound, hgraph⟩ := readGraph_eq_ok_iff.mp hread
      refine ⟨settings, graph, hfound, hgraph, fun verbose => ⟨?_, ?_, ?_⟩⟩
      · exact Outcome.prints_iff.mpr (run_check hread verbose)
      · exact Outcome.prints_iff.mpr (run_format hread verbose)
      · intro json report
        have hreport : graph.report (settings.output.orJson json) = report := by
          cases json with
          | true => rfl
          | false => rfl
        exact Outcome.prints_iff.mpr (run_parse hread verbose json hreport)

/-- A file that is missing, which all commands report in the same way, and an expression from the
standard input under a configuration that is named, of which each command tells its part. The text
report ends in a newline of its own, and the compact JSON is given one. -/
theorem commands_agree_piped :
    let files : FileSystem := fun path =>
      if path = ['c'] then .file (Utf8.encode "output.pretty = false".toList) else .missing
    let world : World := ⟨files, Utf8.encode "[i]a=1,b".toList, none⟩
    let failure : Failure := ⟨.expressionFile ['f'], [.os .notFound]⟩
    let report := "branch 0\n  chain 0: a\n    sources: [i]\n    arguments: 1\n  chain 1: b\n".toList
    let graph : Graph := [[⟨[['i']], ['a'], [⟨['1'], none⟩], []⟩, .named ['b']]]
    (∀ verbose command, command.source? = some ⟨some ['-'], some ['f']⟩ →
      ((Invocation.mk none verbose command).run world).FailsWith failure) ∧
    failure.report = ("Error: Failed to read expression file: \"f\"\n\nCaused by:\n" ++
      "    No such file or directory (os error 2)\n").toList ∧
    ∀ verbose,
      let run (command : Command) : Outcome :=
        (Invocation.mk (some ['c']) verbose command).run world
      (run (.check ⟨some ['-'], none⟩)).Prints "ok: 1 branch, 2 chains\n".toList ∧
      (run (.format ⟨some ['-'], none⟩)).Prints "[i]a=1,b\n".toList ∧
      (run (.parse ⟨some ['-'], none⟩ false)).Prints report ∧
      (run (.parse ⟨some ['-'], none⟩ true)).Prints (graph.jsonText false ++ ['\n']) := by
  intro files world failure report graph
  have hdefault : findConfig world.files world.home none = .ok {} := by decide +kernel
  have hnamed : findConfig world.files world.home (some ['c']) = .ok ⟨{}, ⟨.text, false⟩⟩ := by
    decide +kernel
  have hfail : expressionGraph world.files world.stdin {} ⟨some ['-'], some ['f']⟩ =
      .error failure := by
    decide +kernel
  have hread : expressionGraph world.files world.stdin {} ⟨some ['-'], none⟩ =
      .ok graph := by
    decide +kernel
  refine ⟨?_, by decide +kernel, ?_⟩
  · rcases commands_agree world none ⟨some ['-'], some ['f']⟩ with
      ⟨other, hcause, hall⟩ | ⟨settings, read, hfound, hgraph, -⟩
    · rcases hcause with hconfig | ⟨settings, hfound, hother⟩
      · cases hdefault.symm.trans hconfig
      · obtain rfl := Except.ok.inj (hdefault.symm.trans hfound)
        obtain rfl := Except.error.inj (hfail.symm.trans hother)
        exact hall
    · obtain rfl := Except.ok.inj (hdefault.symm.trans hfound)
      cases hfail.symm.trans hgraph
  · intro verbose run
    rcases commands_agree world (some ['c']) ⟨some ['-'], none⟩ with
      ⟨other, hcause, -⟩ | ⟨settings, read, hfound, hgraph, hall⟩
    · rcases hcause with hconfig | ⟨settings, hfound, hother⟩
      · cases hnamed.symm.trans hconfig
      · obtain rfl := Except.ok.inj (hnamed.symm.trans hfound)
        cases hread.symm.trans hother
    · obtain rfl := Except.ok.inj (hnamed.symm.trans hfound)
      obtain rfl := Except.ok.inj (hread.symm.trans hgraph)
      obtain ⟨hcheck, hformat, hparse⟩ := hall verbose
      have hshown : ∀ {outcome : Outcome} {text shown : Text}, outcome.Prints text →
          text = shown → outcome.Prints shown := fun h heq => heq ▸ h
      exact ⟨hshown hcheck (by decide +kernel), hshown hformat (by decide +kernel),
        hshown (hparse false) (by decide +kernel), hshown (hparse true) (by decide +kernel)⟩

end PadGraph
