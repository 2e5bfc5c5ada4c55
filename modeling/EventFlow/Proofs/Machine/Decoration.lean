import EventFlow.Proofs.Machine.Compile

/-!
# Options decorate a machine

What a pipeline is compiled with never decides whether it compiles, nor what its states are called,
where they read or in which order they run. Two runs over one pipeline are compared, under any two
options.

* **A refusal is the same in both runs**, since it is the first violation and violations are listed
  without the options (`EventFlow.Machine.violations`).
* **A machine is the same up to its decoration**: the names that the options give, and the branches
  of its calls. `bareChain` takes the branches away at every depth, and what is left does not depend
  on the options because the name of a fan-out is made from the names of its states alone.

What the decoration is, is said of every state of a machine (`Branched`): a call has the one branch
that leads to the queue for failures, if there is such a queue, and no other state has any.
-/

namespace EventFlow.Machine

/-! ### Bare chains -/

mutual

/-- A state without its branches, nor those of the states that it runs. -/
def State.bare : State → State
  | ⟨id, input, kind, _⟩ => ⟨id, input, kind.bare, []⟩

/-- What a state does, the states that it runs without their branches. -/
def StateKind.bare : StateKind → StateKind
  | .forEach items concurrency iterator => .forEach items concurrency (bareChain iterator)
  | kind => kind

/-- **The bare chain**: no state has a branch, at any depth. -/
def bareChain : List State → List State
  | [] => []
  | state :: states => state.bare :: bareChain states

end

theorem bareChain_append (chain states : Chain) :
    bareChain (chain ++ states) = bareChain chain ++ bareChain states := by
  induction chain with
  | nil => rfl
  | cons state chain ih => rw [List.cons_append, bareChain, bareChain, ih, List.cons_append]

mutual

/-- **A layout without its branches does not depend on the options.** -/
theorem bareChain_layNode (options options' : Options) :
    ∀ (read : Path) (node : Node),
      bareChain (layNode options read node) = bareChain (layNode options' read node)
  | _, .source _ => rfl
  | _, .call _ => rfl
  | read, .fanOut nodes => by
    have hnodes := bareChain_layNodes options options' .root nodes
    by_cases hcall : haveCall nodes
    · -- the names of the states in the fan-out, and so its own name, are read off the tree
      have hids : joinedIds (layNodes options .root nodes) =
          joinedIds (layNodes options' .root nodes) := by
        rw [joinedIds_layNodes, joinedIds_layNodes]
      rw [layNode, layNode, if_pos hcall, if_pos hcall]
      simp only [fanOutOver, bareChain, State.bare, StateKind.bare, hnodes, hids]
    · rw [layNode, layNode, if_neg hcall, if_neg hcall]
  | _, .deliver _ => rfl

theorem bareChain_layNodes (options options' : Options) :
    ∀ (read : Path) (nodes : List Node),
      bareChain (layNodes options read nodes) = bareChain (layNodes options' read nodes)
  | _, [] => rfl
  | read, node :: nodes => by
    rw [layNodes, layNodes, bareChain_append, bareChain_append,
      bareChain_layNode options options' read node, bareChain_layNodes options options' _ nodes]

end

/-! ### Branches -/

/-- **The branches that options give to a state.** A call gets the one that hands any error, put
beside the input, to the queue for failures and then ends the machine. -/
def branchesUnder (options : Options) (kind : StateKind) : List CatchBranch :=
  match kind, options.deadLetter with
  | .invoke function, some queue =>
    [{ errors := ["States.ALL"]
       resultPath := .error
       states := [
        ⟨"Try" ++ function.id, .root, .catchAndForward queue, []⟩,
        ⟨"Err" ++ function.id, .root, .fail, []⟩] }]
  | _, _ => []

/-- Whether a state only ever stands in a branch. -/
def StateKind.isHandler : StateKind → Bool
  | .catchAndForward _ => true
  | .fail => true
  | _ => false

/-- **A state that is branched as the options say**: it has the branches they give it, and unless
they name a queue for failures it handles none. -/
structure Branched (options : Options) (state : State) : Prop where
  catches : state.catches = branchesUnder options state.kind
  handler : options.deadLetter = none → state.kind.isHandler = false

theorem branched_invokeState (options : Options) (read : Path) (function : Resource) :
    ∀ state ∈ (Builder.invokeState options read function).reachable, Branched options state := by
  intro state hmem
  rw [reachable_invokeState, List.mem_cons, List.mem_flatMap] at hmem
  rcases hmem with rfl | ⟨branch, hbranch, hstate⟩
  · refine ⟨?_, fun _ => rfl⟩
    rcases hqueue : options.deadLetter with _ | queue <;>
      simp [Builder.invokeState, branchesUnder, hqueue, Builder.catchBranch, allErrors,
        Naming.forward, Naming.fail]
  · -- there is a branch, so there is a queue
    obtain ⟨queue, hqueue, rfl⟩ := Option.map_eq_some_iff.mp (Option.mem_toList.mp hbranch)
    have hsome : options.deadLetter ≠ none := by simp [hqueue]
    rw [Builder.catchBranch, List.mem_pair] at hstate
    rcases hstate with rfl | rfl
    · exact ⟨rfl, fun hnone => absurd hnone hsome⟩
    · exact ⟨rfl, fun hnone => absurd hnone hsome⟩

theorem branched_sinkState (options : Options) (read : Path) (d : Delivery) :
    Branched options (sinkState read d) := by
  obtain ⟨_ | _, typeName⟩ := d
  · exact ⟨rfl, fun _ => rfl⟩
  · exact ⟨rfl, fun _ => rfl⟩

mutual

/-- **Every state of a layout is branched as the options say**, those in iterators and in branches
included. -/
theorem branched_layNode (options : Options) :
    ∀ (read : Path) (node : Node),
      ∀ state ∈ reachableOfChain (layNode options read node), Branched options state
  | _, .source _ => fun _ hmem => absurd hmem List.not_mem_nil
  | read, .call c => by
    rw [layNode, reachableOfChain_singleton]
    exact branched_invokeState options read c.function
  | read, .fanOut nodes => by
    intro state hmem
    by_cases hcall : haveCall nodes
    · rw [layNode, if_pos hcall, reachableOfChain_singleton, fanOutOver, reachable_forEach,
        List.mem_cons] at hmem
      rcases hmem with rfl | hinner
      · exact ⟨rfl, fun _ => rfl⟩
      · exact branched_layNodes options .root nodes state hinner
    · rw [layNode, if_neg hcall] at hmem
      exact absurd hmem List.not_mem_nil
  | read, .deliver d => by
    intro state hmem
    rw [layNode, reachableOfChain_singleton, reachable_sinkState, List.mem_singleton] at hmem
    exact hmem ▸ branched_sinkState options read d

theorem branched_layNodes (options : Options) :
    ∀ (read : Path) (nodes : List Node),
      ∀ state ∈ reachableOfChain (layNodes options read nodes), Branched options state
  | _, [] => fun _ hmem => absurd hmem List.not_mem_nil
  | read, node :: nodes => by
    intro state hmem
    rw [layNodes, reachableOfChain_append, List.mem_append] at hmem
    rcases hmem with hfirst | hlater
    · exact branched_layNode options read node state hfirst
    · exact branched_layNodes options (readAfter read node) nodes state hlater

end

/-! ### Two runs -/

/-- **What options decorate a machine with**: its name, under which its rule starts it, the name of
that rule, and the branches of its states. -/
structure Decorated (options : Options) (compiled : Compiled) : Prop where
  machineName : compiled.machine.name = options.machineName
  ruleName : compiled.rule.name = options.ruleName
  target : compiled.rule.target = options.machineName
  branched : ∀ state ∈ compiled.machine.chain.allStates, Branched options state

theorem decorated_assembled (options : Options) (src : Source) (nodes : List Node) :
    Decorated options (assembled options src (layNodes options .detail nodes)) :=
  ⟨rfl, rfl, rfl, branched_layNodes options .detail nodes⟩

/-- **Options only decorate the result.** Under any two options a pipeline is refused for one and
the same reason, or it compiles in both runs to machines that carry the decoration of their options
and are equal in all the rest: names, order and kinds of the states at every depth, where they read,
the bounds of fan-outs, and which events start the machine. -/
theorem compile_decorates (options options' : Options) (p : Pipeline) :
    match compile options p, compile options' p with
    | .ok compiled, .ok compiled' =>
      bareChain compiled.machine.chain = bareChain compiled'.machine.chain ∧
        compiled.rule.bus = compiled'.rule.bus ∧
        compiled.rule.detailTypes = compiled'.rule.detailTypes ∧
        Decorated options compiled ∧ Decorated options' compiled'
    | .error e, .error e' => e = e'
    | _, _ => False := by
  rcases hviolations : violations p with _ | ⟨v, vs⟩
  · obtain ⟨src, rest, rfl⟩ := exists_source_of_violations_eq_nil hviolations
    rw [compile_of_source, compile_of_source, hviolations]
    exact ⟨bareChain_layNodes options options' .detail rest, rfl, rfl,
      decorated_assembled options src rest, decorated_assembled options' src rest⟩
  · rw [compile_of_violations_eq_cons options hviolations,
      compile_of_violations_eq_cons options' hviolations]

end EventFlow.Machine
