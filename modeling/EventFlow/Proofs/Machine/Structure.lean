import EventFlow.Proofs.Machine.Compile

/-!
# The structure of a compiled pipeline

A compiled chain is the pipeline again. Two readings of it are compared with the tree it comes from,
once the source and the fan-outs in which nothing is called are taken out of that tree (`prune`).

* **The outline** keeps the bare shape: calls with their functions, fan-outs with what runs in
  them, the delivery. The chain and the pruned tree have the same outline, so nothing is lost,
  added or moved at any depth.
* **The realization** `Realizes` goes further and relates each state to the node at the same
  place: names, functions, bounds and targets. The bound of a fan-out is the one of the call that
  stands first in it, and the state of that call is the first one that runs.
-/

namespace EventFlow.Machine

/-! ### Pruned trees -/

mutual

/-- A node without its sources and the fan-outs in which nothing is called. -/
def pruneNode : Node → List Node
  | .source _ => []
  | .call c => [.call c]
  | .fanOut nodes => if haveCall nodes then [.fanOut (prune nodes)] else []
  | .deliver d => [.deliver d]

/-- **The pruned chain**: no source, and no fan-out in which nothing is called, at any level. -/
def prune : List Node → List Node
  | [] => []
  | node :: nodes => pruneNode node ++ prune nodes

end

theorem prune_append (nodes nodes' : List Node) :
    prune (nodes ++ nodes') = prune nodes ++ prune nodes' := by
  induction nodes with
  | nil => rfl
  | cons node nodes ih => rw [List.cons_append, prune, prune, ih, List.append_assoc]

theorem pruneNode_eq_nil_of_inner {node : Node} (h : node.Inner) (hcall : node.hasCall = false) :
    pruneNode node = [] := by
  cases node with
  | source => exact h.elim
  | call => simp [Node.hasCall] at hcall
  | fanOut nodes => rw [pruneNode, if_neg (by simpa [Node.hasCall] using hcall)]
  | deliver => exact h.elim

/-- The call that opens a fan-out stands first in the pruned fan-out. -/
theorem prune_of_openingCall?_eq_some {nodes : List Node} {c : Call} (h : InnerChain nodes)
    (hopening : openingCall? nodes = some c) : ∃ rest, prune nodes = .call c :: rest := by
  rw [openingCall?_eq_some_iff] at hopening
  induction nodes with
  | nil => simp at hopening
  | cons node nodes ih =>
    rw [List.find?_cons] at hopening
    by_cases hcall : node.hasCall
    · obtain rfl : node = .call c := by simpa [hcall] using hopening
      exact ⟨prune nodes, rfl⟩
    · obtain ⟨rest, hrest⟩ := ih h.2 (by simpa [hcall] using hopening)
      rw [prune, pruneNode_eq_nil_of_inner h.1 (by simpa using hcall), hrest]
      exact ⟨rest, rfl⟩

/-! ### Outlines -/

/-- The bare shape of a node or a state. -/
inductive Outline where
  | call (function : Resource)
  | fanOut (body : List Outline)
  | deliver
  /-- A state that only stands in the branch of a state. -/
  | handler

mutual

/-- The outline of a state, its branches left aside. -/
def outlineOfState : State → Outline
  | ⟨_, _, kind, _⟩ => outlineOfKind kind

/-- The outline of what a state does. -/
def outlineOfKind : StateKind → Outline
  | .invoke function => .call function
  | .forEach _ _ iterator => .fanOut (outlineOfChain iterator)
  | .sendToQueue _ => .deliver
  | .sendToEventBus _ _ _ => .deliver
  | .catchAndForward _ => .handler
  | .fail => .handler

/-- **The outline of a chain of states.** -/
def outlineOfChain : List State → List Outline
  | [] => []
  | state :: states => outlineOfState state :: outlineOfChain states

end

mutual

/-- The outline of a node; a source has none. -/
def outlineOfNode : Node → List Outline
  | .source _ => []
  | .call c => [.call c.function]
  | .fanOut nodes => [.fanOut (outline nodes)]
  | .deliver _ => [.deliver]

/-- **The outline of a chain of nodes.** -/
def outline : List Node → List Outline
  | [] => []
  | node :: nodes => outlineOfNode node ++ outline nodes

end

/-! ### Realizations -/

mutual

/-- **A state does what a node says.** The name of a fan-out is made from the names of the states in
it; its bound is the one of the call that its first state comes from. -/
inductive Realizes : Node → State → Prop
  /-- A call of the function. -/
  | call {c : Call} {input : Path} {catches : List CatchBranch} :
      Realizes (.call c) ⟨"Map" ++ c.function.id, input, .invoke c.function, catches⟩
  /-- A run of other states for each element, the first of them for the opening call. -/
  | fanOut {c : Call} {nodes : List Node} {first : State} {states : Chain} {input items : Path}
      {catches : List CatchBranch} (hfirst : Realizes (.call c) first)
      (hstates : RealizesAll nodes states) :
      Realizes (.fanOut (.call c :: nodes))
        ⟨"Seq" ++ String.ofList ((Digest.hexDigestOfText
            (String.join ((first :: states).map (·.id)))).toList.take 8),
          input, .forEach items c.concurrency (first :: states), catches⟩
  /-- A delivery to a queue. -/
  | queue {queue : Resource} {typeName : String} {input : Path} {catches : List CatchBranch} :
      Realizes (.deliver ⟨.queue queue, typeName⟩) ⟨"Sink", input, .sendToQueue queue, catches⟩
  /-- A delivery to a bus under the first category. -/
  | category {bus : Resource} {source category typeName : String} {categories : List String}
      {input : Path} {catches : List CatchBranch} :
      Realizes (.deliver ⟨.eventBus bus source (category :: categories), typeName⟩)
        ⟨"Sink", input, .sendToEventBus bus source category, catches⟩
  /-- A delivery to a bus under the name of the type, for want of a category. -/
  | typeName {bus : Resource} {source typeName : String} {input : Path}
      {catches : List CatchBranch} :
      Realizes (.deliver ⟨.eventBus bus source [], typeName⟩)
        ⟨"Sink", input, .sendToEventBus bus source typeName, catches⟩

/-- The states of a chain do what the nodes of a chain say, one by one. -/
inductive RealizesAll : List Node → Chain → Prop
  | nil : RealizesAll [] []
  | cons {node : Node} {nodes : List Node} {state : State} {states : Chain}
      (h : Realizes node state) (hs : RealizesAll nodes states) :
      RealizesAll (node :: nodes) (state :: states)

end

theorem RealizesAll.append {nodes nodes' : List Node} {states states' : Chain} :
    RealizesAll nodes states → RealizesAll nodes' states' →
      RealizesAll (nodes ++ nodes') (states ++ states')
  | .nil, h' => h'
  | .cons h hs, h' => .cons h (hs.append h')

theorem RealizesAll.singleton {node : Node} {state : State} (h : Realizes node state) :
    RealizesAll [node] [state] :=
  .cons h .nil

mutual

/-- A state has the outline of the node that it realizes. -/
theorem Realizes.outline_eq :
    ∀ {node : Node} {state : State}, Realizes node state →
      outlineOfNode node = [outlineOfState state]
  | _, _, .call => rfl
  | _, _, .fanOut hfirst hstates => by
    rw [outlineOfNode, outline, hfirst.outline_eq, hstates.outline_eq]
    rfl
  | _, _, .queue => rfl
  | _, _, .category => rfl
  | _, _, .typeName => rfl

theorem RealizesAll.outline_eq :
    ∀ {nodes : List Node} {states : Chain}, RealizesAll nodes states →
      outline nodes = outlineOfChain states
  | _, _, .nil => rfl
  | _, _, .cons h hs => by
    rw [outline, outlineOfChain, h.outline_eq, hs.outline_eq]
    rfl

end

/-! ### Layouts realize pruned trees -/

theorem realizes_sinkState (read : Path) (d : Delivery) :
    Realizes (.deliver d) (sinkState read d) := by
  obtain ⟨_ | ⟨bus, source, _ | ⟨category, categories⟩⟩, typeName⟩ := d
  · exact .queue
  · exact .typeName
  · exact .category

mutual

/-- **The state of a node realizes the pruned node.** In a fan-out the opening call leads to both
ends: it stands first in the pruned fan-out, and it gives the state its bound. -/
theorem realizesAll_layNode (options : Options) :
    ∀ (read : Path) (node : Node), node.Inner →
      RealizesAll (pruneNode node) (layNode options read node)
  | _, .call _, _ => .singleton .call
  | read, .fanOut nodes, h => by
    obtain ⟨hinner, hopen⟩ := h
    by_cases hcall : haveCall nodes
    · rw [pruneNode, layNode, if_pos hcall, if_pos hcall]
      obtain ⟨c, hopening⟩ := Option.isSome_iff_exists.mp (hopen hcall)
      obtain ⟨rest, hrest⟩ := prune_of_openingCall?_eq_some hinner hopening
      -- the states match node by node, so the first of them is the one of the opening call
      have hstates := realizesAll_layNodes options .root nodes hinner
      rw [hrest] at hstates ⊢
      rw [fanOutOver, hopening]
      generalize layNodes options .root nodes = iterator at hstates ⊢
      cases hstates with
      | cons hfirst hlater => exact .singleton (.fanOut hfirst hlater)
    · rw [pruneNode, layNode, if_neg hcall, if_neg hcall]
      exact .nil

theorem realizesAll_layNodes (options : Options) :
    ∀ (read : Path) (nodes : List Node), InnerChain nodes →
      RealizesAll (prune nodes) (layNodes options read nodes)
  | _, [], _ => .nil
  | read, node :: nodes, h =>
    (realizesAll_layNode options read node h.1).append
      (realizesAll_layNodes options (readAfter read node) nodes h.2)

end

/-- **Compiling keeps the structure of a pipeline.** The chain has the outline of the pruned
pipeline, its states realize the pruned nodes one by one, and the rule is the one of the source. -/
theorem compile_preserves_structure {options : Options} {p : Pipeline} {compiled : Compiled}
    (h : compile options p = .ok compiled) :
    outlineOfChain compiled.machine.chain = outline (prune p) ∧
      RealizesAll (prune p) compiled.machine.chain ∧
      ∃ src rest, p = .source src :: rest ∧ compiled.rule.bus = src.bus ∧
        compiled.rule.detailTypes =
          (if src.categories = [] then [src.typeName] else src.categories) := by
  obtain ⟨src, body, sink, rfl, hbody, rfl, -⟩ := exists_body_of_compile_eq_ok h
  have hstates : RealizesAll (prune (.source src :: (body ++ (sink.map Node.deliver).toList)))
      (layNodes options .detail body
        ++ (sink.map (sinkState (readAfterAll .detail body))).toList) := by
    rw [prune, pruneNode, List.nil_append, prune_append]
    refine (realizesAll_layNodes options .detail body hbody).append ?_
    rcases sink with _ | d
    · exact .nil
    · exact .singleton (realizes_sinkState _ d)
  refine ⟨hstates.outline_eq.symm, hstates, src, _, rfl, rfl, ?_⟩
  simp [assembled]

theorem compile_orders_preserves_structure :
    ∃ compiled, compile { deadLetter := some ⟨"dead", "queue:dead"⟩ } orders = .ok compiled ∧
      outlineOfChain compiled.machine.chain =
        [.call ⟨"lines", "fn:lines"⟩,
          .fanOut [.call ⟨"price", "fn:price"⟩, .fanOut [.call ⟨"tax", "fn:tax"⟩]], .deliver] ∧
      RealizesAll (prune orders) compiled.machine.chain ∧
      compiled.rule.detailTypes = ["Order"] := by
  have hok : compile { deadLetter := some ⟨"dead", "queue:dead"⟩ } orders = .ok _ :=
    compile_eq_ok_iff.mpr ⟨_, _, rfl, violations_orders, rfl⟩
  obtain ⟨houtline, hrealizes, src, rest, hsource, -, htypes⟩ := compile_preserves_structure hok
  obtain ⟨hfirst, -⟩ := List.cons.inj hsource
  obtain rfl := Node.source.inj hfirst
  exact ⟨_, hok, houtline, hrealizes, htypes⟩

end EventFlow.Machine
