import EventFlow.Config.Basic
import EventFlow.Proofs.Machine.Decoration
import EventFlow.Proofs.Manifest.Typing

/-!
# Every resource of an artifact is declared

The states of a machine call functions, deliver to queues and buses and forward failures to queues;
its rule listens to a bus. Each of these is a **reference**, a resource together with the kind of
thing that it is used as, and a reference resolves in a manifest that declares this name with this
address for this kind of thing (`Manifest.Resolves`).

References are followed backwards through the three stages that hand them on.

* **In a machine** there are the references of the pipeline, and the queue for failures of the
  options in the states that forward to it (`Machine.traced_of_compile_eq_ok`).
* **In a pipeline** there are those of its listing, which are those of the operations that were
  lowered, and these were looked up one by one (`Manifest.Reading.resolves`).
* **In the options** there is the queue that the configuration names, or else the one that the
  manifest names (`Config.deadLetter_of_options_eq_ok`). Neither is lost on the way: the queue that
  a manifest names is one of its queues if it builds at all.
-/

namespace EventFlow

/-- A resource, as what it is used. -/
inductive Reference where
  | function (resource : Resource)
  | queue (resource : Resource)
  | eventBus (resource : Resource)
  deriving DecidableEq, Repr

/-- Where a sink delivers to. -/
def Sink.reference : Sink → Reference
  | queue q => .queue q
  | eventBus bus _ _ => .eventBus bus

/-- What a piece of a listing refers to. -/
def Token.reference? : Token → Option Reference
  | source s => some (.eventBus s.bus)
  | call c => some (.function c.function)
  | deliver d => some d.sink.reference
  | _ => none

/-- **The references of a chain**, at any depth. -/
def references (nodes : List Node) : List Reference :=
  (tokens nodes).filterMap Token.reference?

theorem references_append (nodes nodes' : List Node) :
    references (nodes ++ nodes') = references nodes ++ references nodes' := by
  rw [references, tokens_append, List.filterMap_append, references, references]

theorem references_cons (node : Node) (nodes : List Node) :
    references (node :: nodes) = references [node] ++ references nodes :=
  references_append [node] nodes

theorem references_singleton_subset (node : Node) (nodes : List Node) :
    references [node] ⊆ references (node :: nodes) := by
  rw [references_cons node nodes]
  exact List.subset_append_left _ _

theorem references_subset_cons (node : Node) (nodes : List Node) :
    references nodes ⊆ references (node :: nodes) := by
  rw [references_cons node nodes]
  exact List.subset_append_right _ _

theorem references_fanOut (nodes : List Node) : references [.fanOut nodes] = references nodes := by
  rw [references, tokens_singleton, tokensOfNode, List.filterMap_cons_none rfl,
    List.filterMap_append]
  exact List.append_nil _

namespace Machine

/-! ### Machines -/

/-- What a state itself refers to. -/
def StateKind.reference? : StateKind → Option Reference
  | invoke function => some (.function function)
  | sendToQueue queue => some (.queue queue)
  | sendToEventBus bus _ _ => some (.eventBus bus)
  | catchAndForward queue => some (.queue queue)
  | forEach _ _ _ => none
  | fail => none

/-- **The references of a compiled pipeline**: those of its states, at any depth and in branches
too, and the bus that its rule listens to. -/
def Compiled.references (compiled : Compiled) : List Reference :=
  .eventBus compiled.rule.bus ::
    compiled.machine.chain.allStates.filterMap (·.kind.reference?)

/-- **A state that goes back to a chain**: it forwards to the queue for failures, or it refers to
what the chain refers to. -/
structure Traced (options : Options) (nodes : List Node) (state : State) : Prop where
  forwards : ∀ queue, state.kind = .catchAndForward queue → options.deadLetter = some queue
  refers : state.kind.isHandler = false →
    ∀ ref, state.kind.reference? = some ref → ref ∈ references nodes

theorem Traced.mono {options : Options} {nodes nodes' : List Node} {state : State}
    (h : Traced options nodes state) (hsub : references nodes ⊆ references nodes') :
    Traced options nodes' state :=
  ⟨h.forwards, fun hhandler ref href => hsub (h.refers hhandler ref href)⟩

theorem traced_invokeState (options : Options) (read : Path) (c : Call) :
    ∀ state ∈ (Builder.invokeState options read c.function).reachable,
      Traced options [.call c] state := by
  intro state hmem
  rw [reachable_invokeState, List.mem_cons, List.mem_flatMap] at hmem
  rcases hmem with rfl | ⟨branch, hbranch, hstate⟩
  · refine ⟨fun queue hkind => absurd hkind (by simp [Builder.invokeState]), fun _ ref href => ?_⟩
    obtain rfl : .function c.function = ref := Option.some.inj href
    exact List.mem_cons_self
  · obtain ⟨queue, hqueue, rfl⟩ := Option.map_eq_some_iff.mp (Option.mem_toList.mp hbranch)
    rw [Builder.catchBranch, List.mem_pair] at hstate
    rcases hstate with rfl | rfl
    · refine ⟨fun target hkind => ?_, fun hhandler => Bool.noConfusion hhandler⟩
      rw [hqueue, StateKind.catchAndForward.inj hkind]
    · exact ⟨fun target hkind => absurd hkind (by simp), fun hhandler => Bool.noConfusion hhandler⟩

theorem traced_sinkState (options : Options) (read : Path) (d : Delivery) :
    Traced options [.deliver d] (sinkState read d) := by
  obtain ⟨queue | ⟨bus, source, categories⟩, typeName⟩ := d
  · refine ⟨fun target hkind => absurd hkind (by simp [sinkState, Builder.sinkKind]),
      fun _ ref href => ?_⟩
    obtain rfl : .queue queue = ref := Option.some.inj href
    exact List.mem_cons_self
  · refine ⟨fun target hkind => absurd hkind (by simp [sinkState, Builder.sinkKind]),
      fun _ ref href => ?_⟩
    obtain rfl : .eventBus bus = ref := Option.some.inj href
    exact List.mem_cons_self

mutual

theorem traced_layNode (options : Options) :
    ∀ (read : Path) (node : Node),
      ∀ state ∈ reachableOfChain (layNode options read node), Traced options [node] state
  | _, .source _ => fun _ hmem => absurd hmem List.not_mem_nil
  | read, .call c => by
    rw [layNode, reachableOfChain_singleton]
    exact traced_invokeState options read c
  | read, .fanOut nodes => by
    intro state hmem
    by_cases hcall : haveCall nodes
    · rw [layNode, if_pos hcall, reachableOfChain_singleton, fanOutOver, reachable_forEach,
        List.mem_cons] at hmem
      rcases hmem with rfl | hinner
      · exact ⟨fun queue hkind => absurd hkind (by simp), fun _ ref href => absurd href (by
          simp [StateKind.reference?])⟩
      · refine (traced_layNodes options .root nodes state hinner).mono ?_
        rw [references_fanOut]
        exact List.Subset.refl _
    · rw [layNode, if_neg hcall] at hmem
      exact absurd hmem List.not_mem_nil
  | read, .deliver d => by
    intro state hmem
    rw [layNode, reachableOfChain_singleton, reachable_sinkState, List.mem_singleton] at hmem
    exact hmem ▸ traced_sinkState options read d

/-- **Every state of a layout goes back to what is laid out**, those in iterators and in branches
included. -/
theorem traced_layNodes (options : Options) :
    ∀ (read : Path) (nodes : List Node),
      ∀ state ∈ reachableOfChain (layNodes options read nodes), Traced options nodes state
  | _, [] => fun _ hmem => absurd hmem List.not_mem_nil
  | read, node :: nodes => by
    intro state hmem
    rw [layNodes, reachableOfChain_append, List.mem_append] at hmem
    rcases hmem with hfirst | hlater
    · exact (traced_layNode options read node state hfirst).mono
        (references_singleton_subset node nodes)
    · exact (traced_layNodes options (readAfter read node) nodes state hlater).mono
        (references_subset_cons node nodes)

end

theorem traced_of_compile_eq_ok {options : Options} {p : Pipeline} {compiled : Compiled}
    (h : compile options p = .ok compiled) :
    ∀ state ∈ compiled.machine.chain.allStates, Traced options p state := by
  obtain ⟨src, rest, rfl, -, rfl⟩ := compile_eq_ok_iff.mp h
  intro state hmem
  exact (traced_layNodes options .detail rest state hmem).mono
    (references_subset_cons (.source src) rest)

/-- **What an artifact refers to** is what the pipeline refers to, or the queue for failures. -/
theorem mem_references_of_compile_eq_ok {options : Options} {p : Pipeline} {compiled : Compiled}
    (h : compile options p = .ok compiled) {ref : Reference} (href : ref ∈ compiled.references) :
    ref ∈ references p ∨ ∃ queue, options.deadLetter = some queue ∧ ref = .queue queue := by
  rcases List.mem_cons.mp href with rfl | hstates
  · obtain ⟨src, rest, rfl, -, rfl⟩ := compile_eq_ok_iff.mp h
    exact .inl List.mem_cons_self
  · obtain ⟨state, hmem, hstate⟩ := List.mem_filterMap.mp hstates
    have htraced := traced_of_compile_eq_ok h state hmem
    cases hkind : state.kind with
    | catchAndForward queue =>
      rw [hkind] at hstate
      exact .inr ⟨queue, htraced.forwards queue hkind, (Option.some.inj hstate).symm⟩
    | fail =>
      rw [hkind] at hstate
      exact absurd hstate (by simp [StateKind.reference?])
    | _ => exact .inl (htraced.refers (by rw [hkind]; rfl) ref hstate)

end Machine

/-! ### Manifests -/

theorem Registry.mem_entries_of_get?_eq_some {α : Type} {r : Registry α} {id : String} {value : α}
    (h : r.get? id = some value) : (id, value) ∈ r.entries := by
  obtain ⟨⟨id', value'⟩, hfind, rfl⟩ := Option.map_eq_some_iff.mp h
  obtain rfl : id' = id := by simpa using List.find?_some hfind
  exact List.mem_of_find?_eq_some hfind

/-- What an operation refers to. -/
def Operation.reference? : Operation → Option Reference
  | join c => some (.function c.function)
  | lift c => some (.function c.function)
  | deliver d => some d.sink.reference
  | _ => none

theorem filterMap_reference?_replicate_closing (count : Nat) :
    (List.replicate count Token.closing).filterMap Token.reference? = [] := by
  simp [Token.reference?]

theorem Operation.filterMap_reference?_tokens (depth : Nat) (op : Operation) :
    (op.tokens depth).filterMap Token.reference? = op.reference?.toList := by
  cases op with
  | deliver d =>
    rw [tokens, List.filterMap_append, filterMap_reference?_replicate_closing]
    rfl
  | _ => rfl

/-- A listing refers to what the operations refer to that it is made by. -/
theorem Operation.filterMap_reference?_listing (depth : Nat) (ops : List Operation) :
    (listing depth ops).filterMap Token.reference? = ops.filterMap reference? := by
  induction ops generalizing depth with
  | nil => rfl
  | cons op ops ih =>
    rw [listing, List.filterMap_append, filterMap_reference?_tokens, ih]
    cases href : op.reference? <;> simp [href]

namespace Manifest

/-- **A reference that resolves**: its name is declared for its kind of thing, with its address. -/
def Resolves (m : Manifest) : Reference → Prop
  | .function r => ∃ decl, (r.id, decl) ∈ m.functions.entries ∧ decl.uri = r.uri
  | .queue r => (r.id, r.uri) ∈ m.queues.entries
  | .eventBus r => (r.id, r.uri) ∈ m.eventBuses.entries

variable {m : Manifest}

theorem queue?_eq_none_iff {id : String} : m.queue? id = none ↔ id ∉ m.queues.ids := by
  rw [queue?, Option.map_eq_none_iff, ← Registry.contains_iff, Registry.contains,
    Option.not_isSome_iff_eq_none]

theorem resolves_of_queue? {id : String} {queue : Resource} (h : m.queue? id = some queue) :
    queue.id = id ∧ m.Resolves (.queue queue) := by
  obtain ⟨uri, huri, rfl⟩ := Option.map_eq_some_iff.mp h
  exact ⟨rfl, Registry.mem_entries_of_get?_eq_some huri⟩

theorem resolves_of_eventBus? {id : String} {bus : Resource} (h : m.eventBus? id = some bus) :
    m.Resolves (.eventBus bus) := by
  obtain ⟨uri, huri, rfl⟩ := Option.map_eq_some_iff.mp h
  exact Registry.mem_entries_of_get?_eq_some huri

theorem resolves_of_innerOperation? {step : Step} {op : Operation} {ref : Reference}
    (hop : m.innerOperation? step = some op) (href : op.reference? = some ref) :
    m.Resolves ref := by
  cases step with
  | join id =>
    obtain ⟨decl, hdecl, rfl⟩ := Option.map_eq_some_iff.mp hop
    obtain rfl := Option.some.inj href
    exact ⟨decl, Registry.mem_entries_of_get?_eq_some hdecl, rfl⟩
  | lift l =>
    obtain ⟨decl, hdecl, rfl⟩ := Option.map_eq_some_iff.mp hop
    obtain rfl := Option.some.inj href
    exact ⟨decl, Registry.mem_entries_of_get?_eq_some hdecl, rfl⟩
  | wrap =>
    obtain rfl := Option.some.inj hop
    exact absurd href (by simp [Operation.reference?])
  | unit =>
    obtain rfl := Option.some.inj hop
    exact absurd href (by simp [Operation.reference?])
  | _ => exact absurd hop (by simp [innerOperation?])

theorem resolves_of_target? {step : Step} {sink : Sink} (h : m.target? step = some sink) :
    m.Resolves sink.reference := by
  cases step with
  | toQueue id =>
    obtain ⟨queue, hqueue, rfl⟩ := Option.map_eq_some_iff.mp h
    exact (resolves_of_queue? hqueue).2
  | toEventBus id source categories =>
    obtain ⟨bus, hbus, rfl⟩ := Option.map_eq_some_iff.mp h
    exact resolves_of_eventBus? hbus
  | _ => exact absurd h (by simp [target?])

/-- **The pipeline of a manifest refers to what the manifest declares.** -/
theorem Reading.resolves (r : Reading m) : ∀ ref ∈ references r.pipeline, m.Resolves ref := by
  have hbody : references r.levels.closeAll = r.operations.filterMap Operation.reference? := by
    rw [references, Levels.tokens_closeAll, r.tokens_eq, List.filterMap_append,
      filterMap_reference?_replicate_closing, List.append_nil,
      Operation.filterMap_reference?_listing]
  intro ref hmem
  rw [pipeline, references_cons, references_append, List.mem_append, List.mem_append, hbody] at hmem
  rcases hmem with hsource | hinner | hsink
  · obtain rfl := List.mem_singleton.mp hsource
    exact resolves_of_eventBus? r.resource_eq
  · obtain ⟨op, hop, href⟩ := List.mem_filterMap.mp hinner
    -- each operation is what one of the steps was looked up as
    have hstep : some op ∈ r.inner.map m.innerOperation? :=
      r.operations_eq ▸ List.mem_map_of_mem hop
    obtain ⟨step, -, hstep⟩ := List.mem_map.mp hstep
    exact resolves_of_innerOperation? hstep href
  · obtain rfl := List.mem_singleton.mp hsink
    exact resolves_of_target? r.target_eq

end Manifest

/-! ### The queue for failures -/

namespace Config

variable {c : Config} {m : Manifest}

theorem options_of_deadLetterQueue_eq_none (h : c.deadLetterQueue = none) :
    c.options m = .ok ⟨c.machineName, c.ruleName, m.deadLetter?⟩ := by
  rw [options, h]
  rfl

theorem options_of_deadLetterQueue_eq_some {id : String} (h : c.deadLetterQueue = some id) :
    c.options m = match m.queue? id with
      | some queue => .ok ⟨c.machineName, c.ruleName, some queue⟩
      | none => .error (.unknownQueue id m.name) := by
  rw [options, h]
  dsimp only
  cases m.queue? id <;> rfl

/-- **Options are refused for one reason**: the configuration names a queue that the manifest does
not declare. -/
theorem options_eq_error_iff {e : ConfigError} :
    c.options m = .error e ↔
      ∃ id, c.deadLetterQueue = some id ∧ id ∉ m.queues.ids ∧ e = .unknownQueue id m.name := by
  rcases hqueue : c.deadLetterQueue with _ | id
  · rw [options_of_deadLetterQueue_eq_none hqueue]
    simp
  · rw [options_of_deadLetterQueue_eq_some hqueue]
    rcases hlookup : m.queue? id with _ | queue
    · simp [← Manifest.queue?_eq_none_iff, hlookup, eq_comm]
    · simp [← Manifest.queue?_eq_none_iff, hlookup]

/-- **The queue for failures** is the one that the configuration names, or else the one that the
manifest names, as the manifest declares it. -/
theorem deadLetter_of_options_eq_ok {options : Machine.Options} (h : c.options m = .ok options) :
    options.deadLetter = (c.deadLetterQueue.or m.deadLetterQueue).bind m.queue? := by
  rcases hqueue : c.deadLetterQueue with _ | id
  · rw [options_of_deadLetterQueue_eq_none hqueue] at h
    rw [← Except.ok.inj h]
    rfl
  · rw [options_of_deadLetterQueue_eq_some hqueue] at h
    rcases hlookup : m.queue? id with _ | queue
    · rw [hlookup] at h
      exact absurd h (by simp)
    · rw [hlookup] at h
      rw [← Except.ok.inj h]
      exact hlookup.symm

/-- A queue that is named for failures is found. -/
theorem exists_deadLetter_of_options_eq_ok {options : Machine.Options} (hform : m.WellFormed)
    (h : c.options m = .ok options) {id : String}
    (hid : c.deadLetterQueue.or m.deadLetterQueue = some id) :
    ∃ queue, options.deadLetter = some queue ∧ m.queue? id = some queue := by
  have hdeclared : id ∈ m.queues.ids := by
    rcases hqueue : c.deadLetterQueue with _ | id'
    · rw [hqueue] at hid
      exact hform.deadLetter id hid
    · rw [hqueue] at hid
      obtain rfl : id' = id := Option.some.inj hid
      by_contra hunknown
      have herror := options_eq_error_iff.mpr ⟨id', hqueue, hunknown, rfl⟩
      exact absurd (h.symm.trans herror) (by simp)
  obtain ⟨uri, huri⟩ := Registry.exists_get?_of_mem hdeclared
  have hlookup : m.queue? id = some ⟨id, uri⟩ := by simp [Manifest.queue?, huri]
  exact ⟨_, by rw [deadLetter_of_options_eq_ok h, hid]; exact hlookup, hlookup⟩

end Config

namespace Manifest

open Machine

/-- **Every resource of an artifact is declared, and failures go where they should.** Whatever a
manifest builds to under a configuration refers to nothing that the manifest does not declare, name
and address. Failures are forwarded to the queue of the configuration, or else to that of the
manifest, and if there is one, then by every call. The options for a manifest are refused exactly
when the configuration names a queue that the manifest does not declare. -/
theorem references_resolve (m : Manifest) (c : Config) :
    (∀ p options compiled, m.build = .ok p → c.options m = .ok options →
      compile options p = .ok compiled →
        (∀ ref ∈ compiled.references, m.Resolves ref) ∧
        (∀ state ∈ compiled.machine.chain.allStates, ∀ queue,
          state.kind = .catchAndForward queue →
            c.deadLetterQueue.or m.deadLetterQueue = some queue.id) ∧
        ∀ id, c.deadLetterQueue.or m.deadLetterQueue = some id →
          ∀ state ∈ compiled.machine.chain.allStates, ∀ function, state.kind = .invoke function →
            ∃ branch ∈ state.catches, ∃ queue, branch.errors = ["States.ALL"] ∧
              branch.states.head?.map State.kind = some (.catchAndForward queue) ∧
              queue.id = id) ∧
    (∀ e, c.options m = .error e → e.diagnostic.code = "PIPE-CFG-002") ∧
    ((∃ e, c.options m = .error e) ↔ ∃ id, c.deadLetterQueue = some id ∧ id ∉ m.queues.ids) := by
  refine ⟨fun p options compiled hbuild hoptions hcompile => ⟨?_, ?_, ?_⟩, ?_, ?_⟩
  · intro ref href
    rcases mem_references_of_compile_eq_ok hcompile href with hpipeline | ⟨queue, hqueue, rfl⟩
    · obtain ⟨r, rfl⟩ := exists_reading_of_build_eq_ok hbuild
      exact r.resolves ref hpipeline
    · rw [Config.deadLetter_of_options_eq_ok hoptions] at hqueue
      obtain ⟨id, -, hlookup⟩ := Option.bind_eq_some_iff.mp hqueue
      exact (resolves_of_queue? hlookup).2
  · intro state hmem queue hkind
    have hqueue := (traced_of_compile_eq_ok hcompile state hmem).forwards queue hkind
    rw [Config.deadLetter_of_options_eq_ok hoptions] at hqueue
    obtain ⟨id, hid, hlookup⟩ := Option.bind_eq_some_iff.mp hqueue
    rw [hid, (resolves_of_queue? hlookup).1]
  · intro id hid state hmem function hkind
    -- the queue that is named exists, so it is in the options, and every call forwards to it
    obtain ⟨hform, -⟩ := wellFormed_and_wellTyped_of_build_eq_ok hbuild
    obtain ⟨queue, hqueue, hlookup⟩ := Config.exists_deadLetter_of_options_eq_ok hform hoptions hid
    obtain ⟨src, rest, -, -, rfl⟩ := compile_eq_ok_iff.mp hcompile
    have hcatches := (branched_layNodes options .detail rest state hmem).catches
    simp only [hkind, branchesUnder, hqueue] at hcatches
    exact ⟨_, hcatches ▸ List.mem_cons_self, queue, rfl, rfl, (resolves_of_queue? hlookup).1⟩
  · intro e he
    obtain ⟨id, -, -, rfl⟩ := Config.options_eq_error_iff.mp he
    rfl
  · simp only [Config.options_eq_error_iff]
    constructor
    · rintro ⟨e, id, hid, hunknown, -⟩
      exact ⟨id, hid, hunknown⟩
    · rintro ⟨id, hid, hunknown⟩
      exact ⟨_, id, hid, hunknown, rfl⟩

/-- The manifest `orders` with two more queues, of which one is declared for failures. -/
def ordersWithFailures : Manifest :=
  { orders with
    queues := .ofList [("reply", "queue:reply"), ("dead", "queue:dead"), ("later", "queue:later")]
    deadLetterQueue := some "dead" }

/-- The pipeline of `orders`, with or without a queue for failures. -/
def ordersPipeline : Pipeline :=
  [.source ⟨⟨"input", "bus:input"⟩, [], "Order"⟩, .call ⟨⟨"lines", "fn:lines"⟩, 1⟩,
    .fanOut [.call ⟨⟨"price", "fn:price"⟩, 4⟩],
    .deliver ⟨.queue ⟨"reply", "queue:reply"⟩, "[Price]"⟩]

theorem build_ordersWithFailures : ordersWithFailures.build = .ok ordersPipeline := by
  have hform : ordersWithFailures.WellFormed := by decide +kernel
  have htranslate : ordersWithFailures.translate 2 ⟨.parse "Order", 0⟩
      [.join "lines", .lift (.bounded "price" (some 4)), .unit, .toQueue "reply"] =
        .ok [.join ⟨⟨"lines", "fn:lines"⟩, 1⟩, .lift ⟨⟨"price", "fn:price"⟩, 4⟩, .unit,
          .deliver ⟨.queue ⟨"reply", "queue:reply"⟩, "[Price]"⟩] :=
    eq_ok_of_toOption_eq_some (by decide +kernel)
  have htext : (FlowType.parse "Order").text = "Order" := by decide +kernel
  rw [build_eq (validate_eq_ok_iff.mpr hform) rfl rfl, htranslate, htext]
  rfl

/-- The queue of the configuration comes before that of the manifest, and a queue that is not
declared is refused. -/
theorem references_resolve_ordersWithFailures :
    (∃ compiled, compile ⟨"StateMachine", "Rule", some ⟨"later", "queue:later"⟩⟩ ordersPipeline =
        .ok compiled ∧
      (∀ ref ∈ compiled.references, ordersWithFailures.Resolves ref) ∧
      ∀ state ∈ compiled.machine.chain.allStates, ∀ function, state.kind = .invoke function →
        ∃ branch ∈ state.catches, ∃ queue, branch.errors = ["States.ALL"] ∧
          branch.states.head?.map State.kind = some (.catchAndForward queue) ∧
          queue.id = "later") ∧
    ∃ e, Config.options { deadLetterQueue := some "gone" } ordersWithFailures = .error e ∧
      e.diagnostic.code = "PIPE-CFG-002" := by
  constructor
  · have hviolations : violations ordersPipeline = [] := by decide +kernel
    have hcompile (options : Options) : compile options ordersPipeline = .ok _ :=
      compile_eq_ok_iff.mpr ⟨_, _, rfl, hviolations, rfl⟩
    obtain ⟨hok, -⟩ := references_resolve ordersWithFailures { deadLetterQueue := some "later" }
    obtain ⟨hresolve, -, hcatch⟩ := hok _ _ _ build_ordersWithFailures rfl (hcompile _)
    exact ⟨_, hcompile _, hresolve, hcatch "later" rfl⟩
  · obtain ⟨-, hcode, hiff⟩ :=
      references_resolve ordersWithFailures { deadLetterQueue := some "gone" }
    obtain ⟨e, he⟩ := hiff.mpr ⟨"gone", rfl, by decide +kernel⟩
    exact ⟨e, he, hcode e he⟩

end Manifest

end EventFlow
