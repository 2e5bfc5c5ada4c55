import EventFlow.Proofs.Machine.Rendering
import EventFlow.Proofs.Machine.States

/-!
# A document determines what it was made from

The document of a compiled pipeline leaves out the names of queues and buses, which are known to the
outside by their addresses alone. It leaves out nothing else: two compiled pipelines have one
document exactly when they are the same **up to those names** (`Compiled.anonymous`).

A chain is recovered from its table along the links. The first state is named, and a body names the
state after it, so two chains with one table run through it in step
(`Twins.anonymousChain_eq_of_startAt`). What stands in a body does not tell the kind of its state by
itself – a delivery to a queue and a failure that is forwarded look alike – nor the name of a
function; the name of the state does, since names of different makes begin differently
(`Twins.anonymous_eq`). What a fan-out runs is recovered by induction over scopes.
-/

namespace EventFlow

/-- A queue or a bus by its address alone. -/
def Resource.anonymous (r : Resource) : Resource :=
  { r with id := "" }

theorem Resource.anonymous_eq_iff {r r' : Resource} :
    r.anonymous = r'.anonymous ↔ r.uri = r'.uri := by
  simp [anonymous]

namespace Machine

open Document (lookupField)

/-! ### Without the names of queues and buses -/

mutual

/-- A state without the names of queues and buses. -/
def State.anonymous : State → State
  | ⟨id, input, kind, catches⟩ => ⟨id, input, kind.anonymous, anonymousBranches catches⟩

/-- What a state does, without the names of queues and buses. -/
def StateKind.anonymous : StateKind → StateKind
  | .invoke function => .invoke function
  | .forEach items concurrency iterator => .forEach items concurrency (anonymousChain iterator)
  | .sendToQueue queue => .sendToQueue queue.anonymous
  | .sendToEventBus bus source detailType => .sendToEventBus bus.anonymous source detailType
  | .catchAndForward target => .catchAndForward target.anonymous
  | .fail => .fail

/-- Branches without the names of queues and buses. -/
def anonymousBranches : List CatchBranch → List CatchBranch
  | [] => []
  | ⟨errors, resultPath, states⟩ :: branches =>
    ⟨errors, resultPath, anonymousChain states⟩ :: anonymousBranches branches

/-- A chain without the names of queues and buses, at any depth. -/
def anonymousChain : List State → List State
  | [] => []
  | state :: states => state.anonymous :: anonymousChain states

end

/-- **A compiled pipeline without the names of queues and buses.** -/
def Compiled.anonymous (c : Compiled) : Compiled :=
  ⟨⟨c.machine.name, anonymousChain c.machine.chain⟩, { c.rule with bus := c.rule.bus.anonymous }⟩

/-! ### The names are not in the document -/

theorem startAt_anonymousChain (chain : Chain) :
    Chain.startAt (anonymousChain chain) = chain.startAt := by
  rcases chain with _ | ⟨⟨id, input, kind, catches⟩, chain⟩ <;> rfl

theorem transitionFields_anonymous (kind : StateKind) (next : Option String) :
    transitionFields kind.anonymous next = transitionFields kind next := by
  cases kind <;> cases next <;> rfl

theorem catchFields_anonymous (catches : List CatchBranch) :
    catchFields (anonymousBranches catches) = catchFields catches := by
  have hbranches (branches : List CatchBranch) :
      (anonymousBranches branches).map CatchBranch.document =
        branches.map CatchBranch.document := by
    induction branches with
    | nil => rfl
    | cons branch branches ih =>
      obtain ⟨errors, resultPath, states⟩ := branch
      rw [anonymousBranches, List.map_cons, List.map_cons, ih]
      simp only [CatchBranch.document, startAt_anonymousChain]
  rcases catches with _ | ⟨branch, catches⟩
  · rfl
  · obtain ⟨errors, resultPath, states⟩ := branch
    exact congrArg (fun items => [("Catch", Document.list items)]) (hbranches (_ :: catches))

mutual

theorem kindFields_anonymous :
    ∀ (input : Path) (kind : StateKind), kindFields input kind.anonymous = kindFields input kind
  | _, .forEach _ _ iterator => by
    simp only [StateKind.anonymous, kindFields, chainDefinition, startAt_anonymousChain,
      insertChain_anonymous iterator]
  | _, .invoke _ => rfl
  | _, .sendToQueue _ => rfl
  | _, .sendToEventBus _ _ _ => rfl
  | _, .catchAndForward _ => rfl
  | _, .fail => rfl

theorem insertState_anonymous :
    ∀ (next : Option String) (state : State) (table : List (String × Document)),
      insertState next state.anonymous table = insertState next state table
  | next, ⟨id, input, kind, catches⟩, table => by
    simp only [State.anonymous, insertState, kindFields_anonymous input kind,
      transitionFields_anonymous, catchFields_anonymous, insertBranches_anonymous catches]

theorem insertBranches_anonymous :
    ∀ (branches : List CatchBranch) (table : List (String × Document)),
      insertBranches (anonymousBranches branches) table = insertBranches branches table
  | [], _ => rfl
  | ⟨_, _, states⟩ :: branches, table => by
    simp only [anonymousBranches, insertBranches, insertChain_anonymous states,
      insertBranches_anonymous branches]

/-- A table does not tell the names of queues and buses. -/
theorem insertChain_anonymous :
    ∀ (chain : List State) (table : List (String × Document)),
      insertChain (anonymousChain chain) table = insertChain chain table
  | [], _ => rfl
  | state :: states, table => by
    have hnext : (List.head? (anonymousChain states)).map (·.id) = (List.head? states).map (·.id) :=
      startAt_anonymousChain states
    simp only [anonymousChain, insertChain, hnext, insertState_anonymous _ state,
      insertChain_anonymous states]

end

/-- **The document does not tell the names of queues and buses.** -/
theorem document_anonymous (c : Compiled) : c.anonymous.document = c.document := by
  simp only [Compiled.document, Compiled.anonymous, StateMachine.definition, chainDefinition,
    startAt_anonymousChain, insertChain_anonymous, Resource.anonymous]

/-! ### One state -/

theorem Path.text_injective {path path' : Path} (h : path.text = path'.text) : path = path' := by
  cases path <;> cases path' <;> simp_all [Path.text]

/-- States with one body do the same, as far as the fields of what they do tell. -/
theorem lookupField_kindFields_eq {p p' : Placed} (h : p.body = p'.body) (key : String)
    (hkey : key ∉ ["Next", "End", "Catch"]) :
    lookupField key (kindFields p.state.input p.state.kind) =
      lookupField key (kindFields p'.state.input p'.state.kind) := by
  have hlink : key ∉ ["Next", "End"] := fun hmem => hkey (by simp_all)
  have hcatch : key ≠ "Catch" := fun heq => hkey (by simp [heq])
  have hfield := congrArg (Document.field? key) h
  simpa only [field?_body, lookupField_transitionFields hlink, lookupField_catchFields hcatch,
    Option.or_none] using hfield

section Recover

variable {options options' : Options} {next next' : Option String}

/-- A call is recovered from its name and its body. -/
theorem call_eq_of_body_eq {read read' : Path} {function function' : Resource}
    (hid : Naming.invoke function.id = Naming.invoke function'.id)
    (h : Placed.body ⟨Builder.invokeState options read function, next⟩ =
      Placed.body ⟨Builder.invokeState options' read' function', next'⟩) :
    read = read' ∧ function = function' := by
  have hinput := lookupField_kindFields_eq h "InputPath" (by decide)
  have hparameters := lookupField_kindFields_eq h "Parameters" (by decide)
  have hread : read.text = read'.text := by
    simpa [Builder.invokeState, kindFields, taskFields, Document.lookupField_cons] using hinput
  have huri : function.uri = function'.uri := by
    simpa [Builder.invokeState, kindFields, taskFields, Document.lookupField_cons,
      Document.ofFields_inj] using hparameters
  obtain ⟨id, uri⟩ := function
  obtain ⟨id', uri'⟩ := function'
  obtain rfl : id = id' := Naming.invoke_inj.mp hid
  obtain rfl : uri = uri' := huri
  exact ⟨Path.text_injective hread, rfl⟩

/-- A message to a queue is recovered from its body. -/
theorem queue_eq_of_queueFields_eq {queue queue' : Resource} {input input' : Path}
    (h : lookupField "Parameters" (queueFields queue input) =
      lookupField "Parameters" (queueFields queue' input')) :
    queue.anonymous = queue'.anonymous ∧ input = input' := by
  have hfields : queue.uri = queue'.uri ∧ input.text = input'.text := by
    simpa [queueFields, taskFields, Document.lookupField_cons, Document.ofFields_inj] using h
  exact ⟨Resource.anonymous_eq_iff.mpr hfields.1, Path.text_injective hfields.2⟩

/-- A delivery is recovered from its body, but for the name of the queue or bus. -/
theorem sink_eq_of_body_eq {read read' : Path} {d d' : Delivery}
    (h : Placed.body ⟨sinkState read d, next⟩ = Placed.body ⟨sinkState read' d', next'⟩) :
    (sinkState read d).anonymous = (sinkState read' d').anonymous := by
  -- the resource tells a queue from a bus, the parameters tell the rest
  have hresource := lookupField_kindFields_eq h "Resource" (by decide)
  have hparameters := lookupField_kindFields_eq h "Parameters" (by decide)
  obtain ⟨queue | ⟨bus, source, categories⟩, typeName⟩ := d <;>
    obtain ⟨queue' | ⟨bus', source', categories'⟩, typeName'⟩ := d'
  · obtain ⟨hqueue, rfl⟩ := queue_eq_of_queueFields_eq hparameters
    simp [sinkState, Builder.sinkKind, State.anonymous, StateKind.anonymous, hqueue]
  · exact absurd hresource (by
      simp [sinkState, Builder.sinkKind, kindFields, queueFields, taskFields,
        Document.lookupField_cons, queueResource, eventBusResource])
  · exact absurd hresource (by
      simp [sinkState, Builder.sinkKind, kindFields, queueFields, taskFields,
        Document.lookupField_cons, queueResource, eventBusResource])
  · have hfields : read.text = read'.text ∧
        categories.head?.getD typeName = categories'.head?.getD typeName' ∧
        source = source' ∧ bus.uri = bus'.uri := by
      simpa [sinkState, Builder.sinkKind, kindFields, taskFields, Document.lookupField_cons,
        Document.ofFields_inj] using hparameters
    obtain ⟨hread, htype, rfl, hbus⟩ := hfields
    obtain rfl := Path.text_injective hread
    simp [sinkState, Builder.sinkKind, State.anonymous, StateKind.anonymous,
      Resource.anonymous_eq_iff.mpr hbus, htype]

/-- A fan-out is recovered from its body, up to the definition of what it runs. -/
theorem fanOut_eq_of_body_eq {id id' : String} {input input' items items' : Path}
    {concurrency concurrency' : Nat} {iterator iterator' : Chain}
    (h : Placed.body ⟨⟨id, input, .forEach items concurrency iterator, []⟩, next⟩ =
      Placed.body ⟨⟨id', input', .forEach items' concurrency' iterator', []⟩, next'⟩) :
    items = items' ∧ concurrency = concurrency' ∧ processor iterator = processor iterator' := by
  have hitems := lookupField_kindFields_eq h "ItemsPath" (by decide)
  have hbound := lookupField_kindFields_eq h "MaxConcurrency" (by decide)
  have hprocessor := lookupField_kindFields_eq h "ItemProcessor" (by decide)
  have htext : items.text = items'.text := by
    simpa [kindFields, Document.lookupField_cons] using hitems
  have hnumber : (concurrency : Int) = concurrency' := by
    simpa [kindFields, Document.lookupField_cons, Document.ofNat] using hbound
  exact ⟨Path.text_injective htext, Int.ofNat.inj hnumber, Option.some.inj hprocessor⟩

end Recover

/-! ### Chains with one table -/

/-- **Two compiled chains with one definition**: they begin with states of one name and have the
same table. -/
structure Twins (options options' : Options) (chain chain' : Chain) : Prop where
  left : Manufactured options chain
  right : Manufactured options' chain'
  startAt : chain.startAt = chain'.startAt
  table : insertChain chain [] = insertChain chain' []

theorem Twins.of_defines {options options' : Options} {chain chain' : Chain} {d : Document}
    (hchain : Manufactured options chain) (hchain' : Manufactured options' chain')
    (hd : Defines chain d) (hd' : Defines chain' d) : Twins options options' chain chain' := by
  have hstart := hd.startAt.symm.trans hd'.startAt
  have htable := hd.states.symm.trans hd'.states
  refine ⟨hchain, hchain', ?_, by simpa using htable⟩
  -- an empty chain would be written as if it began with the empty name
  obtain ⟨state, states, rfl⟩ := List.exists_cons_of_ne_nil hchain.mainline.ne_nil
  obtain ⟨state', states', rfl⟩ := List.exists_cons_of_ne_nil hchain'.mainline.ne_nil
  simpa [Chain.startAt] using hstart

section Twins

variable {options options' : Options} {chain chain' : Chain}

/-- States of one name have one body. -/
theorem Twins.body_eq (h : Twins options options' chain chain') {p p' : Placed}
    (hp : p ∈ scopeOfChain chain) (hp' : p' ∈ scopeOfChain chain')
    (hid : p.state.id = p'.state.id) : p.body = p'.body := by
  have hbody := lookupField_insertChain h.left.nodup hp
  rw [hid, h.table, lookupField_insertChain h.right.nodup hp'] at hbody
  exact (Option.some.inj hbody).symm

/-- The state that forwards the failures of a call is in the scope of the call. -/
theorem forward_mem_scopeOfChain {read : Path} {function queue : Resource}
    (hmem : Builder.invokeState options read function ∈ chain)
    (hqueue : options.deadLetter = some queue) :
    ⟨⟨Naming.forward function.id, .root, .catchAndForward queue, []⟩,
      some (Naming.fail function.id)⟩ ∈ scopeOfChain chain := by
  have hbranch : Builder.catchBranch function queue ∈
      (Builder.invokeState options read function).catches := by
    simp [Builder.invokeState, hqueue]
  exact mem_scopeOfChain_of_branch hmem hbranch List.mem_cons_self

/-- The branches of a call are recovered from its body and the table in which they stand. -/
theorem Twins.invokeState_anonymous_eq (h : Twins options options' chain chain') {read : Path}
    {function : Resource} {next next' : Option String}
    (hmem : Builder.invokeState options read function ∈ chain)
    (hmem' : Builder.invokeState options' read function ∈ chain')
    (hbody : Placed.body ⟨Builder.invokeState options read function, next⟩ =
      Placed.body ⟨Builder.invokeState options' read function, next'⟩) :
    (Builder.invokeState options read function).anonymous =
      (Builder.invokeState options' read function).anonymous := by
  have hcatch := congrArg (Document.field? "Catch") hbody
  rw [field?_catch, field?_catch] at hcatch
  rcases hqueue : options.deadLetter with _ | queue <;>
    rcases hqueue' : options'.deadLetter with _ | queue'
  · simp [Builder.invokeState, hqueue, hqueue', State.anonymous]
  · exact absurd hcatch (by simp [Builder.invokeState, hqueue, hqueue'])
  · exact absurd hcatch (by simp [Builder.invokeState, hqueue, hqueue'])
  · -- both forward their failures, and the forwarding states have one name
    have hforward := h.body_eq (forward_mem_scopeOfChain hmem hqueue)
      (forward_mem_scopeOfChain hmem' hqueue') rfl
    have hparameters := lookupField_kindFields_eq hforward "Parameters" (by decide)
    obtain ⟨hsame, -⟩ := queue_eq_of_queueFields_eq hparameters
    simp [Builder.invokeState, hqueue, hqueue', Builder.catchBranch, State.anonymous,
      StateKind.anonymous, anonymousBranches, anonymousChain, hsame]

/-- **A state is recovered from its name and the table**, given that what it runs is. -/
theorem Twins.anonymous_eq (h : Twins options options' chain chain') {p p' : Placed}
    (hp : p.StandsIn chain) (hp' : p'.StandsIn chain') (hid : p.state.id = p'.state.id)
    (ih : ∀ iterator', Manufactured options p.state.kind.iterator →
      Manufactured options' iterator' → processor p.state.kind.iterator = processor iterator' →
        anonymousChain p.state.kind.iterator = anonymousChain iterator') :
    p.state.anonymous = p'.state.anonymous := by
  have hscope := mem_scopeOfChain_of_standsIn hp
  have hscope' := mem_scopeOfChain_of_standsIn hp'
  have hbody := h.body_eq hscope hscope' hid
  have hmem := hp.mem
  have hmem' := hp'.mem
  have hcrafted := h.left.crafted p.state (mem_allStates_of_mem_scopeOfChain hscope)
  have hcrafted' := h.right.crafted p'.state (mem_allStates_of_mem_scopeOfChain hscope')
  have hmain := h.left.mainline.isHandler p.state hmem
  have hmain' := h.right.mainline.isHandler p'.state hmem'
  -- names of different makes begin differently, and no state of these chains is a handler
  have hlead := congrArg Naming.lead hid
  obtain ⟨state, next⟩ := p
  obtain ⟨state', next'⟩ := p'
  cases hcrafted with
  | call read function =>
    cases hcrafted' with
    | call read' function' =>
      obtain ⟨rfl, rfl⟩ := call_eq_of_body_eq hid hbody
      exact h.invokeState_anonymous_eq hmem hmem' hbody
    | fanOut => exact absurd hlead (by simp)
    | sink => exact absurd hlead (by simp)
    | _ => exact absurd hmain' (by simp [StateKind.isHandler])
  | fanOut items concurrency hinner =>
    cases hcrafted' with
    | fanOut items' concurrency' hinner' =>
      obtain ⟨rfl, rfl, hprocessor⟩ := fanOut_eq_of_body_eq hbody
      have hchains := ih _ (h.left.iterator hscope rfl) (h.right.iterator hscope' rfl) hprocessor
      have hid : Naming.fanOut _ = Naming.fanOut _ := hid
      simp only [State.anonymous, StateKind.anonymous, anonymousBranches, hid]
      exact congrArg (fun iterator => State.mk _ _ (.forEach items concurrency iterator) []) hchains
    | call => exact absurd hlead (by simp)
    | sink => exact absurd hlead (by simp)
    | _ => exact absurd hmain' (by simp [StateKind.isHandler])
  | sink read d =>
    cases hcrafted' with
    | sink read' d' => exact sink_eq_of_body_eq hbody
    | call => exact absurd hlead (by simp)
    | fanOut => exact absurd hlead (by simp)
    | _ => exact absurd hmain' (by simp [StateKind.isHandler])
  | _ => exact absurd hmain (by simp [StateKind.isHandler])

/-- The states after two states of one name have one name. -/
theorem Twins.next_eq (h : Twins options options' chain chain') {p p' : Placed}
    (hp : p.StandsIn chain) (hp' : p'.StandsIn chain') (hid : p.state.id = p'.state.id) :
    p.next = p'.next := by
  have hbody := h.body_eq (mem_scopeOfChain_of_standsIn hp) (mem_scopeOfChain_of_standsIn hp') hid
  have hnext := congrArg (Document.field? "Next") hbody
  rw [field?_next, field?_next, successor_of_ne_fail (h.left.mainline.kind_ne_fail hp.mem),
    successor_of_ne_fail (h.right.mainline.kind_ne_fail hp'.mem)] at hnext
  exact Option.map_injective (fun _ _ => Document.text.inj) hnext

/-- **Two chains with one table run through it in step**: rests that begin with one name are the
same, given that what their states run is. -/
theorem Twins.anonymousChain_eq_of_startAt (h : Twins options options' chain chain')
    (ih : ∀ p ∈ scopeOfChain chain, ∀ iterator', Manufactured options p.state.kind.iterator →
      Manufactured options' iterator' → processor p.state.kind.iterator = processor iterator' →
        anonymousChain p.state.kind.iterator = anonymousChain iterator') :
    ∀ rest rest' : Chain, rest <:+ chain → rest' <:+ chain' →
      Chain.startAt rest = Chain.startAt rest' → anonymousChain rest = anonymousChain rest'
  | [], [], _, _, _ => rfl
  | state :: rest, state' :: rest', ⟨before, hrest⟩, ⟨before', hrest'⟩, hstart => by
    have hp : Placed.StandsIn ⟨state, Chain.startAt rest⟩ chain := ⟨before, rest, hrest.symm, rfl⟩
    have hp' : Placed.StandsIn ⟨state', Chain.startAt rest'⟩ chain' :=
      ⟨before', rest', hrest'.symm, rfl⟩
    have hid : state.id = state'.id := by simpa [Chain.startAt] using hstart
    have hlater := h.anonymousChain_eq_of_startAt ih rest rest'
      ((List.suffix_cons state rest).trans ⟨before, hrest⟩)
      ((List.suffix_cons state' rest').trans ⟨before', hrest'⟩) (h.next_eq hp hp' hid)
    have hfirst : state.anonymous = state'.anonymous :=
      h.anonymous_eq hp hp' hid (ih _ (mem_scopeOfChain_of_standsIn hp))
    rw [anonymousChain, anonymousChain, hfirst, hlater]

end Twins

/-- **A chain is recovered from its definition**, but for the names of queues and buses. -/
theorem anonymousChain_eq_of_defines {options options' : Options} {chain chain' : Chain}
    {d : Document} (hchain : Manufactured options chain) (hchain' : Manufactured options' chain')
    (hd : Defines chain d) (hd' : Defines chain' d) :
    anonymousChain chain = anonymousChain chain' := by
  induction chain using scope_induction generalizing chain' d with | step chain ih => ?_
  -- the induction is on the first chain; the document in between carries over to what is run inside
  have htwins := Twins.of_defines hchain hchain' hd hd'
  refine htwins.anonymousChain_eq_of_startAt ?_ chain chain' List.suffix_rfl List.suffix_rfl
    htwins.startAt
  intro p hp iterator' hiterator hiterator' hprocessor
  exact ih p hp hiterator hiterator' (defines_processor _)
    (hprocessor ▸ defines_processor iterator')

/-- A document tells the name and the definition of the machine, and all of the rule but the name of
its bus. -/
theorem document_eq_iff {c c' : Compiled} :
    c.document = c'.document ↔
      (c.machine.name = c'.machine.name ∧ c.machine.definition = c'.machine.definition) ∧
        c.rule.name = c'.rule.name ∧ c.rule.bus.uri = c'.rule.bus.uri ∧
          c.rule.detailTypes = c'.rule.detailTypes ∧ c.rule.target = c'.rule.target := by
  simp [Compiled.document, Document.ofFields_inj, Document.ofTexts_inj]

/-- **A document determines the compiled pipeline, up to the names of queues and buses.** Any two
pipelines, compiled under any options, have one document exactly when they are equal after those
names are taken away; addresses count. -/
theorem document_eq_iff_anonymous_eq {options options' : Options} {p p' : Pipeline}
    {compiled compiled' : Compiled} (h : compile options p = .ok compiled)
    (h' : compile options' p' = .ok compiled') :
    compiled.document = compiled'.document ↔ compiled.anonymous = compiled'.anonymous := by
  constructor
  · intro hdocument
    obtain ⟨⟨hname, hdefinition⟩, hrule, huri, htypes, htarget⟩ := document_eq_iff.mp hdocument
    have hchain := anonymousChain_eq_of_defines (compile_states h) (compile_states h')
      (defines_definition compiled.machine) (hdefinition ▸ defines_definition compiled'.machine)
    have hbus := Resource.anonymous_eq_iff.mpr huri
    simp only [Compiled.anonymous, hname, hchain, hrule, hbus, htypes, htarget]
  · intro hanonymous
    rw [← document_anonymous, hanonymous, document_anonymous]

theorem document_orders_eq_iff_anonymous_eq :
    ∃ compiled renamed moved,
      compile { deadLetter := some ⟨"dead", "queue:dead"⟩ } orders = .ok compiled ∧
      compile { deadLetter := some ⟨"lost", "queue:dead"⟩ } orders = .ok renamed ∧
      compile { deadLetter := some ⟨"dead", "queue:lost"⟩ } orders = .ok moved ∧
      compiled.document = renamed.document ∧ compiled.document ≠ moved.document := by
  have hok (options : Options) : compile options orders = .ok _ :=
    compile_eq_ok_iff.mpr ⟨_, _, rfl, violations_orders, rfl⟩
  refine ⟨_, _, _, hok _, hok _, hok _, ?_, ?_⟩
  · exact (document_eq_iff_anonymous_eq (hok _) (hok _)).mpr rfl
  · intro hdocument
    have hanonymous := (document_eq_iff_anonymous_eq (hok _) (hok _)).mp hdocument
    have hforward := congrArg (fun c : Compiled => (scopeStates c.machine.chain)[1]?.map (·.kind))
      hanonymous
    exact absurd (StateKind.catchAndForward.inj (Option.some.inj hforward)) (by decide)

end Machine

end EventFlow
