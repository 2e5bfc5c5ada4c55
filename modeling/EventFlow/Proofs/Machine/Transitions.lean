import EventFlow.Proofs.Machine.Diagram
import EventFlow.Proofs.Machine.Rendering
import EventFlow.Proofs.Machine.States

/-!
# Diagrams and definitions agree

A compiled pipeline is drawn as a diagram and written as a definition, by recursions that know
nothing of each other. Both say where a machine goes from a state: to the first state of what the
state runs, to the first states of its branches, and to the state after it. These are the **links**
of a state in its place (`Placed.links`), and each side is compared with them.

* In a diagram an edge is known by the number of its source. The edges of a chain start in the state
  before it or inside it (`source_of_mem_edgesOfChain`), so all edges of one state but the last come
  with the state and the last one with the rest of its chain (`leads_edgesOfChain`). This holds of
  any chain.
* In a definition the links are fields of the body (`transitions_body`). Here it matters that only
  the last state of a branch fails, since a failure does not show what comes after it.
-/

namespace EventFlow.Machine

/-- **Where a machine goes from a state in its place**: to what the state runs, to its branches, and
on. -/
def Placed.links (p : Placed) : List String :=
  (Chain.startAt p.state.kind.iterator).toList
    ++ p.state.catches.filterMap (fun branch => Chain.startAt branch.states) ++ p.next.toList

/-! ### In the diagram -/

namespace Diagram

/-- The names to which edges lead from a number, under some naming of the numbers. -/
def leads (name : Nat → Option String) (source : Nat) (edges : List Edge) : List String :=
  (edges.filter (·.source == source)).filterMap fun e => name e.target

/-- The numbers from `first` on are named after the placed states of a list. -/
def Named (name : Nat → Option String) (placed : List Placed) (first : Nat) : Prop :=
  ∀ p i, (p, i) ∈ placed.zipIdx first → name i = some p.state.id

section Leads

variable {name : Nat → Option String}

theorem leads_append (source : Nat) (edges edges' : List Edge) :
    leads name source (edges ++ edges') = leads name source edges ++ leads name source edges' := by
  simp [leads]

theorem leads_eq_nil {source : Nat} {edges : List Edge} (h : ∀ e ∈ edges, e.source ≠ source) :
    leads name source edges = [] := by
  have hfilter : edges.filter (·.source == source) = [] := by simpa using h
  rw [leads, hfilter, List.filterMap_nil]

theorem named_append {placed placed' : List Placed} {first : Nat} :
    Named name (placed ++ placed') first ↔
      Named name placed first ∧ Named name placed' (first + placed.length) := by
  simp only [Named, List.zipIdx_append, List.mem_append, or_imp, forall_and]

theorem Named.startAt {chain : Chain} {first : Nat} (h : Named name (placedOfChain chain) first)
    (hne : chain ≠ []) : name first = Chain.startAt chain := by
  obtain ⟨⟨id, input, kind, catches⟩, states, rfl⟩ := List.exists_cons_of_ne_nil hne
  exact h ⟨⟨id, input, kind, catches⟩, Chain.startAt states⟩ first (by
    simp [placedOfChain, placedOfState])

theorem leads_edgeTo {chain : Chain} {first : Nat} (h : Named name (placedOfChain chain) first)
    (source owner : Nat) (kind : EdgeKind) :
    leads name source (edgeTo owner chain first kind) =
      if owner = source then (Chain.startAt chain).toList else [] := by
  by_cases hne : chain = []
  · subst hne
    simp [edgeTo, leads, Chain.startAt]
  · have hfirst := h.startAt hne
    rcases hstart : Chain.startAt chain with _ | start
    · exact absurd hstart (by simpa [Chain.startAt] using hne)
    · by_cases howner : owner = source <;> simp [edgeTo, leads, hne, howner, hfirst, hstart]

end Leads

theorem source_of_mem_edgeTo {owner first : Nat} {chain : Chain} {kind : EdgeKind} {e : Edge}
    (h : e ∈ edgeTo owner chain first kind) : e.source = owner := by
  unfold edgeTo at h
  split at h
  · exact absurd h List.not_mem_nil
  · rw [List.mem_singleton.mp h]

mutual

theorem source_of_mem_edgesOfKind {owner : Nat} {e : Edge} :
    ∀ {first : Nat} {kind : StateKind}, e ∈ edgesOfKind owner first kind →
      e.source = owner ∨ first ≤ e.source ∧ e.source < first + kind.reachable.length
  | first, .forEach _ _ iterator, h => by
    rcases List.mem_append.mp h with hinner | hedge
    · rcases @source_of_mem_edgesOfChain e none first iterator hinner with hnone | hrange
      · exact absurd hnone (by simp)
      · exact .inr hrange
    · exact .inl (source_of_mem_edgeTo hedge)

theorem source_of_mem_edgesOfBranches {owner : Nat} {e : Edge} :
    ∀ {first : Nat} {branches : List CatchBranch}, e ∈ edgesOfBranches owner first branches →
      e.source = owner ∨
        first ≤ e.source ∧ e.source < first + (reachableOfBranches branches).length
  | first, ⟨_, _, states⟩ :: branches, h => by
    rw [reachableOfBranches, List.length_append]
    rcases List.mem_append.mp h with hfirst | hlater
    · rcases List.mem_append.mp hfirst with hinner | hedge
      · rcases @source_of_mem_edgesOfChain e none first states hinner with hnone | hrange
        · exact absurd hnone (by simp)
        · exact .inr (by omega)
      · exact .inl (source_of_mem_edgeTo hedge)
    · exact (@source_of_mem_edgesOfBranches owner e _ branches hlater).imp_right (by omega)

/-- **The edges of a chain start in the state before it or inside it.** -/
theorem source_of_mem_edgesOfChain {e : Edge} :
    ∀ {previous : Option Nat} {first : Nat} {chain : List State},
      e ∈ edgesOfChain previous first chain →
        previous = some e.source ∨
          first ≤ e.source ∧ e.source < first + (reachableOfChain chain).length
  | previous, first, ⟨_, _, kind, catches⟩ :: states, h => by
    rw [reachableOfChain, State.reachable, List.length_append, List.length_cons,
      List.length_append]
    simp only [edgesOfChain, List.mem_append, Option.mem_toList, Option.map_eq_some_iff] at h
    rcases h with ((⟨source, hsource, rfl⟩ | hkind) | hbranch) | hlater
    · exact .inl hsource
    · have hrange := @source_of_mem_edgesOfKind first e _ kind hkind
      exact .inr (by omega)
    · have hrange := @source_of_mem_edgesOfBranches first e _ catches hbranch
      exact .inr (by omega)
    · rcases @source_of_mem_edgesOfChain e _ _ states hlater with hsome | hrange
      · have hfirst := Option.some.inj hsome
        exact .inr (by omega)
      · exact .inr (by omega)

end

/-! #### From one number -/

section From

variable {name : Nat → Option String} {source owner first : Nat}

theorem leads_edgesOfKind_eq_nil {kind : StateKind} (howner : owner ≠ source)
    (h : source < first ∨ first + kind.reachable.length ≤ source) :
    leads name source (edgesOfKind owner first kind) = [] := by
  refine leads_eq_nil fun e he => ?_
  have hsource := source_of_mem_edgesOfKind he
  omega

theorem leads_edgesOfBranches_eq_nil {branches : List CatchBranch} (howner : owner ≠ source)
    (h : source < first ∨ first + (reachableOfBranches branches).length ≤ source) :
    leads name source (edgesOfBranches owner first branches) = [] := by
  refine leads_eq_nil fun e he => ?_
  have hsource := source_of_mem_edgesOfBranches he
  omega

theorem leads_edgesOfChain_eq_nil {previous : Option Nat} {chain : Chain}
    (hprevious : previous ≠ some source)
    (h : source < first ∨ first + (reachableOfChain chain).length ≤ source) :
    leads name source (edgesOfChain previous first chain) = [] := by
  refine leads_eq_nil fun e he heq => ?_
  rcases source_of_mem_edgesOfChain he with hsome | hrange
  · exact hprevious (heq ▸ hsome)
  · omega

/-- The state before a chain leads to its first state. -/
theorem leads_previous {chain : Chain} (hlt : source < first)
    (h : Named name (placedOfChain chain) first) :
    leads name source (edgesOfChain (some source) first chain) =
      (Chain.startAt chain).toList := by
  rcases chain with _ | ⟨⟨id, input, kind, catches⟩, states⟩
  · rfl
  · have hfirst := h.startAt (by simp)
    rw [edgesOfChain, leads_append, leads_append, leads_append,
      leads_edgesOfKind_eq_nil (by omega) (by omega),
      leads_edgesOfBranches_eq_nil (by omega) (by omega),
      leads_edgesOfChain_eq_nil (by simp; omega) (by omega)]
    simp [leads, hfirst, Chain.startAt]

/-- A state leads to what it runs. -/
theorem leads_owner_kind {kind : StateKind} (hlt : owner < first)
    (h : Named name (placedOfKind kind) first) :
    leads name owner (edgesOfKind owner first kind) =
      (Chain.startAt kind.iterator).toList := by
  cases kind with
  | forEach items concurrency iterator =>
    rw [edgesOfKind, leads_append, leads_edgesOfChain_eq_nil (by simp) (.inl hlt), leads_edgeTo h,
      if_pos rfl]
    rfl
  | _ => rfl

/-- A state leads to its branches. -/
theorem leads_owner_branches {branches : List CatchBranch} (hlt : owner < first)
    (h : Named name (placedOfBranches branches) first) :
    leads name owner (edgesOfBranches owner first branches) =
      branches.filterMap fun branch => Chain.startAt branch.states := by
  induction branches generalizing first with
  | nil => rfl
  | cons branch branches ih =>
    obtain ⟨errors, resultPath, states⟩ := branch
    rw [placedOfBranches, named_append, length_placedOfChain] at h
    rw [edgesOfBranches, leads_append, leads_append,
      leads_edgesOfChain_eq_nil (by simp) (.inl hlt), leads_edgeTo h.1, if_pos rfl,
      ih (by omega) h.2]
    rcases hstart : Chain.startAt states with _ | start <;> simp [hstart]

end From

section Links

variable {name : Nat → Option String} {p : Placed} {i : Nat}

theorem leads_toList_previous {previous : Option Nat} {first : Nat}
    (hprevious : ∀ source ∈ previous, source < first) (h : first ≤ i) (target : Nat) :
    leads name i (previous.map (⟨·, target, .next⟩)).toList = [] := by
  refine leads_eq_nil fun e he => ?_
  obtain ⟨source, hsource, rfl⟩ := Option.map_eq_some_iff.mp (Option.mem_toList.mp he)
  have hlt := hprevious source hsource
  exact Nat.ne_of_lt (Nat.lt_of_lt_of_le hlt h)

mutual

theorem leads_edgesOfKind :
    ∀ (owner first : Nat) (kind : StateKind), owner < first →
      Named name (placedOfKind kind) first → (p, i) ∈ (placedOfKind kind).zipIdx first →
        leads name i (edgesOfKind owner first kind) = p.links
  | owner, first, .forEach _ _ iterator, hlt, h, hp => by
    have hle := List.le_snd_of_mem_zipIdx hp
    rw [edgesOfKind, leads_append, leads_edgesOfChain none first iterator (by simp) h hp,
      leads_edgeTo h, if_neg (by omega), List.append_nil]

theorem leads_edgesOfBranches :
    ∀ (owner first : Nat) (branches : List CatchBranch), owner < first →
      Named name (placedOfBranches branches) first →
        (p, i) ∈ (placedOfBranches branches).zipIdx first →
          leads name i (edgesOfBranches owner first branches) = p.links
  | owner, first, ⟨_, _, states⟩ :: branches, hlt, h, hp => by
    -- the number is in the first branch or in a later one, and the other one has no edge from it
    rw [placedOfBranches, named_append, length_placedOfChain] at h
    rw [placedOfBranches, List.zipIdx_append, List.mem_append, length_placedOfChain] at hp
    rw [edgesOfBranches, leads_append, leads_append, leads_edgeTo h.1]
    rcases hp with hp | hp
    · have hle := List.le_snd_of_mem_zipIdx hp
      have hend := List.snd_lt_add_of_mem_zipIdx hp
      rw [length_placedOfChain] at hend
      rw [leads_edgesOfChain none first states (by simp) h.1 hp, if_neg (by omega),
        leads_edgesOfBranches_eq_nil (by omega) (by omega), List.append_nil, List.append_nil]
    · have hle := List.le_snd_of_mem_zipIdx hp
      rw [leads_edgesOfChain_eq_nil (by simp) (by omega), if_neg (by omega),
        leads_edgesOfBranches owner _ branches (by omega) h.2 hp, List.nil_append, List.nil_append]

/-- **The edges of a state lead along its links**, in their order. -/
theorem leads_edgesOfChain :
    ∀ (previous : Option Nat) (first : Nat) (chain : List State),
      (∀ source ∈ previous, source < first) →
        Named name (placedOfChain chain) first → (p, i) ∈ (placedOfChain chain).zipIdx first →
          leads name i (edgesOfChain previous first chain) = p.links
  | previous, first, ⟨id, input, kind, catches⟩ :: states, hlt, h, hp => by
    have hplaced : placedOfChain (⟨id, input, kind, catches⟩ :: states) =
        [⟨⟨id, input, kind, catches⟩, Chain.startAt states⟩] ++ placedOfKind kind
          ++ placedOfBranches catches ++ placedOfChain states := by
      simp [placedOfChain, placedOfState]
    simp only [hplaced, named_append, List.zipIdx_append, List.mem_append, List.length_append,
      List.length_singleton, length_placedOfKind, length_placedOfBranches, ← Nat.add_assoc] at h hp
    obtain ⟨⟨⟨-, hkind⟩, hbranches⟩, hstates⟩ := h
    rw [edgesOfChain, leads_append, leads_append, leads_append]
    -- the state itself, then the states inside it, then those after it
    rcases hp with ((hp | hp) | hp) | hp
    · obtain ⟨rfl, rfl⟩ : p = ⟨⟨id, input, kind, catches⟩, Chain.startAt states⟩ ∧ i = first := by
        simpa using hp
      rw [leads_toList_previous hlt Nat.le.refl, leads_owner_kind (by omega) hkind,
        leads_owner_branches (by omega) hbranches, leads_previous (by omega) hstates]
      rfl
    · have hle := List.le_snd_of_mem_zipIdx hp
      have hend := List.snd_lt_add_of_mem_zipIdx hp
      rw [length_placedOfKind] at hend
      rw [leads_toList_previous hlt (by omega),
        leads_edgesOfKind first (first + 1) kind (by omega) hkind hp,
        leads_edgesOfBranches_eq_nil (by omega) (by omega),
        leads_edgesOfChain_eq_nil (by simp; omega) (by omega)]
      simp
    · have hle := List.le_snd_of_mem_zipIdx hp
      have hend := List.snd_lt_add_of_mem_zipIdx hp
      rw [length_placedOfBranches] at hend
      rw [leads_toList_previous hlt (by omega), leads_edgesOfKind_eq_nil (by omega) (by omega),
        leads_edgesOfBranches first _ catches (by omega) hbranches hp,
        leads_edgesOfChain_eq_nil (by simp; omega) (by omega)]
      simp
    · have hle := List.le_snd_of_mem_zipIdx hp
      rw [leads_toList_previous hlt (by omega), leads_edgesOfKind_eq_nil (by omega) (by omega),
        leads_edgesOfBranches_eq_nil (by omega) (by omega),
        leads_edgesOfChain (some first) _ states (by simp; omega) hstates hp]
      simp

end

end Links

/-! #### From one name -/

/-- A name stands for the last node that has it. -/
theorem indexOf?_eq_some {g : Diagram} {before after : List DiagramNode} {node : DiagramNode}
    (hnodes : g.nodes = before ++ node :: after) (hafter : ∀ n ∈ after, n.id ≠ node.id) :
    g.indexOf? node.id = some before.length := by
  have hlater : ((after.zipIdx (before.length + 1)).reverse.find? (·.1.id == node.id)) = none := by
    rw [List.find?_eq_none]
    intro n hn
    simpa using hafter n.1 (List.fst_mem_of_mem_zipIdx (List.mem_reverse.mp hn))
  rw [indexOf?, hnodes, List.zipIdx_append, List.zipIdx_cons, List.reverse_append,
    List.reverse_cons, List.append_assoc, List.find?_append, Nat.zero_add, hlater]
  simp

/-- The name of a node. -/
def nameOf (g : Diagram) (index : Nat) : Option String :=
  g.nodes[index]?.map (·.id)

theorem successors_eq_leads {g : Diagram} {id : String} {index : Nat}
    (h : g.indexOf? id = some index) : g.successors id = leads g.nameOf index g.edges := by
  rw [successors, h]
  rfl

/-- The numbers of the states of a diagram are named after them. -/
theorem named_ofCompiled (c : Compiled) :
    Named (ofCompiled c).nameOf (placedOfChain c.machine.chain) 1 := by
  intro p i hp
  obtain ⟨hle, hget⟩ := List.mk_mem_zipIdx_iff_le_and_getElem?_sub.mp hp
  obtain ⟨k, rfl⟩ := Nat.exists_eq_add_of_le' hle
  have hstate : (reachableOfChain c.machine.chain)[k]? = some p.state := by
    rw [← map_state_placedOfChain, List.getElem?_map]
    simpa using congrArg (Option.map Placed.state) hget
  simp [nameOf, ofCompiled_eq, Chain.allStates, hstate, State.node]

/-- **From a state of a machine a diagram leads along its links**, if no two states share a name.
The rule may share one: it stands before all states. -/
theorem successors_ofCompiled {c : Compiled} (hnodup : (idsOfChain c.machine.chain).Nodup)
    {p : Placed} (hp : p ∈ placedOfChain c.machine.chain) :
    (ofCompiled c).successors p.state.id = p.links := by
  obtain ⟨before, after, hplaced⟩ := List.append_of_mem hp
  have hstates : c.machine.chain.allStates =
      before.map (·.state) ++ p.state :: after.map (·.state) := by
    rw [Chain.allStates, ← map_state_placedOfChain, hplaced, List.map_append, List.map_cons]
  have hnodes : (ofCompiled c).nodes =
      (⟨c.rule.name, "TriggerRule"⟩ :: (before.map (·.state)).map State.node) ++
        p.state.node :: (after.map (·.state)).map State.node := by
    rw [ofCompiled_eq, hstates, List.map_append, List.map_cons, List.cons_append]
  -- the name stands for this node, since no later one has it
  have hafter : ∀ n ∈ (after.map (·.state)).map State.node, n.id ≠ p.state.node.id := by
    intro n hn heq
    obtain ⟨state, hstate, rfl⟩ := List.mem_map.mp hn
    rw [idsOfChain, hstates, List.map_append, List.map_cons] at hnodup
    exact (List.nodup_cons.mp hnodup.of_append_right).1 (List.mem_map.mpr ⟨state, hstate, heq⟩)
  have hindex : (ofCompiled c).indexOf? p.state.id = some (before.length + 1) := by
    have hlast := indexOf?_eq_some hnodes hafter
    rwa [List.length_cons, List.length_map, List.length_map] at hlast
  have hmem : (p, before.length + 1) ∈ (placedOfChain c.machine.chain).zipIdx 1 := by
    simp [hplaced, List.zipIdx_append, Nat.add_comm]
  rw [successors_eq_leads hindex, edges_ofCompiled, leads_append,
    leads_edgesOfChain none 1 c.machine.chain (by simp) (named_ofCompiled c) hmem,
    leads_edgeTo (named_ofCompiled c), if_neg (by omega), List.append_nil]

/-- **From the rule a diagram leads to the first state**, unless a state has its name. -/
theorem successors_rule {c : Compiled}
    (h : ∀ state ∈ c.machine.chain.allStates, state.id ≠ c.rule.name) :
    (ofCompiled c).successors c.rule.name = c.machine.chain.startAt.toList := by
  have hnodes : (ofCompiled c).nodes =
      [] ++ ⟨c.rule.name, "TriggerRule"⟩ :: c.machine.chain.allStates.map State.node := by
    rw [ofCompiled_eq, List.nil_append]
  have hindex : (ofCompiled c).indexOf? c.rule.name = some 0 :=
    indexOf?_eq_some hnodes (by simpa [State.node] using h)
  rw [successors_eq_leads hindex, edges_ofCompiled, leads_append,
    leads_edgesOfChain_eq_nil (by simp) (by omega), leads_edgeTo (named_ofCompiled c), if_pos rfl,
    List.nil_append]

end Diagram

/-! ### In the definition -/

/-- **Where a body says that the machine goes from its state**: to the first state of what it runs
for each element of a list, to the states that take over on errors, and to the next state. -/
def transitions (body : Document) : List String :=
  (if body.text? "Type" = some "Map" then
    ((body.field? "ItemProcessor").bind (Document.text? "StartAt")).toList else [])
    ++ ((body.field? "Catch").toList.flatMap Document.items).filterMap (Document.text? "Next")
    ++ (body.text? "Next").toList

theorem text?_processor {iterator : Chain} (h : iterator ≠ []) :
    (processor iterator).text? "StartAt" = Chain.startAt iterator := by
  obtain ⟨state, states, rfl⟩ := List.exists_cons_of_ne_nil h
  rw [Document.text?, (defines_processor _).startAt]
  rfl

theorem CatchBranch.text?_document {branch : CatchBranch} (h : branch.states ≠ []) :
    branch.document.text? "Next" = Chain.startAt branch.states := by
  obtain ⟨state, states, hstates⟩ := List.exists_cons_of_ne_nil h
  rw [Document.text?, branch.field?_document, hstates]
  rfl

/-- **A body says where the links of its state lead.** -/
theorem transitions_body {options : Options} {p : Placed} (h : Crafted options p.state)
    (hfail : p.state.kind = .fail → p.next = none) : transitions p.body = p.links := by
  have heach : (if p.body.text? "Type" = some "Map" then
      ((p.body.field? "ItemProcessor").bind (Document.text? "StartAt")).toList else []) =
        (Chain.startAt p.state.kind.iterator).toList := by
    rw [Document.text?, field?_type, field?_itemProcessor]
    rcases hkind : p.state.kind with _ | ⟨items, concurrency, iterator⟩ | _ | _ | _ | _
    case forEach =>
      exact congrArg Option.toList (text?_processor (h.mainline hkind).ne_nil)
    all_goals rfl
  have hcatch : ((p.body.field? "Catch").toList.flatMap Document.items).filterMap
      (Document.text? "Next") =
        p.state.catches.filterMap fun branch => Chain.startAt branch.states := by
    have hitems : (p.body.field? "Catch").toList.flatMap Document.items =
        p.state.catches.map CatchBranch.document := by
      rw [field?_catch]
      rcases p.state.catches with _ | ⟨branch, catches⟩ <;> simp [Document.items]
    rw [hitems, List.filterMap_map]
    refine List.filterMap_congr fun branch hbranch => CatchBranch.text?_document ?_
    obtain ⟨function, queue, rfl⟩ := h.exists_catchBranch hbranch
    exact List.cons_ne_nil _ _
  have hnext : p.body.text? "Next" = p.next := by
    have hsuccessor : p.successor = p.next := by
      by_cases hkind : p.state.kind = .fail
      · rw [successor_of_fail hkind, hfail hkind]
      · exact successor_of_ne_fail hkind
    rw [Document.text?, field?_next, hsuccessor]
    rcases p.next with _ | next <;> rfl
  rw [transitions, heach, hcatch, hnext, Placed.links]

/-- **Diagram and definition agree on where a machine goes.** From a state, at any depth, the
diagram leads to where the body of the state says that the machine goes, in that order; the body is
the one entry under the name of the state in all tables of states of the definition. From the rule
it leads to the state at which the definition starts, as long as no state has its name. -/
theorem compile_successors_eq_transitions {options : Options} {p : Pipeline} {compiled : Compiled}
    (h : compile options p = .ok compiled) :
    (∀ state ∈ compiled.machine.chain.allStates, ∃ body,
        (∀ other, (state.id, other) ∈ stateEntries compiled.machine.definition ↔ other = body) ∧
          (Diagram.ofCompiled compiled).successors state.id = transitions body) ∧
      ((∀ state ∈ compiled.machine.chain.allStates, state.id ≠ compiled.rule.name) →
        ∃ start, compiled.machine.definition.field? "StartAt" = some (.text start) ∧
          (Diagram.ofCompiled compiled).successors compiled.rule.name = [start]) := by
  have hstates := compile_states h
  have hdefines := defines_definition compiled.machine
  have hname := hstates.not_mem_idsOfChain (by decide : Naming.lead "States" ∉ _)
  constructor
  · intro state hstate
    have hcrafted := hstates.crafted state hstate
    rw [Chain.allStates, ← map_state_placedOfChain] at hstate
    obtain ⟨q, hq, rfl⟩ := List.mem_map.mp hstate
    refine ⟨q.body, fun other => mem_stateEntries_iff hstates.nodup hname hdefines hq, ?_⟩
    rw [Diagram.successors_ofCompiled hstates.nodup hq,
      transitions_body hcrafted fun hfail => (hstates.ends_branch_of_fail hq hfail).1]
  · intro hrule
    rw [Diagram.successors_rule hrule]
    obtain ⟨state, states, hchain⟩ := List.exists_cons_of_ne_nil hstates.mainline.ne_nil
    refine ⟨state.id, ?_, ?_⟩
    · rw [hdefines.startAt, hchain]
      rfl
    · rw [hchain]
      rfl

theorem compile_orders_successors_eq_transitions :
    ∃ compiled, compile { deadLetter := some ⟨"dead", "queue:dead"⟩ } orders = .ok compiled ∧
      compiled.machine.chain.allStates.length = 12 ∧
      (∀ state ∈ compiled.machine.chain.allStates, ∃ body,
        (∀ other, (state.id, other) ∈ stateEntries compiled.machine.definition ↔ other = body) ∧
          (Diagram.ofCompiled compiled).successors state.id = transitions body) ∧
      (Diagram.ofCompiled compiled).successors compiled.rule.name = [Naming.invoke "lines"] := by
  have hok : compile { deadLetter := some ⟨"dead", "queue:dead"⟩ } orders = .ok _ :=
    compile_eq_ok_iff.mpr ⟨_, _, rfl, violations_orders, rfl⟩
  obtain ⟨hstates, hrule⟩ := compile_successors_eq_transitions hok
  -- the name of the rule begins like that of no state
  have hname := (compile_states hok).not_mem_idsOfChain (by decide : Naming.lead "Rule" ∉ _)
  obtain ⟨start, hstart, hsuccessors⟩ := hrule fun state hstate heq =>
    hname (List.mem_map.mpr ⟨state, hstate, heq⟩)
  obtain rfl : Naming.invoke "lines" = start := by
    have htext := (defines_definition _).startAt.symm.trans hstart
    exact Document.text.inj (Option.some.inj htext)
  exact ⟨_, hok, rfl, hstates, hsuccessors⟩

end EventFlow.Machine
