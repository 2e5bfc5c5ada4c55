import EventFlow.Proofs.Machine.Violation

/-!
# Compiling is laying out, or naming the first violation

The builder works on a stack, the layout (`EventFlow.Machine.layNodes`) and the list of violations
(`EventFlow.Machine.violations`) by recursion on the tree. This file proves that the two agree:
a pipeline with a violation is refused with the first one, and any other pipeline compiles to its
layout.

The walk is followed from a **parametric builder** `Builder.standing`: the chains around, the
innermost chain, the path, the scopes and the sites met so far determine the rest – the accumulated
names are those of the chains, and the names in use are those claimed at the sites. Each node then
moves a builder that stands somewhere to one that stands a little further (`Stand.laid`), and this
is all that the induction over the tree has to carry. The journal grows along the way and is the
only thing left open.
-/

namespace EventFlow.Machine

/-! ### Where a build stands -/

/-- What a walk changes of a builder. -/
structure Stand where
  /-- The chains around the innermost one. -/
  outer : List Chain := []
  /-- The innermost chain. -/
  chain : Chain := []
  /-- Where the next state reads. -/
  read : Path
  /-- Where the lists of the open fan-outs were, innermost first. -/
  scopes : List Path := []
  /-- The sites met so far. -/
  earlier : List Site := []

namespace Stand

/-- Some states later. -/
def laid (s : Stand) (states : Chain) (read : Path) (met : List Site) : Stand :=
  { s with chain := s.chain ++ states, read, earlier := s.earlier ++ met }

theorem laid_laid (s : Stand) (states states' : Chain) (read read' : Path)
    (met met' : List Site) :
    (s.laid states read met).laid states' read' met' =
      s.laid (states ++ states') read' (met ++ met') := by
  simp [laid]

/-- In a fan-out that was just opened. -/
def opened (s : Stand) : Stand :=
  { s with outer := s.outer ++ [s.chain], chain := [], read := .root, scopes := s.read :: s.scopes }

end Stand

namespace Builder

/-- **The builder that stands somewhere**, `b` giving what a walk does not change. -/
def standing (b : Builder) (s : Stand) (journal : List Log.Record) : Builder :=
  { b with
    chains := s.outer ++ [s.chain]
    names := (s.outer ++ [s.chain]).map joinedIds
    path := ⟨s.read, s.scopes⟩
    emitted := claimedBy b.options s.earlier
    journal }

variable (b : Builder) (s : Stand) (journal : List Log.Record)

theorem standing_chains_ne_nil : (b.standing s journal).chains ≠ [] :=
  List.append_ne_nil_of_right_ne_nil _ (List.cons_ne_nil _ _)

/-- A state whose names are those claimed at a site is added where the build stands. -/
theorem outcome_append_standing (state : State) (site : Site)
    (hids : claimedIds state = claimedAt b.options site)
    (h : Unclaimed (claimedBy b.options s.earlier) (claimedIds state)) :
    ∃ journal', outcome (append state) (b.standing s journal) =
      (.ok (), b.standing (s.laid [state] s.read [site]) journal') := by
  obtain ⟨journal', hadded⟩ :=
    outcome_append_of_unclaimed (standing_chains_ne_nil b s journal) h
  refine ⟨journal', hadded.trans ?_⟩
  have hnames := modify_concat (· ++ state.id) (s.outer.map joinedIds) (joinedIds s.chain)
  rw [List.length_map] at hnames
  simp [added, standing, Stand.laid, hids, claimedBy, modify_concat, hnames]

/-- A state whose own name is in use is refused. -/
theorem outcome_append_standing_of_mem {state : State}
    (h : state.id ∈ claimedBy b.options s.earlier) :
    (outcome (append state) (b.standing s journal)).1 = .error (.duplicateState state.id) := by
  rw [outcome_append_of_mem (standing_chains_ne_nil b s journal) h]

/-! ### Calls -/

theorem outcome_enterCall_standing {c : Call} (h : violationsAt s.earlier (.call c) = []) :
    ∃ journal', outcome (enterCall c) (b.standing s journal) =
      (.ok (), b.standing (s.laid (layNode b.options s.read (.call c)) s.read [.call c])
        journal') := by
  simp only [violationsAt, List.append_eq_nil_iff, ite_eq_right_iff, List.cons_ne_nil, imp_false,
    Bool.not_eq_true] at h
  obtain ⟨hbound, hnew⟩ := h
  rw [outcome_enterCall, if_neg hbound]
  refine outcome_append_standing b s journal _ (.call c) (claimedIds_invokeState _ _ _) ?_
  rw [claimedIds_invokeState]
  exact unclaimed_callIds hnew

theorem outcome_enterCall_standing_error {c : Call} {v : Violation} {vs : List Violation}
    (h : violationsAt s.earlier (.call c) = v :: vs) :
    (outcome (enterCall c) (b.standing s journal)).1 = .error v.error := by
  rw [outcome_enterCall]
  by_cases hbound : c.concurrency = 0
  · obtain ⟨rfl, -⟩ : .zeroConcurrency c.function.id = v ∧ _ := by
      simpa [violationsAt, hbound] using h
    rw [if_pos hbound]
    rfl
  · -- the bound is fine, so it is the function that was called before
    by_cases hcalled : callsBefore c.function.id s.earlier
    · obtain ⟨rfl, -⟩ : .duplicateState (Naming.invoke c.function.id) = v ∧ _ := by
        simpa [violationsAt, hbound, hcalled] using h
      rw [if_neg hbound]
      exact outcome_append_standing_of_mem b s journal (invoke_mem_claimedBy_iff.mpr hcalled)
    · simp [violationsAt, hbound, hcalled] at h

/-! ### Fan-outs -/

/-- Where a build stands when it is about to leave a fan-out whose nodes are laid out. -/
def leaving (b : Builder) (s : Stand) (nodes : List Node) (read : Path) (met : List Site) : Stand :=
  { s.opened with
    chain := layNodes b.options .root nodes, read, earlier := s.earlier ++ met }

section Leaving

variable {nodes : List Node} (read : Path) (met : List Site)

theorem leaving_length :
    ¬(b.standing (b.leaving s nodes read met) journal).chains.length < 2 := by
  simp [standing, leaving, Stand.opened]

theorem leaving_innermost :
    (b.standing (b.leaving s nodes read met) journal).innermost =
      layNodes b.options .root nodes := by
  simp [standing, leaving, innermost]

/-- Leaving a fan-out without a trace leads back to where it was entered. -/
theorem leaving_collapsed (journal' : List Log.Record) :
    (b.standing (b.leaving s nodes read met) journal).collapsed journal' =
      b.standing (s.laid [] s.read met) journal' := by
  simp [standing, leaving, Stand.opened, Stand.laid, collapsed, closed, PathTracker.collapseScope]

/-- Leaving a fan-out with a result leads back to where it was entered, but for the path. -/
theorem leaving_popped :
    (b.standing (b.leaving s nodes read met) journal).popped =
      b.standing (s.laid [] .payload met) journal := by
  simp [standing, leaving, Stand.opened, Stand.laid, popped, closed, PathTracker.popScope]

/-- The state of a fan-out that is opened by a call is the one of the layout. -/
theorem leaving_fanOutState {c : Call} (hopening : openingCall? nodes = some c) :
    (b.standing (b.leaving s nodes read met) journal).fanOutState c =
      fanOutOver s.read nodes (layNodes b.options .root nodes) := by
  rw [fanOutState, leaving_innermost]
  simp [fanOutOver, hopening, standing, leaving, Stand.opened, PathTracker.items?]

theorem claimedIds_fanOutOver (hcall : haveCall nodes) :
    claimedIds (fanOutOver s.read nodes (layNodes b.options .root nodes)) =
      claimedAt b.options (.fanOutEnd nodes) := by
  rw [claimedIds, id_fanOutOver_layNodes, claimedAt, if_pos hcall]
  rfl

variable {met}

theorem outcome_leaveFanOut_standing (depth : Nat) (hinner : InnerChain nodes)
    (h : violationsAt (s.earlier ++ met) (.fanOutEnd nodes) = []) :
    ∃ journal', outcome (leaveFanOut depth nodes)
        (b.standing (b.leaving s nodes read met) journal) =
      (.ok (), b.standing (s.laid (layNode b.options s.read (.fanOut nodes))
        (readAfter s.read (.fanOut nodes)) (met ++ [.fanOutEnd nodes])) journal') := by
  rw [outcome_leaveFanOut, if_neg (leaving_length b s journal read met), leaving_innermost,
    isEmpty_layNodes _ _ hinner]
  by_cases hcall : haveCall nodes
  · obtain ⟨⟨c, hopening⟩, hnew⟩ := (violationsAt_fanOutEnd_eq_nil_iff hcall).mp h
    have hfind := hinner.find?_isStateless.trans (openingCall?_eq_some_iff.mp hopening)
    rw [if_neg (by simp [hcall]), hfind]
    dsimp only
    rw [leaving_popped, leaving_fanOutState b s journal read met hopening]
    have hids := claimedIds_fanOutOver b s hcall
    have hunclaimed : Unclaimed (claimedBy b.options (s.earlier ++ met))
        (claimedIds (fanOutOver s.read nodes (layNodes b.options .root nodes))) := by
      rw [hids, claimedAt, if_pos hcall, unclaimed_singleton_iff, fanOutId_mem_claimedBy_iff, hnew]
      exact Bool.false_ne_true
    obtain ⟨journal', happend⟩ :=
      outcome_append_standing b (s.laid [] .payload met) journal _ _ hids hunclaimed
    refine ⟨journal', (outcome_bind_ok happend).trans ?_⟩
    simp [outcome_enterResult, standing, Stand.laid, layNode, readAfter, Node.hasCall, hcall,
      PathTracker.enterResult]
  · -- no state was laid out, so the path of the list comes back
    rw [if_pos (by simp [hcall])]
    refine ⟨journal ++ [elidedRecord depth], ?_⟩
    rw [leaving_collapsed]
    simp [standing, Stand.laid, layNode, readAfter, Node.hasCall, hcall, claimedBy, claimedAt]

theorem outcome_leaveFanOut_standing_error (depth : Nat) (hinner : InnerChain nodes)
    {v : Violation} {vs : List Violation}
    (h : violationsAt (s.earlier ++ met) (.fanOutEnd nodes) = v :: vs) :
    (outcome (leaveFanOut depth nodes)
      (b.standing (b.leaving s nodes read met) journal)).1 = .error v.error := by
  have hcall : haveCall nodes := by
    by_contra hnone
    simp [violationsAt, hnone] at h
  rw [outcome_leaveFanOut, if_neg (leaving_length b s journal read met), leaving_innermost,
    isEmpty_layNodes _ _ hinner, if_neg (by simp [hcall]), hinner.find?_isStateless]
  rcases hopening : openingCall? nodes with _ | c
  · obtain ⟨rfl, -⟩ : .fanOutHead = v ∧ _ := by
      simpa [violationsAt, hcall, hopening] using h
    obtain ⟨inner, hfound⟩ := find?_hasCall_of_openingCall?_eq_none hcall hopening
    rw [hfound]
    rfl
  · -- the fan-out is opened by a call, so it is its name that is in use
    have hclash : fanOutsBefore (fanOutId nodes) (s.earlier ++ met) := by
      by_contra hnew
      simp [violationsAt, hcall, hopening, hnew] at h
    obtain ⟨rfl, -⟩ : .duplicateState (fanOutId nodes) = v ∧ _ := by
      simpa [violationsAt, hcall, hopening, hclash] using h
    rw [openingCall?_eq_some_iff.mp hopening]
    dsimp only
    rw [leaving_popped, leaving_fanOutState b s journal read met hopening]
    have hid := id_fanOutOver_layNodes b.options s.read .root nodes
    have happend := outcome_append_standing_of_mem b (s.laid [] .payload met) journal
      (hid ▸ fanOutId_mem_claimedBy_iff.mpr hclash)
    exact outcome_bind_error (happend.trans (by rw [hid]; rfl))

end Leaving

/-! ### Walks -/

theorem outcome_enterFanOut_standing :
    outcome enterFanOut (b.standing s journal) = (.ok (), b.standing s.opened journal) := by
  have h : outcome enterFanOut (b.standing s journal) = (.ok (), _) := rfl
  rw [h]
  simp [standing, Stand.opened, PathTracker.pushScope]

mutual

/-- **A node in which nothing is wrong is walked**, and becomes what the layout says. The source is
left out: it changes what a builder that stands somewhere leaves open. -/
theorem outcome_walkNode_standing (b : Builder) :
    ∀ (node : Node) (s : Stand) (journal : List Log.Record) (depth index : Nat) (isLast : Bool),
      ¬(node.kind = .source ∧ depth = 0 ∧ index = 0) →
      Naming.sink ∉ claimedBy b.options s.earlier →
      violationsFrom s.earlier (sitesOfNode depth index isLast node) = [] →
      ∃ journal', outcome (walkNode .misplaced visit depth index isLast node)
          (b.standing s journal) =
        (.ok (), b.standing (s.laid (layNode b.options s.read node) (readAfter s.read node)
          (sitesOfNode depth index isLast node)) journal')
  | .source src, s, _, depth, index, isLast, hsource, _, h => by
    exfalso
    rcases inner_or_of_violationsFrom_eq_nil h with hinner | hplace | ⟨hkind, -⟩
    · exact hinner
    · exact hsource hplace
    · exact absurd hkind (by simp [Node.kind])
  | .call c, s, journal, _, _, _, _, _, h => by
    obtain ⟨journal', henter⟩ := outcome_enterCall_standing b s journal
      (by simpa [sitesOfNode, violationsFrom] using h)
    exact ⟨journal', outcome_bind_ok henter⟩
  | .fanOut nodes, s, journal, depth, _, _, _, hsink, h => by
    -- the end of the fan-out is met last, with the sites inside it among the earlier ones
    rw [sitesOfNode, violationsFrom_snoc, List.append_eq_nil_iff] at h
    obtain ⟨journal₁, hnodes⟩ := outcome_walkNodes_standing b nodes s.opened journal (depth + 1) 0
      (fun hsource => absurd hsource.2.1 (Nat.succ_ne_zero depth)) hsink h.1
    obtain ⟨journal₂, hleave⟩ := outcome_leaveFanOut_standing b s journal₁
      (readAfterAll .root nodes) depth (innerChain_of_violationsFrom_eq_nil h.1) h.2
    exact ⟨journal₂, (outcome_bind_ok (outcome_enterFanOut_standing b s journal)).trans
      ((outcome_bind_ok hnodes).trans hleave)⟩
  | .deliver d, s, journal, depth, index, isLast, _, hsink, h => by
    have hplace : depth = 0 ∧ isLast := by
      rcases inner_or_of_violationsFrom_eq_nil h with hinner | ⟨hkind, -⟩ | ⟨-, hplace⟩
      · exact hinner.elim
      · exact absurd hkind (by simp [Node.kind])
      · exact hplace
    obtain ⟨journal', happend⟩ := outcome_append_standing b s journal (sinkState s.read d)
      (.deliver depth index isLast) rfl (unclaimed_singleton_iff.mpr hsink)
    have henter := (outcome_enterDeliver d (b.standing s journal)).trans happend
    rw [walkNode, if_pos hplace]
    exact ⟨journal', outcome_bind_ok henter⟩

theorem outcome_walkNodes_standing (b : Builder) :
    ∀ (nodes : List Node) (s : Stand) (journal : List Log.Record) (depth index : Nat),
      ¬(nodes.head?.map Node.kind = some .source ∧ depth = 0 ∧ index = 0) →
      Naming.sink ∉ claimedBy b.options s.earlier →
      violationsFrom s.earlier (sites depth index nodes) = [] →
      ∃ journal', outcome (walkNodes .misplaced visit depth index nodes) (b.standing s journal) =
        (.ok (), b.standing (s.laid (layNodes b.options s.read nodes) (readAfterAll s.read nodes)
          (sites depth index nodes)) journal')
  | [], s, journal, _, _, _, _, _ => by
    refine ⟨journal, ?_⟩
    simp [walkNodes, Stand.laid, layNodes, readAfterAll, sites]
  | node :: nodes, s, journal, depth, index, hsource, hsink, h => by
    rw [sites, violationsFrom_append, List.append_eq_nil_iff] at h
    obtain ⟨journal₁, hnode⟩ := outcome_walkNode_standing b node s journal depth index
      nodes.isEmpty (by simpa using hsource) hsink h.1
    rw [walkNodes, outcome_bind_ok hnode]
    cases nodes with
    | nil =>
      refine ⟨journal₁, ?_⟩
      simp [walkNodes, layNodes, readAfterAll, sites]
    | cons next nodes =>
      -- the node is not the last one, so it was no delivery
      have hsink' := sink_not_mem_claimedBy_of_not_last (by simpa using hsource) hsink h.1
      obtain ⟨journal₂, hnodes⟩ := outcome_walkNodes_standing b (next :: nodes)
        (s.laid (layNode b.options s.read node) (readAfter s.read node)
          (sitesOfNode depth index (next :: nodes).isEmpty node)) journal₁ depth (index + 1)
        (fun hfirst => absurd hfirst.2.2 (Nat.succ_ne_zero index)) hsink' h.2
      rw [Stand.laid_laid] at hnodes
      exact ⟨journal₂, hnodes⟩

end

mutual

/-- **A node in which something is wrong is refused** with the first thing that is. -/
theorem outcome_walkNode_standing_error (b : Builder) :
    ∀ (node : Node) (s : Stand) (journal : List Log.Record) (depth index : Nat) (isLast : Bool)
      (v : Violation) (vs : List Violation),
      Naming.sink ∉ claimedBy b.options s.earlier →
      violationsFrom s.earlier (sitesOfNode depth index isLast node) = v :: vs →
      (outcome (walkNode .misplaced visit depth index isLast node) (b.standing s journal)).1 =
        .error v.error
  | .source src, s, journal, depth, index, isLast, v, vs, _, h => by
    by_cases hplace : depth = 0 ∧ index = 0
    · simp [sitesOfNode, violationsFrom, violationsAt, hplace] at h
    · obtain ⟨rfl, -⟩ : .misplaced .source index depth = v ∧ _ := by
        simpa [sitesOfNode, violationsFrom, violationsAt, hplace] using h
      rw [walkNode, if_neg hplace]
      rfl
  | .call c, s, journal, _, _, _, v, vs, _, h =>
    outcome_bind_error (outcome_enterCall_standing_error b s journal
      (by simpa [sitesOfNode, violationsFrom] using h))
  | .fanOut nodes, s, journal, depth, _, _, v, vs, hsink, h => by
    rw [sitesOfNode, violationsFrom_snoc] at h
    have henter : outcome (visit ⟨.enter, depth, .fanOut nodes⟩) (b.standing s journal) =
        (.ok (), b.standing s.opened journal) := outcome_enterFanOut_standing b s journal
    rw [walkNode, outcome_bind_ok henter]
    rcases hnodes : violationsFrom s.earlier (sites (depth + 1) 0 nodes) with _ | ⟨w, ws⟩
    · -- nothing is wrong inside, so the fan-out itself is refused when it is left
      rw [hnodes, List.nil_append] at h
      obtain ⟨journal₁, hwalk⟩ := outcome_walkNodes_standing b nodes s.opened journal (depth + 1) 0
        (fun hsource => absurd hsource.2.1 (Nat.succ_ne_zero depth)) hsink hnodes
      rw [outcome_bind_ok hwalk]
      exact outcome_leaveFanOut_standing_error b s journal₁ (readAfterAll .root nodes) depth
        (innerChain_of_violationsFrom_eq_nil hnodes) h
    · obtain ⟨rfl, -⟩ : w = v ∧ _ := by simpa [hnodes] using h
      exact outcome_bind_error
        (outcome_walkNodes_standing_error b nodes s.opened journal (depth + 1) 0 w ws
          (fun hsource => absurd hsource.2.1 (Nat.succ_ne_zero depth)) hsink hnodes)
  | .deliver d, s, journal, depth, index, isLast, v, vs, _, h => by
    by_cases hplace : depth = 0 ∧ isLast
    · simp [sitesOfNode, violationsFrom, violationsAt, hplace] at h
    · obtain ⟨rfl, -⟩ : .misplaced .deliver index depth = v ∧ _ := by
        simpa [sitesOfNode, violationsFrom, violationsAt, hplace] using h
      rw [walkNode, if_neg hplace]
      rfl

theorem outcome_walkNodes_standing_error (b : Builder) :
    ∀ (nodes : List Node) (s : Stand) (journal : List Log.Record) (depth index : Nat)
      (v : Violation) (vs : List Violation),
      ¬(nodes.head?.map Node.kind = some .source ∧ depth = 0 ∧ index = 0) →
      Naming.sink ∉ claimedBy b.options s.earlier →
      violationsFrom s.earlier (sites depth index nodes) = v :: vs →
      (outcome (walkNodes .misplaced visit depth index nodes) (b.standing s journal)).1 =
        .error v.error
  | [], _, _, _, _, _, _, _, _, h => by simp [sites, violationsFrom] at h
  | node :: nodes, s, journal, depth, index, v, vs, hsource, hsink, h => by
    rw [sites, violationsFrom_append] at h
    rw [walkNodes]
    rcases hnode : violationsFrom s.earlier (sitesOfNode depth index nodes.isEmpty node) with
      _ | ⟨w, ws⟩
    · rw [hnode, List.nil_append] at h
      obtain ⟨journal₁, hwalk⟩ := outcome_walkNode_standing b node s journal depth index
        nodes.isEmpty (by simpa using hsource) hsink hnode
      rw [outcome_bind_ok hwalk]
      cases nodes with
      | nil => simp [sites, violationsFrom] at h
      | cons next nodes =>
        exact outcome_walkNodes_standing_error b (next :: nodes) _ journal₁ depth (index + 1) v vs
          (fun hfirst => absurd hfirst.2.2 (Nat.succ_ne_zero index))
          (sink_not_mem_claimedBy_of_not_last (by simpa using hsource) hsink hnode) h
    · obtain ⟨rfl, -⟩ : w = v ∧ _ := by simpa [hnode] using h
      exact outcome_bind_error
        (outcome_walkNode_standing_error b node s journal depth index nodes.isEmpty w ws hsink hnode)

end

/-! ### Leaving the pipeline -/

/-- What a builder is before a walk. -/
theorem standing_initial (options : Options) :
    ({ options } : Builder) = ({ options } : Builder).standing { read := .root } [] := by
  simp [standing, claimedBy]

/-- What a builder is after the source was entered. -/
def sourced (options : Options) (src : Source) : Builder :=
  { options
    source := some src.bus
    filter := if src.categories.isEmpty then [src.typeName] else src.categories }

theorem outcome_enterSource (options : Options) (src : Source) :
    outcome (enterSource src) ({ options } : Builder) =
      (.ok (), (sourced options src).standing
        { read := .detail, earlier := [.source 0 0] } []) := by
  have h : outcome (enterSource src) ({ options } : Builder) = (.ok (), _) := rfl
  rw [h]
  simp [standing, sourced, claimedBy, claimedAt, PathTracker.enterEvent]

theorem outcome_leavePipeline_standing (hs : s.outer = []) :
    outcome leavePipeline (b.standing s journal) = match b.source with
      | none => (.error .noSource, b.standing s journal)
      | some bus =>
        if s.chain.isEmpty then (.error .noStates, { b.standing s journal with chains := [] })
        else (.ok (), { b.standing s journal with
          chains := []
          names := []
          filter := []
          output := some ((b.standing s journal).artifact bus)
          journal := journal ++ [compiledRecord ((b.standing s journal).artifact bus)] }) := by
  have hlength : ¬(b.standing s journal).chains.length ≠ 1 := by simp [standing, hs]
  have hinnermost : (b.standing s journal).innermost = s.chain := by simp [standing, innermost]
  rw [outcome_leavePipeline, if_neg hlength, hinnermost]
  rfl

end Builder

/-! ### Compiling -/

/-- The machine of a chain, and the rule of the source that starts it. -/
def assembled (options : Options) (src : Source) (chain : Chain) : Compiled :=
  ⟨⟨options.machineName, chain⟩, ⟨options.ruleName, src.bus,
    if src.categories.isEmpty then [src.typeName] else src.categories, options.machineName⟩⟩

section Compile

open Builder

variable {options : Options} {p : Pipeline}

theorem compile_eq_outcome (options : Options) (p : Pipeline) :
    compile options p =
      match outcome (walkNodes .misplaced visit 0 0 p >>= fun _ => leavePipeline) { options } with
      | (.ok (), b) => b.finish
      | (.error e, _) => .error e := by
  have hwalk : outcome (walk .misplaced visit p) { options } =
      outcome (walkNodes .misplaced visit 0 0 p >>= fun _ => leavePipeline) { options } :=
    outcome_bind_ok (outcome_pure () _)
  rw [← hwalk]
  unfold compile compileWithJournal outcome
  split <;> rename_i heq <;> rw [heq]

/-- A pipeline whose nodes are refused is refused. -/
theorem compile_of_walkNodes_error {e : CompileError}
    (h : (outcome (walkNodes .misplaced visit 0 0 p) { options }).1 = .error e) :
    compile options p = .error e := by
  have hwalk := outcome_bind_error (f := fun _ => leavePipeline) h
  rw [compile_eq_outcome]
  generalize outcome (walkNodes .misplaced visit 0 0 p >>= fun _ => leavePipeline) { options } = r
    at hwalk
  rcases r with ⟨e' | _, b⟩
  · obtain rfl : e' = e := Except.error.inj hwalk
    rfl
  · exact absurd hwalk (by simp)

/-- A pipeline whose nodes are walked has the machine that is put together at the end. -/
theorem compile_of_walkNodes_ok {b : Builder} {s : Stand} {journal : List Log.Record}
    (hs : s.outer = [])
    (h : outcome (walkNodes .misplaced visit 0 0 p) { options } = (.ok (), b.standing s journal)) :
    compile options p = match b.source with
      | none => .error .noSource
      | some bus =>
        if s.chain.isEmpty then .error .noStates
        else .ok ((b.standing s journal).artifact bus) := by
  rw [compile_eq_outcome, outcome_bind_ok h, outcome_leavePipeline_standing b s journal hs]
  rcases b.source with _ | bus
  · rfl
  · by_cases hempty : s.chain.isEmpty <;> simp [hempty, finish]

/-- **A pipeline without a source at its beginning is refused**: with the first violation at one of
its sites, or at last because the source is missing. -/
theorem compile_of_no_source (options : Options) (hsource : p.head?.map Node.kind ≠ some .source) :
    ∃ v vs, violations p = v :: vs ∧ compile options p = .error v.error := by
  have hfirst : ¬(p.head?.map Node.kind = some .source ∧ 0 = 0 ∧ 0 = 0) := fun h => hsource h.1
  have hsink : Naming.sink ∉ claimedBy options [] := List.not_mem_nil
  rcases hsites : violationsFrom [] (sites 0 0 p) with _ | ⟨v, vs⟩
  · obtain ⟨journal, hwalk⟩ :=
      outcome_walkNodes_standing { options } p { read := .root } [] 0 0 hfirst hsink hsites
    rw [← standing_initial] at hwalk
    exact ⟨.noSource, _, by rw [violations, hsites, if_neg hsource]; rfl,
      compile_of_walkNodes_ok rfl hwalk⟩
  · have hwalk :=
      outcome_walkNodes_standing_error { options } p { read := .root } [] 0 0 v vs hfirst hsink hsites
    rw [← standing_initial] at hwalk
    exact ⟨v, _, by rw [violations, hsites]; rfl, compile_of_walkNodes_error hwalk⟩

theorem violations_source (src : Source) (rest : List Node) :
    violations (.source src :: rest) = violationsFrom [.source 0 0] (sites 0 1 rest)
      ++ (if (sites 0 1 rest).any Site.runs then [] else [.noStates]) := by
  simp [violations, sites, sitesOfNode, violationsFrom, violationsAt, Node.kind, Site.runs]

theorem outcome_walkNodes_source (options : Options) (src : Source) (rest : List Node) :
    outcome (walkNodes .misplaced visit 0 0 (.source src :: rest)) { options } =
      outcome (walkNodes .misplaced visit 0 1 rest) ((sourced options src).standing
        { read := .detail, earlier := [.source 0 0] } []) := by
  have hsource : outcome (walkNode .misplaced visit 0 0 rest.isEmpty (.source src)) { options } =
      (.ok (), (sourced options src).standing { read := .detail, earlier := [.source 0 0] } []) := by
    rw [walkNode, if_pos ⟨rfl, rfl⟩]
    exact outcome_bind_ok (outcome_enterSource options src)
  exact outcome_bind_ok hsource

/-- **A pipeline without violations at its sites has a state** exactly when it runs something. -/
theorem isEmpty_layNodes_eq_not_any_runs (options : Options) (read : Path) {nodes : List Node}
    {earlier : List Site} {depth index : Nat}
    (h : violationsFrom earlier (sites depth index nodes) = []) :
    (layNodes options read nodes).isEmpty = !(sites depth index nodes).any Site.runs := by
  rw [Bool.eq_iff_iff, List.isEmpty_iff, layNodes_eq_nil_iff, ← any_runs_eq_false_iff h,
    Bool.not_eq_true']

/-- **A pipeline that begins with a source** compiles to its layout unless there is a violation, and
is refused with the first one if there is. -/
theorem compile_of_source (options : Options) (src : Source) (rest : List Node) :
    compile options (.source src :: rest) = match violations (.source src :: rest) with
      | [] => .ok (assembled options src (layNodes options .detail rest))
      | v :: _ => .error v.error := by
  have hlater : ¬(rest.head?.map Node.kind = some .source ∧ 0 = 0 ∧ 0 + 1 = 0) :=
    fun h => absurd h.2.2 (Nat.succ_ne_zero 0)
  have hsink : Naming.sink ∉ claimedBy options [.source 0 0] := by simp [claimedBy, claimedAt]
  have hwalks := outcome_walkNodes_source options src rest
  rw [violations_source]
  rcases hsites : violationsFrom [.source 0 0] (sites 0 1 rest) with _ | ⟨v, vs⟩
  · obtain ⟨journal, hwalk⟩ := outcome_walkNodes_standing (sourced options src) rest
      { read := .detail, earlier := [.source 0 0] } [] 0 1 hlater hsink hsites
    rw [compile_of_walkNodes_ok rfl (hwalks.trans hwalk)]
    -- the walk went through; what is left is the refusal of a pipeline that runs nothing
    have hempty := isEmpty_layNodes_eq_not_any_runs options .detail hsites
    by_cases hruns : (sites 0 1 rest).any Site.runs
    · simp [sourced, Stand.laid, hempty, hruns, assembled, artifact, innermost, standing]
    · simp [sourced, Stand.laid, hempty, hruns, Violation.error]
  · have hwalk := outcome_walkNodes_standing_error (sourced options src) rest
      { read := .detail, earlier := [.source 0 0] } [] 0 1 v vs hlater hsink hsites
    exact compile_of_walkNodes_error (hwalks ▸ hwalk)

theorem exists_source_of_violations_eq_nil (h : violations p = []) :
    ∃ src rest, p = .source src :: rest := by
  simp only [violations, List.append_eq_nil_iff, ite_eq_left_iff, List.cons_ne_nil, imp_false,
    not_not] at h
  obtain ⟨⟨-, hkind⟩, -⟩ := h
  rcases p with _ | ⟨_ | _ | _ | _, rest⟩
  case cons.source src => exact ⟨src, rest, rfl⟩
  all_goals simp [Node.kind] at hkind

/-- **A pipeline with a violation is refused with the first one.** -/
theorem compile_of_violations_eq_cons (options : Options) {v : Violation} {vs : List Violation}
    (h : violations p = v :: vs) : compile options p = .error v.error := by
  by_cases hsource : p.head?.map Node.kind = some .source
  · rcases p with _ | ⟨_ | _ | _ | _, rest⟩
    case cons.source src => rw [compile_of_source, h]
    all_goals simp [Node.kind] at hsource
  · obtain ⟨w, ws, hw, hcompile⟩ := compile_of_no_source options hsource
    obtain ⟨rfl, -⟩ : w = v ∧ _ := by simpa [hw] using h
    exact hcompile

/-- **What a compiled pipeline is**: it begins with a source, it has no violation, and its machine
is its layout. -/
theorem compile_eq_ok_iff {compiled : Compiled} :
    compile options p = .ok compiled ↔
      ∃ src rest, p = .source src :: rest ∧ violations p = [] ∧
        compiled = assembled options src (layNodes options .detail rest) := by
  constructor
  · intro h
    rcases hviolations : violations p with _ | ⟨v, vs⟩
    · obtain ⟨src, rest, rfl⟩ := exists_source_of_violations_eq_nil hviolations
      rw [compile_of_source, hviolations] at h
      exact ⟨src, rest, rfl, rfl, (Except.ok.inj h).symm⟩
    · rw [compile_of_violations_eq_cons options hviolations] at h
      exact absurd h (by simp)
  · rintro ⟨src, rest, rfl, hviolations, rfl⟩
    rw [compile_of_source, hviolations]

/-- **The shape of a compiled pipeline**: its source, nodes that may stand in a fan-out, and at most
one delivery; its chain has a state. -/
theorem exists_body_of_compile_eq_ok {compiled : Compiled} (h : compile options p = .ok compiled) :
    ∃ (src : Source) (body : List Node) (sink : Option Delivery),
      p = .source src :: (body ++ (sink.map Node.deliver).toList) ∧ InnerChain body ∧
      compiled = assembled options src (layNodes options .detail body
        ++ (sink.map (sinkState (readAfterAll .detail body))).toList) ∧
      compiled.machine.chain ≠ [] := by
  obtain ⟨src, rest, rfl, hviolations, rfl⟩ := compile_eq_ok_iff.mp h
  rw [violations_source, List.append_eq_nil_iff] at hviolations
  obtain ⟨hsites, hstates⟩ := hviolations
  have hne : layNodes options .detail rest ≠ [] := by
    have hruns : (sites 0 1 rest).any Site.runs := by
      by_contra hnone
      rw [if_neg hnone] at hstates
      exact List.cons_ne_nil _ _ hstates
    have hempty := isEmpty_layNodes_eq_not_any_runs options .detail hsites
    rw [hruns] at hempty
    exact List.isEmpty_eq_false_iff.mp hempty
  obtain ⟨body, sink, rfl, hbody⟩ := exists_body_of_violationsFrom_eq_nil hsites
  have hlay : layNodes options .detail (body ++ (sink.map Node.deliver).toList) =
      layNodes options .detail body
        ++ (sink.map (sinkState (readAfterAll .detail body))).toList := by
    rw [layNodes_append]
    cases sink <;> rfl
  exact ⟨src, body, sink, rfl, hbody, by rw [hlay], hne⟩

/-- A pipeline in which nothing is wrong: a fan-out in a fan-out, both opened by calls behind or
before fan-outs that leave no state. -/
def orders : Pipeline :=
  [.source ⟨⟨"orders", "bus:orders"⟩, [], "Order"⟩, .fanOut [.fanOut []],
    .call ⟨⟨"lines", "fn:lines"⟩, 1⟩,
    .fanOut [.fanOut [], .call ⟨⟨"price", "fn:price"⟩, 3⟩,
      .fanOut [.call ⟨⟨"tax", "fn:tax"⟩, 2⟩, .fanOut []]],
    .deliver ⟨.eventBus ⟨"totals", "bus:totals"⟩ "shop" [], "Total"⟩]

theorem violations_orders : violations orders = [] := by
  decide +kernel

/-- **Acceptance, and what a refusal names.** A pipeline compiles exactly when nothing is wrong with
it; a refusal is the first violation and carries its code. So the refusals that only a visitor
driven by hand can meet – levels left open or never opened, no chain to add to, a fan-out that
starts with nothing, a walk that did not end – never come out. -/
theorem compile_ok_or_first_violation (options : Options) (p : Pipeline) :
    ((∃ compiled, compile options p = .ok compiled) ↔ violations p = []) ∧
      ∀ e, compile options p = .error e →
        (∃ v, (violations p).head? = some v ∧ e = v.error ∧ e.diagnostic.code = v.code) ∧
          (∀ count, e ≠ .levelsOpen count) ∧ e ≠ .notOpened ∧ (∀ id, e ≠ .noOpenChain id) ∧
          e ≠ .fanOutHead none ∧ e ≠ .incomplete := by
  rcases hviolations : violations p with _ | ⟨v, vs⟩
  · obtain ⟨src, rest, rfl⟩ := exists_source_of_violations_eq_nil hviolations
    have hok : compile options (.source src :: rest) = .ok _ :=
      compile_eq_ok_iff.mpr ⟨src, rest, rfl, hviolations, rfl⟩
    refine ⟨iff_of_true ⟨_, hok⟩ rfl, fun e he => ?_⟩
    exact absurd (hok.symm.trans he) (by simp)
  · have herror := compile_of_violations_eq_cons options hviolations
    refine ⟨iff_of_false ?_ (List.cons_ne_nil v vs), fun e he => ?_⟩
    · rintro ⟨compiled, hok⟩
      exact absurd (hok.symm.trans herror) (by simp)
    · obtain rfl : v.error = e := Except.error.inj (herror.symm.trans he)
      refine ⟨⟨v, rfl, rfl, v.code_error⟩, ?_⟩
      cases v <;> simp [Violation.error]

/-- A pipeline that calls a function twice, the second time with no room to run: both violations
stand at one call, behind fan-outs that leave no state. -/
def repeatedCall : Pipeline :=
  [.source ⟨⟨"orders", "bus:orders"⟩, [], "Order"⟩, .fanOut [.fanOut []],
    .call ⟨⟨"price", "fn:price"⟩, 1⟩,
    .fanOut [.fanOut [], .call ⟨⟨"tax", "fn:tax"⟩, 2⟩, .call ⟨⟨"price", "fn:price"⟩, 0⟩]]

theorem compile_repeatedCall :
    ∃ e, compile {} repeatedCall = .error e ∧ e = .zeroConcurrency "price" ∧
      e.diagnostic.code = "PIPE-VAL-001" := by
  have hviolations : violations repeatedCall =
      [.zeroConcurrency "price", .duplicateState "Mapprice"] := by decide
  obtain ⟨hok, herror⟩ := compile_ok_or_first_violation {} repeatedCall
  rcases hcompile : compile {} repeatedCall with e | compiled
  · obtain ⟨⟨v, hv, he, hcode⟩, -⟩ := herror e hcompile
    rw [hviolations] at hv
    obtain rfl : .zeroConcurrency "price" = v := Option.some.inj hv
    exact ⟨e, rfl, he, hcode⟩
  · exact absurd (hok.mp ⟨compiled, hcompile⟩) (by simp [hviolations])

end Compile

end EventFlow.Machine
