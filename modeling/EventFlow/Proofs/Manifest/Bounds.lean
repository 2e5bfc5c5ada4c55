import EventFlow.Proofs.Machine.States
import EventFlow.Proofs.Manifest.Nesting

/-!
# Bounds reach the machine

A step that lifts a function says on how many elements the function may run at the same time. The
bound travels on the call of the function, and is read off again when the fan-out is laid out, from
the call that the fan-out starts with. In between, steps are nested, closed by a sink and left out
where nothing runs in them, and none of this may part a bound from its fan-out.

* **The fan-outs of a machine are those that the steps open**, in the same order, with the same
  bounds and the same functions (`Reading.filterMap_fanOut?_allStates`). This is an induction on how
  the steps nest; a fan-out without a function is left out on both sides.
* **No two fan-outs start with the same function**, since a machine has no two states of one name
  and a function is therefore called once (`nodup_calledIds_of_compile`).
-/

namespace EventFlow

theorem map_filterMap_sublist {α β γ : Type} {f : α → Option β} {g : β → γ} {h : α → γ}
    {l : List α} (hl : ∀ a ∈ l, ∀ b, f a = some b → g b = h a) :
    ((l.filterMap f).map g).Sublist (l.map h) := by
  induction l with
  | nil => exact .slnil
  | cons a l ih =>
    have hrest := ih fun a' ha' => hl a' (List.mem_cons_of_mem a ha')
    rw [List.map_cons]
    rcases hfa : f a with _ | b
    · rw [List.filterMap_cons_none hfa]
      exact hrest.cons _
    · rw [List.filterMap_cons_some hfa, List.map_cons, hl a List.mem_cons_self b hfa]
      exact hrest.cons_cons _

/-- What has a key that no other element of a list has is the only one to be found under it. -/
theorem filter_eq_singleton_of_nodup {α β : Type} [DecidableEq β] {f : α → Option β} {l : List α}
    (h : (l.filterMap f).Nodup) {a : α} (ha : a ∈ l) {b : β} (hb : f a = some b) :
    l.filter (f · == some b) = [a] := by
  obtain ⟨before, after, rfl⟩ := List.append_of_mem ha
  have hnone (l : List α) (hl : b ∉ l.filterMap f) : l.filter (f · == some b) = [] := by
    rw [List.filter_eq_nil_iff]
    intro a' ha' heq
    exact hl (List.mem_filterMap.mpr ⟨a', ha', by simpa using heq⟩)
  rw [List.filterMap_append, List.filterMap_cons_some hb, List.nodup_append] at h
  obtain ⟨-, hafter, hdisjoint⟩ := h
  rw [List.filter_append, hnone before fun hmem => hdisjoint b hmem b List.mem_cons_self rfl,
    List.filter_cons_of_pos (by simp [hb]), hnone after (List.nodup_cons.mp hafter).1]
  rfl

namespace Machine

/-! ### The fan-outs of a machine -/

/-- The function that a state calls. -/
def State.function? (state : State) : Option String :=
  match state.kind with
  | .invoke function => some function.id
  | _ => none

/-- **The fan-out that a state runs**: what its iterator starts with, its bound, and the functions
that its iterator calls. -/
def State.fanOut? (state : State) : Option FanOut :=
  match state.kind with
  | .forEach _ concurrency iterator =>
    some ⟨iterator.head?.bind State.function?, concurrency,
      (Chain.allStates iterator).filterMap State.function?⟩
  | _ => none

/-- The function with whose call the iterator of a state starts. -/
def State.opener? (state : State) : Option String :=
  state.fanOut?.bind FanOut.first

theorem filterMap_function?_invokeState (options : Options) (read : Path) (function : Resource) :
    (Builder.invokeState options read function).reachable.filterMap State.function? =
      [function.id] := by
  rw [reachable_invokeState]
  rcases options.deadLetter with _ | queue <;> rfl

theorem filterMap_fanOut?_invokeState (options : Options) (read : Path) (function : Resource) :
    (Builder.invokeState options read function).reachable.filterMap State.fanOut? = [] := by
  rw [reachable_invokeState]
  rcases options.deadLetter with _ | queue <;> rfl

theorem filterMap_function?_sinkState (read : Path) (d : Delivery) :
    (sinkState read d).reachable.filterMap State.function? = [] := by
  obtain ⟨_ | _, typeName⟩ := d <;> rfl

theorem filterMap_fanOut?_sinkState (read : Path) (d : Delivery) :
    (sinkState read d).reachable.filterMap State.fanOut? = [] := by
  obtain ⟨_ | _, typeName⟩ := d <;> rfl

mutual

theorem filterMap_function?_layNode (options : Options) :
    ∀ (read : Path) (node : Node),
      (reachableOfChain (layNode options read node)).filterMap State.function? =
        calledIds (callsOfNode node)
  | _, .source _ => rfl
  | read, .call c => by
    rw [layNode, reachableOfChain_singleton, filterMap_function?_invokeState]
    rfl
  | read, .fanOut nodes => by
    have hnodes := filterMap_function?_layNodes options .root nodes
    by_cases hcall : haveCall nodes
    · rw [layNode, if_pos hcall, reachableOfChain_singleton, fanOutOver, reachable_forEach,
        List.filterMap_cons_none rfl, hnodes]
      rfl
    · rw [layNode, if_neg hcall, callsOfNode, calls_eq_nil_iff.mpr (Bool.eq_false_iff.mpr hcall)]
      rfl
  | read, .deliver d => by
    rw [layNode, reachableOfChain_singleton, filterMap_function?_sinkState]
    rfl

/-- **The states of a chain call its functions in order.** -/
theorem filterMap_function?_layNodes (options : Options) :
    ∀ (read : Path) (nodes : List Node),
      (reachableOfChain (layNodes options read nodes)).filterMap State.function? =
        calledIds (calls nodes)
  | _, [] => rfl
  | read, node :: nodes => by
    rw [layNodes, reachableOfChain_append, List.filterMap_append,
      filterMap_function?_layNode options read node, filterMap_function?_layNodes options _ nodes,
      calls, calledIds, calledIds, calledIds, List.map_append]

end

/-- **A chain that is opened by a call starts with the state of that call.** -/
theorem head?_layNodes_of_openingCall?_eq_some (options : Options) {read : Path} {nodes : List Node}
    {c : Call} (h : InnerChain nodes) (hopening : openingCall? nodes = some c) :
    ∃ read', (layNodes options read nodes).head? =
      some (Builder.invokeState options read' c.function) := by
  induction nodes generalizing read with
  | nil => cases hopening
  | cons node nodes ih =>
    rw [openingCall?_eq_some_iff] at hopening
    cases hcall : node.hasCall with
    | true =>
      rw [List.find?_cons_of_pos hcall] at hopening
      obtain rfl := Option.some.inj hopening
      exact ⟨read, rfl⟩
    | false =>
      rw [List.find?_cons_of_neg (by simp [hcall])] at hopening
      have hnone : layNode options read node = [] := by
        rw [← List.map_eq_nil_iff, map_id_layNode, stateIds_eq_nil_iff_of_inner h.1, hcall]
      rw [layNodes, hnone, List.nil_append]
      exact ih h.2 (openingCall?_eq_some_iff.mpr hopening)

theorem fanOut?_fanOutOver (options : Options) (read : Path) {nodes : List Node}
    (h : InnerChain nodes) (hopening : (openingCall? nodes).isSome) :
    (fanOutOver read nodes (layNodes options .root nodes)).fanOut? =
      some ⟨openingId? nodes, ((openingCall? nodes).map (·.concurrency)).getD 1,
        calledIds (calls nodes)⟩ := by
  obtain ⟨c, hc⟩ := Option.isSome_iff_exists.mp hopening
  obtain ⟨read', hhead⟩ :=
    @head?_layNodes_of_openingCall?_eq_some options .root nodes c h hc
  have hfirst : (layNodes options .root nodes).head?.bind State.function? = openingId? nodes := by
    rw [hhead, openingId?, hc]
    rfl
  rw [← hfirst, ← filterMap_function?_layNodes options .root nodes]
  rfl

/-! ### Compiled pipelines -/

/-- A state that calls a function is named after it. -/
theorem Crafted.id_of_function? {options : Options} {state : State} {function : String}
    (h : Crafted options state) (hfunction : state.function? = some function) :
    state.id = Naming.invoke function := by
  cases h with
  | call read f =>
    obtain rfl := Option.some.inj hfunction
    rfl
  | sink read d => obtain ⟨_ | _, typeName⟩ := d <;> cases hfunction
  | _ => cases hfunction

/-- **A pipeline that compiles calls each function once**, since the states of its calls have names
of their own. -/
theorem nodup_calledIds_of_compile {options : Options} {p : Pipeline} {compiled : Compiled}
    (h : compile options p = .ok compiled) : (calledIds (calls p)).Nodup := by
  have hstates := compile_states h
  have hids := hstates.nodup.sublist (map_filterMap_sublist fun state hstate function hfunction =>
    ((hstates.crafted state hstate).id_of_function? hfunction).symm)
  obtain ⟨src, rest, rfl, -, rfl⟩ := compile_eq_ok_iff.mp h
  have hcalls := filterMap_function?_layNodes options .detail rest
  have hsource : calls (.source src :: rest) = calls rest := rfl
  rw [hsource, ← hcalls]
  exact hids.of_map

/-- In a pipeline that compiles every call may run. -/
theorem one_le_concurrency_of_compile {options : Options} {p : Pipeline} {compiled : Compiled}
    (h : compile options p = .ok compiled) {c : Call} (hc : c ∈ calls p) : 1 ≤ c.concurrency := by
  obtain ⟨src, rest, -, hviolations, -⟩ := compile_eq_ok_iff.mp h
  rw [violations, List.append_eq_nil_iff, List.append_eq_nil_iff] at hviolations
  rw [← filterMap_call?_sites p 0 0, List.mem_filterMap] at hc
  obtain ⟨site, hsite, hcall⟩ := hc
  obtain ⟨before, hnone⟩ := exists_violationsAt_eq_nil hviolations.1.1 hsite
  cases site with
  | call c' =>
    obtain rfl := Option.some.inj hcall
    rw [violationsAt, List.append_eq_nil_iff] at hnone
    by_contra hzero
    rw [if_pos (by omega)] at hnone
    exact List.cons_ne_nil _ _ hnone.1
  | _ => cases hcall

theorem not_mem_deliver_of_innerChain {nodes : List Node} (h : InnerChain nodes) (d : Delivery) :
    .deliver d ∉ nodes := by
  induction nodes with
  | nil => exact List.not_mem_nil
  | cons node nodes ih =>
    intro hmem
    rcases List.mem_cons.mp hmem with rfl | hlater
    · exact h.1
    · exact ih h.2 hlater

end Machine

namespace Manifest

open Machine

variable {m : Manifest} {steps : List Step} {nodes : List Node}

/-! ### From steps to states -/

/-- What a step puts into the fan-out that it opens is no fan-out. -/
theorem Opens.filterMap_fanOut?_layNodes {step : Step} {first : List Node}
    (hopen : Opens m step first) (options : Options) (body : List Node) (read : Path) :
    ∃ read', (reachableOfChain (layNodes options read (first ++ body))).filterMap State.fanOut? =
      (reachableOfChain (layNodes options read' body)).filterMap State.fanOut? := by
  cases hopen with
  | lift hf =>
    refine ⟨.payload, ?_⟩
    rw [List.singleton_append, layNodes, reachableOfChain_append, List.filterMap_append, layNode,
      reachableOfChain_singleton, filterMap_fanOut?_invokeState]
    rfl
  | wrap => exact ⟨read, rfl⟩

/-- **The fan-outs of a layout are those that its steps open**, in order. -/
theorem Builds.filterMap_fanOut?_layNodes (h : Builds m steps nodes) (hinner : InnerChain nodes)
    (options : Options) (read : Path) :
    (reachableOfChain (layNodes options read nodes)).filterMap State.fanOut? =
      Step.fanOuts steps := by
  induction h generalizing read with
  | nil => rfl
  | join hf _ ih =>
    rw [layNodes, reachableOfChain_append, List.filterMap_append, layNode,
      reachableOfChain_singleton, filterMap_fanOut?_invokeState, ih hinner.2]
    rfl
  | @fanOut step inner steps first body nodes hopen hbody _ ihbody ih =>
    obtain ⟨⟨hchain, hopening⟩, hnodes⟩ := hinner
    obtain ⟨read', hfirst⟩ := hopen.filterMap_fanOut?_layNodes options body .root
    rw [ihbody (hopen.innerChain hchain)] at hfirst
    rw [hbody.fanOuts_fanOut, hopen.fanOut?_eq hbody hopening, layNodes, reachableOfChain_append,
      List.filterMap_append, ih hnodes, ← List.append_assoc]
    refine congrArg (· ++ Step.fanOuts steps) ?_
    by_cases hcall : haveCall (first ++ body)
    · have hstate := fanOut?_fanOutOver options read hchain (hopening hcall)
      rw [layNode, if_pos hcall, if_pos hcall, reachableOfChain_singleton, fanOutOver,
        reachable_forEach, ← fanOutOver, List.filterMap_cons_some hstate, hfirst]
      rfl
    · have hempty : layNodes options .root (first ++ body) = [] := by
        rw [← List.isEmpty_iff, isEmpty_layNodes options .root hchain, Bool.eq_false_iff.mpr hcall]
        rfl
      rw [hempty] at hfirst
      rw [layNode, if_neg hcall, if_neg hcall, ← hfirst]
      rfl

/-- **What the pipeline of a manifest compiles to**: the layout of its body, and the delivery. -/
theorem Reading.chain_eq {options : Options} {compiled : Compiled} (r : Reading m)
    (h : compile options r.pipeline = .ok compiled) :
    InnerChain r.levels.closeAll ∧ ∃ read d, compiled.machine.chain =
      layNodes options .detail r.levels.closeAll ++ [sinkState read d] := by
  obtain ⟨src, body, sink, hp, hbody, rfl, -⟩ := exists_body_of_compile_eq_ok h
  obtain ⟨-, hrest⟩ := List.cons.inj hp
  rcases sink with _ | d
  · -- the delivery of the manifest would stand in the body
    rw [Option.map_none, Option.toList_none, List.append_nil] at hrest
    exact absurd (hrest ▸ by simp)
      (not_mem_deliver_of_innerChain hbody ⟨r.target, r.flowing.current.text⟩)
  · obtain ⟨rfl, -⟩ := List.append_inj' hrest rfl
    exact ⟨hbody, _, d, rfl⟩

/-- **The fan-outs of a machine are those that the steps of its manifest open**, in order. -/
theorem Reading.filterMap_fanOut?_allStates {options : Options} {compiled : Compiled}
    (r : Reading m) (h : compile options r.pipeline = .ok compiled) :
    compiled.machine.chain.allStates.filterMap State.fanOut? = Step.fanOuts m.steps := by
  obtain ⟨hinner, read, d, hchain⟩ := r.chain_eq h
  rw [hchain, Chain.allStates, reachableOfChain_append, reachableOfChain_singleton,
    List.filterMap_append, filterMap_fanOut?_sinkState, List.append_nil,
    r.builds.filterMap_fanOut?_layNodes hinner, r.fanOuts_steps]

/-- No two fan-outs of a machine start with a call of one function. -/
theorem Reading.nodup_opener? {options : Options} {compiled : Compiled} (r : Reading m)
    (h : compile options r.pipeline = .ok compiled) :
    (compiled.machine.chain.allStates.filterMap State.opener?).Nodup := by
  have hopeners : compiled.machine.chain.allStates.filterMap State.opener? =
      (Step.fanOuts m.steps).filterMap FanOut.first := by
    rw [← r.filterMap_fanOut?_allStates h, List.filterMap_filterMap]
    rfl
  have honce := nodup_calledIds_of_compile h
  rw [r.calls_pipeline] at honce
  rw [hopeners, r.fanOuts_steps, (r.builds.perm_openingIds (r.chain_eq h).1).nodup_iff]
  exact nodup_openingIds honce

theorem Reading.one_le_concurrency {options : Options} {compiled : Compiled} (r : Reading m)
    (h : compile options r.pipeline = .ok compiled) {l : Lift} (hl : .lift l ∈ m.steps) :
    1 ≤ l.concurrency := by
  have hinner : .lift l ∈ r.inner := by
    have hsink := idle_of_target? r.target_eq r.sink List.mem_cons_self
    rw [r.steps_eq, List.mem_cons, List.mem_append, List.mem_singleton] at hl
    rcases hl with hsource | hinner | hlast
    · cases hsource
    · exact hinner
    · rw [← hlast] at hsink
      cases hsink.1
  have hmem : m.innerOperation? (.lift l) ∈ r.operations.map some :=
    r.operations_eq ▸ List.mem_map_of_mem hinner
  obtain ⟨op, hop, hsome⟩ := List.mem_map.mp hmem
  obtain ⟨f, -, rfl⟩ := Option.map_eq_some_iff.mp hsome.symm
  refine one_le_concurrency_of_compile h (c := ⟨⟨l.function, f.uri⟩, l.concurrency⟩) ?_
  rw [r.calls_pipeline, r.calls_closeAll]
  exact List.mem_filterMap.mpr ⟨_, hop, rfl⟩

/-- **Bounds reach the machine.** The fan-outs of the machine are those that steps of the manifest
open and in which a function runs, in the same order, each with the functions and the bound of its
step. So for each lifted function there is exactly one fan-out that starts with its call, it is the
one that the step opens, and it has the bound of the step; any other one is opened by a `wrap` and
runs on one element at a time; and no bound is zero. -/
theorem compile_keeps_bounds {m : Manifest} {p : Pipeline} {options : Options} {compiled : Compiled}
    (hbuild : m.build = .ok p) (hcompile : compile options p = .ok compiled) :
    compiled.machine.chain.allStates.filterMap State.fanOut? = Step.fanOuts m.steps ∧
      (∀ before l after, m.steps = before ++ .lift l :: after →
        ∃ state, compiled.machine.chain.allStates.filter (·.opener? == some l.function) = [state] ∧
          state.fanOut? = some ⟨some l.function, l.concurrency,
            l.function :: (Step.inside 0 after).filterMap Step.function?⟩) ∧
      ∀ state ∈ compiled.machine.chain.allStates, ∀ fanOut, state.fanOut? = some fanOut →
        1 ≤ fanOut.concurrency ∧
          ((∀ l, .lift l ∈ m.steps → fanOut.first ≠ some l.function) → fanOut.concurrency = 1 ∧
            ∃ before after, m.steps = before ++ .wrap :: after ∧
              fanOut.functions = (Step.inside 0 after).filterMap Step.function?) := by
  obtain ⟨r, rfl⟩ := exists_reading_of_build_eq_ok hbuild
  have hfanOuts := r.filterMap_fanOut?_allStates hcompile
  refine ⟨hfanOuts, fun before l after hsteps => ?_, fun state hstate fanOut hfanOut => ?_⟩
  · have hmem : ⟨some l.function, l.concurrency,
        l.function :: (Step.inside 0 after).filterMap Step.function?⟩ ∈ Step.fanOuts m.steps :=
      Step.mem_fanOuts_iff.mpr ⟨before, .lift l, after, hsteps,
        Step.fanOut?_eq_some_iff.mpr ⟨rfl, List.cons_ne_nil _ _, rfl⟩⟩
    rw [← hfanOuts, List.mem_filterMap] at hmem
    obtain ⟨state, hstate, hfanOut⟩ := hmem
    refine ⟨state, ?_, hfanOut⟩
    exact filter_eq_singleton_of_nodup (r.nodup_opener? hcompile) hstate
      (by rw [State.opener?, hfanOut]; rfl)
  · have hmem : fanOut ∈ Step.fanOuts m.steps :=
      hfanOuts ▸ List.mem_filterMap.mpr ⟨state, hstate, hfanOut⟩
    obtain ⟨before, step, after, hsteps, hstep⟩ := Step.mem_fanOuts_iff.mp hmem
    obtain ⟨hopens, -, rfl⟩ := Step.fanOut?_eq_some_iff.mp hstep
    cases step with
    | lift l =>
      have hl : .lift l ∈ m.steps := by simp [hsteps]
      exact ⟨r.one_le_concurrency hcompile hl, fun hnone => absurd rfl (hnone l hl)⟩
    | wrap => exact ⟨Nat.le_refl 1, fun _ => ⟨rfl, before, after, hsteps, rfl⟩⟩
    | _ => cases hopens

/-- A manifest that asks for the items of each line, four lines at a time, and for the tags of each
item. It leaves two fan-outs to the sink, and closes one in which nothing runs. -/
def catalogue : Manifest where
  version := "1.0"
  name := "catalogue"
  eventBuses := .ofList [("input", "bus:input")]
  queues := .ofList [("reply", "queue:reply")]
  functions := .ofList [("lines", ⟨"fn:lines", "Order", "[Line]"⟩),
    ("items", ⟨"fn:items", "Line", "[Item]"⟩), ("tags", ⟨"fn:tags", "Item", "[Tag]"⟩)]
  steps := [.source "input" "Order" [], .join "lines", .lift (.bounded "items" (some 4)), .wrap,
    .join "tags", .wrap, .unit, .toQueue "reply"]

/-- The pipeline of `catalogue`. -/
def cataloguePipeline : Pipeline :=
  [.source ⟨⟨"input", "bus:input"⟩, [], "Order"⟩, .call ⟨⟨"lines", "fn:lines"⟩, 1⟩,
    .fanOut [.call ⟨⟨"items", "fn:items"⟩, 4⟩,
      .fanOut [.call ⟨⟨"tags", "fn:tags"⟩, 1⟩, .fanOut []]],
    .deliver ⟨.queue ⟨"reply", "queue:reply"⟩, "[Tag]"⟩]

theorem compile_catalogue_keeps_bounds :
    catalogue.build = .ok cataloguePipeline ∧
      ∃ compiled, compile {} cataloguePipeline = .ok compiled ∧
        compiled.machine.chain.allStates.filterMap State.fanOut? =
          [⟨some "items", 4, ["items", "tags"]⟩, ⟨some "tags", 1, ["tags"]⟩] := by
  have hform : catalogue.WellFormed := by decide +kernel
  have htext : (FlowType.parse "Order").text = "Order" := by decide +kernel
  have htranslate : catalogue.translate 2 ⟨.parse "Order", 0⟩ [.join "lines",
      .lift (.bounded "items" (some 4)), .wrap, .join "tags", .wrap, .unit, .toQueue "reply"] =
        .ok [.join ⟨⟨"lines", "fn:lines"⟩, 1⟩, .lift ⟨⟨"items", "fn:items"⟩, 4⟩, .wrap,
          .join ⟨⟨"tags", "fn:tags"⟩, 1⟩, .wrap, .unit,
          .deliver ⟨.queue ⟨"reply", "queue:reply"⟩, "[Tag]"⟩] :=
    eq_ok_of_toOption_eq_some (by decide +kernel)
  have hbuild : catalogue.build = .ok cataloguePipeline := by
    rw [build_eq (validate_eq_ok_iff.mpr hform) rfl rfl, htranslate, htext]
    rfl
  have hviolations : violations cataloguePipeline = [] := by decide +kernel
  have hcompile := (@compile_eq_ok_iff {} cataloguePipeline _).mpr ⟨_, _, rfl, hviolations, rfl⟩
  exact ⟨hbuild, _, hcompile, (compile_keeps_bounds hbuild hcompile).1⟩

end Manifest

end EventFlow
