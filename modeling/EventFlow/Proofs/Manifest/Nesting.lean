import EventFlow.Proofs.Manifest.DistinctNames

/-!
# How steps nest

Lowering reads the steps of a manifest one after the other and keeps a stack of the fan-outs that
are open. What it builds is told here by the way the steps nest, without a stack: a `join` is a
call, and a fan-out is a step that opens it, the steps inside and the `unit` that closes it
(`Manifest.Builds`). In between, the stack cuts the steps at the ones that opened what is still open
(`Manifest.BuildsLevels`).

**Each operation keeps this up** (`BuildsLevels.apply`): a closing turns the innermost cut into one
more fan-out of the chain around it. So the steps that a manifest was read into, with the closings
that the sink makes written out, build the body of its pipeline (`Reading.builds`).

The second part reads off the steps which fan-outs they open, in order (`Step.fanOuts`): the bound
of the step, and the functions up to where the fan-out is closed. By induction on the nesting these
are the fan-outs of what the steps build, and **the bound of the step is that of the call which the
fan-out starts with** (`Opens.fanOut?_eq`).
-/

namespace EventFlow

namespace Manifest

variable {m : Manifest}

/-- **A step opens a fan-out**, with what it puts into it. -/
inductive Opens (m : Manifest) : Step → List Node → Prop
  | lift {l : Lift} {f : FunctionDecl} (hf : m.functions.get? l.function = some f) :
      Opens m (.lift l) [.call ⟨⟨l.function, f.uri⟩, l.concurrency⟩]
  | wrap : Opens m .wrap []

/-- **What steps build** that close every fan-out they open. -/
inductive Builds (m : Manifest) : List Step → List Node → Prop
  | nil : Builds m [] []
  | join {id : String} {f : FunctionDecl} {steps : List Step} {nodes : List Node}
      (hf : m.functions.get? id = some f) (h : Builds m steps nodes) :
      Builds m (.join id :: steps) (.call ⟨⟨id, f.uri⟩, 1⟩ :: nodes)
  /-- A fan-out runs what its opening puts into it, and what the steps inside build. -/
  | fanOut {step : Step} {inner steps : List Step} {first body nodes : List Node}
      (hopen : Opens m step first) (hbody : Builds m inner body) (h : Builds m steps nodes) :
      Builds m (step :: (inner ++ .unit :: steps)) (.fanOut (first ++ body) :: nodes)

/-- **What steps build** that leave fan-outs open, the last ones in the innermost one. -/
inductive BuildsLevels (m : Manifest) : List Step → Levels → Prop
  | closed {steps : List Step} {nodes : List Node} (h : Builds m steps nodes) :
      BuildsLevels m steps ⟨nodes, []⟩
  | within {step : Step} {steps inner : List Step} {first body : List Node} {l : Levels}
      (h : BuildsLevels m steps l) (hopen : Opens m step first) (hbody : Builds m inner body) :
      BuildsLevels m (steps ++ step :: inner) ⟨first ++ body, l.inner :: l.outer⟩

theorem Builds.append {steps steps' : List Step} {nodes nodes' : List Node}
    (h : Builds m steps nodes) (h' : Builds m steps' nodes') :
    Builds m (steps ++ steps') (nodes ++ nodes') := by
  induction h with
  | nil => exact h'
  | join hf _ ih => exact .join hf ih
  | fanOut hopen hbody _ _ ih =>
    have hboth := Builds.fanOut hopen hbody ih
    simpa using hboth

/-- What is built next stands in the innermost fan-out. -/
theorem BuildsLevels.append {steps steps' : List Step} {l : Levels} {nodes : List Node}
    (h : BuildsLevels m steps l) (h' : Builds m steps' nodes) :
    BuildsLevels m (steps ++ steps') ⟨l.inner ++ nodes, l.outer⟩ := by
  cases h with
  | closed h => exact .closed (h.append h')
  | within h hopen hbody =>
    have hboth := BuildsLevels.within h hopen (hbody.append h')
    simpa using hboth

theorem BuildsLevels.builds {steps : List Step} {l : Levels} (h : BuildsLevels m steps l)
    (houter : l.outer = []) : Builds m steps l.inner := by
  cases h with
  | closed h => exact h
  | within => exact absurd houter (List.cons_ne_nil _ _)

/-- **An operation is applied the way its step nests.** -/
theorem BuildsLevels.apply {steps : List Step} {step : Step} {op : Operation} {l l' : Levels}
    (h : BuildsLevels m steps l) (hop : m.innerOperation? step = some op)
    (happly : l.apply op = .ok l') : BuildsLevels m (steps ++ [step]) l' := by
  cases step with
  | join id =>
    obtain ⟨f, hf, rfl⟩ := Option.map_eq_some_iff.mp hop
    obtain rfl := Except.ok.inj happly
    exact h.append (.join hf .nil)
  | lift lift =>
    obtain ⟨f, hf, rfl⟩ := Option.map_eq_some_iff.mp hop
    obtain rfl := Except.ok.inj happly
    exact .within h (.lift hf) .nil
  | wrap =>
    obtain rfl := Option.some.inj hop
    obtain rfl := Except.ok.inj happly
    exact .within h .wrap .nil
  | unit =>
    obtain rfl := Option.some.inj hop
    cases h with
    | closed h => simp [Levels.apply, Levels.close?] at happly
    | @within first before inner put body l h hopen hbody =>
      obtain rfl : Levels.mk (l.inner ++ [Node.fanOut (put ++ body)]) l.outer = l' :=
        Except.ok.inj happly
      have hclosed := h.append (.fanOut hopen hbody .nil)
      simpa using hclosed
  | _ => simp [innerOperation?] at hop

/-- **Operations are applied the way their steps nest.** -/
theorem BuildsLevels.foldlM_apply {before steps : List Step} {ops : List Operation} {l l' : Levels}
    (h : BuildsLevels m before l) (hops : steps.map m.innerOperation? = ops.map some)
    (hfold : ops.foldlM Levels.apply l = .ok l') : BuildsLevels m (before ++ steps) l' := by
  induction steps generalizing before ops l with
  | nil =>
    obtain rfl : ops = [] := by simpa using hops.symm
    obtain rfl : l = l' := Except.ok.inj hfold
    simpa using h
  | cons step steps ih =>
    obtain ⟨op, ops, rfl, hop, hlater⟩ := List.map_eq_cons_iff.mp hops.symm
    rw [List.foldlM_cons, bind_eq_ok_iff] at hfold
    obtain ⟨l₁, happly, hrest⟩ := hfold
    have hall := ih (h.apply hop.symm happly) hlater.symm hrest
    simpa using hall

/-- **The body of a pipeline is what its steps build**, once the fan-outs that the sink closes are
closed by steps of their own. -/
theorem Reading.builds (r : Reading m) :
    Builds m (r.inner ++ List.replicate r.levels.outer.length .unit) r.levels.closeAll := by
  have hlevels : BuildsLevels m r.inner r.levels :=
    BuildsLevels.foldlM_apply (.closed .nil) r.operations_eq r.levels_eq
  have hunits : (List.replicate r.levels.outer.length Step.unit).map m.innerOperation? =
      (List.replicate r.levels.outer.length Operation.unit).map some := by
    simp [innerOperation?]
  exact (hlevels.foldlM_apply hunits r.levels.foldlM_apply_replicate_unit).builds rfl

end Manifest

/-- **A fan-out**, told by what it starts with, the number of elements on which it may run at the
same time, and the functions that run in it. -/
structure FanOut where
  first : Option String
  concurrency : Nat
  functions : List String
  deriving DecidableEq, Repr

/-! ### The fan-outs of steps -/

namespace Step

/-- The steps inside a fan-out from some place in it on, up to the step that closes it, where
`depth` fan-outs in it are open. -/
def inside (depth : Nat) : List Step → List Step
  | [] => []
  | unit :: steps =>
    match depth with
    | 0 => []
    | depth + 1 => unit :: inside depth steps
  | step :: steps => step :: inside (if step.opens then depth + 1 else depth) steps

/-- The bound that a step puts on the fan-out that it opens. -/
def bound : Step → Nat
  | lift l => l.concurrency
  | _ => 1

/-- The functions that run in the fan-out that a step opens, given the steps after it. -/
def functionsFrom (step : Step) (after : List Step) : List String :=
  (step :: inside 0 after).filterMap function?

/-- **The fan-out that a step opens**, given the steps after it, unless nothing runs in it. -/
def fanOut? (step : Step) (after : List Step) : Option FanOut :=
  if step.opens && !(step.functionsFrom after).isEmpty then
    some ⟨(step.functionsFrom after).head?, step.bound, step.functionsFrom after⟩
  else none

/-- **The fan-outs that steps open**, in the order in which they are opened. -/
def fanOuts : List Step → List FanOut
  | [] => []
  | step :: after => (step.fanOut? after).toList ++ fanOuts after

theorem mem_fanOuts_iff {steps : List Step} {fanOut : FanOut} :
    fanOut ∈ fanOuts steps ↔
      ∃ before step after, steps = before ++ step :: after ∧ step.fanOut? after = some fanOut := by
  induction steps with
  | nil => simp [fanOuts]
  | cons first later ih =>
    rw [fanOuts, List.mem_append, ih, Option.mem_toList]
    constructor
    · rintro (hfirst | ⟨before, step, after, rfl, hstep⟩)
      · exact ⟨[], first, later, rfl, hfirst⟩
      · exact ⟨first :: before, step, after, rfl, hstep⟩
    · rintro ⟨_ | ⟨other, before⟩, step, after, hsteps, hstep⟩
      · obtain ⟨rfl, rfl⟩ := List.cons.inj hsteps
        exact .inl hstep
      · obtain ⟨rfl, rfl⟩ := List.cons.inj hsteps
        exact .inr ⟨before, step, after, rfl, hstep⟩

theorem fanOut?_eq_some_iff {step : Step} {after : List Step} {fanOut : FanOut} :
    step.fanOut? after = some fanOut ↔ step.opens ∧ step.functionsFrom after ≠ [] ∧
      ⟨(step.functionsFrom after).head?, step.bound, step.functionsFrom after⟩ = fanOut := by
  simp [fanOut?, and_assoc]

/-! #### Steps that change nothing at the end -/

/-- Steps that neither use a function nor open a fan-out. -/
def Idle (steps : List Step) : Prop :=
  ∀ step ∈ steps, step.function? = none ∧ step.opens = false

theorem inside_sublist (depth : Nat) (steps : List Step) : (inside depth steps).Sublist steps := by
  fun_induction inside depth steps with
  | case1 => exact .slnil
  | case2 => exact List.nil_sublist _
  | case3 steps depth ih => exact ih.cons_cons _
  | case4 depth step steps _ ih => exact ih.cons_cons _

theorem Idle.filterMap_inside {steps : List Step} (h : Idle steps) (depth : Nat) :
    (inside depth steps).filterMap function? = [] :=
  List.filterMap_eq_nil_iff.mpr fun step hstep =>
    (h step ((inside_sublist depth steps).mem hstep)).1

theorem Idle.filterMap_inside_append {later : List Step} (h : Idle later) (depth : Nat)
    (steps : List Step) :
    (inside depth (steps ++ later)).filterMap function? =
      (inside depth steps).filterMap function? := by
  fun_induction inside depth steps with
  | case1 depth => exact h.filterMap_inside depth
  | case2 steps => rfl
  | case3 steps depth ih =>
    rw [List.cons_append, inside, List.filterMap_cons_none rfl, List.filterMap_cons_none rfl, ih]
  | case4 depth step steps hunit ih =>
    rw [List.cons_append, inside, List.filterMap_cons, List.filterMap_cons, ih]
    exact hunit

theorem Idle.fanOuts_eq_nil {steps : List Step} (h : Idle steps) : fanOuts steps = [] := by
  induction steps with
  | nil => rfl
  | cons step steps ih =>
    obtain ⟨-, hopens⟩ := h step List.mem_cons_self
    rw [fanOuts, ih fun other hother => h other (List.mem_cons_of_mem _ hother)]
    simp [fanOut?, hopens]

/-- **Idle steps at the end change no fan-out**: it does not matter whether a `unit` or the sink
closes one. -/
theorem Idle.fanOuts_append {later : List Step} (h : Idle later) (steps : List Step) :
    fanOuts (steps ++ later) = fanOuts steps := by
  induction steps with
  | nil => exact h.fanOuts_eq_nil
  | cons step steps ih =>
    have hsame : step.fanOut? (steps ++ later) = step.fanOut? steps := by
      simp [fanOut?, functionsFrom, List.filterMap_cons, h.filterMap_inside_append]
    rw [List.cons_append, fanOuts, fanOuts, hsame, ih]

end Step

namespace Manifest

variable {m : Manifest} {steps : List Step} {nodes : List Node}

/-! ### The fan-outs of nested steps -/

theorem Opens.opens {step : Step} {first : List Node} (h : Opens m step first) : step.opens := by
  cases h <;> rfl

/-- A fan-out calls the function of the step that opens it before those of the steps inside. -/
theorem Opens.calledIds_append {step : Step} {inner : List Step} {first body : List Node}
    (hopen : Opens m step first)
    (hbody : calledIds (calls body) = inner.filterMap Step.function?) :
    calledIds (calls (first ++ body)) = (step :: inner).filterMap Step.function? := by
  cases hopen with
  | lift hf => exact congrArg _ hbody
  | wrap => exact hbody

/-- Nested steps are inside whatever they stand in. -/
theorem Builds.inside_append (h : Builds m steps nodes) (depth : Nat) (later : List Step) :
    Step.inside depth (steps ++ later) = steps ++ Step.inside depth later := by
  induction h generalizing depth later with
  | nil => rfl
  | join hf _ ih => simp [Step.inside, Step.opens, ih]
  | fanOut hopen _ _ ihbody ih =>
    cases hopen <;> simp [Step.inside, Step.opens, ihbody, ih]

theorem Builds.inside_append_unit (h : Builds m steps nodes) (later : List Step) :
    Step.inside 0 (steps ++ .unit :: later) = steps := by
  rw [h.inside_append, Step.inside, List.append_nil]

/-- **Nested steps open their fan-outs** whatever comes after them. -/
theorem Builds.fanOuts_append (h : Builds m steps nodes) (later : List Step) :
    Step.fanOuts (steps ++ later) = Step.fanOuts steps ++ Step.fanOuts later := by
  induction h generalizing later with
  | nil => rfl
  | join hf _ ih => exact ih later
  | fanOut hopen hbody _ ihbody ih =>
    simp [Step.fanOuts, Step.fanOut?, Step.functionsFrom, hbody.inside_append_unit, ihbody, ih,
      Step.opens]

/-- The fan-outs that are opened from a step on that opens one: its own, those inside, and the ones
behind it. -/
theorem Builds.fanOuts_fanOut {step : Step} {inner : List Step} {body : List Node}
    (h : Builds m inner body) (later : List Step) :
    Step.fanOuts (step :: (inner ++ .unit :: later)) =
      (step.fanOut? (inner ++ .unit :: later)).toList ++
        (Step.fanOuts inner ++ Step.fanOuts later) := by
  rw [Step.fanOuts, h.fanOuts_append]
  rfl

/-- The functions that steps use are called in what they build, in order. -/
theorem Builds.calledIds_eq (h : Builds m steps nodes) :
    calledIds (calls nodes) = steps.filterMap Step.function? := by
  induction h with
  | nil => rfl
  | join hf _ ih => exact congrArg _ ih
  | @fanOut step inner steps first body nodes hopen _ _ ihbody ih =>
    have hinside := hopen.calledIds_append ihbody
    rw [calledIds] at hinside ih ⊢
    rw [calls, callsOfNode, List.map_append, hinside, ih, ← List.cons_append,
      List.filterMap_append]
    rfl

/-- A call that stands in no fan-out of its own is joined on, and bounds nothing. -/
theorem Builds.concurrency_eq_one (h : Builds m steps nodes) {c : Call} (hc : .call c ∈ nodes) :
    c.concurrency = 1 := by
  induction h with
  | nil => exact absurd hc List.not_mem_nil
  | join hf _ ih =>
    rcases List.mem_cons.mp hc with heq | hlater
    · rw [Node.call.inj heq]
    · exact ih hlater
  | fanOut hopen hbody _ ihbody ih =>
    rcases List.mem_cons.mp hc with heq | hlater
    · exact Node.noConfusion heq
    · exact ih hlater

/-- **The bound of a fan-out is the one that its opening gives.** The step that opens it says on how
many elements it may run, and the call that it starts with knows the same: a lifted function is
that call, and if there is none, the call was joined on. -/
theorem Opens.fanOut?_eq {step : Step} {inner : List Step} {first body : List Node}
    (hopen : Opens m step first) (hbody : Builds m inner body)
    (hinner : haveCall (first ++ body) → (openingCall? (first ++ body)).isSome)
    (later : List Step) :
    step.fanOut? (inner ++ .unit :: later) =
      if haveCall (first ++ body) then
        some ⟨openingId? (first ++ body),
          ((openingCall? (first ++ body)).map (·.concurrency)).getD 1,
          calledIds (calls (first ++ body))⟩
      else none := by
  have hfunctions : step.functionsFrom (inner ++ .unit :: later) =
      calledIds (calls (first ++ body)) := by
    rw [Step.functionsFrom, hbody.inside_append_unit, hopen.calledIds_append hbody.calledIds_eq]
  rw [Step.fanOut?, hfunctions, hopen.opens, Bool.true_and]
  by_cases hcall : haveCall (first ++ body)
  · obtain ⟨c, hc⟩ := Option.isSome_iff_exists.mp (hinner hcall)
    have hhead := head?_calls_of_openingCall?_eq_some hc
    have hne : (calledIds (calls (first ++ body))).isEmpty = false := by
      rw [calledIds, List.isEmpty_eq_false_iff, ne_eq, List.map_eq_nil_iff, calls_eq_nil_iff, hcall]
      exact Bool.noConfusion
    have hbound : c.concurrency = step.bound := by
      cases hopen with
      | lift hf =>
        obtain rfl := Option.some.inj hc
        rfl
      | wrap =>
        exact hbody.concurrency_eq_one (List.mem_of_find?_eq_some (openingCall?_eq_some_iff.mp hc))
    rw [if_pos hcall, hne, openingId?, hc, Option.map_some, Option.map_some, hbound, calledIds,
      List.head?_map, hhead]
    rfl
  · have hnil := calls_eq_nil_iff.mpr (Bool.eq_false_iff.mpr hcall)
    rw [if_neg hcall, hnil]
    rfl

theorem Opens.innerChain {step : Step} {first body : List Node} (hopen : Opens m step first)
    (h : InnerChain (first ++ body)) : InnerChain body := by
  cases hopen with
  | lift hf => exact h.2
  | wrap => exact h

/-- **Fan-outs start with the calls that open them.** -/
theorem Builds.perm_openingIds (h : Builds m steps nodes) (hinner : InnerChain nodes) :
    ((Step.fanOuts steps).filterMap FanOut.first).Perm (openingIds (fanOuts nodes)) := by
  induction h with
  | nil => exact .nil
  | join hf _ ih => exact ih hinner.2
  | @fanOut step inner steps first body nodes hopen hbody _ ihbody ih =>
    obtain ⟨⟨hchain, hopening⟩, hnodes⟩ := hinner
    have hself : (step.fanOut? (inner ++ .unit :: steps)).toList.filterMap FanOut.first =
        (openingId? (first ++ body)).toList := by
      rw [hopen.fanOut?_eq hbody hopening]
      by_cases hcall : haveCall (first ++ body)
      · rw [if_pos hcall]
        cases hid : openingId? (first ++ body) <;> simp
      · rw [if_neg hcall, openingId?_eq_none (Bool.eq_false_iff.mpr hcall)]
        rfl
    have hfanOuts : fanOuts (.fanOut (first ++ body) :: nodes) =
        (fanOuts body ++ [first ++ body]) ++ fanOuts nodes := by
      cases hopen <;> rfl
    have hids : openingIds (fanOuts (.fanOut (first ++ body) :: nodes)) =
        openingIds (fanOuts body) ++ (openingId? (first ++ body)).toList ++
          openingIds (fanOuts nodes) := by
      rw [hfanOuts, openingIds, List.filterMap_append, ← openingIds, ← openingIds,
        openingIds_concat]
    rw [hbody.fanOuts_fanOut, hids, List.filterMap_append, List.filterMap_append, hself,
      ← List.append_assoc]
    -- the steps tell a fan-out before those in it, the nodes after them
    have hinside := List.perm_append_comm.trans
      ((ihbody (hopen.innerChain hchain)).append_right (openingId? (first ++ body)).toList)
    exact hinside.append (ih hnodes)

theorem idle_of_target? {sink : Step} {target : Sink} (h : m.target? sink = some target) :
    Step.Idle [sink] := by
  intro step hstep
  rw [List.mem_singleton.mp hstep]
  cases sink with
  | toQueue id => exact ⟨rfl, rfl⟩
  | toEventBus id source categories => exact ⟨rfl, rfl⟩
  | _ => simp [target?] at h

theorem Reading.fanOuts_steps (r : Reading m) :
    Step.fanOuts m.steps =
      Step.fanOuts (r.inner ++ List.replicate r.levels.outer.length .unit) := by
  have hunits : Step.Idle (List.replicate r.levels.outer.length .unit) := by
    intro step hstep
    rw [List.eq_of_mem_replicate hstep]
    exact ⟨rfl, rfl⟩
  rw [r.steps_eq, hunits.fanOuts_append]
  exact (idle_of_target? r.target_eq).fanOuts_append r.inner

end Manifest

end EventFlow
