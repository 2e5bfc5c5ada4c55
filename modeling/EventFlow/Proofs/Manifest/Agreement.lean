import EventFlow.Proofs.Machine.Compile
import EventFlow.Proofs.Manifest.TypeNotation
import EventFlow.Proofs.Manifest.Typing

/-!
# Manifests and typed compositions

The same pipeline can be declared in a manifest or composed from typed functions.
`Manifest.Composes` says that a flow is composed the way the steps of a manifest say, step by step:
each function is the one that the step names, and each text that names a type stands for the type in
its place. Both sides are then followed along the steps. What flows in the manifest is always what
the name of the type reads as, and the operations are the same.

So the two pipelines have one body between source and delivery. They differ in at most two texts,
the name of the type that is read and the name of the type that is delivered: a manifest gives what
it writes for the type, a flow its short name. For lists these are never the same.
-/

namespace EventFlow

namespace Manifest

/-! ### Composing along the steps -/

/-- **A flow is extended the way a step says.** -/
inductive Extends (m : Manifest) {a : DataType} :
    {b c : DataType} → Flow a b → Step → Flow a c → Prop
  | join {b c : DataType} {flow : Flow a b} {id : String} {f : FunctionDecl} {g : Function b c}
      (hf : m.functions.get? id = some f) (hg : g.handle = ⟨id, f.uri⟩)
      (hin : FlowType.Denotes f.input b) (hout : FlowType.Denotes f.output c) :
      Extends m flow (.join id) (flow.join g)
  | lift {b c : DataType} {flow : Flow a (.list b)} {l : Lift} {f : FunctionDecl}
      {g : Function b c} (hf : m.functions.get? l.function = some f)
      (hg : g.handle = ⟨l.function, f.uri⟩) (hin : FlowType.Denotes f.input b)
      (hout : FlowType.Denotes f.output c) :
      Extends m flow (.lift l) (flow.liftBounded l.concurrency g)
  | wrap {b : DataType} {flow : Flow a (.list b)} : Extends m flow .wrap flow.wrap
  | unit {b : DataType} {flow : Flow a b} : Extends m flow .unit flow.unit

/-- A flow is extended the way some steps say, one after the other. -/
inductive ExtendsAll (m : Manifest) {a : DataType} :
    {b c : DataType} → Flow a b → List Step → Flow a c → Prop
  | nil {b : DataType} {flow : Flow a b} : ExtendsAll m flow [] flow
  | cons {b c d : DataType} {flow : Flow a b} {flow' : Flow a c} {flow'' : Flow a d} {step : Step}
      {steps : List Step} (h : Extends m flow step flow') (hs : ExtendsAll m flow' steps flow'') :
      ExtendsAll m flow (step :: steps) flow''

/-- A flow is delivered the way a sink says. -/
inductive Delivers (m : Manifest) {a b : DataType} (flow : Flow a b) : Step → Flow a .void → Prop
  | toQueue {id : String} {queue : Resource} (hqueue : m.queue? id = some queue) :
      Delivers m flow (.toQueue id) (flow.toQueue queue)
  | toEventBus {id source : String} {categories : List String} {bus : Resource}
      (hbus : m.eventBus? id = some bus) :
      Delivers m flow (.toEventBus id source categories) (flow.toEventBus source bus categories)

/-- **A flow is composed the way a manifest says**: it reads values of type `a`, and it delivers
values of type `b`. -/
inductive Composes (m : Manifest) (a b : DataType) : Flow a .void → Prop
  | intro {bus typeName : String} {categories : List String} {resource : Resource}
      {inner : List Step} {sink : Step} {before : Flow a b} {flow : Flow a .void}
      (hsteps : m.steps = .source bus typeName categories :: (inner ++ [sink]))
      (hbus : m.eventBus? bus = some resource) (hname : FlowType.Denotes typeName a)
      (hinner : ExtendsAll m (.source a resource categories) inner before)
      (hsink : Delivers m before sink flow) : Composes m a b flow

variable {m : Manifest} {a b c : DataType}

/-- **Along a step** the flow gains the operation of the step, and what flows keeps reading as the
name of the type. -/
theorem Extends.simulates {flow : Flow a b} {flow' : Flow a c} {step : Step} {t t' : Typing}
    (h : Extends m flow step flow') (htypes : Types m (some t) step t')
    (ht : t.current = .parse b.name) :
    (∃ op, m.innerOperation? step = some op ∧ flow'.composition = flow.composition.extend op) ∧
      t'.current = .parse c.name := by
  cases h with
  | @join b c flow id f g hf hg hin hout =>
    cases htypes with
    | @join id f' depth hf' =>
      obtain rfl : f = f' := Option.some.inj (hf.symm.trans hf')
      exact ⟨⟨.join ⟨⟨id, f.uri⟩, 1⟩, by simp [innerOperation?, hf],
        by simp [Flow.join, Flow.extend, Function.call, hg]⟩, hout⟩
  | @lift b c flow l f g hf hg hin hout =>
    cases htypes with
    | @lift l f' depth hf' =>
      obtain rfl : f = f' := Option.some.inj (hf.symm.trans hf')
      exact ⟨⟨.lift ⟨⟨l.function, f.uri⟩, l.concurrency⟩, by simp [innerOperation?, hf],
        by simp [Flow.liftBounded, Flow.extend, Function.call, hg]⟩, hout⟩
  | wrap =>
    cases htypes with
    | wrap =>
      rw [FlowType.parse_name_list] at ht
      exact ⟨⟨.wrap, rfl, rfl⟩, FlowType.list.inj ht⟩
  | unit =>
    cases htypes with
    | unit =>
      rw [FlowType.parse_name_list, ← ht]
      exact ⟨⟨.unit, rfl, rfl⟩, rfl⟩

/-- **Along all steps** the flow gains their operations. -/
theorem ExtendsAll.simulates {flow : Flow a b} {flow' : Flow a c} {steps : List Step}
    {t t' : Typing} (h : ExtendsAll m flow steps flow')
    (htypes : TypesAll m (some t) steps (some t')) (ht : t.current = .parse b.name) :
    (∃ ops, steps.map m.innerOperation? = ops.map some ∧ flow'.composition =
      ⟨flow.composition.source, flow.composition.operations ++ ops⟩) ∧
        t'.current = .parse c.name := by
  induction steps generalizing b flow t with
  | nil =>
    cases h
    cases htypes
    exact ⟨⟨[], rfl, by simp⟩, ht⟩
  | cons step steps ih =>
    cases h with
    | cons hstep hsteps =>
      cases htypes with
      | cons hstep' hsteps' =>
        obtain ⟨⟨op, hop, hextend⟩, hcurrent⟩ := hstep.simulates hstep' ht
        obtain ⟨⟨ops, hops, hall⟩, hlast⟩ := ih hsteps hsteps' hcurrent
        refine ⟨⟨op :: ops, by simp [hop, hops], ?_⟩, hlast⟩
        rw [hall, hextend]
        simp [Composition.extend]

theorem Delivers.composition_eq {flow : Flow a b} {flow' : Flow a .void} {sink : Step}
    (h : Delivers m flow sink flow') :
    ∃ target, m.target? sink = some target ∧
      flow'.composition = flow.composition.extend (.deliver ⟨target, b.name⟩) := by
  cases h with
  | toQueue hqueue => exact ⟨_, by rw [target?, hqueue]; rfl, rfl⟩
  | toEventBus hbus => exact ⟨_, by rw [target?, hbus]; rfl, rfl⟩

/-- **Both pipelines have one body.** -/
theorem Composes.exists_body {flow : Flow a .void} (h : m.Composes a b flow) (r : Reading m) :
    r.pipeline = .source ⟨r.resource, r.categories, (FlowType.parse a.name).text⟩ ::
        (r.levels.closeAll ++ [.deliver ⟨r.target, (FlowType.parse b.name).text⟩]) ∧
      flow.lower = .ok (.source ⟨r.resource, r.categories, a.name⟩ ::
        (r.levels.closeAll ++ [.deliver ⟨r.target, b.name⟩])) := by
  obtain ⟨hsteps, hbus, hname, hinner, hsink⟩ := h
  -- the steps are cut at the same places on both sides
  obtain ⟨hfirst, hlater⟩ := List.cons.inj (r.steps_eq.symm.trans hsteps)
  obtain ⟨rfl, rfl, rfl⟩ := Step.source.inj hfirst
  obtain ⟨rfl, hlast⟩ := List.append_inj' hlater rfl
  obtain rfl : r.sink = _ := List.head_eq_of_cons_eq hlast
  obtain rfl : r.resource = _ := Option.some.inj (r.resource_eq.symm.trans hbus)
  obtain ⟨⟨ops, hops, hcomposition⟩, hflowing⟩ := hinner.simulates r.typed hname
  obtain rfl : r.operations = ops := List.map_injective_iff.mpr
    (fun _ _ => Option.some.inj) (r.operations_eq.symm.trans hops)
  obtain ⟨target, htarget, hdelivered⟩ := hsink.composition_eq
  obtain rfl : r.target = target := Option.some.inj (r.target_eq.symm.trans htarget)
  constructor
  · rw [Reading.pipeline, hflowing, hname]
  · have hlower := Composition.lower_deliver ⟨r.resource, r.categories, a.name⟩ ⟨r.target, b.name⟩
      r.levels_eq
    rw [Flow.lower, hdelivered, hcomposition]
    exact hlower

end Manifest

namespace Machine

/-! ### What a machine shows of the names of types -/

/-- Whether a sink tells the type of what it delivers. -/
def tellsType : Sink → Bool
  | .queue _ => false
  | .eventBus _ _ categories => categories.isEmpty

theorem sinkState_eq_iff {read : Path} {sink : Sink} {name name' : String} :
    sinkState read ⟨sink, name⟩ = sinkState read ⟨sink, name'⟩ ↔
      (tellsType sink → name = name') := by
  rcases sink with queue | ⟨bus, source, _ | ⟨category, categories⟩⟩
  · simp [sinkState, Builder.sinkKind, tellsType]
  · simp [sinkState, Builder.sinkKind, tellsType]
  · simp [sinkState, Builder.sinkKind, tellsType]

theorem assembled_eq_iff {options : Options} {bus : Resource} {categories : List String}
    {name name' : String} {chain chain' : Chain} :
    assembled options ⟨bus, categories, name⟩ chain =
        assembled options ⟨bus, categories, name'⟩ chain' ↔
      (categories = [] → name = name') ∧ chain = chain' := by
  cases categories <;> simp [assembled, and_comm]

/-- What is wrong with a pipeline does not depend on what is delivered at its end. -/
theorem sites_concat_deliver (d d' : Delivery) (depth index : Nat) (body : List Node) :
    sites depth index (body ++ [.deliver d]) = sites depth index (body ++ [.deliver d']) := by
  induction body generalizing index with
  | nil => rfl
  | cons node body ih =>
    have hlast : (body ++ [Node.deliver d]).isEmpty = (body ++ [Node.deliver d']).isEmpty := by
      cases body <;> rfl
    rw [List.cons_append, List.cons_append, sites, sites, ih, hlast]

/-- **Where the names of two types show.** Pipelines that differ in these names alone are refused
for one reason, or their machines are the same unless a name selects events or describes what is
delivered. -/
theorem compile_eq_iff_of_names (options : Options) (bus : Resource) (categories : List String)
    (target : Sink) (body : List Node) (name name' shown shown' : String) :
    compile options (.source ⟨bus, categories, name⟩ :: (body ++ [.deliver ⟨target, shown⟩])) =
        compile options
          (.source ⟨bus, categories, name'⟩ :: (body ++ [.deliver ⟨target, shown'⟩])) ↔
      (∃ e, compile options
          (.source ⟨bus, categories, name⟩ :: (body ++ [.deliver ⟨target, shown⟩])) = .error e) ∨
        (categories = [] → name = name') ∧ (tellsType target → shown = shown') := by
  have hviolations : violations (.source ⟨bus, categories, name⟩ ::
      (body ++ [.deliver ⟨target, shown⟩])) = violations (.source ⟨bus, categories, name'⟩ ::
        (body ++ [.deliver ⟨target, shown'⟩])) := by
    rw [violations_source, violations_source, sites_concat_deliver ⟨target, shown⟩ ⟨target, shown'⟩]
  rw [compile_of_source, compile_of_source, ← hviolations]
  generalize violations
    (.source ⟨bus, categories, name⟩ :: (body ++ [.deliver ⟨target, shown⟩])) = all
  rcases all with _ | ⟨v, vs⟩
  · simp [layNodes_append, layNodes, layNode, assembled_eq_iff, sinkState_eq_iff]
  · simp

end Machine

namespace Manifest

open FlowType

/-- **A manifest and a flow that compose the same steps agree up to two names.** Both build, to one
body between a source and a delivery, which differ in the name of the type that is read and of the
type that is delivered. So the pipelines are the same exactly when both types keep their names,
which no list does; and compiling shows the difference of a name where it selects events or
describes what is delivered. -/
theorem build_eq_lower_iff_keepsName {m : Manifest} {a b : DataType} {flow : Flow a .void}
    (hform : m.WellFormed) (htype : m.WellTyped) (hflow : m.Composes a b flow) :
    ∃ p q bus categories target body, m.build = .ok p ∧ flow.lower = .ok q ∧
      p = .source ⟨bus, categories, (parse a.name).text⟩ ::
        (body ++ [.deliver ⟨target, (parse b.name).text⟩]) ∧
      q = .source ⟨bus, categories, a.name⟩ :: (body ++ [.deliver ⟨target, b.name⟩]) ∧
      (p = q ↔ KeepsName a ∧ KeepsName b) ∧
      ∀ options, Machine.compile options p = Machine.compile options q ↔
        (∃ e, Machine.compile options p = .error e) ∨
          (categories = [] → KeepsName a) ∧ (Machine.tellsType target → KeepsName b) := by
  obtain ⟨r, hbuild⟩ := exists_reading hform htype
  obtain ⟨hpipeline, hlower⟩ := hflow.exists_body r
  refine ⟨_, _, r.resource, r.categories, r.target, r.levels.closeAll, hbuild, hlower, hpipeline,
    rfl, ?_, fun options => ?_⟩
  · rw [hpipeline]
    simp [KeepsName]
  · rw [hpipeline]
    exact Machine.compile_eq_iff_of_names options _ _ _ _ _ _ _ _

/-- A manifest that prices the lines of an order and publishes their total. -/
def totals : Manifest where
  version := "1.0"
  name := "totals"
  eventBuses := .ofList [("input", "bus:input"), ("output", "bus:output")]
  queues := .ofList []
  functions := .ofList [("lines", ⟨"fn:lines", "Order", "[Line]"⟩),
    ("price", ⟨"fn:price", "Line", "Price"⟩), ("sum", ⟨"fn:sum", "Vec<Price>", "Total"⟩)]
  steps := [.source "input" "Order" [], .join "lines", .lift (.bounded "price" (some 4)), .unit,
    .join "sum", .toEventBus "output" "shop" []]

/-- The same composed from typed functions. -/
def totalsFlow : Flow (.named "shop::Order") .void :=
  let lines : Function (.named "shop::Order") (.list (.named "shop::Line")) :=
    ⟨⟨"lines", "fn:lines"⟩⟩
  let price : Function (.named "shop::Line") (.named "shop::Price") := ⟨⟨"price", "fn:price"⟩⟩
  let sum : Function (.list (.named "shop::Price")) (.named "shop::Total") := ⟨⟨"sum", "fn:sum"⟩⟩
  (Flow.source (.named "shop::Order") ⟨"input", "bus:input"⟩ []
    |>.join lines |>.liftBounded 4 price |>.unit |>.join sum).toEventBus "shop"
      ⟨"output", "bus:output"⟩ []

theorem composes_totals :
    totals.Composes (.named "shop::Order") (.named "shop::Total") totalsFlow := by
  have hsteps : totals.steps = .source "input" "Order" [] ::
      ([.join "lines", .lift (.bounded "price" (some 4)), .unit, .join "sum"] ++
        [.toEventBus "output" "shop" []]) := rfl
  have hinput : totals.eventBus? "input" = some ⟨"input", "bus:input"⟩ := rfl
  have houtput : totals.eventBus? "output" = some ⟨"output", "bus:output"⟩ := rfl
  have hlines : totals.functions.get? "lines" = some ⟨"fn:lines", "Order", "[Line]"⟩ := rfl
  have hprice : totals.functions.get? (Lift.bounded "price" (some 4)).function =
      some ⟨"fn:price", "Line", "Price"⟩ := rfl
  have hsum : totals.functions.get? "sum" = some ⟨"fn:sum", "Vec<Price>", "Total"⟩ := rfl
  have hline : Denotes "Line" (.named "shop::Line") := by decide +kernel
  have hpriceName : Denotes "Price" (.named "shop::Price") := by decide +kernel
  refine .intro hsteps hinput (by decide +kernel) ?_ (.toEventBus houtput)
  exact .cons (.join hlines rfl (by decide +kernel) hline.brackets)
    (.cons (.lift hprice rfl hline hpriceName)
      (.cons .unit (.cons (.join hsum rfl hpriceName.angles (by decide +kernel)) .nil)))

theorem build_totals_eq_lower :
    ∃ p, totals.build = .ok p ∧ totalsFlow.lower = .ok p ∧
      KeepsName (.named "shop::Order") ∧ KeepsName (.named "shop::Total") := by
  have hbuild : totals.build.isOk = true := by decide +kernel
  have hkeep : KeepsName (.named "shop::Order") ∧ KeepsName (.named "shop::Total") := by
    decide +kernel
  rcases hp : totals.build with e | p
  · simp [hp, Except.isOk, Except.toBool] at hbuild
  obtain ⟨hform, htype⟩ := wellFormed_and_wellTyped_of_build_eq_ok hp
  obtain ⟨p', q, -, -, -, -, hp', hq, -, -, hsame, -⟩ :=
    build_eq_lower_iff_keepsName hform htype composes_totals
  obtain rfl : p = p' := Except.ok.inj (hp.symm.trans hp')
  exact ⟨p, rfl, hsame.mpr hkeep ▸ hq, hkeep⟩

/-- A manifest that passes a list on. -/
def accounts : Manifest where
  version := "1.0"
  name := "accounts"
  eventBuses := .ofList [("input", "bus:input")]
  queues := .ofList [("reply", "queue:reply")]
  functions := .ofList []
  steps := [.source "input" "[Account]" [], .toQueue "reply"]

/-- The same composed from typed functions. -/
def accountsFlow : Flow (.list (.named "bank::Account")) .void :=
  (Flow.source (.list (.named "bank::Account")) ⟨"input", "bus:input"⟩ []).toQueue
    ⟨"reply", "queue:reply"⟩

theorem build_accounts_ne_lower :
    accounts.WellFormed ∧ accounts.WellTyped ∧
      accounts.Composes (.list (.named "bank::Account")) (.list (.named "bank::Account"))
        accountsFlow ∧
      ∃ p q, accounts.build = .ok p ∧ accountsFlow.lower = .ok q ∧
        p = [.source ⟨⟨"input", "bus:input"⟩, [], "[Account]"⟩,
          .deliver ⟨.queue ⟨"reply", "queue:reply"⟩, "[Account]"⟩] ∧
        q = [.source ⟨⟨"input", "bus:input"⟩, [], "Vec<Account>"⟩,
          .deliver ⟨.queue ⟨"reply", "queue:reply"⟩, "Vec<Account>"⟩] ∧
        Machine.compile {} p ≠ Machine.compile {} q := by
  have hform : accounts.WellFormed := by decide +kernel
  have hsteps : accounts.steps = .source "input" "[Account]" [] :: ([] ++ [.toQueue "reply"]) := rfl
  have hname : Denotes "Account" (.named "bank::Account") := by decide +kernel
  have hbuild : accounts.build = .ok [.source ⟨⟨"input", "bus:input"⟩, [], "[Account]"⟩,
      .deliver ⟨.queue ⟨"reply", "queue:reply"⟩, "[Account]"⟩] := by
    have htext : (parse "[Account]").text = "[Account]" := by decide +kernel
    have htranslate : accounts.translate 2 ⟨.parse "[Account]", 0⟩ [.toQueue "reply"] =
        .ok [.deliver ⟨.queue ⟨"reply", "queue:reply"⟩, "[Account]"⟩] :=
      eq_ok_of_toOption_eq_some (by decide +kernel)
    rw [build_eq (validate_eq_ok_iff.mpr hform) hsteps rfl, List.nil_append, htranslate, htext]
    rfl
  refine ⟨hform, ⟨_, .cons .source .nil⟩, .intro hsteps rfl hname.brackets .nil (.toQueue rfl),
    _, _, hbuild, rfl, rfl, rfl, fun heq => ?_⟩
  rcases (Machine.compile_eq_iff_of_names {} _ _ _ [] _ _ _ _).mp heq with ⟨e, he⟩ | ⟨hnames, -⟩
  · rw [List.nil_append, Machine.compile_eq_ok_iff.mpr ⟨_, _, rfl, by decide, rfl⟩] at he
    simp at he
  · exact absurd (hnames rfl) (by decide)

end Manifest

end EventFlow
