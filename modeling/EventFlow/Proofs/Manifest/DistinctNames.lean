import EventFlow.Proofs.Machine.SharedNames
import EventFlow.Proofs.Manifest.Typing

/-!
# Manifests that use each function once

The calls of a pipeline that a manifest builds are the functions that its `join` and `lift` steps
name, in the same order (`Reading.calledIds_pipeline`): lowering moves calls into fan-outs, and the
listing of what comes out tells that none is lost, added or moved past another. A manifest that uses
each function once therefore builds a pipeline that calls each function once.

That alone does not keep names apart: the fan-outs over `A`, `B` and over `AMapB` share one
(`parts`). It does where no name of a used function continues another one with the
mark of a name.
-/

namespace EventFlow

/-- The call of an operation. -/
def Operation.call? : Operation → Option Call
  | .join c => some c
  | .lift c => some c
  | _ => none

/-- The function that a step uses. -/
def Step.function? : Step → Option String
  | .join id => some id
  | .lift l => some l.function
  | _ => none

theorem filterMap_call?_replicate_closing (n : Nat) :
    (List.replicate n Token.closing).filterMap Token.call? = [] :=
  List.filterMap_eq_nil_iff.mpr fun _ htoken => by rw [List.eq_of_mem_replicate htoken]; rfl

/-- **Operations list their calls in order.** -/
theorem Operation.filterMap_call?_listing (depth : Nat) (ops : List Operation) :
    (listing depth ops).filterMap Token.call? = ops.filterMap Operation.call? := by
  induction ops generalizing depth with
  | nil => rfl
  | cons op ops ih =>
    rw [listing, List.filterMap_append, ih]
    cases op with
    | deliver d =>
      rw [tokens, List.filterMap_append, filterMap_call?_replicate_closing]
      rfl
    | _ => rfl

/-! ### The functions that steps use -/

namespace Manifest

/-- **The functions that a manifest uses**, in the order of its steps. -/
def functionIds (m : Manifest) : List String :=
  m.steps.filterMap Step.function?

variable {m : Manifest}

/-- The operation of a step calls the function that the step uses, and delivers nothing. -/
theorem function?_of_innerOperation? {step : Step} {op : Operation}
    (h : m.innerOperation? step = some op) :
    op.call?.map (·.function.id) = step.function? ∧
      ∀ depth, ∀ token ∈ op.tokens depth, token.isPlain := by
  cases step with
  | join id =>
    obtain ⟨f, -, rfl⟩ := Option.map_eq_some_iff.mp h
    exact ⟨rfl, by simp [Operation.tokens, Token.isPlain]⟩
  | lift l =>
    obtain ⟨f, -, rfl⟩ := Option.map_eq_some_iff.mp h
    exact ⟨rfl, by simp [Operation.tokens, Token.isPlain]⟩
  | wrap =>
    obtain rfl := Option.some.inj h
    exact ⟨rfl, by simp [Operation.tokens, Token.isPlain]⟩
  | unit =>
    obtain rfl := Option.some.inj h
    exact ⟨rfl, by simp [Operation.tokens, Token.isPlain]⟩
  | _ => simp [innerOperation?] at h

/-- **The operations of steps** call the functions that the steps use, and list nothing else but
fan-outs. -/
theorem calledIds_operations {steps : List Step} {ops : List Operation}
    (h : steps.map m.innerOperation? = ops.map some) :
    calledIds (ops.filterMap Operation.call?) = steps.filterMap Step.function? ∧
      ∀ depth, ∀ token ∈ Operation.listing depth ops, token.isPlain := by
  induction steps generalizing ops with
  | nil =>
    obtain rfl : ops = [] := by simpa using h.symm
    exact ⟨rfl, fun _ _ htoken => absurd htoken List.not_mem_nil⟩
  | cons step steps ih =>
    obtain ⟨op, ops, rfl, hop, hops⟩ := List.map_eq_cons_iff.mp h.symm
    obtain ⟨hcalls, hplain⟩ := ih hops.symm
    obtain ⟨hcall, hplain'⟩ := function?_of_innerOperation? hop.symm
    constructor
    · cases hfunction : op.call? with
      | none => simpa [List.filterMap_cons, hfunction, ← hcall] using hcalls
      | some c => simpa [List.filterMap_cons, hfunction, ← hcall, calledIds] using hcalls
    · intro depth token htoken
      exact (List.mem_append.mp htoken).elim (hplain' depth token) (hplain _ token)

/-- A sink uses no function. -/
theorem function?_eq_none_of_target? {sink : Step} {target : Sink}
    (h : m.target? sink = some target) : sink.function? = none := by
  cases sink with
  | toQueue id => rfl
  | toEventBus id source categories => rfl
  | _ => simp [target?] at h

theorem Reading.calls_pipeline (r : Reading m) : calls r.pipeline = calls r.levels.closeAll := by
  rw [pipeline, calls, calls_append]
  exact List.append_nil _

/-- Lowering keeps the calls of the operations, in order. -/
theorem Reading.calls_closeAll (r : Reading m) :
    calls r.levels.closeAll = r.operations.filterMap Operation.call? := by
  rw [← filterMap_call?_tokens, Levels.tokens_closeAll, r.tokens_eq, List.filterMap_append,
    Operation.filterMap_call?_listing, filterMap_call?_replicate_closing, List.append_nil]

/-- **The calls of a pipeline are the functions that its manifest uses.** -/
theorem Reading.calledIds_pipeline (r : Reading m) :
    calledIds (calls r.pipeline) = m.functionIds := by
  have hsteps : m.functionIds = r.inner.filterMap Step.function? := by
    rw [functionIds, r.steps_eq, List.filterMap_cons_none rfl, List.filterMap_append,
      List.filterMap_cons_none (function?_eq_none_of_target? r.target_eq)]
    exact List.append_nil _
  rw [r.calls_pipeline, r.calls_closeAll, hsteps]
  exact (calledIds_operations r.operations_eq).1

/-- **The body of a pipeline** that a manifest builds is plain. -/
theorem Reading.plainChain_closeAll (r : Reading m) : PlainChain r.levels.closeAll := by
  refine plainChain_of_tokens fun token htoken => ?_
  rw [Levels.tokens_closeAll, r.tokens_eq] at htoken
  rcases List.mem_append.mp htoken with hlisted | hclosing
  · exact (calledIds_operations r.operations_eq).2 0 token hlisted
  · rw [List.eq_of_mem_replicate hclosing]
    rfl

theorem Reading.plainChain_of_mem_fanOuts (r : Reading m) :
    ∀ nodes ∈ fanOuts r.pipeline, PlainChain nodes := by
  have hbody : fanOuts r.pipeline = fanOuts r.levels.closeAll := by
    rw [pipeline, fanOuts, fanOuts_append]
    exact List.append_nil _
  rw [hbody]
  exact r.plainChain_closeAll.plainChain_of_mem

/-! ### Names that occur twice -/

open Machine

/-- **A manifest that uses each function once is not refused for a name that occurs twice**, if
digests tell the hashed texts apart and no name of a used function goes on with `Map` or `Seq` where
another one ends. Without the last condition it may be (see `parts`), since the texts that are hashed
are names put together without anything in between. -/
theorem compile_code_ne_of_functions_used_once {m : Manifest} {p : Pipeline}
    (hbuild : m.build = .ok p) (honce : m.functionIds.Nodup)
    (hseparated : Separated (hashedTexts p))
    (hcontinues : ∀ id ∈ m.functionIds, ∀ id' ∈ m.functionIds, ¬Naming.Continues id id')
    (options : Options) {e : CompileError} (h : compile options p = .error e) :
    e.diagnostic.code ≠ "PIPE-STRUCT-004" := by
  intro hcode
  obtain ⟨id, vs, hviolations⟩ := exists_duplicateState_of_code h hcode
  obtain ⟨r, rfl⟩ := exists_reading_of_build_eq_ok hbuild
  rw [← r.calledIds_pipeline] at honce hcontinues
  exact head_violations_ne_duplicateState honce r.plainChain_of_mem_fanOuts hseparated hcontinues
    hviolations

/-- A manifest with two fan-outs, the second one over a function of a given name and bound. -/
def parts (last : String) (bound : Nat) : Manifest where
  version := "1.0"
  name := "orders"
  eventBuses := .ofList [("input", "bus:input")]
  queues := .ofList [("reply", "queue:reply")]
  functions := .ofList [("lines", ⟨"fn:lines", "Order", "[Item]"⟩),
    ("A", ⟨"fn:A", "Item", "Price"⟩), ("B", ⟨"fn:B", "Price", "Net"⟩),
    (last, ⟨"fn:last", "Net", "Total"⟩)]
  steps := [.source "input" "Order" [], .join "lines", .lift (.plain "A"), .join "B", .unit,
    .lift (.bounded last (some bound)), .toQueue "reply"]

/-- The pipeline of `parts`. -/
def partsPipeline (last : String) (bound : Nat) : Pipeline :=
  [.source ⟨⟨"input", "bus:input"⟩, [], "Order"⟩, .call ⟨⟨"lines", "fn:lines"⟩, 1⟩,
    .fanOut [.call ⟨⟨"A", "fn:A"⟩, 1⟩, .call ⟨⟨"B", "fn:B"⟩, 1⟩],
    .fanOut [.call ⟨⟨last, "fn:last"⟩, bound⟩],
    .deliver ⟨.queue ⟨"reply", "queue:reply"⟩, "Total"⟩]

theorem build_parts {last : String} {bound : Nat} (hform : (parts last bound).WellFormed)
    (htranslate : (parts last bound).translate 2 ⟨.parse "Order", 0⟩
      [.join "lines", .lift (.plain "A"), .join "B", .unit, .lift (.bounded last (some bound)),
        .toQueue "reply"] = .ok [.join ⟨⟨"lines", "fn:lines"⟩, 1⟩, .lift ⟨⟨"A", "fn:A"⟩, 1⟩,
          .join ⟨⟨"B", "fn:B"⟩, 1⟩, .unit, .lift ⟨⟨last, "fn:last"⟩, bound⟩,
          .deliver ⟨.queue ⟨"reply", "queue:reply"⟩, "Total"⟩]) :
    (parts last bound).build = .ok (partsPipeline last bound) := by
  have htext : (FlowType.parse "Order").text = "Order" := by decide +kernel
  rw [build_eq (validate_eq_ok_iff.mpr hform) rfl rfl, htranslate, htext]
  rfl

/-- A last function that may not run is refused, but not for its name. -/
theorem compile_parts_refuses_bound :
    (parts "C" 0).build = .ok (partsPipeline "C" 0) ∧
      compile {} (partsPipeline "C" 0) = .error (.zeroConcurrency "C") ∧
      (CompileError.zeroConcurrency "C").diagnostic.code ≠ "PIPE-STRUCT-004" := by
  have hbuild : (parts "C" 0).build = .ok (partsPipeline "C" 0) :=
    build_parts (by decide +kernel) (eq_ok_of_toOption_eq_some (by decide +kernel))
  have hviolations : violations (partsPipeline "C" 0) = [.zeroConcurrency "C"] := by
    decide +kernel
  have hcompile := compile_of_violations_eq_cons {} hviolations
  exact ⟨hbuild, hcompile, compile_code_ne_of_functions_used_once hbuild (by decide)
    (by decide +kernel) (by decide +kernel) {} hcompile⟩

/-- **Using each function once is not enough**: the fan-outs over `A`, `B` and over `AMapB` have one
text, so they share a name. -/
theorem compile_parts_refuses_name :
    (parts "AMapB" 1).functionIds.Nodup ∧
      (parts "AMapB" 1).build = .ok (partsPipeline "AMapB" 1) ∧
      Separated (hashedTexts (partsPipeline "AMapB" 1)) ∧
      ∀ options, ∃ e, compile options (partsPipeline "AMapB" 1) = .error e ∧
        e.diagnostic.code = "PIPE-STRUCT-004" := by
  have hviolations : violations (partsPipeline "AMapB" 1) =
      [.duplicateState (Naming.fanOut "MapAMapB")] := by
    decide +kernel
  have hbuild : (parts "AMapB" 1).build = .ok (partsPipeline "AMapB" 1) :=
    build_parts (by decide +kernel) (eq_ok_of_toOption_eq_some (by decide +kernel))
  exact ⟨by decide, hbuild, by decide +kernel,
    fun options => ⟨_, compile_of_violations_eq_cons options hviolations, rfl⟩⟩

end Manifest

end EventFlow
