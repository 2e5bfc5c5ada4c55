import EventFlow.Proofs.Machine.States
import EventFlow.Proofs.Manifest.DistinctNames

/-!
# What a manifest compiles to

A manifest that builds is a source, calls and fan-outs, and a delivery (`Manifest.Reading`). Of the
reasons for which a pipeline has no machine that leaves three: a call that may not run, a fan-out
that does not begin with a call, and a name that two states would share. A source or a delivery in
the wrong place, no source, or nothing to run are out of the question, whatever the steps are.

If there is a machine, it **ends in a delivery** (`Machine.EndsInDelivery`). The delivery is the
last state, and the names of the states tell that it is the only one: all deliveries have one name,
and no two states do. Any other state with which a machine can end is the failure at the end of a
branch.
-/

namespace EventFlow

namespace Machine

/-! ### Violations -/

/-- Whether a site is one of a call or a fan-out. -/
def Site.isPlain : Site → Bool
  | .call _ => true
  | .fanOutEnd _ => true
  | _ => false

/-- What can be wrong with a call or a fan-out. -/
theorem code_mem_of_isPlain {earlier : List Site} {site : Site} (hsite : site.isPlain)
    {v : Violation} (hv : v ∈ violationsAt earlier site) :
    v.code ∈ ["PIPE-VAL-001", "PIPE-STRUCT-003", "PIPE-STRUCT-004"] := by
  cases site with
  | source => exact Bool.noConfusion hsite
  | call c =>
    rw [violationsAt, List.mem_append, List.mem_ite_nil_right, List.mem_ite_nil_right] at hv
    rcases hv with ⟨-, hv⟩ | ⟨-, hv⟩ <;> simp [List.mem_singleton.mp hv, Violation.code]
  | fanOutEnd nodes =>
    rw [violationsAt, List.mem_ite_nil_right, List.mem_append, List.mem_ite_nil_left,
      List.mem_ite_nil_right] at hv
    rcases hv with ⟨-, ⟨-, hv⟩ | ⟨-, hv⟩⟩ <;> simp [List.mem_singleton.mp hv, Violation.code]
  | deliver => exact Bool.noConfusion hsite

mutual

theorem isPlain_of_mem_sitesOfNode {site : Site} :
    ∀ {node : Node}, node.Plain → ∀ {depth index : Nat} {isLast : Bool},
      site ∈ sitesOfNode depth index isLast node → site.isPlain
  | .call _, _, _, _, _, hmem => by
    rw [List.mem_singleton.mp hmem]
    rfl
  | .fanOut nodes, h, depth, _, _, hmem => by
    rcases List.mem_append.mp hmem with hinner | hend
    · exact @isPlain_of_mem_sites site nodes h _ _ hinner
    · rw [List.mem_singleton.mp hend]
      rfl

/-- The sites of a plain chain are those of calls and fan-outs. -/
theorem isPlain_of_mem_sites {site : Site} :
    ∀ {nodes : List Node}, PlainChain nodes → ∀ {depth index : Nat},
      site ∈ sites depth index nodes → site.isPlain
  | node :: nodes, h, depth, index, hmem => by
    rcases List.mem_append.mp hmem with hfirst | hlater
    · exact @isPlain_of_mem_sitesOfNode site node h.1 _ _ _ hfirst
    · exact @isPlain_of_mem_sites site nodes h.2 _ _ hlater

end

/-- A delivery behind a plain chain is in its place. -/
theorem exists_sites_concat_deliver {body : List Node} (h : PlainChain body) (d : Delivery)
    (index : Nat) :
    ∃ before last, sites 0 index (body ++ [.deliver d]) = before ++ [.deliver 0 last true] ∧
      ∀ site ∈ before, site.isPlain := by
  induction body generalizing index with
  | nil => exact ⟨[], index, rfl, fun _ hmem => absurd hmem List.not_mem_nil⟩
  | cons node body ih =>
    obtain ⟨before, last, hsites, hplain⟩ := ih h.2 (index + 1)
    refine ⟨sitesOfNode 0 index (body ++ [Node.deliver d]).isEmpty node ++ before, last, ?_, ?_⟩
    · rw [List.cons_append, sites, hsites, List.append_assoc]
    · intro site hmem
      exact (List.mem_append.mp hmem).elim (isPlain_of_mem_sitesOfNode h.1) (hplain site)

/-- **What can be wrong with a source, a plain chain and a delivery** is wrong with a call or a
fan-out of that chain. -/
theorem code_mem_of_violations_eq_cons {src : Source} {body : List Node} {d : Delivery}
    (hbody : PlainChain body) {v : Violation} {vs : List Violation}
    (h : violations (.source src :: (body ++ [.deliver d])) = v :: vs) :
    v.code ∈ ["PIPE-VAL-001", "PIPE-STRUCT-003", "PIPE-STRUCT-004"] := by
  obtain ⟨before, last, hsites, hplain⟩ := exists_sites_concat_deliver hbody d 1
  -- the delivery runs, so what is wrong is wrong at a site, and not at the delivery
  have hruns : (before ++ [Site.deliver 0 last true]).any Site.runs := by simp [Site.runs]
  rw [violations_source, hsites, if_pos hruns, List.append_nil] at h
  obtain ⟨earlier, site, later, ws, heq, -, hsite⟩ := exists_site_of_violationsFrom_eq_cons h
  have hmem : site ∈ before ++ [Site.deliver 0 last true] := by simp [heq]
  rcases List.mem_append.mp hmem with hbefore | hlast
  · exact code_mem_of_isPlain (hplain site hbefore) (hsite ▸ List.mem_cons_self)
  · rw [List.mem_singleton.mp hlast] at hsite
    exact absurd hsite (by simp [violationsAt])

/-! ### Deliveries -/

/-- Whether a state of this kind delivers a result. -/
def StateKind.delivers : StateKind → Bool
  | .sendToQueue _ => true
  | .sendToEventBus _ _ _ => true
  | _ => false

/-- **A machine that ends in a delivery.** -/
structure EndsInDelivery (chain : Chain) (sink : State) : Prop where
  last : chain.getLast? = some sink
  id : sink.id = "Sink"
  /-- It is the only delivery, at any depth. -/
  only : chain.allStates.filter (·.kind.delivers) = [sink]
  /-- Any other state with which a machine can end is the failure at the end of a branch. -/
  terminal : ∀ state ∈ chain.allStates, state.kind.isTerminal → state = sink ∨
    state.kind = .fail ∧ ∃ owner ∈ chain.allStates, ∃ branch ∈ owner.catches,
      branch.states.getLast? = some state

theorem delivers_sinkState (read : Path) (d : Delivery) : (sinkState read d).kind.delivers := by
  obtain ⟨_ | _, typeName⟩ := d <;> rfl

/-- All deliveries have one name. -/
theorem Crafted.id_of_delivers {options : Options} {state : State} (h : Crafted options state)
    (hdelivers : state.kind.delivers) : state.id = Naming.sink := by
  cases h with
  | sink => rfl
  | _ => exact Bool.noConfusion hdelivers

/-- **A chain with a delivery at its end ends in it.** -/
theorem Manufactured.endsInDelivery {options : Options} {front : Chain} {read : Path} {d : Delivery}
    (h : Manufactured options (front ++ [sinkState read d])) :
    EndsInDelivery (front ++ [sinkState read d]) (sinkState read d) := by
  have hstates : Chain.allStates (front ++ [sinkState read d]) =
      reachableOfChain front ++ [sinkState read d] := by
    rw [Chain.allStates, reachableOfChain_append, reachableOfChain_singleton, reachable_sinkState]
  -- another delivery would have the name of the last one
  have hfront : ∀ state ∈ reachableOfChain front, ¬state.kind.delivers := by
    intro state hmem hdelivers
    have hnodup := h.nodup
    rw [idsOfChain, hstates, List.map_append, List.nodup_append] at hnodup
    have hid := (h.crafted state (by simp [hstates, hmem])).id_of_delivers hdelivers
    exact hnodup.2.2 _ (List.mem_map_of_mem hmem) _ (List.mem_map_of_mem List.mem_cons_self) hid
  have honly : (Chain.allStates (front ++ [sinkState read d])).filter (·.kind.delivers) =
      [sinkState read d] := by
    rw [hstates, List.filter_append, List.filter_eq_nil_iff.mpr hfront]
    simp [delivers_sinkState]
  refine ⟨by simp, rfl, honly, fun state hmem hterminal => ?_⟩
  by_cases hdelivers : state.kind.delivers
  · have hfilter : state ∈ (Chain.allStates (front ++ [sinkState read d])).filter
        (·.kind.delivers) := List.mem_filter.mpr ⟨hmem, hdelivers⟩
    rw [honly] at hfilter
    exact .inl (List.mem_singleton.mp hfilter)
  · have hfail : state.kind = .fail := by
      cases hkind : state.kind <;> simp_all [StateKind.isTerminal, StateKind.delivers]
    have hplaced := hmem
    rw [Chain.allStates, ← map_state_placedOfChain] at hplaced
    obtain ⟨p, hp, rfl⟩ := List.mem_map.mp hplaced
    exact .inr ⟨hfail, (h.ends_branch_of_fail hp hfail).2⟩

theorem detailTypes_assembled_ne_nil (options : Options) (src : Source) (chain : Chain) :
    (assembled options src chain).rule.detailTypes ≠ [] := by
  rcases hcategories : src.categories with _ | ⟨category, categories⟩ <;>
    simp [assembled, hcategories]

end Machine

namespace Manifest

open Machine

/-- **What a manifest compiles to.** Under any options the pipeline of a manifest that builds is
refused for a bound, the beginning of a fan-out or a name, or it has a machine that ends in a
delivery, and a rule that starts this machine on events of some category. -/
theorem compile_of_build_eq_ok {m : Manifest} {p : Pipeline} (hbuild : m.build = .ok p)
    (options : Options) :
    (∃ e, compile options p = .error e ∧
        e.diagnostic.code ∈ ["PIPE-VAL-001", "PIPE-STRUCT-003", "PIPE-STRUCT-004"]) ∨
      ∃ compiled sink, compile options p = .ok compiled ∧
        EndsInDelivery compiled.machine.chain sink ∧ compiled.rule.detailTypes ≠ [] ∧
          compiled.rule.target = compiled.machine.name := by
  obtain ⟨r, rfl⟩ := exists_reading_of_build_eq_ok hbuild
  rcases hviolations : violations r.pipeline with _ | ⟨v, vs⟩
  · -- the delivery is laid out last
    have hlay (d : Delivery) : layNodes options .detail (r.levels.closeAll ++ [.deliver d]) =
        layNodes options .detail r.levels.closeAll
          ++ [sinkState (readAfterAll .detail r.levels.closeAll) d] := by
      rw [layNodes_append]
      rfl
    have hok : compile options r.pipeline = .ok _ :=
      compile_eq_ok_iff.mpr ⟨_, _, rfl, hviolations, rfl⟩
    rw [hlay] at hok
    exact .inr ⟨_, _, hok, (compile_states hok).endsInDelivery,
      detailTypes_assembled_ne_nil _ _ _, rfl⟩
  · have hcode := code_mem_of_violations_eq_cons r.plainChain_closeAll hviolations
    rw [← v.code_error] at hcode
    exact .inl ⟨v.error, compile_of_violations_eq_cons options hviolations, hcode⟩

theorem compile_parts_of_build_eq_ok :
    (∃ compiled sink, (parts "C" 2).build = .ok (partsPipeline "C" 2) ∧
      compile { deadLetter := some ⟨"dead", "queue:dead"⟩ } (partsPipeline "C" 2) = .ok compiled ∧
      EndsInDelivery compiled.machine.chain sink ∧ compiled.rule.detailTypes ≠ [] ∧
      compiled.rule.target = compiled.machine.name) ∧
    ∃ e, (parts "C" 0).build = .ok (partsPipeline "C" 0) ∧
      compile {} (partsPipeline "C" 0) = .error e ∧
      e.diagnostic.code ∈ ["PIPE-VAL-001", "PIPE-STRUCT-003", "PIPE-STRUCT-004"] := by
  constructor
  · have hbuild : (parts "C" 2).build = .ok (partsPipeline "C" 2) :=
      build_parts (by decide +kernel) (eq_ok_of_toOption_eq_some (by decide +kernel))
    have hviolations : violations (partsPipeline "C" 2) = [] := by decide +kernel
    have hok (options : Options) : compile options (partsPipeline "C" 2) = .ok _ :=
      compile_eq_ok_iff.mpr ⟨_, _, rfl, hviolations, rfl⟩
    rcases compile_of_build_eq_ok hbuild { deadLetter := some ⟨"dead", "queue:dead"⟩ } with
      ⟨e, herror, -⟩ | ⟨compiled, sink, hcompile, hends⟩
    · exact absurd ((hok _).symm.trans herror) (by simp)
    · exact ⟨compiled, sink, hbuild, hcompile, hends⟩
  · have hbuild : (parts "C" 0).build = .ok (partsPipeline "C" 0) :=
      build_parts (by decide +kernel) (eq_ok_of_toOption_eq_some (by decide +kernel))
    have hviolations : violations (partsPipeline "C" 0) = [.zeroConcurrency "C"] := by
      decide +kernel
    rcases compile_of_build_eq_ok hbuild {} with ⟨e, herror, hcode⟩ | ⟨compiled, sink, hok, -⟩
    · exact ⟨e, hbuild, herror, hcode⟩
    · rw [compile_of_violations_eq_cons {} hviolations] at hok
      exact absurd hok (by simp)

end Manifest

end EventFlow
