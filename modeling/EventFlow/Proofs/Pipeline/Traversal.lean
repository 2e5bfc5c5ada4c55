import EventFlow.Proofs.Pipeline.Outcome

/-!
# Walks follow a listing

A walk is told by two lists that need no visitor. `hooks` lists all the hooks of a pipeline,
`places` lists its nodes depth first, each with its depth, its position and the hooks that come
before it. The nodes that may not stand where they stand are found in the second list, and a walk is
then

* **a run along the listing** if every node fits its place,
* **a run along the hooks before the first node that does not**, and a refusal of that node.

`walkNodes_eq` says this of every visitor, as an equation between programs, by recursion on the
tree: what one chain does is put together from its nodes, and a node out of place cuts off
everything after it at every level around. After that nothing is left of the tree, and what a
visitor sees that refuses a hook itself is a fact about running along a list.
-/

namespace EventFlow

/-! ### Listings -/

/-- What the hooks of a node are about. -/
def Node.subject : Node → Subject
  | .source s => .source s
  | .call c => .call c
  | .fanOut nodes => .fanOut nodes
  | .deliver d => .deliver d

mutual

/-- The hooks of a node: those of a fan-out stand around those of its nodes. -/
def hooksOfNode (depth : Nat) : Node → List Hook
  | .source s => [⟨.enter, depth, .source s⟩, ⟨.leave, depth, .source s⟩]
  | .call c => [⟨.enter, depth, .call c⟩, ⟨.leave, depth, .call c⟩]
  | .fanOut nodes =>
    ⟨.enter, depth, .fanOut nodes⟩ ::
      (hooksOfChain (depth + 1) nodes ++ [⟨.leave, depth, .fanOut nodes⟩])
  | .deliver d => [⟨.enter, depth, .deliver d⟩, ⟨.leave, depth, .deliver d⟩]

/-- The hooks of the nodes of a chain, one after the other. -/
def hooksOfChain (depth : Nat) : List Node → List Hook
  | [] => []
  | node :: nodes => hooksOfNode depth node ++ hooksOfChain depth nodes

end

/-- **The hooks of a pipeline**, all of them. -/
def hooks (p : Pipeline) : List Hook :=
  ⟨.enter, 0, .pipeline p⟩ :: (hooksOfChain 0 p ++ [⟨.leave, 0, .pipeline p⟩])

/-! ### Places -/

/-- A node with the place where it stands. -/
structure Place where
  node : Node
  /-- The number of fan-outs around the node. -/
  depth : Nat
  /-- The position in its chain, from zero. -/
  index : Nat
  /-- Whether it is the last node of its chain. -/
  isLast : Bool
  /-- The hooks that come before those of the node. -/
  before : List Hook

namespace Place

/-- The same place behind some hooks. -/
def behind (hooks : List Hook) (place : Place) : Place :=
  { place with before := hooks ++ place.before }

@[simp] theorem before_behind (hooks : List Hook) (place : Place) :
    (place.behind hooks).before = hooks ++ place.before := rfl

/-- **A node fits its place** unless it is a source and not the first node, or a delivery and not
the last node, of the top-level chain. -/
def Fits (place : Place) : Prop :=
  (place.node.kind = .source → place.depth = 0 ∧ place.index = 0) ∧
    (place.node.kind = .deliver → place.depth = 0 ∧ place.isLast)

instance (place : Place) : Decidable place.Fits :=
  inferInstanceAs (Decidable (_ ∧ _))

/-- What a walk names of a node that does not fit. -/
def misplaced (place : Place) : Misplaced :=
  ⟨place.node.kind, place.index, place.depth⟩

/-- The hook that enters the node. -/
def entering (place : Place) : Hook :=
  ⟨.enter, place.depth, place.node.subject⟩

end Place

mutual

/-- The places of a node and of the nodes in it. -/
def placesOfNode (depth index : Nat) (isLast : Bool) : Node → List Place
  | .source s => [⟨.source s, depth, index, isLast, []⟩]
  | .call c => [⟨.call c, depth, index, isLast, []⟩]
  | .fanOut nodes =>
    ⟨.fanOut nodes, depth, index, isLast, []⟩ ::
      (placesOfChain (depth + 1) 0 nodes).map (·.behind [⟨.enter, depth, .fanOut nodes⟩])
  | .deliver d => [⟨.deliver d, depth, index, isLast, []⟩]

/-- The places of the nodes of a chain from a position on, depth first. -/
def placesOfChain (depth index : Nat) : List Node → List Place
  | [] => []
  | node :: nodes =>
    placesOfNode depth index nodes.isEmpty node
      ++ (placesOfChain depth (index + 1) nodes).map (·.behind (hooksOfNode depth node))

end

/-- **The places of a pipeline**: its nodes depth first, each where it stands. -/
def places (p : Pipeline) : List Place :=
  (placesOfChain 0 0 p).map (·.behind [⟨.enter, 0, .pipeline p⟩])

/-- **The first node that does not fit its place**, in depth-first order. -/
def FirstMisfit (places : List Place) (place : Place) : Prop :=
  ∃ earlier later, places = earlier ++ place :: later ∧ (∀ other ∈ earlier, other.Fits) ∧
    ¬place.Fits

/-- The first of some places that does not fit. -/
def misfit? (places : List Place) : Option Place :=
  places.find? (¬·.Fits)

theorem misfit?_eq_none_iff {places : List Place} :
    misfit? places = none ↔ ∀ place ∈ places, place.Fits := by
  simp [misfit?]

theorem misfit?_eq_some_iff {places : List Place} {place : Place} :
    misfit? places = some place ↔ FirstMisfit places place := by
  rw [misfit?, List.find?_eq_some_iff_append, FirstMisfit]
  constructor
  · rintro ⟨hmisfit, earlier, later, heq, hfits⟩
    exact ⟨earlier, later, heq, by simpa using hfits, by simpa using hmisfit⟩
  · rintro ⟨earlier, later, heq, hfits, hmisfit⟩
    exact ⟨by simpa using hmisfit, earlier, later, heq, by simpa using hfits⟩

theorem misfit?_append (places places' : List Place) :
    misfit? (places ++ places') = (misfit? places).or (misfit? places') :=
  List.find?_append

theorem misfit?_map_behind (hooks : List Hook) (places : List Place) :
    misfit? (places.map (·.behind hooks)) = (misfit? places).map (·.behind hooks) := by
  rw [misfit?, List.find?_map]
  rfl

/-- The hooks before a node, and then the one that enters it, begin the listing. -/
def Place.Begins (place : Place) (listing : List Hook) : Prop :=
  place.before ++ [place.entering] <+: listing

theorem Place.Begins.behind {place : Place} {listing : List Hook} (h : place.Begins listing)
    (hooks : List Hook) : (place.behind hooks).Begins (hooks ++ listing) := by
  rw [Place.Begins, Place.behind, List.append_assoc, List.prefix_append_right_inj]
  exact h

theorem Place.Begins.append {place : Place} {listing : List Hook} (h : place.Begins listing)
    (hooks : List Hook) : place.Begins (listing ++ hooks) :=
  List.IsPrefix.trans h (List.prefix_append _ _)

mutual

theorem begins_of_mem_placesOfNode :
    ∀ {node : Node} {depth index : Nat} {isLast : Bool},
      ∀ place ∈ placesOfNode depth index isLast node, place.Begins (hooksOfNode depth node)
  | .source s, depth, index, isLast, place, hmem => by
    rw [List.mem_singleton.mp hmem]
    exact ⟨_, rfl⟩
  | .call c, depth, index, isLast, place, hmem => by
    rw [List.mem_singleton.mp hmem]
    exact ⟨_, rfl⟩
  | .fanOut nodes, depth, index, isLast, place, hmem => by
    rcases List.mem_cons.mp hmem with rfl | hinner
    · exact ⟨_, rfl⟩
    · obtain ⟨inner, hplace, rfl⟩ := List.mem_map.mp hinner
      exact ((begins_of_mem_placesOfChain inner hplace).append _).behind _
  | .deliver d, depth, index, isLast, place, hmem => by
    rw [List.mem_singleton.mp hmem]
    exact ⟨_, rfl⟩

/-- **A place stands in the listing where it says.** -/
theorem begins_of_mem_placesOfChain :
    ∀ {nodes : List Node} {depth index : Nat},
      ∀ place ∈ placesOfChain depth index nodes, place.Begins (hooksOfChain depth nodes)
  | node :: nodes, depth, index, place, hmem => by
    rcases List.mem_append.mp hmem with hnode | hnodes
    · exact (begins_of_mem_placesOfNode place hnode).append _
    · obtain ⟨later, hplace, rfl⟩ := List.mem_map.mp hnodes
      exact (begins_of_mem_placesOfChain later hplace).behind _

end

theorem begins_of_mem_places {p : Pipeline} {place : Place} (h : place ∈ places p) :
    place.Begins (hooks p) := by
  obtain ⟨inner, hplace, rfl⟩ := List.mem_map.mp h
  exact ((begins_of_mem_placesOfChain inner hplace).append _).behind _

/-! ### A walk is a run along a list -/

section Run

variable {ε σ : Type} (misplaced : Misplaced → ε) (visit : Visitor ε σ)

/-- Refuses the node at a place, if there is one. -/
def refuse : Option Place → ExceptT ε (StateM σ) Unit
  | none => pure ()
  | some place => throw (misplaced place.misplaced)

/-- The part of a listing that a walk comes to. -/
def heard (listing : List Hook) (stop : Option Place) : List Hook :=
  (stop.map (·.before)).getD listing

/-- Walks along a listing up to the first node that does not fit. -/
def follow (listing : List Hook) (places : List Place) : ExceptT ε (StateM σ) Unit := do
  forM (heard listing (misfit? places)) visit
  refuse misplaced (misfit? places)

variable {misplaced visit}

/-- Where every node fits, the whole listing is walked. -/
theorem follow_of_misfit?_eq_none {listing : List Hook} {places : List Place}
    (h : misfit? places = none) : follow misplaced visit listing places = forM listing visit := by
  rw [follow, h]
  exact bind_pure_unit

/-- A node that does not fit cuts the listing off. -/
theorem follow_of_misfit?_eq_some {listing : List Hook} {places : List Place} {place : Place}
    (h : misfit? places = some place) :
    follow misplaced visit listing places =
      (forM place.before visit >>= fun _ => throw (misplaced place.misplaced)) := by
  rw [follow, h]
  rfl

theorem follow_nil (hooks : List Hook) : follow misplaced visit hooks [] = forM hooks visit :=
  follow_of_misfit?_eq_none rfl

/-- **What comes behind some hooks**: the listing and the places both move. -/
theorem forM_bind_follow (hooks listing : List Hook) (places : List Place) :
    (forM hooks visit >>= fun _ => follow misplaced visit listing places) =
      follow misplaced visit (hooks ++ listing) (places.map (·.behind hooks)) := by
  have hmoved := misfit?_map_behind hooks places
  rcases hstop : misfit? places with _ | place
  · rw [hstop] at hmoved
    rw [follow_of_misfit?_eq_none hstop, follow_of_misfit?_eq_none hmoved, List.forM_append]
  · rw [hstop] at hmoved
    rw [follow_of_misfit?_eq_some hstop, follow_of_misfit?_eq_some hmoved, Place.before_behind,
      List.forM_append, bind_assoc]
    rfl

/-- **Two parts in a row**: the second one is come to if everything in the first one fits. -/
theorem follow_bind_follow (hooks hooks' : List Hook) (places places' : List Place) :
    (follow misplaced visit hooks places >>= fun _ => follow misplaced visit hooks' places') =
      follow misplaced visit (hooks ++ hooks') (places ++ places'.map (·.behind hooks)) := by
  have hboth := misfit?_append places (places'.map (·.behind hooks))
  rcases hstop : misfit? places with _ | place
  · rw [hstop, Option.none_or] at hboth
    rw [follow_of_misfit?_eq_none hstop, forM_bind_follow, follow, follow, hboth]
  · rw [hstop, Option.some_or] at hboth
    rw [follow_of_misfit?_eq_some hstop, follow_of_misfit?_eq_some hboth, bind_assoc]
    rfl

/-- **A part between two hooks.** -/
theorem bind_follow_bind (enter leave : Hook) (listing : List Hook) (places : List Place) :
    (visit enter >>= fun _ => follow misplaced visit listing places >>= fun _ => visit leave) =
      follow misplaced visit (enter :: (listing ++ [leave])) (places.map (·.behind [enter])) := by
  have hhook (hook : Hook) : visit hook = forM [hook] visit := by
    rw [List.forM_cons, List.forM_nil, bind_pure_unit]
  have hleave : visit leave = follow misplaced visit [leave] [] := by rw [follow_nil, hhook]
  rw [hleave, follow_bind_follow, hhook enter, forM_bind_follow, List.map_nil, List.append_nil,
    List.singleton_append]

/-- A node that fits does not cut anything off. -/
theorem follow_cons_of_fits {place : Place} (h : place.Fits) (hooks : List Hook)
    (places : List Place) :
    follow misplaced visit hooks (place :: places) = follow misplaced visit hooks places := by
  have hstop : misfit? (place :: places) = misfit? places := by simp [misfit?, h]
  rw [follow, follow, hstop]

/-- A node that holds no others is visited if it fits, and refused if it does not. -/
theorem follow_leaf {place : Place} (hbefore : place.before = []) :
    follow misplaced visit [⟨.enter, place.depth, place.node.subject⟩,
        ⟨.leave, place.depth, place.node.subject⟩] [place] =
      if place.Fits then visitLeaf visit place.depth place.node.subject
      else throw (misplaced place.misplaced) := by
  by_cases hfits : place.Fits
  · rw [if_pos hfits, follow_cons_of_fits hfits, follow_nil, List.forM_cons, List.forM_cons,
      List.forM_nil, bind_pure_unit]
    rfl
  · have hstop : misfit? [place] = some place :=
      misfit?_eq_some_iff.mpr ⟨[], [], rfl, by simp, hfits⟩
    rw [if_neg hfits, follow_of_misfit?_eq_some hstop, hbefore]
    rfl

mutual

theorem walkNode_eq :
    ∀ (node : Node) (depth index : Nat) (isLast : Bool),
      walkNode misplaced visit depth index isLast node =
        follow misplaced visit (hooksOfNode depth node) (placesOfNode depth index isLast node)
  | .source s, depth, index, isLast => by
    have hleaf := @follow_leaf _ _ misplaced visit ⟨.source s, depth, index, isLast, []⟩ rfl
    rw [walkNode]
    refine Eq.trans ?_ hleaf.symm
    simp [Place.Fits, Node.kind, Place.misplaced, Node.subject]
  | .call c, depth, index, isLast => by
    have hleaf := @follow_leaf _ _ misplaced visit ⟨.call c, depth, index, isLast, []⟩ rfl
    rw [walkNode]
    refine Eq.trans ?_ hleaf.symm
    simp [Place.Fits, Node.kind, Node.subject]
  | .fanOut nodes, depth, index, isLast => by
    have hself : Place.Fits ⟨.fanOut nodes, depth, index, isLast, []⟩ := by
      simp [Place.Fits, Node.kind]
    rw [walkNode, walkNodes_eq nodes (depth + 1) 0, bind_follow_bind, hooksOfNode, placesOfNode,
      follow_cons_of_fits hself]
  | .deliver d, depth, index, isLast => by
    have hleaf := @follow_leaf _ _ misplaced visit ⟨.deliver d, depth, index, isLast, []⟩ rfl
    rw [walkNode]
    refine Eq.trans ?_ hleaf.symm
    simp [Place.Fits, Node.kind, Place.misplaced, Node.subject]

/-- **A walk along a chain is a run along its listing**, cut off at the first node that does not
fit. -/
theorem walkNodes_eq :
    ∀ (nodes : List Node) (depth index : Nat),
      walkNodes misplaced visit depth index nodes =
        follow misplaced visit (hooksOfChain depth nodes) (placesOfChain depth index nodes)
  | [], _, _ => rfl
  | node :: nodes, depth, index => by
    rw [walkNodes, walkNode_eq node, walkNodes_eq nodes, follow_bind_follow, hooksOfChain,
      placesOfChain]

end

/-- **A walk is a run along the listing of the pipeline**, cut off at the first node that does not
fit. -/
theorem walk_eq (p : Pipeline) :
    walk misplaced visit p = follow misplaced visit (hooks p) (places p) := by
  rw [walk, walkNodes_eq, bind_follow_bind, hooks, places]

end Run

/-! ### Records -/

section Record

variable {ε σ : Type} {visit : Visitor ε σ}

/-- A visitor that also keeps a record of the hooks that it accepts. -/
def recording (visit : Visitor ε σ) : Visitor ε (σ × List Hook) := fun hook => do
  let s ← get
  let r := outcome (visit hook) s.1
  set (r.2, s.2)
  ExceptT.mk (pure r.1)
  modify fun s => (s.1, s.2 ++ [hook])

theorem outcome_recording_ok {hook : Hook} {s t : σ} (h : outcome (visit hook) s = (.ok (), t))
    (record : List Hook) :
    outcome (recording visit hook) (s, record) = (.ok (), t, record ++ [hook]) := by
  simp only [recording, outcome_bind, outcome_get, outcome_set, h]
  rfl

theorem outcome_recording_error {hook : Hook} {s t : σ} {e : ε}
    (h : outcome (visit hook) s = (.error e, t)) (record : List Hook) :
    outcome (recording visit hook) (s, record) = (.error e, t, record) := by
  simp only [recording, outcome_bind, outcome_get, outcome_set, h]
  rfl

/-- **A visitor accepts some hooks** one after the other, and is left in a state. -/
def Accepts (visit : Visitor ε σ) (s : σ) (hooks : List Hook) (t : σ) : Prop :=
  outcome (forM hooks visit) s = (.ok (), t)

theorem accepts_cons_iff {s t : σ} {hook : Hook} {hooks : List Hook} :
    Accepts visit s (hook :: hooks) t ↔
      ∃ u, outcome (visit hook) s = (.ok (), u) ∧ Accepts visit u hooks t := by
  rw [Accepts, List.forM_cons, outcome_bind]
  rcases outcome (visit hook) s with ⟨e | ⟨⟩, u⟩
  · simp
  · simp [Accepts]

theorem outcome_forM_recording {s t : σ} {hooks : List Hook} (h : Accepts visit s hooks t)
    (record : List Hook) :
    outcome (forM hooks (recording visit)) (s, record) = (.ok (), t, record ++ hooks) := by
  induction hooks generalizing s record with
  | nil =>
    obtain rfl : s = t := congrArg Prod.snd h
    rw [List.append_nil]
    rfl
  | cons hook hooks ih =>
    obtain ⟨u, hhook, hhooks⟩ := accepts_cons_iff.mp h
    rw [List.forM_cons, outcome_bind_ok (outcome_recording_ok hhook record), ih hhooks]
    simp

/-- **A visitor that refuses a hook** has recorded those before it. -/
theorem outcome_forM_recording_error {s t u : σ} {before after : List Hook} {hook : Hook} {e : ε}
    (hbefore : Accepts visit s before t) (hhook : outcome (visit hook) t = (.error e, u)) :
    outcome (forM (before ++ hook :: after) (recording visit)) (s, []) = (.error e, u, before) := by
  rw [List.forM_append, outcome_bind_ok (outcome_forM_recording hbefore []), List.forM_cons,
    outcome_bind, outcome_recording_error hhook]
  rfl

/-- A visitor that never refuses. -/
def NeverRefuses (visit : Visitor ε σ) : Prop :=
  ∀ hook s, (outcome (visit hook) s).1 = .ok ()

theorem NeverRefuses.exists_accepts (h : NeverRefuses visit) (s : σ) (hooks : List Hook) :
    ∃ t, Accepts visit s hooks t := by
  induction hooks generalizing s with
  | nil => exact ⟨s, rfl⟩
  | cons hook hooks ih =>
    obtain ⟨t, ht⟩ := ih (outcome (visit hook) s).2
    exact ⟨t, accepts_cons_iff.mpr ⟨_, Prod.ext (h hook s) rfl, ht⟩⟩

end Record

section Walk

variable {σ : Type}

/-- **What a walk comes to**, and the hooks that the visitor accepted on the way. -/
def walkRecord (visit : Visitor Diagnostic σ) (s : σ) (p : Pipeline) :
    Except Diagnostic Unit × List Hook :=
  let r := outcome (walk Misplaced.diagnostic (recording visit) p) (s, [])
  (r.1, r.2.2)

/-- The visitor that does nothing. -/
def idle : Visitor Diagnostic Unit := fun _ => pure ()

theorem neverRefuses_idle : NeverRefuses idle :=
  fun _ _ => rfl

variable {visit : Visitor Diagnostic σ} {p : Pipeline}

theorem walkRecord_of_misfit?_eq_none (h : NeverRefuses visit) (s : σ)
    (hstop : misfit? (places p) = none) : walkRecord visit s p = (.ok (), hooks p) := by
  obtain ⟨t, ht⟩ := h.exists_accepts s (hooks p)
  rw [walkRecord, walk_eq, follow_of_misfit?_eq_none hstop, outcome_forM_recording ht]
  rfl

theorem walkRecord_of_misfit?_eq_some (h : NeverRefuses visit) (s : σ) {place : Place}
    (hstop : misfit? (places p) = some place) :
    walkRecord visit s p = (.error place.misplaced.diagnostic, place.before) := by
  obtain ⟨t, ht⟩ := h.exists_accepts s place.before
  rw [walkRecord, walk_eq, follow_of_misfit?_eq_some hstop,
    outcome_bind_ok (outcome_forM_recording ht [])]
  rfl

/-- What the idle visitor records is the part of the listing that a walk comes to. -/
theorem walkRecord_idle (p : Pipeline) :
    (walkRecord idle () p).2 = heard (hooks p) (misfit? (places p)) := by
  rcases hstop : misfit? (places p) with _ | place
  · rw [walkRecord_of_misfit?_eq_none neverRefuses_idle () hstop]
    rfl
  · rw [walkRecord_of_misfit?_eq_some neverRefuses_idle () hstop]
    rfl

/-- **A visitor that refuses a hook of the walk** ends it there. -/
theorem walkRecord_of_refusal {s t : σ} {before after : List Hook} {hook : Hook} {e : Diagnostic}
    (hhooks : (walkRecord idle () p).2 = before ++ hook :: after)
    (hbefore : Accepts visit s before t) (hhook : (outcome (visit hook) t).1 = .error e) :
    walkRecord visit s p = (.error e, before) := by
  have hrefused : outcome (visit hook) t = (.error e, (outcome (visit hook) t).2) :=
    Prod.ext hhook rfl
  rw [walkRecord_idle] at hhooks
  rw [walkRecord, walk_eq, follow, hhooks, outcome_bind,
    outcome_forM_recording_error hbefore hrefused]

end Walk

/-- **The protocol of a walk.** A visitor that never refuses sees the whole listing of the pipeline,
and the walk succeeds, exactly when every source is the first and every delivery the last node of
the top-level chain; otherwise the walk refuses the first node for which this fails, with its kind,
position and depth, and the visitor has seen what comes before that node. A visitor that accepts the
first `k` of these hooks and refuses the next one ends the walk with its own refusal, and has seen
these `k`. -/
theorem walk_records_listing {σ : Type} (visit : Visitor Diagnostic σ) (s : σ) (p : Pipeline) :
    (NeverRefuses visit →
      (walkRecord visit s p = (.ok (), hooks p) ↔ ∀ place ∈ places p, place.Fits) ∧
      ((¬∀ place ∈ places p, place.Fits) → ∃ place d, FirstMisfit (places p) place ∧
        walkRecord visit s p = (.error d, place.before) ∧
        place.before ++ [place.entering] <+: hooks p ∧ d.code = "PIPE-PROTO-001" ∧
        d.message = "unexpected " ++ place.node.kind.label ++ " node at position "
          ++ toString place.index ++ " of nesting level " ++ toString place.depth)) ∧
    ∀ k hook t e, (walkRecord idle () p).2[k]? = some hook →
      Accepts visit s ((walkRecord idle () p).2.take k) t → (outcome (visit hook) t).1 = .error e →
      walkRecord visit s p = (.error e, (walkRecord idle () p).2.take k) := by
  refine ⟨fun hnever => ?_, fun k hook t e hk haccepts hrefuses => ?_⟩
  · rw [← misfit?_eq_none_iff]
    rcases hstop : misfit? (places p) with _ | place
    · exact ⟨iff_of_true (walkRecord_of_misfit?_eq_none hnever s hstop) rfl,
        fun h => absurd rfl h⟩
    · have hrecord := walkRecord_of_misfit?_eq_some hnever s hstop
      have hmem : place ∈ places p := List.mem_of_find?_eq_some hstop
      refine ⟨iff_of_false ?_ (by simp), fun _ => ?_⟩
      · rw [hrecord]
        simp
      · exact ⟨place, _, misfit?_eq_some_iff.mp hstop, hrecord, begins_of_mem_places hmem, rfl, rfl⟩
  · obtain ⟨hlt, hget⟩ := List.getElem?_eq_some_iff.mp hk
    have hsplit : (walkRecord idle () p).2 = (walkRecord idle () p).2.take k
        ++ hook :: (walkRecord idle () p).2.drop (k + 1) := by
      rw [← hget, ← List.drop_eq_getElem_cons hlt, List.take_append_drop]
    exact walkRecord_of_refusal hsplit haccepts hrefuses

/-- A pipeline that delivers inside a fan-out, and again at its end. -/
def strayDelivery : Pipeline :=
  [.source ⟨⟨"orders", "bus:orders"⟩, [], "Order"⟩,
    .fanOut [.call ⟨⟨"price", "fn:price"⟩, 1⟩, .deliver ⟨.queue ⟨"reply", "queue:reply"⟩, "Price"⟩],
    .deliver ⟨.queue ⟨"reply", "queue:reply"⟩, "Price"⟩]

/-- What the visitor below refuses with. -/
def enoughSeen : Diagnostic :=
  { category := .unknown, code := "TRACE-STOP", message := "enough seen" }

/-- A visitor that counts the hooks it accepts and refuses the one after the first `limit`. -/
def impatient (limit : Nat) : Visitor Diagnostic Nat := fun _ => do
  let seen ← get
  if seen = limit then throw enoughSeen
  set (seen + 1)

theorem walk_strayDelivery :
    NeverRefuses idle ∧ (¬∀ place ∈ places strayDelivery, place.Fits) ∧
      (∃ d, walkRecord idle () strayDelivery = (.error d, (hooks strayDelivery).take 6) ∧
        d.code = "PIPE-PROTO-001" ∧
        d.message = "unexpected Yield node at position 1 of nesting level 1") ∧
      walkRecord (impatient 4) 0 strayDelivery =
        (.error enoughSeen, (hooks strayDelivery).take 4) := by
  obtain ⟨hidle, -⟩ := walk_records_listing idle () strayDelivery
  obtain ⟨-, hrefuse⟩ := walk_records_listing (impatient 4) 0 strayDelivery
  have hmisfit : ¬∀ place ∈ places strayDelivery, place.Fits := by decide
  obtain ⟨place, d, hfirst, hrecord, -, hcode, hmessage⟩ := (hidle neverRefuses_idle).2 hmisfit
  -- the delivery in the fan-out is the first node that does not fit
  obtain rfl : _ = place := Option.some.inj (misfit?_eq_some_iff.mpr hfirst)
  have hlist : (walkRecord idle () strayDelivery).2 = (hooks strayDelivery).take 6 :=
    congrArg Prod.snd hrecord
  refine ⟨neverRefuses_idle, hmisfit, ⟨d, hrecord, hcode, hmessage⟩, ?_⟩
  have hseen := hrefuse 4 _ 4 enoughSeen rfl rfl rfl
  rw [hlist] at hseen
  exact hseen

end EventFlow
