import EventFlow.Proofs.Machine.Compile

/-!
# Hollow fan-outs are neutral

A fan-out that holds nothing but such fan-outs is **hollow**: it runs nothing, and wherever one is
put into a pipeline, the pipeline compiles as before (`compile_insert_hollow`). The two places where
it is not so are those that a source and a delivery claim for themselves, the beginning and the end
of the top-level chain.

Two readings of a pipeline decide what becomes of it, and neither sees a hollow fan-out.

* **The layout** takes it for nothing: no state, no name, and the path as it was.
* **The violations** are another matter, for a node put into a chain moves those behind it and
  changes what the fan-outs around it hold. So the sites are reduced to their `Mark`s, which keep of
  a position only whether it is the right one, and of a fan-out only how it begins and what it is
  called. A hollow fan-out leaves no mark, and the codes of the violations are read off the marks
  (`map_code_violationsFrom`).
-/

namespace EventFlow

/-- **A hollow fan-out**: it holds hollow fan-outs alone, or nothing. -/
inductive Node.Hollow : Node → Prop
  | fanOut {nodes : List Node} (h : ∀ node ∈ nodes, node.Hollow) : Hollow (.fanOut nodes)

theorem Node.Hollow.hasCall {node : Node} (h : node.Hollow) : node.hasCall = false := by
  induction h with
  | fanOut _ ih =>
    rw [Node.hasCall, Bool.eq_false_iff, ne_eq, haveCall_iff]
    rintro ⟨node, hmem, hcall⟩
    exact Bool.false_ne_true ((ih node hmem).symm.trans hcall)

/-! ### Insertions -/

/-- **A node is put into a chain**, at any position of it or of a fan-out in it. -/
inductive Inserted (extra : Node) : List Node → List Node → Prop
  | here (before after : List Node) : Inserted extra (before ++ after) (before ++ extra :: after)
  | inside (before after : List Node) {inner inner' : List Node} (h : Inserted extra inner inner') :
      Inserted extra (before ++ .fanOut inner :: after) (before ++ .fanOut inner' :: after)

/-- **A node is put into a pipeline**, anywhere but in front of the source with which it begins or
behind the delivery with which it ends. -/
inductive InsertedBetween (extra : Node) : Pipeline → Pipeline → Prop
  | here (before after : List Node)
      (hfront : before = [] → after.head?.map Node.kind ≠ some .source)
      (hback : after = [] → before.getLast?.map Node.kind ≠ some .deliver) :
      InsertedBetween extra (before ++ after) (before ++ extra :: after)
  | inside (before after : List Node) {inner inner' : List Node} (h : Inserted extra inner inner') :
      InsertedBetween extra (before ++ .fanOut inner :: after) (before ++ .fanOut inner' :: after)

theorem InsertedBetween.inserted {extra : Node} {p p' : Pipeline}
    (h : InsertedBetween extra p p') : Inserted extra p p' := by
  cases h with
  | here before after => exact .here before after
  | inside before after h => exact .inside before after h

/-- A pipeline begins with the source with which it began. -/
theorem InsertedBetween.head?_eq_source_iff {extra : Node} (hextra : extra.Hollow)
    {p p' : Pipeline} (h : InsertedBetween extra p p') (s : Source) :
    p'.head? = some (.source s) ↔ p.head? = some (.source s) := by
  obtain ⟨-⟩ := hextra
  cases h with
  | here before after hfront =>
    cases before with
    | nil =>
      refine iff_of_false (by simp) fun hsource => hfront rfl ?_
      rw [List.nil_append] at hsource
      simp [hsource, Node.kind]
    | cons node before => simp
  | inside before after h => cases before <;> simp

section Chains

variable {extra : Node} {nodes nodes' : List Node}

theorem haveCall_append (nodes nodes' : List Node) :
    haveCall (nodes ++ nodes') = (haveCall nodes || haveCall nodes') := by
  induction nodes with
  | nil => rfl
  | cons node nodes ih => rw [List.cons_append, haveCall, haveCall, ih, Bool.or_assoc]

theorem Inserted.haveCall_eq (hextra : extra.hasCall = false) (h : Inserted extra nodes nodes') :
    haveCall nodes' = haveCall nodes := by
  induction h with
  | here before after => simp [haveCall_append, haveCall, hextra]
  | inside before after _ ih => simp [haveCall_append, haveCall, Node.hasCall, ih]

theorem Inserted.openingCall?_eq (hextra : extra.hasCall = false)
    (h : Inserted extra nodes nodes') : openingCall? nodes' = openingCall? nodes := by
  cases h with
  | here before after => simp [openingCall?, List.find?_append, hextra]
  | @inside before after inner inner' h =>
    have hcall : Node.hasCall (.fanOut inner') = Node.hasCall (.fanOut inner) :=
      h.haveCall_eq hextra
    rcases hbefore : before.find? Node.hasCall with _ | node
    · cases hinner : Node.hasCall (.fanOut inner) <;>
        simp [openingCall?, List.find?_append, hbefore, hcall, hinner]
    · simp [openingCall?, List.find?_append, hbefore]

end Chains

namespace Machine

section Layout

variable {extra : Node} {nodes nodes' : List Node}

theorem layNode_of_hollow (options : Options) (read : Path) (h : extra.Hollow) :
    layNode options read extra = [] := by
  have hcall := h.hasCall
  obtain ⟨-⟩ := h
  exact if_neg (by simpa [Node.hasCall] using hcall)

/-- **The layout does not see a hollow fan-out.** -/
theorem layNodes_of_inserted (options : Options) (hextra : extra.Hollow)
    (h : Inserted extra nodes nodes') (read : Path) :
    layNodes options read nodes' = layNodes options read nodes := by
  induction h generalizing read with
  | here before after =>
    have hread (read : Path) : readAfter read extra = read := if_neg (by simp [hextra.hasCall])
    rw [layNodes_append, layNodes_append, layNodes, layNode_of_hollow options _ hextra, hread,
      List.nil_append]
  | @inside before after inner inner' h ih =>
    have hcall := h.haveCall_eq hextra.hasCall
    have hnode (read : Path) :
        layNode options read (.fanOut inner') = layNode options read (.fanOut inner) := by
      simp only [layNode, fanOutOver, hcall, ih .root, h.openingCall?_eq hextra.hasCall]
    have hread (read : Path) :
        readAfter read (.fanOut inner') = readAfter read (.fanOut inner) := by
      cases hinner : haveCall inner <;> simp [readAfter, Node.hasCall, hcall, hinner]
    rw [layNodes_append, layNodes_append, layNodes, layNodes, hnode, hread]

/-- Nor does the name of a fan-out around it. -/
theorem fanOutId_of_inserted (hextra : extra.Hollow) (h : Inserted extra nodes nodes') :
    fanOutId nodes' = fanOutId nodes := by
  have hlay := layNodes_of_inserted {} hextra h .root
  rw [fanOutId, fanOutId, ← joinedIds_layNodes {} .root, hlay, joinedIds_layNodes]

end Layout

/-! ### Marks -/

/-- **What of a site decides what is wrong at it**, and later at others. -/
inductive Mark where
  | source (inPlace : Bool)
  | call (call : Call)
  /-- The end of a fan-out in which a function is called: whether a call opens it, and its name. -/
  | fanOut (opened : Bool) (id : String)
  | deliver (inPlace : Bool)

/-- The mark of a site; the end of a fan-out in which nothing is called leaves none. -/
def Site.mark? : Site → Option Mark
  | .source depth index => some (.source (decide (depth = 0 ∧ index = 0)))
  | .call c => some (.call c)
  | .fanOutEnd nodes =>
    if haveCall nodes then some (.fanOut (openingCall? nodes).isSome (fanOutId nodes)) else none
  | .deliver depth _ isLast => some (.deliver (decide (depth = 0 ∧ isLast)))

namespace Mark

/-- Whether a function is called. -/
def calls (function : String) : Mark → Bool
  | call c => function == c.function.id
  | _ => false

/-- Whether a fan-out of some name ends. -/
def ends (id : String) : Mark → Bool
  | fanOut _ id' => id == id'
  | _ => false

/-- Whether something runs. -/
def runs : Mark → Bool
  | call _ => true
  | deliver _ => true
  | _ => false

/-- The codes of what is wrong, given the marks before. -/
def codes (earlier : List Mark) : Mark → List String
  | source inPlace => if inPlace then [] else ["PIPE-PROTO-001"]
  | call c =>
    (if c.concurrency = 0 then ["PIPE-VAL-001"] else [])
      ++ (if earlier.any (calls c.function.id) then ["PIPE-STRUCT-004"] else [])
  | fanOut opened id =>
    (if opened then [] else ["PIPE-STRUCT-003"])
      ++ (if earlier.any (ends id) then ["PIPE-STRUCT-004"] else [])
  | deliver inPlace => if inPlace then [] else ["PIPE-PROTO-001"]

/-- The codes of what is wrong at marks one after the other. -/
def codesFrom (earlier : List Mark) : List Mark → List String
  | [] => []
  | mark :: later => mark.codes earlier ++ codesFrom (earlier ++ [mark]) later

end Mark

/-- The marks of some sites. -/
def marksOf (sites : List Site) : List Mark :=
  sites.filterMap Site.mark?

theorem marksOf_append (before after : List Site) :
    marksOf (before ++ after) = marksOf before ++ marksOf after :=
  List.filterMap_append

/-- What is asked of all sites can be asked of the marks, if it can be asked of one. -/
theorem any_eq_any_marksOf {p : Site → Bool} {q : Mark → Bool}
    (h : ∀ site, p site = site.mark?.any q) (sites : List Site) :
    sites.any p = (marksOf sites).any q := by
  induction sites with
  | nil => rfl
  | cons site sites ih =>
    rw [List.any_cons, h, ih]
    cases hmark : site.mark? <;> simp [marksOf, hmark]

theorem callsBefore_eq (function : String) (earlier : List Site) :
    callsBefore function earlier = (marksOf earlier).any (Mark.calls function) := by
  refine any_eq_any_marksOf (fun site => ?_) earlier
  cases site with
  | fanOutEnd nodes => cases hcall : haveCall nodes <;> simp [Site.mark?, hcall, Mark.calls]
  | _ => rfl

theorem fanOutsBefore_eq (id : String) (earlier : List Site) :
    fanOutsBefore id earlier = (marksOf earlier).any (Mark.ends id) := by
  refine any_eq_any_marksOf (fun site => ?_) earlier
  cases site with
  | fanOutEnd nodes => cases hcall : haveCall nodes <;> simp [Site.mark?, hcall, Mark.ends]
  | _ => rfl

theorem any_runs_eq (sites : List Site) : sites.any Site.runs = (marksOf sites).any Mark.runs := by
  refine any_eq_any_marksOf (fun site => ?_) sites
  cases site with
  | fanOutEnd nodes =>
    cases hcall : haveCall nodes <;> simp [Site.mark?, hcall, Site.runs, Mark.runs]
  | _ => rfl

theorem map_code_violationsAt (earlier : List Site) (site : Site) :
    (violationsAt earlier site).map Violation.code =
      site.mark?.elim [] (Mark.codes (marksOf earlier)) := by
  cases site with
  | source depth index =>
    by_cases h : depth = 0 ∧ index = 0 <;>
      simp [violationsAt, Site.mark?, Mark.codes, h, Violation.code]
  | call c =>
    by_cases hbound : c.concurrency = 0 <;>
      cases hcalled : callsBefore c.function.id earlier <;>
        simp [violationsAt, Site.mark?, Mark.codes, ← callsBefore_eq, hbound, hcalled,
          Violation.code]
  | fanOutEnd nodes =>
    cases hcall : haveCall nodes
    · simp [violationsAt, Site.mark?, hcall]
    · cases hopened : (openingCall? nodes).isSome <;>
        cases hended : fanOutsBefore (fanOutId nodes) earlier <;>
          simp [violationsAt, Site.mark?, Mark.codes, ← fanOutsBefore_eq, hcall, hopened, hended,
            Violation.code]
  | deliver depth index isLast =>
    by_cases h : depth = 0 ∧ isLast <;>
      simp [violationsAt, Site.mark?, Mark.codes, h, Violation.code]

/-- **The codes of the violations are read off the marks.** -/
theorem map_code_violationsFrom (earlier sites : List Site) :
    (violationsFrom earlier sites).map Violation.code =
      Mark.codesFrom (marksOf earlier) (marksOf sites) := by
  induction sites generalizing earlier with
  | nil => rfl
  | cons site sites ih =>
    rw [violationsFrom, List.map_append, map_code_violationsAt, ih, marksOf_append]
    cases hmark : site.mark? <;> simp [marksOf, hmark, Mark.codesFrom]

/-- Pipelines with the same marks and the same beginning have the same things wrong with them. -/
theorem map_code_violations_eq {p p' : Pipeline}
    (hmarks : marksOf (sites 0 0 p') = marksOf (sites 0 0 p))
    (hsource : p'.head?.map Node.kind = some .source ↔ p.head?.map Node.kind = some .source) :
    (violations p').map Violation.code = (violations p).map Violation.code := by
  simp only [violations, List.map_append, map_code_violationsFrom, any_runs_eq, hmarks, hsource]

/-! ### The marks of an insertion -/

section Marks

variable {extra : Node} {nodes nodes' : List Node}

/-- The position of a node matters to its marks if the node is a source or a delivery of the
top-level chain. -/
theorem marksOf_sitesOfNode_eq {depth index index' : Nat} {isLast isLast' : Bool} {node : Node}
    (hsource : depth = 0 → node.kind = .source → (index = 0 ↔ index' = 0))
    (hdeliver : depth = 0 → node.kind = .deliver → isLast = isLast') :
    marksOf (sitesOfNode depth index isLast node) =
      marksOf (sitesOfNode depth index' isLast' node) := by
  cases node with
  | source s =>
    have hplace : depth = 0 ∧ index = 0 ↔ depth = 0 ∧ index' = 0 :=
      and_congr_right fun hdepth => hsource hdepth rfl
    simp [marksOf, sitesOfNode, Site.mark?, hplace]
  | call c => rfl
  | fanOut nodes => rfl
  | deliver d =>
    have hplace : depth = 0 ∧ isLast = true ↔ depth = 0 ∧ isLast' = true :=
      and_congr_right fun hdepth => by rw [hdeliver hdepth rfl]
    simp [marksOf, sitesOfNode, Site.mark?, hplace]

/-- A chain that is moved leaves its marks, unless it moves a source to or from the beginning of
the pipeline. -/
theorem marksOf_sites_shift (depth index index' : Nat) (nodes : List Node)
    (h : depth = 0 → nodes.head?.map Node.kind = some .source → (index = 0 ↔ index' = 0)) :
    marksOf (sites depth index nodes) = marksOf (sites depth index' nodes) := by
  induction nodes generalizing index index' with
  | nil => rfl
  | cons node nodes ih =>
    have hnode : marksOf (sitesOfNode depth index nodes.isEmpty node) =
        marksOf (sitesOfNode depth index' nodes.isEmpty node) :=
      marksOf_sitesOfNode_eq (fun hdepth hkind => h hdepth (by simp [hkind])) fun _ _ => rfl
    have hnodes := ih (index + 1) (index' + 1) fun _ _ => by simp
    rw [sites, sites, marksOf_append, marksOf_append, hnode, hnodes]

/-- **A hollow fan-out leaves no mark.** -/
theorem marksOf_sitesOfNode_of_hollow (hextra : extra.Hollow) (depth index : Nat) (isLast : Bool) :
    marksOf (sitesOfNode depth index isLast extra) = [] := by
  induction hextra generalizing depth index isLast with
  | @fanOut nodes h ih =>
    have hinner (depth index : Nat) : marksOf (sites depth index nodes) = [] := by
      clear h
      induction nodes generalizing index with
      | nil => rfl
      | cons node nodes ihnodes =>
        rw [sites, marksOf_append, ih node List.mem_cons_self,
          ihnodes fun node hmem => ih node (List.mem_cons_of_mem _ hmem)]
        rfl
    have hcall : haveCall nodes = false := (Node.Hollow.fanOut h).hasCall
    rw [sitesOfNode, marksOf_append, hinner]
    simp [marksOf, Site.mark?, hcall]

/-- **Put into a chain**, a hollow fan-out leaves the marks as they are: what stands behind it moves
by one position, and what stood last need not stand last any more. -/
theorem marksOf_sites_insert (hextra : extra.Hollow) (depth index : Nat) (before after : List Node)
    (hfront : depth = 0 → index = 0 → before = [] → after.head?.map Node.kind ≠ some .source)
    (hback : depth = 0 → after = [] → before.getLast?.map Node.kind ≠ some .deliver) :
    marksOf (sites depth index (before ++ extra :: after)) =
      marksOf (sites depth index (before ++ after)) := by
  induction before generalizing index with
  | nil =>
    rw [List.nil_append, List.nil_append, sites, marksOf_append,
      marksOf_sitesOfNode_of_hollow hextra, List.nil_append]
    refine marksOf_sites_shift depth (index + 1) index after fun hdepth hsource => ?_
    exact iff_of_false (Nat.succ_ne_zero index) fun hindex => hfront hdepth hindex rfl hsource
  | cons node before ih =>
    have hnodes := ih (index + 1) (fun _ hindex => absurd hindex (Nat.succ_ne_zero index))
      fun hdepth hafter hdeliver => hback hdepth hafter (by
        rw [List.getLast?_cons]
        cases hlast : before.getLast? <;> simp_all)
    have hnode : marksOf (sitesOfNode depth index (before ++ extra :: after).isEmpty node) =
        marksOf (sitesOfNode depth index (before ++ after).isEmpty node) := by
      -- only the node right before the new one can lose its last place, and it is no delivery
      refine marksOf_sitesOfNode_eq (fun _ _ => Iff.rfl) fun hdepth hdeliver => ?_
      rw [Bool.eq_iff_iff, List.isEmpty_iff, List.isEmpty_iff]
      refine iff_of_false (by simp) fun hlast => ?_
      obtain ⟨rfl, rfl⟩ := List.append_eq_nil_iff.mp hlast
      exact hback hdepth rfl (by simp [hdeliver])
    rw [List.cons_append, List.cons_append, sites, sites, marksOf_append, marksOf_append, hnode,
      hnodes]

/-- A fan-out in a chain leaves the marks of another in its place if they end and hold alike. -/
theorem marksOf_sites_replace {inner inner' : List Node} (depth index : Nat)
    (before after : List Node)
    (hinner : marksOf (sites (depth + 1) 0 inner') = marksOf (sites (depth + 1) 0 inner))
    (hend : (Site.fanOutEnd inner').mark? = (Site.fanOutEnd inner).mark?) :
    marksOf (sites depth index (before ++ .fanOut inner' :: after)) =
      marksOf (sites depth index (before ++ .fanOut inner :: after)) := by
  induction before generalizing index with
  | nil =>
    have hsite : marksOf [.fanOutEnd inner'] = marksOf [.fanOutEnd inner] := by
      simp only [marksOf, List.filterMap_cons, hend]
    simp only [List.nil_append, sites, sitesOfNode, marksOf_append, hinner, hsite]
  | cons node before ih =>
    have hlast : (before ++ .fanOut inner' :: after).isEmpty =
        (before ++ .fanOut inner :: after).isEmpty := by cases before <;> rfl
    rw [List.cons_append, List.cons_append, sites, sites, marksOf_append, marksOf_append, hlast, ih]

theorem mark?_fanOutEnd_of_inserted (hextra : extra.Hollow) (h : Inserted extra nodes nodes') :
    (Site.fanOutEnd nodes').mark? = (Site.fanOutEnd nodes).mark? := by
  simp only [Site.mark?, h.haveCall_eq hextra.hasCall, h.openingCall?_eq hextra.hasCall,
    fanOutId_of_inserted hextra h]

/-- Within a fan-out a hollow one may stand anywhere. -/
theorem marksOf_sites_of_inserted (hextra : extra.Hollow) (h : Inserted extra nodes nodes')
    (depth index : Nat) :
    marksOf (sites (depth + 1) index nodes') = marksOf (sites (depth + 1) index nodes) := by
  induction h generalizing depth index with
  | here before after =>
    exact marksOf_sites_insert hextra (depth + 1) index before after
      (fun hdepth => absurd hdepth (Nat.succ_ne_zero depth))
      fun hdepth => absurd hdepth (Nat.succ_ne_zero depth)
  | inside before after h ih =>
    exact marksOf_sites_replace (depth + 1) index before after (ih (depth + 1) 0)
      (mark?_fanOutEnd_of_inserted hextra h)

theorem marksOf_sites_of_insertedBetween (hextra : extra.Hollow) {p p' : Pipeline}
    (h : InsertedBetween extra p p') : marksOf (sites 0 0 p') = marksOf (sites 0 0 p) := by
  cases h with
  | here before after hfront hback =>
    exact marksOf_sites_insert hextra 0 0 before after (fun _ _ => hfront) fun _ => hback
  | inside before after h =>
    exact marksOf_sites_replace 0 0 before after (marksOf_sites_of_inserted hextra h 0 0)
      (mark?_fanOutEnd_of_inserted hextra h)

end Marks

/-! ### Neutrality -/

theorem head?_kind_eq_source_iff (p : Pipeline) :
    p.head?.map Node.kind = some .source ↔ ∃ s, p.head? = some (.source s) := by
  rcases p with _ | ⟨_ | _ | _ | _, rest⟩ <;> simp [Node.kind]

theorem map_code_violations_of_insertedBetween {extra : Node} (hextra : extra.Hollow)
    {p p' : Pipeline} (h : InsertedBetween extra p p') :
    (violations p').map Violation.code = (violations p).map Violation.code := by
  refine map_code_violations_eq (marksOf_sites_of_insertedBetween hextra h) ?_
  simp only [head?_kind_eq_source_iff, h.head?_eq_source_iff hextra]

/-- The source with which a pipeline begins is no part of its layout. -/
theorem layNodes_source (options : Options) (read : Path) (src : Source) (rest : List Node) :
    layNodes options read (.source src :: rest) = layNodes options read rest :=
  rfl

/-- **Hollow fan-outs are neutral.** Put anywhere into a pipeline – into its chain, but not in front
of the source or behind the delivery at its ends, or into a fan-out at any depth – a hollow fan-out
leaves what compiling comes to: the same artifact, or a refusal with the same code. -/
theorem compile_insert_hollow (options : Options) {extra : Node} (hextra : extra.Hollow)
    {p p' : Pipeline} (h : InsertedBetween extra p p') :
    (∃ compiled, compile options p = .ok compiled ∧ compile options p' = .ok compiled) ∨
      ∃ e e', compile options p = .error e ∧ compile options p' = .error e' ∧
        e'.diagnostic.code = e.diagnostic.code := by
  have hcodes := map_code_violations_of_insertedBetween hextra h
  rcases hp : violations p with _ | ⟨v, vs⟩
  · -- nothing is wrong with either, and they are laid out alike
    have hp' : violations p' = [] := by simpa [hp] using hcodes
    obtain ⟨src, rest, rfl⟩ := exists_source_of_violations_eq_nil hp
    have hhead := (h.head?_eq_source_iff hextra src).mpr rfl
    obtain ⟨rest', rfl⟩ := List.head?_eq_some_iff.mp hhead
    have hlay := layNodes_of_inserted options hextra h.inserted .detail
    rw [layNodes_source, layNodes_source] at hlay
    refine .inl ⟨_, compile_eq_ok_iff.mpr ⟨src, rest, rfl, hp, rfl⟩, ?_⟩
    exact compile_eq_ok_iff.mpr ⟨src, rest', rfl, hp', by rw [hlay]⟩
  · obtain ⟨v', vs', hp', hcode, -⟩ : ∃ v' vs', violations p' = v' :: vs' ∧
        v'.code = v.code ∧ vs'.map Violation.code = vs.map Violation.code := by
      simpa [hp, List.map_eq_cons_iff] using hcodes
    refine .inr ⟨v.error, v'.error, compile_of_violations_eq_cons options hp,
      compile_of_violations_eq_cons options hp', ?_⟩
    rw [v.code_error, v'.code_error, hcode]

/-- Fan-outs within a fan-out, and nothing else. -/
def hollow : Node :=
  .fanOut [.fanOut [], .fanOut [.fanOut [], .fanOut []]]

theorem hollow_hollow : hollow.Hollow := by
  have hempty : Node.Hollow (.fanOut []) := .fanOut (by simp)
  have hpair : Node.Hollow (.fanOut [.fanOut [], .fanOut []]) := .fanOut (by simpa using hempty)
  exact .fanOut (by simpa using ⟨hempty, hpair⟩)

/-- The pipeline `orders` with a hollow fan-out as the first node of its innermost fan-out. -/
def ordersWithHollow : Pipeline :=
  [.source ⟨⟨"orders", "bus:orders"⟩, [], "Order"⟩, .fanOut [.fanOut []],
    .call ⟨⟨"lines", "fn:lines"⟩, 1⟩,
    .fanOut [.fanOut [], .call ⟨⟨"price", "fn:price"⟩, 3⟩,
      .fanOut [hollow, .call ⟨⟨"tax", "fn:tax"⟩, 2⟩, .fanOut []]],
    .deliver ⟨.eventBus ⟨"totals", "bus:totals"⟩ "shop" [], "Total"⟩]

theorem insertedBetween_orders : InsertedBetween hollow orders ordersWithHollow :=
  .inside [_, _, _] [_] (.inside [_, _] [] (.here [] [_, _]))

/-- Both outcomes occur: with a hollow fan-out deep inside, `orders` compiles to what it compiled
to; with one right behind its source, `repeatedCall` is refused as it was. -/
theorem compile_ordersWithHollow :
    (∃ compiled, compile {} orders = .ok compiled ∧
      compile {} ordersWithHollow = .ok compiled) ∧
    ∃ e e', compile {} repeatedCall = .error e ∧
      compile {} (repeatedCall.take 1 ++ hollow :: repeatedCall.drop 1) = .error e' ∧
      e'.diagnostic.code = e.diagnostic.code := by
  constructor
  · obtain ⟨src, rest, horders⟩ := exists_source_of_violations_eq_nil violations_orders
    have hok : compile {} orders = .ok _ :=
      compile_eq_ok_iff.mpr ⟨src, rest, horders, violations_orders, rfl⟩
    rcases compile_insert_hollow {} hollow_hollow insertedBetween_orders with hboth | ⟨e, e', he, -⟩
    · exact hboth
    · exact absurd (hok.symm.trans he) (by simp)
  · have hviolations : violations repeatedCall =
        [.zeroConcurrency "price", .duplicateState "Mapprice"] := by decide
    have hinserted : InsertedBetween hollow repeatedCall
        (repeatedCall.take 1 ++ hollow :: repeatedCall.drop 1) :=
      .here (repeatedCall.take 1) (repeatedCall.drop 1) (by simp [repeatedCall])
        (by simp [repeatedCall])
    rcases compile_insert_hollow {} hollow_hollow hinserted with ⟨compiled, hok, -⟩ | hboth
    · rw [compile_of_violations_eq_cons {} hviolations] at hok
      exact absurd hok (by simp)
    · exact hboth

end Machine

end EventFlow
