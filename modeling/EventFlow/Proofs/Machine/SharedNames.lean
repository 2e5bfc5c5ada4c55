import EventFlow.Proofs.Machine.Compile
import EventFlow.Proofs.Pipeline.Calls

/-!
# When two fan-outs share a name

The name of a fan-out is made from the names of the states in it, put together without anything in
between, through the first digits of a digest. So even where digests tell texts apart, two fan-outs
may share a name: the states `MapA`, `MapB` and the state `MapAMapB` give one text.

This is the only way in which it happens. Names in a text begin with one of two marks, `Map` and
`Seq`, and no mark begins inside another, so the end of the first name can be mistaken only for a
mark inside a longer one: the name of one function must go on with a mark where the other one ends
(`Naming.Continues`). Where functions are called once and none of their names continues another,
nothing is refused for a name that occurs twice (`head_violations_ne_duplicateState`).
-/

namespace EventFlow.Machine

namespace Naming

/-! ### Texts made of names -/

/-- A text that is empty or begins with the mark of a call or of a fan-out. -/
def Marked (cs : List Char) : Prop :=
  cs = [] ∨ ∃ rest, cs = 'M' :: 'a' :: 'p' :: rest ∨ cs = 'S' :: 'e' :: 'q' :: rest

/-- **A name continues another one** when it goes on with a mark where the other one ends. -/
def Continues (id id' : String) : Prop :=
  ∃ rest, id' = id ++ "Map" ++ rest ∨ id' = id ++ "Seq" ++ rest

theorem continues_iff {id id' : String} :
    Continues id id' ↔
      (id ++ "Map").toList <+: id'.toList ∨ (id ++ "Seq").toList <+: id'.toList := by
  have hrest (mark : String) :
      (∃ rest, id' = id ++ mark ++ rest) ↔ (id ++ mark).toList <+: id'.toList := by
    constructor
    · rintro ⟨rest, rfl⟩
      exact ⟨rest.toList, by simp⟩
    · rintro ⟨cs, hcs⟩
      exact ⟨String.ofList cs, String.toList_inj.mp (by simp [← hcs])⟩
  rw [Continues, exists_or, hrest, hrest]

instance (id id' : String) : Decidable (Continues id id') :=
  decidable_of_iff _ continues_iff.symm

theorem marked_invoke (function : String) : Marked (invoke function).toList :=
  .inr ⟨function.toList, .inl (by simp [invoke])⟩

theorem marked_fanOut (names : String) : Marked (fanOut names).toList :=
  .inr ⟨_, .inr (by rw [fanOut, String.toList_append]; rfl)⟩

theorem Marked.append {cs cs' : List Char} (h : Marked cs) (h' : Marked cs') :
    Marked (cs ++ cs') := by
  rcases h with rfl | ⟨rest, rfl | rfl⟩
  · exact h'
  · exact .inr ⟨rest ++ cs', .inl rfl⟩
  · exact .inr ⟨rest ++ cs', .inr rfl⟩

/-- Names with marks give a text with a mark. -/
theorem marked_join {ids : List String} (h : ∀ id ∈ ids, Marked id.toList) :
    Marked (String.join ids).toList := by
  induction ids with
  | nil => exact .inl (by simp)
  | cons id ids ih =>
    rw [String.join_cons, String.toList_append]
    exact (h id List.mem_cons_self).append (ih fun id' hid' => h id' (List.mem_cons_of_mem _ hid'))

/-- **A mark does not begin inside another one**: what stands in front of a text with a mark is
nothing, or begins with a mark itself. -/
theorem Marked.of_append {cs cs' : List Char} (h : Marked (cs ++ cs')) (h' : Marked cs') :
    Marked cs := by
  rcases cs with _ | ⟨c, _ | ⟨d, _ | ⟨e, rest⟩⟩⟩
  · exact .inl rfl
  · -- one letter of a mark: the text behind it would begin with its second letter
    rcases h' with rfl | ⟨rest, rfl | rfl⟩ <;> simp [Marked] at h
  · rcases h' with rfl | ⟨rest, rfl | rfl⟩ <;> simp [Marked] at h
  · rcases h with h | ⟨_, h | h⟩
    · exact absurd h (List.cons_ne_nil _ _)
    · obtain ⟨rfl, rfl, rfl, -⟩ : c = 'M' ∧ d = 'a' ∧ e = 'p' ∧ _ := by simpa using h
      exact .inr ⟨rest, .inl rfl⟩
    · obtain ⟨rfl, rfl, rfl, -⟩ : c = 'S' ∧ d = 'e' ∧ e = 'q' ∧ _ := by simpa using h
      exact .inr ⟨rest, .inr rfl⟩

/-- What a name goes on with after another one is a mark if it is anything. -/
theorem eq_or_continues_of_append {id id' : String} {cs : List Char}
    (h : id'.toList = id.toList ++ cs) (hcs : Marked cs) : id = id' ∨ Continues id id' := by
  rcases hcs with rfl | ⟨rest, rfl | rfl⟩
  · exact .inl (String.toList_inj.mp (by simp [h]))
  · exact .inr ⟨String.ofList rest, .inl (String.toList_inj.mp (by simp [h]))⟩
  · exact .inr ⟨String.ofList rest, .inr (String.toList_inj.mp (by simp [h]))⟩

/-- **Texts that go on with a mark begin alike** only if they are the same or one continues the
other. -/
theorem eq_or_continues {id id' : String} {cs cs' : List Char}
    (h : id.toList ++ cs = id'.toList ++ cs') (hcs : Marked cs) (hcs' : Marked cs') :
    id = id' ∨ Continues id id' ∨ Continues id' id := by
  rcases List.append_eq_append_iff.mp h with ⟨between, hid, rfl⟩ | ⟨between, hid, rfl⟩
  · exact (eq_or_continues_of_append hid (hcs.of_append hcs')).imp_right .inl
  · rcases eq_or_continues_of_append hid (hcs'.of_append hcs) with heq | hcontinues
    · exact .inl heq.symm
    · exact .inr (.inr hcontinues)

end Naming

/-! ### The text of a fan-out -/

/-- The text from which the name of a fan-out is made. -/
def fanOutText (nodes : List Node) : String :=
  String.join (stateIds nodes)

/-- The states of a plain chain have names with marks. -/
theorem marked_of_mem_stateIds {nodes : List Node} (h : PlainChain nodes) :
    ∀ id ∈ stateIds nodes, Naming.Marked id.toList := by
  induction nodes with
  | nil => exact fun id hid => absurd hid List.not_mem_nil
  | cons node nodes ih =>
    intro id hid
    rcases List.mem_append.mp hid with hnode | hnodes
    · cases node with
      | source s => exact h.1.elim
      | call c =>
        rw [List.mem_singleton.mp hnode]
        exact Naming.marked_invoke _
      | fanOut inner =>
        rw [stateIdsOfNode] at hnode
        split at hnode
        · rw [List.mem_singleton.mp hnode]
          exact Naming.marked_fanOut _
        · exact absurd hnode List.not_mem_nil
      | deliver d => exact h.1.elim
    · exact ih h.2 id hnodes

/-- **The text of a fan-out begins with the name of the function that opens it**, and goes on with a
mark if it goes on. -/
theorem exists_fanOutText_eq {nodes : List Node} {c : Call} (h : PlainChain nodes)
    (hopening : openingCall? nodes = some c) :
    ∃ cs, Naming.Marked cs ∧
      (fanOutText nodes).toList = "Map".toList ++ (c.function.id.toList ++ cs) := by
  induction nodes with
  | nil => simp [openingCall?] at hopening
  | cons node nodes ih =>
    cases node with
    | source s => exact h.1.elim
    | call c' =>
      obtain rfl : c' = c := Option.some.inj hopening
      refine ⟨_, Naming.marked_join (marked_of_mem_stateIds h.2), ?_⟩
      simp [fanOutText, stateIds, stateIdsOfNode, Naming.invoke]
    | fanOut inner =>
      by_cases hcall : haveCall inner
      · simp [openingCall?, Node.hasCall, hcall] at hopening
      · have hrest : openingCall? nodes = some c := by
          simpa [openingCall?, Node.hasCall, hcall] using hopening
        simpa [fanOutText, stateIds, stateIdsOfNode, hcall] using ih h.2 hrest
    | deliver d => exact h.1.elim

/-- **Fan-outs with one text** are opened by one function, or the name of one opening function
continues the name of the other. -/
theorem eq_or_continues_of_fanOutText_eq {nodes nodes' : List Node} {c c' : Call}
    (h : PlainChain nodes) (h' : PlainChain nodes') (hopening : openingCall? nodes = some c)
    (hopening' : openingCall? nodes' = some c') (htext : fanOutText nodes = fanOutText nodes') :
    c.function.id = c'.function.id ∨ Naming.Continues c.function.id c'.function.id ∨
      Naming.Continues c'.function.id c.function.id := by
  obtain ⟨cs, hcs, heq⟩ := exists_fanOutText_eq h hopening
  obtain ⟨cs', hcs', heq'⟩ := exists_fanOutText_eq h' hopening'
  rw [htext, heq'] at heq
  exact Naming.eq_or_continues (List.append_cancel_left heq).symm hcs hcs'

/-! ### Calls and fan-outs at sites -/

/-- The call at a site. -/
def Site.call? : Site → Option Call
  | .call c => some c
  | _ => none

/-- What the fan-out runs that ends at a site. -/
def Site.fanOut? : Site → Option (List Node)
  | .fanOutEnd nodes => some nodes
  | _ => none

mutual

theorem filterMap_call?_sitesOfNode :
    ∀ (node : Node) (depth index : Nat) (isLast : Bool),
      (sitesOfNode depth index isLast node).filterMap Site.call? = callsOfNode node
  | .source _, _, _, _ => rfl
  | .call _, _, _, _ => rfl
  | .fanOut nodes, depth, _, _ => by
    rw [sitesOfNode, callsOfNode, List.filterMap_append,
      filterMap_call?_sites nodes (depth + 1) 0]
    exact List.append_nil _
  | .deliver _, _, _, _ => rfl

/-- A walk comes along the calls. -/
theorem filterMap_call?_sites :
    ∀ (nodes : List Node) (depth index : Nat),
      (sites depth index nodes).filterMap Site.call? = calls nodes
  | [], _, _ => rfl
  | node :: nodes, depth, index => by
    rw [sites, calls, List.filterMap_append, filterMap_call?_sitesOfNode node,
      filterMap_call?_sites nodes]

end

mutual

theorem filterMap_fanOut?_sitesOfNode :
    ∀ (node : Node) (depth index : Nat) (isLast : Bool),
      (sitesOfNode depth index isLast node).filterMap Site.fanOut? = fanOutsOfNode node
  | .source _, _, _, _ => rfl
  | .call _, _, _, _ => rfl
  | .fanOut nodes, depth, _, _ => by
    rw [sitesOfNode, fanOutsOfNode, List.filterMap_append,
      filterMap_fanOut?_sites nodes (depth + 1) 0]
    rfl
  | .deliver _, _, _, _ => rfl

/-- A walk comes along the ends of the fan-outs. -/
theorem filterMap_fanOut?_sites :
    ∀ (nodes : List Node) (depth index : Nat),
      (sites depth index nodes).filterMap Site.fanOut? = fanOuts nodes
  | [], _, _ => rfl
  | node :: nodes, depth, index => by
    rw [sites, fanOuts, List.filterMap_append, filterMap_fanOut?_sitesOfNode node,
      filterMap_fanOut?_sites nodes]

end

/-- **The first violation stands at a site**, and nothing is wrong at the sites before it. -/
theorem exists_site_of_violationsFrom_eq_cons {earlier later : List Site} {v : Violation}
    {vs : List Violation} (h : violationsFrom earlier later = v :: vs) :
    ∃ before site after ws, later = before ++ site :: after ∧
      violationsFrom earlier before = [] ∧ violationsAt (earlier ++ before) site = v :: ws := by
  induction later generalizing earlier with
  | nil => simp [violationsFrom] at h
  | cons site later ih =>
    rw [violationsFrom] at h
    rcases hsite : violationsAt earlier site with _ | ⟨w, ws⟩
    · rw [hsite, List.nil_append] at h
      obtain ⟨before, other, after, ws, rfl, hbefore, hother⟩ := ih h
      refine ⟨site :: before, other, after, ws, rfl, ?_, by simpa using hother⟩
      rw [violationsFrom, hsite, hbefore, List.append_nil]
    · obtain ⟨rfl, -⟩ : w = v ∧ _ := by simpa [hsite] using h
      exact ⟨[], site, later, ws, rfl, rfl, by simpa using hsite⟩

/-! ### Names that occur twice -/

/-- **The texts that are hashed in a pipeline**: one for each fan-out that leaves a state. -/
def hashedTexts (p : Pipeline) : List String :=
  ((fanOuts p).filter haveCall).map fanOutText

/-- Texts that the first eight digits of their digests tell apart. -/
def Separated (texts : List String) : Prop :=
  ∀ text ∈ texts, ∀ text' ∈ texts,
    (Digest.hexDigestOfText text).toList.take 8 = (Digest.hexDigestOfText text').toList.take 8 →
      text = text'

instance (texts : List String) : Decidable (Separated texts) :=
  inferInstanceAs (Decidable (∀ text ∈ texts, ∀ text' ∈ texts, _ → text = text'))

/-- Fan-outs with one name have one text, if digests tell texts apart. -/
theorem Separated.fanOutText_eq {p : Pipeline} {nodes nodes' : List Node}
    (h : Separated (hashedTexts p)) (hnodes : nodes ∈ fanOuts p) (hnodes' : nodes' ∈ fanOuts p)
    (hcall : haveCall nodes) (hcall' : haveCall nodes') (hid : fanOutId nodes = fanOutId nodes') :
    fanOutText nodes = fanOutText nodes' := by
  refine h _ ?_ _ ?_ (String.ofList_injective (String.append_right_inj _ |>.mp hid))
  · exact List.mem_map_of_mem (List.mem_filter.mpr ⟨hnodes, hcall⟩)
  · exact List.mem_map_of_mem (List.mem_filter.mpr ⟨hnodes', hcall'⟩)

/-- Nothing is wrong at a site if nothing is wrong at the sites around it. -/
theorem exists_violationsAt_eq_nil {earlier later : List Site} {site : Site}
    (h : violationsFrom earlier later = []) (hsite : site ∈ later) :
    ∃ before, violationsAt before site = [] := by
  obtain ⟨before, after, rfl⟩ := List.append_of_mem hsite
  rw [violationsFrom_append, violationsFrom, List.append_eq_nil_iff, List.append_eq_nil_iff] at h
  exact ⟨_, h.2.1⟩

section

variable {p : Pipeline} {before after : List Site}

/-- Where functions are called once, a call finds no earlier call of its function. -/
theorem callsBefore_eq_false {c : Call} (honce : (calledIds (calls p)).Nodup)
    (hsites : sites 0 0 p = before ++ .call c :: after) :
    callsBefore c.function.id before = false := by
  have hcalls : calledIds (calls p) = calledIds (before.filterMap Site.call?) ++
      c.function.id :: calledIds (after.filterMap Site.call?) := by
    rw [← filterMap_call?_sites p 0 0, hsites, List.filterMap_append, calledIds, List.map_append]
    rfl
  rw [hcalls, List.nodup_append] at honce
  rw [callsBefore, List.any_eq_false]
  intro site hsite
  cases site with
  | call c' =>
    have hmem : c'.function.id ∈ calledIds (before.filterMap Site.call?) :=
      List.mem_map_of_mem (List.mem_filterMap.mpr ⟨_, hsite, rfl⟩)
    have hne := honce.2.2 _ hmem _ List.mem_cons_self
    simpa using Ne.symm hne
  | _ => simp

/-- **A fan-out finds no earlier one of its name** where functions are called once and no name of a
function continues another. -/
theorem fanOutsBefore_eq_false {nodes : List Node} {c : Call}
    (honce : (calledIds (calls p)).Nodup) (hplain : ∀ nodes ∈ fanOuts p, PlainChain nodes)
    (hseparated : Separated (hashedTexts p))
    (hcontinues : ∀ id ∈ calledIds (calls p), ∀ id' ∈ calledIds (calls p),
      ¬Naming.Continues id id')
    (hsites : sites 0 0 p = before ++ .fanOutEnd nodes :: after)
    (hbefore : violationsFrom [] before = []) (hcall : haveCall nodes)
    (hopening : openingCall? nodes = some c) :
    fanOutsBefore (fanOutId nodes) before = false := by
  have hfanOuts : fanOuts p = before.filterMap Site.fanOut? ++
      nodes :: after.filterMap Site.fanOut? := by
    rw [← filterMap_fanOut?_sites p 0 0, hsites, List.filterMap_append]
    rfl
  have hself : openingId? nodes = some c.function.id := by rw [openingId?, hopening]; rfl
  have hopenings := nodup_openingIds honce
  rw [fanOutsBefore, List.any_eq_false]
  intro site hsite
  cases site with
  | fanOutEnd nodes' =>
    intro hsame
    obtain ⟨hcall', hid⟩ : haveCall nodes' ∧ fanOutId nodes = fanOutId nodes' := by
      simpa using hsame
    -- nothing is wrong with the earlier one, so a call opens it, and it is another call
    obtain ⟨_, hnone⟩ := exists_violationsAt_eq_nil hbefore hsite
    obtain ⟨⟨c', hopening'⟩, -⟩ := (violationsAt_fanOutEnd_eq_nil_iff hcall').mp hnone
    have hself' : openingId? nodes' = some c'.function.id := by rw [openingId?, hopening']; rfl
    have hmem' : nodes' ∈ before.filterMap Site.fanOut? :=
      List.mem_filterMap.mpr ⟨_, hsite, rfl⟩
    have hne : c'.function.id ≠ c.function.id := by
      rw [hfanOuts, openingIds, List.filterMap_append, List.filterMap_cons_some hself,
        List.nodup_append] at hopenings
      exact hopenings.2.2 _ (List.mem_filterMap.mpr ⟨_, hmem', hself'⟩) _ List.mem_cons_self
    have hnodes : nodes ∈ fanOuts p := by simp [hfanOuts]
    have hnodes' : nodes' ∈ fanOuts p := by simp [hfanOuts, hmem']
    have hcalled : c.function.id ∈ calledIds (calls p) :=
      mem_calledIds_of_mem_openingIds (List.mem_filterMap.mpr ⟨_, hnodes, hself⟩)
    have hcalled' : c'.function.id ∈ calledIds (calls p) :=
      mem_calledIds_of_mem_openingIds (List.mem_filterMap.mpr ⟨_, hnodes', hself'⟩)
    have htext := hseparated.fanOutText_eq hnodes hnodes' hcall hcall' hid
    rcases eq_or_continues_of_fanOutText_eq (hplain _ hnodes) (hplain _ hnodes') hopening hopening'
      htext with heq | hcontinue | hcontinue
    · exact hne heq.symm
    · exact hcontinues _ hcalled _ hcalled' hcontinue
    · exact hcontinues _ hcalled' _ hcalled hcontinue
  | _ => simp

/-- **Nothing is refused for a name that occurs twice** where functions are called once, digests
tell texts apart and no name of a function continues another. -/
theorem head_violations_ne_duplicateState (honce : (calledIds (calls p)).Nodup)
    (hplain : ∀ nodes ∈ fanOuts p, PlainChain nodes) (hseparated : Separated (hashedTexts p))
    (hcontinues : ∀ id ∈ calledIds (calls p), ∀ id' ∈ calledIds (calls p),
      ¬Naming.Continues id id')
    {id : String} {vs : List Violation} : violations p ≠ .duplicateState id :: vs := by
  intro h
  obtain ⟨ws, hws⟩ : ∃ ws, violationsFrom [] (sites 0 0 p) = .duplicateState id :: ws := by
    rw [violations] at h
    rcases hfrom : violationsFrom [] (sites 0 0 p) with _ | ⟨v, ws⟩
    · rw [hfrom] at h
      split at h <;> split at h <;> simp at h
    · obtain ⟨rfl, -⟩ : v = .duplicateState id ∧ _ := by simpa [hfrom] using h
      exact ⟨ws, rfl⟩
  obtain ⟨before, site, after, ws', hsites, hbefore, hsite⟩ :=
    exists_site_of_violationsFrom_eq_cons hws
  cases site with
  | source depth index =>
    rw [violationsAt] at hsite
    split at hsite <;> simp at hsite
  | call c =>
    rw [violationsAt, List.nil_append, callsBefore_eq_false honce hsites] at hsite
    split at hsite <;> simp at hsite
  | fanOutEnd nodes =>
    rw [violationsAt, List.nil_append] at hsite
    split at hsite
    · next hcall =>
      rcases hopening : openingCall? nodes with _ | c
      · simp [hopening] at hsite
      · simp [hopening, fanOutsBefore_eq_false honce hplain hseparated hcontinues hsites hbefore
          hcall hopening] at hsite
    · simp at hsite
  | deliver depth index isLast =>
    rw [violationsAt] at hsite
    split at hsite <;> simp at hsite

end

/-- A refusal for a name that occurs twice comes from a violation. -/
theorem exists_duplicateState_of_code {options : Options} {p : Pipeline} {e : CompileError}
    (h : compile options p = .error e) (hcode : e.diagnostic.code = "PIPE-STRUCT-004") :
    ∃ id vs, violations p = .duplicateState id :: vs := by
  rcases hviolations : violations p with _ | ⟨v, vs⟩
  · obtain ⟨src, rest, rfl⟩ := exists_source_of_violations_eq_nil hviolations
    rw [compile_of_source, hviolations] at h
    simp at h
  · rw [compile_of_violations_eq_cons options hviolations] at h
    obtain rfl := Except.error.inj h
    rw [Violation.code_error] at hcode
    cases v with
    | duplicateState id => exact ⟨id, vs, rfl⟩
    | _ => simp [Violation.code] at hcode

end EventFlow.Machine
