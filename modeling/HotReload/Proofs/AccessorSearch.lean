import HotReload.Compile.Accessors
import HotReload.Proofs.Tables
import HotReload.Proofs.TreeWalk
/-!
The search for the accessors option.

* `IsFalseInCode` lists the values that generated code takes for false, `IsAccessorsOptions` says
  that a mapping has the option, set to anything else.
* `Judges` says that an answer is a failure just if something is broken, and tells otherwise whether
  something holds. `judges_firstWith`: a search fails just if something broken comes before anything
  that is sought (`ComesFirst`). `Tells` is the case in which nothing is broken.
* `tells_isAccessorsNode`: of a node whose attributes can be read (`HasAttributeList`), it is told
  whether it declares the option.
* `searchNodes_cases`: a search of nodes stops at the first that declares the option, or goes
  through all of them.
* `searchAccessors_complete`: what the search of a compile result finds, and what it looks at.
-/

namespace HotReload

/-! ### Options -/

/-- The values that generated code takes for false. -/
inductive IsFalseInCode : Value → Prop where
  | null : IsFalseInCode .null
  | false : IsFalseInCode (.bool false)
  | zero : IsFalseInCode (.int 0)
  | zeroDouble {x : Double} (h : x.isZero = true) : IsFalseInCode (.float x)
  | nan {x : Double} (h : x.isNaN = true) : IsFalseInCode (.float x)
  | nanObject (identity : ℕ) : IsFalseInCode (.nan identity)
  | empty : IsFalseInCode (.str [])

lemma isTrueInCode_iff {v : Value} : v.isTrueInCode = true ↔ ¬ IsFalseInCode v := by
  rw [← Bool.not_eq_false, not_iff_not]
  constructor
  · intro h
    cases v with
    | null => exact .null
    | bool b =>
        obtain rfl : b = false := h
        exact .false
    | int n =>
        obtain rfl : n = 0 := by simpa [Value.isTrueInCode] using h
        exact .zero
    | float x =>
        cases hnan : x.isNaN with
        | true => exact .nan hnan
        | false => exact .zeroDouble (by simpa [Value.isTrueInCode, hnan] using h)
    | str text =>
        obtain rfl : text = [] := by simpa [Value.isTrueInCode] using h
        exact .empty
    | nan identity => exact .nanObject identity
    | _ => exact absurd h (by simp [Value.isTrueInCode])
  · intro h
    cases h with
    | zeroDouble h => simp [Value.isTrueInCode, h]
    | nan h => simp [Value.isTrueInCode, h]
    | _ => rfl

/-- A mapping of the type of the options. -/
def IsOptions (node : Mapping) : Prop := Mapping.field typeKey node = .str "Options"

/-- The attributes of a mapping are not there, stand for none, or are a list of mappings. -/
def HasAttributeList (node : Mapping) : Prop :=
  (Mapping.field "attributes" node).isTruthy = false ∨
    ∃ attributes : List Mapping, Mapping.field "attributes" node = .list (attributes.map .map)

/-- An attribute is the accessors option, and its value is none that code takes for false. -/
def IsAccessorsAttribute (v : Value) : Prop :=
  ∃ option, v = .map option ∧ Mapping.field "name" option = .str "accessors" ∧
    ¬ IsFalseInCode (Mapping.field "value" option)

/-- A mapping of the type of the options has the accessors option among its attributes. -/
def IsAccessorsOptions (v : Value) : Prop :=
  ∃ node, v = .map node ∧ IsOptions node ∧
    ∃ attributes, Mapping.field "attributes" node = .list attributes ∧
      ∃ option ∈ attributes, IsAccessorsAttribute option

/-! ### Tests -/

/-- An answer that tells whether something holds. -/
def Tells (answer : Except Failure Bool) (p : Prop) : Prop :=
  (answer = .ok true ∧ p) ∨ (answer = .ok false ∧ ¬ p)

lemma Tells.congr {answer : Except Failure Bool} {p q : Prop} (h : Tells answer p) (hiff : p ↔ q) :
    Tells answer q :=
  h.imp (And.imp_right hiff.mp) (And.imp_right (mt hiff.mpr))

lemma tells_ok {b : Bool} {p : Prop} (h : b = true ↔ p) : Tells (.ok b) p := by
  cases b with
  | true => exact .inl ⟨rfl, h.mp rfl⟩
  | false => exact .inr ⟨rfl, fun hp => absurd (h.mpr hp) (by simp)⟩

/-- A lookup in something that has no members or items. -/
def IsLookupFault (failure : Failure) : Prop :=
  failure = .missingMember ∨ failure = .wrongKind

/-- An answer that is a failure just if something is broken, and tells otherwise whether something
holds. -/
def Judges (answer : Except Failure Bool) (broken p : Prop) : Prop :=
  (broken ∧ ∃ failure, IsLookupFault failure ∧ answer = .error failure) ∨
    (¬ broken ∧ Tells answer p)

lemma Judges.congr {answer : Except Failure Bool} {broken broken' p p' : Prop}
    (h : Judges answer broken p) (hbroken : broken ↔ broken') (hp : p ↔ p') :
    Judges answer broken' p' :=
  h.imp (And.imp_left hbroken.mp) (And.imp (mt hbroken.mpr) fun htells => htells.congr hp)

lemma tells_iff_judges {answer : Except Failure Bool} {p : Prop} :
    Tells answer p ↔ Judges answer False p := by
  simp [Judges]

lemma judges_ite {c : Prop} [Decidable c] {answer : Except Failure Bool} {broken p : Prop}
    (h : c → Judges answer broken p) :
    Judges (if c then answer else .ok false) (c ∧ broken) (c ∧ p) := by
  split
  · next hc => exact (h hc).congr (by simp [hc]) (by simp [hc])
  · next hc => exact .inr ⟨fun hbroken => hc hbroken.1, .inr ⟨rfl, fun hp => hc hp.1⟩⟩

lemma tells_ite {c : Prop} [Decidable c] {answer : Except Failure Bool} {p : Prop}
    (h : c → Tells answer p) : Tells (if c then answer else .ok false) (c ∧ p) :=
  tells_iff_judges.mpr ((judges_ite fun hc => tells_iff_judges.mp (h hc)).congr (by simp) Iff.rfl)

/-- Something that stops a search comes before anything that is sought. -/
def ComesFirst (stop sought : Value → Prop) (vs : List Value) : Prop :=
  ∃ before v after, vs = before ++ v :: after ∧ stop v ∧ ∀ other ∈ before, ¬ sought other

variable {stop sought : Value → Prop}

lemma comesFirst_nil : ¬ ComesFirst stop sought [] := by
  rintro ⟨before, v, after, h, -⟩
  simp at h

lemma comesFirst_cons {v : Value} {vs : List Value} :
    ComesFirst stop sought (v :: vs) ↔ stop v ∨ (¬ sought v ∧ ComesFirst stop sought vs) := by
  constructor
  · rintro ⟨before, u, after, h, hstop, hbefore⟩
    cases before with
    | nil =>
        obtain ⟨rfl, -⟩ := List.cons.inj h
        exact .inl hstop
    | cons w before =>
        obtain ⟨rfl, rfl⟩ := List.cons.inj h
        rw [List.forall_mem_cons] at hbefore
        exact .inr ⟨hbefore.1, before, u, after, rfl, hstop, hbefore.2⟩
  · rintro (hstop | ⟨hsought, before, u, after, rfl, hstop, hbefore⟩)
    · exact ⟨[], v, vs, rfl, hstop, by simp⟩
    · exact ⟨v :: before, u, after, rfl, hstop, List.forall_mem_cons.mpr ⟨hsought, hbefore⟩⟩

/-- A search fails just if something broken comes before anything that is sought. -/
lemma judges_firstWith {test : Value → Except Failure Bool} {vs : List Value}
    (h : ∀ v ∈ vs, Judges (test v) (stop v) (sought v)) :
    Judges (firstWith test vs) (ComesFirst stop sought vs) (∃ v ∈ vs, sought v) := by
  induction vs with
  | nil => exact .inr ⟨comesFirst_nil, .inr ⟨rfl, by simp⟩⟩
  | cons v vs ih =>
      rw [List.forall_mem_cons] at h
      rw [comesFirst_cons]
      rcases h.1 with ⟨hstop, failure, hfault, htest⟩ | ⟨hstop, ⟨htest, hv⟩ | ⟨htest, hv⟩⟩
      · exact .inl ⟨.inl hstop, failure, hfault, by rw [firstWith, htest]⟩
      · refine .inr ⟨?_, .inl ⟨by rw [firstWith, htest], v, List.mem_cons_self, hv⟩⟩
        exact fun hfirst => hfirst.elim hstop fun hrest => hrest.1 hv
      · have hrest : firstWith test (v :: vs) = firstWith test vs := by rw [firstWith, htest]
        rw [hrest]
        exact (ih h.2).congr (by simp [hstop, hv]) (by simp [hv])

/-- A search through tested values tells whether there is one with the property. -/
lemma tells_firstWith {test : Value → Except Failure Bool} {P : Value → Prop} {vs : List Value}
    (h : ∀ v ∈ vs, Tells (test v) (P v)) : Tells (firstWith test vs) (∃ v ∈ vs, P v) := by
  have hjudges : ∀ v ∈ vs, Judges (test v) False (P v) := fun v hv => tells_iff_judges.mp (h v hv)
  refine tells_iff_judges.mpr ((judges_firstWith hjudges).congr ?_ Iff.rfl)
  exact iff_of_false (fun ⟨_, _, _, _, hstop, _⟩ => hstop) id

lemma tells_declaresAccessors (option : Mapping) :
    Tells (declaresAccessors (.map option)) (IsAccessorsAttribute (.map option)) := by
  have hanswer : declaresAccessors (.map option) =
      if (Mapping.field "name" option).same (.str "accessors") then
        .ok (Mapping.field "value" option).isTrueInCode
      else .ok false := rfl
  rw [hanswer]
  refine (tells_ite fun _ => tells_ok isTrueInCode_iff).congr ?_
  rw [same_str_right_iff]
  exact ⟨fun h => ⟨option, rfl, h⟩, fun ⟨_, hoption, h⟩ => Value.map.inj hoption ▸ h⟩

lemma isTruthy_of_mem {items : List Value} {item : Value} (h : item ∈ items) :
    (Value.list items).isTruthy = true := by
  rw [Value.isTruthy, Bool.not_eq_true', List.isEmpty_eq_false_iff]
  exact List.ne_nil_of_mem h

/-- Attributes that can be read tell whether the accessors option is among them. -/
lemma tells_attributes {v : Value}
    (h : v.isTruthy = false ∨ ∃ attributes : List Mapping, v = .list (attributes.map .map)) :
    Tells (if v.isTruthy then v.elements.bind (firstWith declaresAccessors) else .ok false)
      (∃ attributes, v = .list attributes ∧
        ∃ option ∈ attributes, IsAccessorsAttribute option) := by
  rcases h with hfalsy | ⟨attributes, rfl⟩
  · rw [hfalsy]
    refine .inr ⟨rfl, ?_⟩
    rintro ⟨attributes, rfl, option, hoption, -⟩
    exact absurd (isTruthy_of_mem hoption) (by simp [hfalsy])
  · have hsearch : Tells (firstWith declaresAccessors (attributes.map .map))
        (∃ option ∈ attributes.map .map, IsAccessorsAttribute option) :=
      tells_firstWith (List.forall_mem_map.mpr fun option _ => tells_declaresAccessors option)
    refine (tells_ite fun _ => hsearch).congr ?_
    constructor
    · exact fun h => ⟨_, rfl, h.2⟩
    · rintro ⟨_, hlist, option, hoption, h⟩
      obtain rfl := Value.list.inj hlist
      exact ⟨isTruthy_of_mem hoption, option, hoption, h⟩

lemma isAccessorsOptions_map {node : Mapping} :
    IsAccessorsOptions (.map node) ↔ IsOptions node ∧
      ∃ attributes, Mapping.field "attributes" node = .list attributes ∧
        ∃ option ∈ attributes, IsAccessorsAttribute option :=
  ⟨fun ⟨_, hsame, hnode⟩ => Value.map.inj hsame ▸ hnode, fun hnode => ⟨node, rfl, hnode⟩⟩

/-- Only of a mapping that is one of options, the attributes are looked at. -/
lemma judges_map {node : Mapping} {broken p : Prop}
    (h : IsOptions node → Judges
      (if (Mapping.field "attributes" node).isTruthy then
        (Mapping.field "attributes" node).elements.bind (firstWith declaresAccessors)
      else .ok false) broken p) :
    Judges (isAccessorsNode (.map node)) (IsOptions node ∧ broken) (IsOptions node ∧ p) := by
  have hanswer : isAccessorsNode (.map node) =
      if (Mapping.field typeKey node).same (.str "Options") then
        if (Mapping.field "attributes" node).isTruthy then
          (Mapping.field "attributes" node).elements.bind (firstWith declaresAccessors)
        else .ok false
      else .ok false := rfl
  have htype : (Mapping.field typeKey node).same (.str "Options") = true ↔ IsOptions node :=
    same_str_right_iff
  rw [hanswer]
  exact (judges_ite fun hnode => h (htype.mp hnode)).congr (and_congr_left' htype)
    (and_congr_left' htype)

/-- Of a mapping whose attributes can be read if it is one of options, it is told whether it
declares the accessors option. -/
lemma tells_isAccessorsNode {node : Mapping} (h : IsOptions node → HasAttributeList node) :
    Tells (isAccessorsNode (.map node)) (IsAccessorsOptions (.map node)) := by
  have hjudges := judges_map fun hnode => tells_iff_judges.mp (tells_attributes (h hnode))
  exact tells_iff_judges.mpr (hjudges.congr (by simp) isAccessorsOptions_map.symm)

/-! ### The search -/

/-- A search stops at the first node that declares the option, or goes through all nodes. -/
lemma searchNodes_cases {nodes : List Value}
    (h : ∀ node ∈ nodes, Tells (isAccessorsNode node) (IsAccessorsOptions node)) :
    (∃ before node after, nodes = before ++ node :: after ∧ IsAccessorsOptions node ∧
      (∀ other ∈ before, ¬ IsAccessorsOptions other) ∧
      searchNodes nodes = ⟨before ++ [node], .ok (some true)⟩) ∨
    ((∀ node ∈ nodes, ¬ IsAccessorsOptions node) ∧
      searchNodes nodes = ⟨nodes, .ok (some false)⟩) := by
  induction nodes with
  | nil => exact .inr ⟨by simp, rfl⟩
  | cons node nodes ih =>
      rw [List.forall_mem_cons] at h
      rcases h.1 with ⟨htest, hnode⟩ | ⟨htest, hnode⟩
      · exact .inl ⟨[], node, nodes, rfl, hnode, by simp, by rw [searchNodes, htest]; rfl⟩
      · have hstep : searchNodes (node :: nodes) =
            ⟨node :: (searchNodes nodes).visited, (searchNodes nodes).answer⟩ := by
          rw [searchNodes, htest]
        rcases ih h.2 with ⟨before, found, after, rfl, hfound, hbefore, hsearch⟩ | ⟨hnone, hsearch⟩
        · refine .inl ⟨node :: before, found, after, rfl, hfound, ?_, by rw [hstep, hsearch]; rfl⟩
          exact List.forall_mem_cons.mpr ⟨hnode, hbefore⟩
        · exact .inr ⟨List.forall_mem_cons.mpr ⟨hnode, hnone⟩, by rw [hstep, hsearch]⟩

/-- The answer of a search tells whether one of the nodes declares the option, in whatever order. -/
lemma answer_searchNodes {nodes : List Value} {found : Bool}
    (h : ∀ node ∈ nodes, Tells (isAccessorsNode node) (IsAccessorsOptions node))
    (hfound : found = true ↔ ∃ node ∈ nodes, IsAccessorsOptions node) :
    (searchNodes nodes).answer = .ok (some found) := by
  rcases searchNodes_cases h with ⟨before, node, after, rfl, hnode, -, hsearch⟩ | ⟨hnone, hsearch⟩
  · rw [hsearch, hfound.mpr ⟨node, by simp, hnode⟩]
  · have hnot : found = false := by
      rw [← Bool.not_eq_true, hfound]
      exact fun ⟨node, hmem, hnode⟩ => hnone node hmem hnode
    rw [hsearch, hnot]

lemma IsOptions.isNode {node : Mapping} (h : IsOptions node) : (Value.map node).IsNode := by
  refine ⟨node, rfl, ?_⟩
  rw [IsOptions, Mapping.field] at h
  cases hfield : Mapping.field? typeKey node with
  | none => simp [hfield] at h
  | some type => rfl

lemma IsAccessorsOptions.isNode {v : Value} (h : IsAccessorsOptions v) : v.IsNode := by
  obtain ⟨node, rfl, hoptions, -⟩ := h
  exact hoptions.isNode

/-- The option is declared in a tree just if one of its nodes declares it. -/
lemma exists_mem_nodes_iff {root : Value} :
    (∃ node ∈ root.nodes, IsAccessorsOptions node) ↔ ∃ v, root.Holds v ∧ IsAccessorsOptions v := by
  constructor
  · rintro ⟨node, hmem, hnode⟩
    exact ⟨node, (mem_nodes_iff.mp hmem).1, hnode⟩
  · rintro ⟨v, hholds, hv⟩
    exact ⟨v, mem_nodes_iff.mpr ⟨hholds, hv.isNode⟩, hv⟩

/-- What the search of a tree has found, and what it has looked at: the nodes up to the first
one that declares the option, or all of them. -/
structure IsAccessorSearch (root : Value) (found : Bool) (visited : List Value) : Prop where
  found_iff : found = true ↔ ∃ v, root.Holds v ∧ IsAccessorsOptions v
  stops : found = true → ∃ before node after, root.nodes = before ++ node :: after ∧
    visited = before ++ [node] ∧ IsAccessorsOptions node ∧
    ∀ other ∈ before, ¬ IsAccessorsOptions other
  exhausts : found = false → visited = root.nodes

lemma exists_isAccessorSearch {root : Value}
    (h : ∀ node ∈ root.nodes, Tells (isAccessorsNode node) (IsAccessorsOptions node)) :
    ∃ found visited, searchNodes root.nodes = ⟨visited, .ok (some found)⟩ ∧
      IsAccessorSearch root found visited := by
  rcases searchNodes_cases h with ⟨before, node, after, hsplit, hnode, hbefore, hsearch⟩ |
    ⟨hnone, hsearch⟩
  · refine ⟨true, _, hsearch, ?_, fun _ => ⟨before, node, after, hsplit, rfl, hnode, hbefore⟩,
      by simp⟩
    rw [← exists_mem_nodes_iff, hsplit]
    exact ⟨fun _ => ⟨node, by simp, hnode⟩, fun _ => rfl⟩
  · refine ⟨false, _, hsearch, ?_, by simp, fun _ => rfl⟩
    rw [← exists_mem_nodes_iff]
    exact ⟨fun h => absurd h (by simp), fun ⟨node, hmem, hnode⟩ => absurd hnode (hnone node hmem)⟩

/-- The tree is looked up in a mapping that is not empty. -/
lemma templateTree_eq (compiled : Mapping) :
    templateTree (.map compiled) =
      if (Mapping.field "ast" compiled).isTruthy then
        ((Mapping.field "ast" compiled).member "html").bind fun html =>
          .ok (if html.isTruthy then some html else none)
      else .ok none := rfl

lemma templateTree_of_ast {compiled ast : Mapping}
    (hast : Mapping.field "ast" compiled = .map ast)
    (hhtml : (Mapping.field "html" ast).isTruthy = true) :
    templateTree (.map compiled) = .ok (some (Mapping.field "html" ast)) := by
  have htruthy : (Value.map ast).isTruthy = true := by
    cases ast with
    | nil => exact hhtml
    | cons e es => rfl
  rw [templateTree_eq, hast, if_pos htruthy, Value.member, Except.bind, if_pos hhtml]

lemma templateTree_eq_none {compiled : Mapping}
    (h : (Mapping.field "ast" compiled).isTruthy = false ∨
      ∃ ast, Mapping.field "ast" compiled = .map ast ∧
        (Mapping.field "html" ast).isTruthy = false) :
    templateTree (.map compiled) = .ok none := by
  rw [templateTree_eq]
  split
  · next hast =>
      rcases h with hfalsy | ⟨ast, hmap, hhtml⟩
      · exact absurd (hast.symm.trans hfalsy) (by decide)
      · rw [hmap, Value.member, Except.bind, hhtml]
        rfl
  · rfl

/-- **The accessors option**. In a compile result with a tree in which the attributes of options can
be read, the option is found just if some mapping of options in the tree declares it. The search
looks at the nodes in their order up to the first that declares it, and another walker that gives
the same nodes in another order leads to the same answer. Where there is no tree, nothing is
answered, and there is nothing to be walked. -/
theorem searchAccessors_complete :
    (∀ (compiled ast : Mapping) (html : Value), Mapping.field "ast" compiled = .map ast →
      Mapping.field "html" ast = html → html.isTruthy = true →
      (∀ node, html.Holds (.map node) → IsOptions node → HasAttributeList node) →
      ∃ found visited, searchAccessors nodesOf (.map compiled) = ⟨visited, .ok (some found)⟩ ∧
        IsAccessorSearch html found visited ∧
        ∀ walk : Walker, (walk html).Perm (nodesOf html) →
          hasAccessors walk (.map compiled) = .ok (some found)) ∧
    ∀ compiled : Mapping, ((Mapping.field "ast" compiled).isTruthy = false ∨
        ∃ ast, Mapping.field "ast" compiled = .map ast ∧
          (Mapping.field "html" ast).isTruthy = false) →
      templateTree (.map compiled) = .ok none ∧
        ∀ walk, searchAccessors walk (.map compiled) = ⟨[], .ok none⟩ := by
  constructor
  · rintro compiled ast html hast rfl hhtml hattributes
    have htree := templateTree_of_ast hast hhtml
    -- each node can be looked at, and tells whether it declares the option
    have htells : ∀ node ∈ (Mapping.field "html" ast).nodes,
        Tells (isAccessorsNode node) (IsAccessorsOptions node) := by
      intro node hnode
      obtain ⟨hholds, entries, rfl, -⟩ := mem_nodes_iff.mp hnode
      exact tells_isAccessorsNode (hattributes entries hholds)
    obtain ⟨found, visited, hsearch, hfound⟩ := exists_isAccessorSearch htells
    refine ⟨found, visited, ?_, hfound, fun walk hwalk => ?_⟩
    · rw [searchAccessors, htree]
      dsimp only
      rw [nodesOf_eq_nodes, hsearch]
    · rw [nodesOf_eq_nodes] at hwalk
      rw [hasAccessors, searchAccessors, htree]
      refine answer_searchNodes (fun node hnode => htells node (hwalk.mem_iff.mp hnode)) ?_
      -- both walkers see a node that declares it, or neither does
      rw [hfound.found_iff, ← exists_mem_nodes_iff]
      simp only [hwalk.mem_iff]
  · intro compiled h
    have htree := templateTree_eq_none h
    refine ⟨htree, fun walk => ?_⟩
    rw [searchAccessors, htree]

/-- An option that is not set, and the accessors option with an empty list for its value. -/
def twoOptions : List Mapping :=
  [[("name", .str "immutable"), ("value", .int 0)],
    [("name", .str "accessors"), ("value", .list [])]]

def accessorsNode : Mapping :=
  [("type", .str "Options"), ("attributes", .list (twoOptions.map .map))]

/-- A node that has the options in a tuple in a mapping without a type, and a node behind them. -/
def nestedOptions : Mapping :=
  [("type", .str "Fragment"),
    ("children", .list [.map [("start", .tuple [.map accessorsNode])],
      .map [("type", .str "Text")]])]

def nestedCompileResult : Mapping := [("ast", .map [("html", .map nestedOptions)])]

lemma nodes_nestedOptions : (Value.map nestedOptions).nodes =
    [.map nestedOptions, .map accessorsNode, .map [("type", .str "Text")]] := rfl

lemma hasAttributeList_of_holds {node : Mapping}
    (hholds : (Value.map nestedOptions).Holds (.map node)) (hoptions : IsOptions node) :
    HasAttributeList node := by
  have hmem := mem_nodes_iff.mpr ⟨hholds, hoptions.isNode⟩
  rw [nodes_nestedOptions] at hmem
  simp only [List.mem_cons, Value.map.injEq, List.not_mem_nil, or_false] at hmem
  rcases hmem with rfl | rfl | rfl
  · exact .inl rfl
  · exact .inr ⟨_, rfl⟩
  · exact .inl rfl

theorem searchAccessors_complete_nestedOptions :
    (∀ node, (Value.map nestedOptions).Holds (.map node) → IsOptions node → HasAttributeList node) ∧
      ∃ found visited, searchAccessors nodesOf (.map nestedCompileResult) =
          ⟨visited, .ok (some found)⟩ ∧
        IsAccessorSearch (.map nestedOptions) found visited ∧
        ∀ walk : Walker, (walk (.map nestedOptions)).Perm (nodesOf (.map nestedOptions)) →
          hasAccessors walk (.map nestedCompileResult) = .ok (some found) :=
  ⟨fun _ => hasAttributeList_of_holds,
    searchAccessors_complete.1 nestedCompileResult [("html", .map nestedOptions)] _ rfl rfl rfl
      fun _ => hasAttributeList_of_holds⟩

end HotReload
