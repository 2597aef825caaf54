import HotReload.Compile.Metadata
import HotReload.Json.Reader
import HotReload.Proofs.AccessorSearch
import HotReload.Proofs.Runs
import HotReload.Proofs.Units
/-!
Compile results that cannot be read.

* `Value.IsJson`: a value that has been read from JSON, and so is all that is in it
  (`IsJson.of_holds`).
* `judges_isAccessorsNode`: a node is broken if it has the type of the options and attributes that
  cannot be read (`IsBrokenOptions`).
* `IsUnreadable` says when a compile result cannot be read, `AreAccessors` what is known of its
  accessors otherwise; `isAnswer_hasAccessors`: there is nothing else.
* `readMetadata_of_json`: when the metadata of a compile result are there, and what they are.
  `not_readMetadata_total`: they are not always there.
-/

namespace HotReload

/-! ### Values from JSON -/

/-- A mapping. -/
def Value.IsMapping (v : Value) : Prop := ∃ entries, v = .map entries

/-- A value that has been read from JSON. -/
def Value.IsJson (v : Value) : Prop := ∃ j : Json, v = j.toValue

/-- A text is no mapping. -/
lemma not_isMapping_valueOfRaw (raw : RawText) : ¬ (valueOfRaw raw).IsMapping := by
  rintro ⟨fields, hfields⟩
  obtain ⟨text, htext⟩ | ⟨text, htext⟩ := valueOfRaw_cases raw
  · exact absurd (htext.symm.trans hfields) (by simp)
  · exact absurd (htext.symm.trans hfields) (by simp)

namespace Value.IsJson

lemma null : Value.null.IsJson := ⟨.null, by rw [Json.toValue]⟩

lemma of_mem_toValues {items : List Json} {v : Value} (h : v ∈ Json.toValues items) :
    v.IsJson := by
  induction items with
  | nil => simp [Json.toValues] at h
  | cons item items ih =>
      rw [Json.toValues, List.mem_cons] at h
      exact h.elim (fun hv => ⟨item, hv⟩) ih

/-- The keys of an object are texts, and its values have been read from JSON. -/
lemma of_mem_toMapping {entries : List (List UInt16 × Json)} {e : Value × Value}
    (h : e ∈ Json.toMapping entries) : ¬ e.1.IsMapping ∧ e.2.IsJson := by
  induction entries with
  | nil => simp [Json.toMapping] at h
  | cons entry entries ih =>
      rw [Json.toMapping, List.mem_cons] at h
      rcases h with rfl | h
      · exact ⟨not_isMapping_valueOfRaw (rawOfUnits entry.1), entry.2, rfl⟩
      · exact ih h

lemma of_mem_children {v child : Value} (h : v.IsJson) (hchild : child ∈ v.children) :
    child.IsJson := by
  obtain ⟨j, rfl⟩ := h
  cases j with
  | arr items =>
      rw [Json.toValue] at hchild
      exact of_mem_toValues hchild
  | obj entries =>
      rw [Json.toValue, children, List.mem_map] at hchild
      obtain ⟨e, he, rfl⟩ := hchild
      exact (of_mem_toMapping he).2
  | str units =>
      rw [Json.toValue, valueOfUnits] at hchild
      obtain ⟨text, htext⟩ | ⟨text, htext⟩ := valueOfRaw_cases (rawOfUnits units)
      · exact absurd (htext ▸ hchild) List.not_mem_nil
      · exact absurd (htext ▸ hchild) List.not_mem_nil
  | _ => exact absurd hchild (by simp [Json.toValue, children])

/-- All that is in a value from JSON has been read from JSON. -/
lemma of_holds {root v : Value} (h : root.IsJson) (hholds : root.Holds v) : v.IsJson := by
  induction hholds with
  | refl => exact h
  | tail _ hchild ih => exact ih.of_mem_children hchild

/-- What a mapping from JSON has under a key has been read from JSON. -/
lemma field {entries : Mapping} (h : (Value.map entries).IsJson) (key : Text) :
    (Mapping.field key entries).IsJson := by
  have hvalues : ∀ e ∈ entries, e.2.IsJson := fun e he =>
    h.of_mem_children (List.mem_map_of_mem he)
  rw [Mapping.field, Mapping.field?, Mapping.get?]
  clear h
  induction entries with
  | nil => exact null
  | cons e es ih =>
      rw [List.forall_mem_cons] at hvalues
      rw [getBy?]
      split
      · exact hvalues.1
      · exact ih hvalues.2

end Value.IsJson

/-! ### Attributes and options -/

lemma declaresAccessors_of_not_isMapping {v : Value} (h : ¬ v.IsMapping) :
    declaresAccessors v = .error .missingMember := by
  cases v with
  | map entries => exact absurd ⟨entries, rfl⟩ h
  | _ => rfl

lemma judges_declaresAccessors (v : Value) :
    Judges (declaresAccessors v) (¬ v.IsMapping) (IsAccessorsAttribute v) := by
  by_cases h : v.IsMapping
  · obtain ⟨entries, rfl⟩ := h
    exact .inr ⟨not_not.mpr ⟨entries, rfl⟩, tells_declaresAccessors entries⟩
  · exact .inl ⟨h, .missingMember, .inl rfl, declaresAccessors_of_not_isMapping h⟩

/-- Attributes that stand for something cannot be read if they are no list, or if something that
is no mapping comes in them before any accessors option. -/
def AreBroken (attributes : Value) : Prop :=
  attributes.isTruthy = true ∧ ∀ items, attributes = .list items →
    ComesFirst (fun item => ¬ item.IsMapping) IsAccessorsAttribute items

/-- Something else than a mapping stops a search for the accessors option at once. -/
lemma search_of_head {v item : Value} {items : List Value} (hv : v.elements = .ok (item :: items))
    (h : ¬ item.IsMapping) :
    v.elements.bind (firstWith declaresAccessors) = .error .missingMember := by
  rw [hv, Except.bind, firstWith, declaresAccessors_of_not_isMapping h]

/-- Attributes other than a list are broken whenever they are looked at. -/
lemma exists_fault_of_elements {v : Value} (h : v.IsJson) (htruthy : v.isTruthy = true)
    (hlist : ∀ items, v ≠ .list items) :
    ∃ failure, IsLookupFault failure ∧ v.elements.bind (firstWith declaresAccessors) =
      .error failure := by
  -- the first element, if there is one, has no members: a key, or a piece of a text
  obtain ⟨j, rfl⟩ := h
  cases j with
  | null => exact absurd htruthy (by simp [Json.toValue, Value.isTruthy])
  | arr items => exact absurd (by rw [Json.toValue]) (hlist (Json.toValues items))
  | obj entries =>
      rw [Json.toValue] at htruthy ⊢
      cases hentries : Json.toMapping entries with
      | nil => exact absurd htruthy (by simp [hentries, Value.isTruthy])
      | cons e es =>
          have hkey := (Value.IsJson.of_mem_toMapping (e := e) (by rw [hentries]; simp)).1
          exact ⟨_, .inl rfl, search_of_head rfl hkey⟩
  | str units =>
      rw [Json.toValue, valueOfUnits] at htruthy ⊢
      obtain ⟨text, htext⟩ | ⟨text, htext⟩ := valueOfRaw_cases (rawOfUnits units)
      · rw [htext] at htruthy ⊢
        cases text with
        | nil => exact absurd htruthy (by simp [Value.isTruthy])
        | cons c text => exact ⟨_, .inl rfl, search_of_head rfl (by simp [Value.IsMapping])⟩
      · rw [htext]
        obtain ⟨point, rest, hraw⟩ := text.exists_cons
        have helements : (Value.unpaired text).elements =
            .ok (valueOfRaw [point] :: rest.map fun point => valueOfRaw [point]) := by
          rw [Value.elements, hraw, List.map_cons]
        exact ⟨_, .inl rfl, search_of_head helements (not_isMapping_valueOfRaw [point])⟩
  | _ => exact ⟨.wrongKind, .inr rfl, by rw [Json.toValue]; rfl⟩

/-- Attributes that are no list and stand for something are broken; a list is, if something else
than a mapping comes first in it. -/
lemma judges_attributes {v : Value} (h : v.IsJson) :
    Judges (if v.isTruthy then v.elements.bind (firstWith declaresAccessors) else .ok false)
      (AreBroken v)
      (∃ attributes, v = .list attributes ∧
        ∃ option ∈ attributes, IsAccessorsAttribute option) := by
  by_cases hlist : ∃ items, v = .list items
  · obtain ⟨items, rfl⟩ := hlist
    have hsearch := judges_firstWith fun item (_ : item ∈ items) => judges_declaresAccessors item
    refine (judges_ite fun _ => hsearch).congr ?_ ?_
    · simp [AreBroken]
    · constructor
      · exact fun hfound => ⟨items, rfl, hfound.2⟩
      · rintro ⟨_, hsame, option, hoption, hfound⟩
        obtain rfl := Value.list.inj hsame
        exact ⟨isTruthy_of_mem hoption, option, hoption, hfound⟩
  · have hno : ∀ items, v ≠ .list items := fun items hv => hlist ⟨items, hv⟩
    have hnone : ¬ ∃ attributes, v = .list attributes ∧
        ∃ option ∈ attributes, IsAccessorsAttribute option :=
      fun ⟨attributes, hv, _⟩ => hno attributes hv
    split
    · next htruthy =>
        refine .inl ⟨⟨htruthy, fun items hv => absurd hv (hno items)⟩, ?_⟩
        exact exists_fault_of_elements h htruthy hno
    · next hfalsy => exact .inr ⟨fun hbroken => hfalsy hbroken.1, .inr ⟨rfl, hnone⟩⟩

/-- A mapping of the type of the options whose attributes cannot be read. -/
def IsBrokenOptions (v : Value) : Prop :=
  ∃ node, v = .map node ∧ IsOptions node ∧ AreBroken (Mapping.field "attributes" node)

/-- Of a mapping from JSON, it is told whether it declares the accessors option, unless it is one of
options and has broken attributes. -/
lemma judges_isAccessorsNode {node : Mapping} (h : (Value.map node).IsJson) :
    Judges (isAccessorsNode (.map node)) (IsBrokenOptions (.map node))
      (IsAccessorsOptions (.map node)) := by
  refine (judges_map fun _ => judges_attributes (h.field "attributes")).congr ?_
    isAccessorsOptions_map.symm
  exact ⟨fun hnode => ⟨node, rfl, hnode⟩, fun ⟨_, hsame, hnode⟩ => Value.map.inj hsame ▸ hnode⟩

/-! ### Compile results -/

lemma answer_searchNodes_eq (nodes : List Value) :
    (searchNodes nodes).answer = (firstWith isAccessorsNode nodes).map some := by
  induction nodes with
  | nil => rfl
  | cons node nodes ih =>
      rw [searchNodes, firstWith]
      split
      · next htest => simp only [htest, ih]
      · next htest => simp only [htest]; rfl
      · next htest => simp only [htest]; rfl

/-- A tree from JSON is searched to an answer unless broken options come before any that declare the
accessors option. -/
lemma judges_nodes {root : Value} (h : root.IsJson) :
    Judges (firstWith isAccessorsNode root.nodes)
      (ComesFirst IsBrokenOptions IsAccessorsOptions root.nodes)
      (∃ v, root.Holds v ∧ IsAccessorsOptions v) := by
  have hnodes : ∀ node ∈ root.nodes,
      Judges (isAccessorsNode node) (IsBrokenOptions node) (IsAccessorsOptions node) := by
    intro node hnode
    obtain ⟨hholds, entries, rfl, -⟩ := mem_nodes_iff.mp hnode
    exact judges_isAccessorsNode (h.of_holds hholds)
  exact (judges_firstWith hnodes).congr Iff.rfl exists_mem_nodes_iff

/-- The tree of a compile result is sought in something that is no mapping, or broken options come
in it before any that declare the accessors option. -/
def IsUnreadable (compiled : Mapping) : Prop :=
  (Mapping.field "ast" compiled).isTruthy = true ∧
    (¬ (Mapping.field "ast" compiled).IsMapping ∨
      ∃ ast, Mapping.field "ast" compiled = .map ast ∧
        (Mapping.field "html" ast).isTruthy = true ∧
        ComesFirst IsBrokenOptions IsAccessorsOptions (Mapping.field "html" ast).nodes)

/-- There is no tree in a compile result, or nothing in its place. -/
def HasNoTree (compiled : Mapping) : Prop :=
  (Mapping.field "ast" compiled).isTruthy = false ∨
    ∃ ast, Mapping.field "ast" compiled = .map ast ∧ (Mapping.field "html" ast).isTruthy = false

/-- The tree of a compile result holds options that declare the accessors option. -/
def HasAccessorsOption (compiled : Mapping) : Prop :=
  ∃ ast, Mapping.field "ast" compiled = .map ast ∧
    ∃ v, (Mapping.field "html" ast).Holds v ∧ IsAccessorsOptions v

/-- What is known of the accessors: nothing without a tree, and else whether options in it declare
the accessors option. -/
structure AreAccessors (compiled : Mapping) (accessors : Option Bool) : Prop where
  none_iff : accessors = none ↔ HasNoTree compiled
  found : ∀ b, accessors = some b → (b = true ↔ HasAccessorsOption compiled)

/-- An answer about the accessors of a compile result: a failure just if it is unreadable. -/
def IsAnswer (compiled : Mapping) (answer : Except Failure (Option Bool)) : Prop :=
  (IsUnreadable compiled ∧ ∃ failure, IsLookupFault failure ∧ answer = .error failure) ∨
    (¬ IsUnreadable compiled ∧ ∃ accessors, AreAccessors compiled accessors ∧
      answer = .ok accessors)

lemma readMetadata_map (compiled : Mapping) :
    (readMetadata nodesOf (.map compiled)).result =
      (hasAccessors nodesOf (.map compiled)).map fun accessors =>
        some ⟨Mapping.field "vars" compiled, accessors⟩ := by
  rw [readMetadata]
  · simp only [Run.result_bind, Run.result_ofExcept, Run.result_report, Run.result_pure]
    cases hasAccessors nodesOf (.map compiled) <;> rfl
  · simp

lemma hasAccessors_of_tree {compiled ast : Mapping}
    (hast : Mapping.field "ast" compiled = .map ast)
    (hhtml : (Mapping.field "html" ast).isTruthy = true) :
    hasAccessors nodesOf (.map compiled) =
      (firstWith isAccessorsNode (Mapping.field "html" ast).nodes).map some := by
  rw [hasAccessors, searchAccessors, templateTree_of_ast hast hhtml]
  dsimp only
  rw [answer_searchNodes_eq, nodesOf_eq_nodes]

/-- Of a compile result with a tree, the nodes are searched. -/
lemma isAnswer_of_tree {compiled ast : Mapping} (h : (Value.map compiled).IsJson)
    (hast : Mapping.field "ast" compiled = .map ast)
    (hhtml : (Mapping.field "html" ast).isTruthy = true) :
    IsAnswer compiled (hasAccessors nodesOf (.map compiled)) := by
  have htruthy : (Mapping.field "ast" compiled).isTruthy = true := by
    rw [hast]
    cases ast with
    | nil => exact absurd hhtml (by decide)
    | cons e es => rfl
  -- with a tree, both conditions speak of the nodes below `html` only
  have hunreadable : IsUnreadable compiled ↔
      ComesFirst IsBrokenOptions IsAccessorsOptions (Mapping.field "html" ast).nodes := by
    constructor
    · rintro ⟨-, hno | ⟨other, hother, -, hfirst⟩⟩
      · exact absurd ⟨ast, hast⟩ hno
      · obtain rfl := Value.map.inj (hast.symm.trans hother)
        exact hfirst
    · exact fun hfirst => ⟨htruthy, .inr ⟨ast, hast, hhtml, hfirst⟩⟩
  have hoption : HasAccessorsOption compiled ↔
      ∃ v, (Mapping.field "html" ast).Holds v ∧ IsAccessorsOptions v := by
    constructor
    · rintro ⟨other, hother, hfound⟩
      obtain rfl := Value.map.inj (hast.symm.trans hother)
      exact hfound
    · exact fun hfound => ⟨ast, hast, hfound⟩
  have hnone : ¬ HasNoTree compiled := by
    rintro (hfalsy | ⟨other, hother, hfalsy⟩)
    · exact absurd (htruthy.symm.trans hfalsy) (by decide)
    · obtain rfl := Value.map.inj (hast.symm.trans hother)
      exact absurd (hhtml.symm.trans hfalsy) (by decide)
  have hjson : (Mapping.field "html" ast).IsJson :=
    Value.IsJson.field (hast ▸ h.field "ast") "html"
  rw [IsAnswer, hasAccessors_of_tree hast hhtml, hunreadable]
  -- either broken options come first, or the search tells what the nodes hold
  rcases judges_nodes hjson with ⟨hfirst, failure, hfault, hsearch⟩ | ⟨hfirst, htells⟩
  · exact .inl ⟨hfirst, failure, hfault, by rw [hsearch]; rfl⟩
  · refine .inr ⟨hfirst, ?_⟩
    rcases htells with ⟨hsearch, hfound⟩ | ⟨hsearch, hfound⟩
    · refine ⟨some true, ⟨by simp [hnone], fun b hb => ?_⟩, by rw [hsearch]; rfl⟩
      simpa [← Option.some.inj hb, hoption] using hfound
    · refine ⟨some false, ⟨by simp [hnone], fun b hb => ?_⟩, by rw [hsearch]; rfl⟩
      simpa [← Option.some.inj hb, hoption] using hfound

/-- A compile result is unreadable, or tells what is known of the accessors. -/
lemma isAnswer_hasAccessors {compiled : Mapping} (h : (Value.map compiled).IsJson) :
    IsAnswer compiled (hasAccessors nodesOf (.map compiled)) := by
  by_cases hnone : HasNoTree compiled
  · have hreadable : ¬ IsUnreadable compiled := by
      rintro ⟨htruthy, hast⟩
      rcases hnone with hfalsy | ⟨ast, hmap, hhtml⟩
      · exact absurd (htruthy.symm.trans hfalsy) (by decide)
      · rcases hast with hno | ⟨ast', hmap', hhtml', -⟩
        · exact hno ⟨ast, hmap⟩
        · obtain rfl := Value.map.inj (hmap.symm.trans hmap')
          exact absurd (hhtml.symm.trans hhtml') (by decide)
    have hoption : ∀ b, none = some b → (b = true ↔ HasAccessorsOption compiled) :=
      fun b hb => absurd hb (by simp)
    refine .inr ⟨hreadable, none, ⟨by simp [hnone], hoption⟩, ?_⟩
    rw [hasAccessors, searchAccessors, templateTree_eq_none hnone]
  -- there is a value under `ast`; if it is no mapping, asking for its member fails
  · rw [HasNoTree, not_or, Bool.not_eq_false] at hnone
    by_cases hmap : (Mapping.field "ast" compiled).IsMapping
    · obtain ⟨ast, hast⟩ := hmap
      refine isAnswer_of_tree h hast ?_
      rw [← Bool.not_eq_false]
      exact fun hhtml => hnone.2 ⟨ast, hast, hhtml⟩
    · refine .inl ⟨⟨hnone.1, .inl hmap⟩, .missingMember, .inl rfl, ?_⟩
      have hmember : (Mapping.field "ast" compiled).member "html" = .error .missingMember := by
        cases hast : Mapping.field "ast" compiled with
        | map ast => exact absurd ⟨ast, hast⟩ hmap
        | _ => rfl
      rw [hasAccessors, searchAccessors, templateTree_eq, if_pos hnone.1, hmember]
      rfl

/-- **What can be read of a compile result**. Of a compile result that is a JSON object, whatever
its members are, the metadata are there unless it is unreadable: then a lookup fails in something
that has no members or no items. The metadata have the variables as they are, and tell whether
there are accessors just if there is a tree. -/
theorem readMetadata_of_json (entries : List (List UInt16 × Json)) :
    (IsUnreadable (Json.toMapping entries) ∧ ∃ failure, IsLookupFault failure ∧
      (readMetadata nodesOf (Json.obj entries).toValue).result = .error failure) ∨
    (¬ IsUnreadable (Json.toMapping entries) ∧ ∃ accessors,
      AreAccessors (Json.toMapping entries) accessors ∧
      (readMetadata nodesOf (Json.obj entries).toValue).result =
        .ok (some ⟨Mapping.field "vars" (Json.toMapping entries), accessors⟩)) := by
  have hvalue : (Json.obj entries).toValue = .map (Json.toMapping entries) := by
    rw [Json.toValue]
  rw [hvalue, readMetadata_map]
  rcases isAnswer_hasAccessors ⟨_, hvalue.symm⟩ with
    ⟨hunreadable, failure, hfault, hanswer⟩ | ⟨hreadable, accessors, haccessors, hanswer⟩
  · exact .inl ⟨hunreadable, failure, hfault, by rw [hanswer]; rfl⟩
  · exact .inr ⟨hreadable, accessors, haccessors, by rw [hanswer]; rfl⟩

/-- A text in the place of the tree is no mapping, and is asked for its members all the same. -/
theorem not_readMetadata_total :
    ¬ ∀ entries : List (List UInt16 × Json), ∃ data,
      (readMetadata nodesOf (Json.obj entries).toValue).result = .ok (some data) := by
  intro h
  obtain ⟨data, hdata⟩ := h [(Text.units "ast", .str (Text.units "x"))]
  have hfault : (readMetadata nodesOf
      (Json.obj [(Text.units "ast", .str (Text.units "x"))]).toValue).result =
      .error .missingMember := by
    rfl
  exact absurd (hfault.symm.trans hdata) (by simp)

end HotReload
