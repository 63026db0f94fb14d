import PlanCode.PlanFile

/-!
# Plan files that are read back

What a plan file says of a forest of elements, and that reading it gives the forest
again. There are many files for one forest: the tree of an element without children
can be left out, nodes without a name and serialized objects can stand between the
properties, and tags, texts and further attributes are free wherever they are not
looked at.

* `Property.Storable`, `Element.Storable`: what a file can hold without loss.
* `WritesElements`: nodes that write a forest.
* `exists_writesElements`: every forest that can be stored is written by some nodes.
* `readElements_eq`: nodes that write a forest are read as that forest.
* `forest_readBack`: a document is read as the first plan of the forest that it writes.
-/
namespace PlanCode

/-! ## What can be stored -/

/-- A value that a file can hold: no null, and in it only elements that have a class and a name, no
children, and no two properties of one name. -/
inductive Property.Storable : Property → Prop where
  | text (s : String) : Storable (.text s)
  | element {e : Element} (kind : e.kind ≠ "") (name : e.name ≠ "") (childless : e.children = [])
    (names : (e.properties.map (·.1)).Nodup) (values : ∀ p ∈ e.properties, Storable p.2) :
    Storable (.element e)
  | list {items : List Property} (values : ∀ p ∈ items, Storable p) : Storable (.list items)

/-- An element that a file can hold with all that is below it. -/
inductive Element.Storable : Element → Prop where
  | intro {e : Element} (kind : e.kind ≠ "") (names : (e.properties.map (·.1)).Nodup)
    (values : ∀ p ∈ e.properties, p.2.Storable) (children : ∀ c ∈ e.children, Storable c) :
    Storable e

theorem Element.with_children_eq {e : Element} {children : List Element}
    (h : e.children = children) : { e with children } = e := by
  cases e
  rw [← h]

namespace PlanFile

/-! ## Nodes that write elements -/

/-- The tag of serialized objects. -/
def objectTag : String := "objProp"

def flagText (on : Bool) : String := if on then "true" else "false"

/-- The attributes of a node say what an element is. -/
structure Labels (e : Element) (n : Xml.Node) : Prop where
  kind : n.attribute? "testclass" = some e.kind
  name : n.attribute? "testname" = some e.name
  gui : n.attribute? "guiclass" = some e.gui
  enabled : n.attribute? "enabled" = some (flagText e.enabled)

mutual

/-- A node that writes a value. -/
inductive WritesValue : Property → Xml.Node → Prop where
  | text {n : Xml.Node} (tag : n.tag ∈ textTags) : WritesValue (.text n.text) n
  | element {e : Element} {n : Xml.Node} (tag : n.tag = elementTag) (labels : Labels e n)
    (properties : WritesProperties e.properties n.children) : WritesValue (.element e) n
  | list {items : List Property} {n : Xml.Node} (tag : n.tag = listTag)
    (values : WritesItems items n.children) : WritesValue (.list items) n

/-- Nodes that write properties, with nameless nodes and serialized objects between them. -/
inductive WritesProperties : Entries Property → List Xml.Node → Prop where
  | nil : WritesProperties [] []
  | skipped {ps : Entries Property} {n : Xml.Node} {nodes : List Xml.Node}
    (ignored : n.attribute? "name" = none ∨ n.tag = objectTag)
    (rest : WritesProperties ps nodes) : WritesProperties ps (n :: nodes)
  | entry {name : String} {value : Property} {ps : Entries Property} {n : Xml.Node}
    {nodes : List Xml.Node} (named : n.attribute? "name" = some name)
    (written : WritesValue value n) (rest : WritesProperties ps nodes) :
    WritesProperties ((name, value) :: ps) (n :: nodes)

/-- Nodes that write the values of a list. -/
inductive WritesItems : List Property → List Xml.Node → Prop where
  | nil : WritesItems [] []
  | cons {value : Property} {items : List Property} {n : Xml.Node} {nodes : List Xml.Node}
    (written : WritesValue value n) (rest : WritesItems items nodes) :
    WritesItems (value :: items) (n :: nodes)

end

/-- A node that writes an element without its children. -/
structure WritesElement (e : Element) (n : Xml.Node) : Prop where
  tag : n.tag ≠ treeTag
  labels : Labels e n
  properties : WritesProperties e.properties n.children

/-- Nodes that write elements, each with a tree after it that writes its children. An element
without children can go without the tree. -/
inductive WritesElements : List Element → List Xml.Node → Prop where
  | nil : WritesElements [] []
  | lone {e : Element} {es : List Element} {n : Xml.Node} {nodes : List Xml.Node}
    (element : WritesElement e n) (childless : e.children = [])
    (rest : WritesElements es nodes) : WritesElements (e :: es) (n :: nodes)
  | followed {e : Element} {es : List Element} {n tree : Xml.Node} {nodes : List Xml.Node}
    (element : WritesElement e n) (tag : tree.tag = treeTag)
    (children : WritesElements e.children tree.children) (rest : WritesElements es nodes) :
    WritesElements (e :: es) (n :: tree :: nodes)

/-- A document whose tree writes a forest. -/
structure WritesForest (forest : List Element) (root : Xml.Node) : Prop where
  tag : root.tag = rootTag
  tree : ∃ tree, root.children.find? (·.tag == treeTag) = some tree ∧
    WritesElements forest tree.children

section

variable {e : Element} {forest : List Element} {p : Property} {ps : Entries Property}
  {items : List Property} {n root : Xml.Node} {nodes : List Xml.Node}

/-! ## There are such nodes -/

/-- The attributes of a node that writes an element. -/
def labelsOf (e : Element) : Entries String :=
  [("testclass", e.kind), ("testname", e.name), ("guiclass", e.gui),
    ("enabled", flagText e.enabled)]

/-- Attributes after a name, if there is one. -/
def withName (name : Option String) (attributes : Entries String) : Entries String :=
  match name with
  | none => attributes
  | some name => ("name", name) :: attributes

theorem labels_labelsOf (e : Element) (name : Option String) (tag : String)
    (children : List Xml.Node) :
    Labels e { tag, attributes := withName name (labelsOf e), children } := by
  constructor <;> cases name <;> rfl

theorem exists_writesProperties (h : ∀ p ∈ ps, ∀ name : Option String,
    ∃ n : Xml.Node, n.attribute? "name" = name ∧ WritesValue p.2 n) :
    ∃ nodes, WritesProperties ps nodes := by
  induction ps with
  | nil => exact ⟨[], .nil⟩
  | cons p ps ih =>
    rw [List.forall_mem_cons] at h
    obtain ⟨n, hname, hvalue⟩ := h.1 (some p.1)
    obtain ⟨nodes, hrest⟩ := ih h.2
    exact ⟨n :: nodes, .entry hname hvalue hrest⟩

theorem exists_writesItems (h : ∀ p ∈ items, ∃ n, WritesValue p n) :
    ∃ nodes, WritesItems items nodes := by
  induction items with
  | nil => exact ⟨[], .nil⟩
  | cons p items ih =>
    rw [List.forall_mem_cons] at h
    obtain ⟨n, hvalue⟩ := h.1
    obtain ⟨nodes, hrest⟩ := ih h.2
    exact ⟨n :: nodes, .cons hvalue hrest⟩

/-- A value that can be stored is written by some node, under any name or none. -/
theorem exists_writesValue (h : p.Storable) (name : Option String) :
    ∃ n : Xml.Node, n.attribute? "name" = name ∧ WritesValue p n := by
  induction h generalizing name with
  | text s =>
    let n : Xml.Node := { tag := "stringProp", attributes := withName name [], text := s }
    refine ⟨n, ?_, .text (n := n) (List.mem_cons_self ..)⟩
    cases name <;> rfl
  | @element e _ _ _ _ _ ih =>
    obtain ⟨nodes, hnodes⟩ := exists_writesProperties ih
    refine ⟨{ tag := elementTag, attributes := withName name (labelsOf e), children := nodes },
      ?_, ?_⟩
    · cases name <;> rfl
    · exact .element rfl (labels_labelsOf ..) hnodes
  | list _ ih =>
    obtain ⟨nodes, hnodes⟩ := exists_writesItems fun p hp => (ih p hp none).imp fun _ h => h.2
    refine ⟨{ tag := listTag, attributes := withName name [], children := nodes }, ?_, ?_⟩
    · cases name <;> rfl
    · exact .list rfl hnodes

/-- A node that writes an element, under a tag that is free. -/
def elementNode (e : Element) (children : List Xml.Node := []) : Xml.Node :=
  { tag := "element", attributes := labelsOf e, children }

def treeNode (children : List Xml.Node) : Xml.Node := { tag := treeTag, children }

theorem writesElement_elementNode (h : WritesProperties e.properties nodes) :
    WritesElement e (elementNode e nodes) :=
  ⟨by simp [elementNode, treeTag], labels_labelsOf e none "element" nodes, h⟩

theorem exists_writesElement (h : e.Storable) : ∃ n, WritesElement e n := by
  cases h with
  | intro _ _ values _ =>
    obtain ⟨nodes, hnodes⟩ := exists_writesProperties fun p hp => exists_writesValue (values p hp)
    exact ⟨_, writesElement_elementNode hnodes⟩

/-- Every forest that can be stored is written by some nodes. -/
theorem exists_writesElements (h : ∀ e ∈ forest, e.Storable) :
    ∃ nodes, WritesElements forest nodes := by
  have step : ∀ es : List Element, (∀ e ∈ es, e.Storable) →
      (∀ e ∈ es, ∃ nodes, WritesElements e.children nodes) → ∃ nodes, WritesElements es nodes := by
    intro es hs hbelow
    induction es with
    | nil => exact ⟨[], .nil⟩
    | cons e es ih =>
      rw [List.forall_mem_cons] at hs hbelow
      obtain ⟨n, hn⟩ := exists_writesElement hs.1
      obtain ⟨children, hchildren⟩ := hbelow.1
      obtain ⟨nodes, hrest⟩ := ih hs.2 hbelow.2
      exact ⟨n :: treeNode children :: nodes, .followed hn rfl hchildren hrest⟩
  refine step forest h fun e he => ?_
  have hs := h e he
  clear he h
  induction hs with
  | intro _ _ _ children ih => exact step _ children ih

/-! ## Reading -/

theorem isEnabled_eq (h : Labels e n) : isEnabled n = e.enabled := by
  unfold isEnabled
  rw [h.enabled]
  cases e.enabled <;> decide +kernel

theorem label_eq {name value : String} (h : n.attribute? name = some value) :
    label n name = value := by
  unfold label
  rw [h, Option.getD_some]

/-- Nothing else is looked at where a label is written and not empty. -/
theorem orElse_label {name value : String} (h : n.attribute? name = some value) (hv : value ≠ "")
    (second : String) : orElse (label n name) second = value := by
  rw [label_eq h, orElse, if_neg hv]

theorem readValue?_text (h : n.tag ∈ textTags) : readValue? n = some (.text n.text) := by
  cases n
  rw [readValue?, if_pos (List.contains_iff_mem.2 h)]

theorem readValue?_element (h : n.tag = elementTag) (hl : Labels e n) (hk : e.kind ≠ "")
    (hn : e.name ≠ "") : readValue? n = some (.element
      { e with properties := readProperties [] n.children, children := [] }) := by
  have hkind := orElse_label hl.kind hk (label n "elementType")
  have hname := orElse_label hl.name hn (label n "name")
  have hgui := label_eq hl.gui
  have henabled := isEnabled_eq hl
  cases n
  obtain rfl : _ = elementTag := h
  rw [readValue?, ← hkind, ← hname, ← hgui, ← henabled]
  rfl

theorem readValue?_list (h : n.tag = listTag) :
    readValue? n = some (.list (readItems n.children)) := by
  cases n
  obtain rfl : _ = listTag := h
  rw [readValue?]
  rfl

theorem readValue?_object (h : n.tag = objectTag) : readValue? n = none := by
  cases n
  obtain rfl : _ = objectTag := h
  rw [readValue?]
  rfl

/-- What stands between the properties is passed over. -/
theorem readProperties_skipped (h : n.attribute? "name" = none ∨ n.tag = objectTag)
    (seen : Entries Property) : readProperties seen (n :: nodes) = readProperties seen nodes := by
  rw [readProperties]
  obtain h | h := h
  · rw [h]
  · rw [readValue?_object h]
    cases n.attribute? "name" <;> rfl

-- The three readers go along with the three relations: the recursion is on how a node is written.
mutual

/-- A node that writes a value is read as that value. -/
theorem readValue?_eq {p : Property} {n : Xml.Node} (h : WritesValue p n) (hs : p.Storable) :
    readValue? n = some p := by
  match h with
  | .text tag => exact readValue?_text tag
  | .element tag labels properties =>
    cases hs with
    | element kind name childless names values =>
      rw [readValue?_element tag labels kind name, readProperties_eq properties values,
        Entries.putAll_of_nodup names, List.nil_append, Element.with_children_eq childless]
  | .list tag written =>
    cases hs with
    | list values => rw [readValue?_list tag, readItems_eq written values]

/-- Nodes that write properties are read as these, put after what was seen before. -/
theorem readProperties_eq {ps : Entries Property} {nodes : List Xml.Node}
    (h : WritesProperties ps nodes) (hs : ∀ p ∈ ps, p.2.Storable) (seen : Entries Property) :
    readProperties seen nodes = Entries.putAll seen ps := by
  match h with
  | .nil => rfl
  | .skipped ignored rest => rw [readProperties_skipped ignored, readProperties_eq rest hs]
  | .entry named written rest =>
    rw [List.forall_mem_cons] at hs
    rw [readProperties, named, readValue?_eq written hs.1]
    exact readProperties_eq rest hs.2 _

theorem readItems_eq {items : List Property} {nodes : List Xml.Node} (h : WritesItems items nodes)
    (hs : ∀ p ∈ items, p.Storable) : readItems nodes = items := by
  match h with
  | .nil => rfl
  | .cons written rest =>
    rw [List.forall_mem_cons] at hs
    rw [readItems, readValue?_eq written hs.1, readItems_eq rest hs.2]

end

theorem readElement_eq (h : WritesElement e n) (hs : e.Storable) :
    { readElement n with children := e.children } = e := by
  cases hs with
  | intro kind names values _ =>
    unfold readElement
    rw [orElse_label h.labels.kind kind, label_eq h.labels.name, label_eq h.labels.gui,
      isEnabled_eq h.labels, readProperties_eq h.properties values,
      Entries.putAll_of_nodup names, List.nil_append]
    cases e
    rfl

theorem readElement_childless (h : WritesElement e n) (hs : e.Storable) (hc : e.children = []) :
    readElement n = e := by
  have hself := readElement_eq h hs
  rw [hc] at hself
  exact (Element.with_children_eq rfl).symm.trans hself

theorem WritesElements.head_tag_ne (h : WritesElements forest (n :: nodes)) : n.tag ≠ treeTag := by
  cases h with
  | lone element _ _ => exact element.tag
  | followed element _ _ _ => exact element.tag

/-- An element that no tree follows has no children. -/
theorem readElements_cons_of_writes (hn : n.tag ≠ treeTag) (h : WritesElements forest nodes) :
    readElements (n :: nodes) = readElement n :: readElements nodes := by
  cases nodes with
  | nil => rw [readElements_lone hn, readElements]
  | cons next nodes => rw [readElements, if_neg hn, if_neg h.head_tag_ne]

/-- **Reading back.** Nodes that write a forest are read as that forest. -/
theorem readElements_eq (h : WritesElements forest nodes) (hs : ∀ e ∈ forest, e.Storable) :
    readElements nodes = forest := by
  induction h with
  | nil => rw [readElements]
  | lone element childless rest ih =>
    rw [List.forall_mem_cons] at hs
    rw [readElements_cons_of_writes element.tag rest,
      readElement_childless element hs.1 childless, ih hs.2]
  | @followed e es n tree nodes element tag _ _ ihc ih =>
    rw [List.forall_mem_cons] at hs
    have hbelow : readTree tree = e.children := by
      cases tree
      rw [readTree]
      cases hs.1 with
      | intro _ _ _ children => exact ihc children
    rw [readElements, if_neg element.tag, if_pos tag, hbelow, ih hs.2]
    exact congrArg (· :: es) (readElement_eq element hs.1)

theorem ofRoot_of_writes {plan : Element} (h : WritesForest forest root)
    (hs : ∀ e ∈ forest, e.Storable) (hp : forest.find? (·.kind == planKind) = some plan) :
    ofRoot root = .ok plan := by
  obtain ⟨tree, htree, hw⟩ := h.tree
  have hread : readTree tree = forest := by
    cases tree
    rw [readTree]
    exact readElements_eq hw hs
  unfold ofRoot
  rw [h.tag, bne_self_eq_false, if_neg Bool.false_ne_true, htree]
  dsimp only
  rw [hread, hp]

/-- **Plan files.** A forest with a plan in it that can be stored is written by some document, and
every document that writes it is read as the first plan of the forest, with all that is in it. -/
theorem forest_readBack (hs : ∀ e ∈ forest, e.Storable) (hp : ∃ e ∈ forest, e.kind = planKind) :
    (∃ root, WritesForest forest root) ∧
      ∃ plan, forest.find? (·.kind == planKind) = some plan ∧
        ∀ root, WritesForest forest root → ofRoot root = .ok plan := by
  constructor
  · obtain ⟨children, hw⟩ := exists_writesElements hs
    exact ⟨{ tag := rootTag, children := [treeNode children] }, rfl, _, rfl, hw⟩
  · obtain ⟨e, he, hk⟩ := hp
    have hsome : (forest.find? (·.kind == planKind)).isSome :=
      List.find?_isSome.2 ⟨e, he, beq_iff_eq.2 hk⟩
    obtain ⟨plan, hplan⟩ := Option.isSome_iff_exists.1 hsome
    exact ⟨plan, hplan, fun root h => ofRoot_of_writes h hs hplan⟩

end

/-! ## A document -/

def shopArgument : Element := { kind := "HTTPArgument", name := "page" }

/-- A nested element with a list of a text and of one more element. -/
def shopVariables : Element where
  kind := "Arguments"
  name := "Variables"
  properties := [("Arguments.arguments", .list [.text "a", .element shopArgument])]

def shopSampler : Element := { kind := "HTTPSamplerProxy", name := "Get" }

def shopUsers : Element :=
  { kind := "ThreadGroup", name := "Users", enabled := false, children := [shopSampler] }

def shopResults : Element := { kind := "ResultCollector" }

def shopPlan : Element where
  kind := planKind
  name := "Shop"
  gui := "TestPlanGui"
  properties := [("TestPlan.comments", .text ""),
    ("TestPlan.user_defined_variables", .element shopVariables)]
  children := [shopUsers, shopResults]

/-- A forest of two plans that starts with another element. -/
def shopForest : List Element :=
  [{ kind := "WorkBench" }, shopPlan, { kind := planKind, name := "Spare" }]

/-- The properties of the plan, with an object and a nameless node between them. -/
def shopProperties : List Xml.Node :=
  [{ tag := "stringProp", attributes := [("name", "TestPlan.comments")] },
    { tag := objectTag, attributes := [("name", "saveConfig")] },
    { tag := "stringProp", text := "nameless" },
    { tag := elementTag
      attributes := ("name", "TestPlan.user_defined_variables") :: labelsOf shopVariables
      children := [{
        tag := listTag
        attributes := [("name", "Arguments.arguments")]
        children := [{ tag := "stringProp", text := "a" },
          { tag := elementTag, attributes := labelsOf shopArgument }] }] }]

/-- A document of the forest. Of the elements without children only the sampler has a tree. -/
def shopDocument : Xml.Node where
  tag := rootTag
  children := [treeNode [elementNode { kind := "WorkBench" },
    elementNode shopPlan shopProperties,
    treeNode [elementNode shopUsers, treeNode [elementNode shopSampler, treeNode []],
      elementNode shopResults],
    elementNode { kind := planKind, name := "Spare" }]]

theorem shopVariables_storable : (Property.element shopVariables).Storable := by
  refine .element (by decide) (by decide) rfl (by decide) (List.forall_mem_singleton.2 ?_)
  refine .list (List.forall_mem_cons.2 ⟨.text "a", List.forall_mem_singleton.2 ?_⟩)
  exact .element (by decide) (by decide) rfl List.nodup_nil (by simp [shopArgument])

/-- An element without properties and children can be stored as soon as it has a class. -/
theorem storable_of_bare {e : Element} (hk : e.kind ≠ "") (hp : e.properties = [])
    (hc : e.children = []) : e.Storable := by
  refine .intro hk ?_ ?_ ?_
  · rw [hp]
    exact List.nodup_nil
  · simp [hp]
  · simp [hc]

theorem shopForest_storable : ∀ e ∈ shopForest, e.Storable := by
  have husers : shopUsers.Storable :=
    .intro (by decide) List.nodup_nil (by simp [shopUsers])
      (List.forall_mem_singleton.2 (storable_of_bare (by decide) rfl rfl))
  have hplan : shopPlan.Storable :=
    .intro (by decide) (by decide)
      (List.forall_mem_cons.2 ⟨.text "", List.forall_mem_singleton.2 shopVariables_storable⟩)
      (List.forall_mem_cons.2
        ⟨husers, List.forall_mem_singleton.2 (storable_of_bare (by decide) rfl rfl)⟩)
  exact List.forall_mem_cons.2 ⟨storable_of_bare (by decide) rfl rfl,
    List.forall_mem_cons.2 ⟨hplan,
      List.forall_mem_singleton.2 (storable_of_bare (by decide) rfl rfl)⟩⟩

theorem writesProperties_shopProperties : WritesProperties shopPlan.properties shopProperties := by
  refine .entry rfl (.text (n := ⟨_, _, "", _⟩) (by decide)) ?_
  refine .skipped (.inr rfl) (.skipped (.inl rfl) (.entry rfl ?_ .nil))
  refine .element rfl (labels_labelsOf shopVariables (some _) _ _) ?_
  refine .entry rfl (.list rfl ?_) .nil
  refine .cons (.text (n := ⟨_, _, "a", _⟩) (by decide)) (.cons ?_ .nil)
  exact .element rfl (labels_labelsOf shopArgument none _ _) .nil

theorem writesForest_shopDocument : WritesForest shopForest shopDocument := by
  refine ⟨rfl, _, rfl, ?_⟩
  refine .lone (writesElement_elementNode .nil) rfl ?_
  refine .followed (writesElement_elementNode writesProperties_shopProperties) rfl ?_ ?_
  · refine .followed (writesElement_elementNode .nil) rfl ?_ ?_
    · exact .followed (writesElement_elementNode .nil) rfl .nil .nil
    · exact .lone (writesElement_elementNode .nil) rfl .nil
  · exact .lone (writesElement_elementNode .nil) rfl .nil

theorem forest_readBack_shop :
    (∀ e ∈ shopForest, e.Storable) ∧ (∃ e ∈ shopForest, e.kind = planKind) ∧
      WritesForest shopForest shopDocument ∧ ofRoot shopDocument = .ok shopPlan := by
  have hplan : ∃ e ∈ shopForest, e.kind = planKind := ⟨shopPlan, by simp [shopForest], rfl⟩
  obtain ⟨-, plan, hfirst, hread⟩ := forest_readBack shopForest_storable hplan
  obtain rfl : shopPlan = plan := Option.some.inj hfirst
  exact ⟨shopForest_storable, hplan, writesForest_shopDocument,
    hread _ writesForest_shopDocument⟩

end PlanFile
end PlanCode
