import Mathlib.Data.List.Induction
import Mathlib.Data.List.Nodup
import SchemaBinder.Proofs.Binding.Operations
import SchemaBinder.Proofs.Session
import SchemaBinder.Url.PlainNames
/-!
# The interfaces of a document

Operations are put into interfaces one after the other, each into the one of its name.  `Grouped`
is what holds of the interfaces at every moment; putting one more operation in keeps it
(`Grouped.place`), so it holds in the end.

Together with what binding leaves alone in an operation it follows that the interfaces of a document
part its endpoints (`HandOff.interfaces_part_endpoints`).
-/

namespace SchemaBinder

/-! ## Putting operations into interfaces -/

namespace Interface

/-- What is known of an interface of some operations, where `key` says in which one each is. -/
structure Holds (key : Operation → String) (ops : List Operation) (i : Interface) : Prop where
  nonempty : i.operations ≠ []
  sublist : i.operations.Sublist ops
  named : ∀ o ∈ i.operations, i.name = key o
  imports : i.imports = ImportSet.empty.extend (i.operations.flatMap (·.imports.names))

/-- The operations are in interfaces with distinct names, which are in the order of their first
operations. -/
structure Grouped (key : Operation → String) (ops : List Operation) (is : List Interface) :
    Prop where
  distinct : (is.map (·.name)).Nodup
  all : (is.flatMap (·.operations)).Perm ops
  firsts : (is.filterMap (·.operations.head?)).Sublist ops
  each : ∀ i ∈ is, i.Holds key ops

variable {key : Operation → String} {ops : List Operation} {is : List Interface} {i : Interface}
  {o : Operation} {name : String}

theorem Holds.more (holds : i.Holds key ops) (o : Operation) : i.Holds key (ops ++ [o]) :=
  { holds with sublist := holds.sublist.trans (List.sublist_append_left ops [o]) }

theorem holds_ofOperation (ops : List Operation) (o : Operation) :
    (ofOperation (key o) o).Holds key (ops ++ [o]) where
  nonempty := List.cons_ne_nil o []
  sublist := List.sublist_append_right ops [o]
  named o' member := by rw [List.mem_singleton.1 member]; rfl
  imports := by simp [ofOperation]

theorem Holds.add (holds : i.Holds key ops) (named : i.name = key o) :
    (i.add o).Holds key (ops ++ [o]) where
  nonempty := by simp [Interface.add]
  sublist := holds.sublist.append (List.Sublist.refl [o])
  named o' member := by
    rcases List.mem_append.1 member with member | member
    · exact holds.named o' member
    · rw [List.mem_singleton.1 member]
      exact named
  imports := by
    show i.imports.extend o.imports.names = _
    rw [holds.imports, ← ImportSet.extend_append]
    simp [Interface.add]

/-- An operation gets an interface of its own if there is none of its name, and is otherwise added
to the one that there is. -/
theorem place_cases (name : String) (o : Operation) (is : List Interface) :
    (name ∉ is.map (·.name) ∧ place name o is = is ++ [ofOperation name o]) ∨
      ∃ before i after, is = before ++ i :: after ∧ i.name = name ∧
        place name o is = before ++ i.add o :: after := by
  induction is with
  | nil => exact .inl ⟨List.not_mem_nil, rfl⟩
  | cons i rest ih =>
    rw [place]
    by_cases here : i.name = name
    · rw [if_pos here]
      exact .inr ⟨[], i, rest, rfl, here, rfl⟩
    · rw [if_neg here]
      rcases ih with ⟨missing, placed⟩ | ⟨before, j, after, split, found, placed⟩
      · left
        rw [placed]
        exact ⟨by simpa [Ne.symm here] using missing, rfl⟩
      · right
        rw [placed, split]
        exact ⟨i :: before, j, after, rfl, found, rfl⟩

/-- One more operation is put in. -/
theorem Grouped.place (grouped : Grouped key ops is) (o : Operation) :
    Grouped key (ops ++ [o]) (place (key o) o is) := by
  rcases place_cases (key o) o is with ⟨missing, placed⟩ | ⟨before, i, after, rfl, named, placed⟩
  · rw [placed]
    refine ⟨?_, ?_, ?_, ?_⟩
    · rw [List.map_append]
      exact grouped.distinct.append (List.nodup_singleton _) (by simpa [ofOperation] using missing)
    · rw [List.flatMap_append]
      exact grouped.all.append_right [o]
    · rw [List.filterMap_append]
      exact grouped.firsts.append (List.Sublist.refl [o])
    · intro i member
      rcases List.mem_append.1 member with member | member
      · exact (grouped.each i member).more o
      · rw [List.mem_singleton.1 member]
        exact holds_ofOperation ops o
  · rw [placed]
    obtain ⟨ofBefore, here, ofAfter⟩ : (∀ j ∈ before, j.Holds key ops) ∧ i.Holds key ops ∧
        ∀ j ∈ after, j.Holds key ops := by
      simpa [or_imp, forall_and] using grouped.each
    refine ⟨?_, ?_, ?_, ?_⟩
    · simpa [Interface.add] using grouped.distinct
    · have one : (before ++ i.add o :: after).flatMap (·.operations) =
          (before.flatMap (·.operations) ++ i.operations) ++ o :: after.flatMap (·.operations) := by
        simp [Interface.add]
      have rest : (before ++ i :: after).flatMap (·.operations) =
          (before.flatMap (·.operations) ++ i.operations) ++ after.flatMap (·.operations) := by
        simp
      rw [one]
      refine List.perm_middle.trans ?_
      rw [← rest]
      exact (grouped.all.cons o).trans (List.perm_append_singleton o ops).symm
    · have same : (i.add o).operations.head? = i.operations.head? :=
        List.head?_append_of_ne_nil _ here.nonempty
      have first : (before ++ i.add o :: after).filterMap (·.operations.head?) =
          (before ++ i :: after).filterMap (·.operations.head?) := by
        rw [List.filterMap_append, List.filterMap_append, List.filterMap_cons, List.filterMap_cons,
          same]
      rw [first]
      exact grouped.firsts.trans (List.sublist_append_left ops [o])
    · intro j member
      rcases List.mem_append.1 member with member | member
      · exact (ofBefore j member).more o
      · rcases List.mem_cons.1 member with rfl | member
        · exact here.add named
        · exact (ofAfter j member).more o

/-- All operations are in their interfaces. -/
theorem grouped_ofOperations (names : NamePolicy) (ops : List Operation) :
    Grouped (fun o => names.interfaceName o.groupKey) ops (ofOperations names ops) := by
  induction ops using List.reverseRecOn with
  | nil => exact ⟨List.nodup_nil, .nil, List.Sublist.refl [], fun _ member => nomatch member⟩
  | append_singleton ops o ih =>
    rw [ofOperations, List.foldl_concat]
    exact ih.place o

end Interface

/-! ## The interface of a path -/

namespace Operation

variable {doc : Document} {types : TypeMap} {registry : TypeRegistry} {options : OperationOptions}
  {basePath : Option String} {o o' b : Operation} {item item' methodItem methodItem' : Json}

theorem endpoint_of_bound (done : o.bound registry options basePath = .ok b) :
    b.endpoint = o.endpoint := by
  obtain ⟨_, _, _, _, _, _, _, _, _, _, rfl⟩ := bound_eq_ok_iff.1 done
  rfl

theorem groupKey_of_bound (done : o.bound registry options basePath = .ok b) :
    b.groupKey = o.group basePath := by
  obtain ⟨_, _, _, _, _, _, _, _, _, _, rfl⟩ := bound_eq_ok_iff.1 done
  rfl

/-- A well-formed document has one item for a path, so the operations of a path are of one group. -/
theorem group_eq_of_path (wellFormed : doc.root.WellFormed)
    (declared : o.DeclaredBy doc types item methodItem)
    (declared' : o'.DeclaredBy doc types item' methodItem') (path : o.path = o'.path) :
    o.group basePath = o'.group basePath := by
  have same : item = item' := declared.declares.item_unique wellFormed declared'.declares path
  rw [group, group, declared.pathExtensions, declared'.pathExtensions, same, path]

end Operation

/-! ## The interfaces of a document -/

/-- Interfaces have the endpoints of a document, each once.  Inside an interface, and of the first
ones of all interfaces, the order is that of the document.  The name of an interface is that of the
group of each of its operations, and a path is in one interface. -/
structure Interface.PartEndpoints (doc : Document) (names : NamePolicy) (is : List Interface) :
    Prop where
  all : ((is.flatMap (·.operations)).map (·.endpoint)).Perm doc.endpoints
  distinct : (is.map (·.name)).Nodup
  firsts : ((is.filterMap (·.operations.head?)).map (·.endpoint)).Sublist doc.endpoints
  nonempty : ∀ i ∈ is, i.operations ≠ []
  ordered : ∀ i ∈ is, (i.operations.map (·.endpoint)).Sublist doc.endpoints
  named : ∀ i ∈ is, ∀ o ∈ i.operations, i.name = names.interfaceName o.groupKey
  path : ∀ i ∈ is, ∀ j ∈ is, ∀ o ∈ i.operations, ∀ o' ∈ j.operations, o.path = o'.path → i = j
  imports : ∀ i ∈ is, i.imports.names = (i.operations.flatMap (·.imports.names)).eraseDups

namespace HandOff

variable {config : Config} {registry : TypeRegistry} {doc : Document} {is : List Interface}

theorem part_eq_ok_iff {α : Type} {make : Except Fault α} {made : Option α} :
    part true make = .ok made ↔ ∃ a, make = .ok a ∧ made = some a := by
  rw [part, if_pos rfl]
  cases make with
  | error e => simp [Except.map]
  | ok a => simp [Except.map, eq_comm]

/-- The interfaces are made of the bound operations of the endpoints of the document. -/
theorem exists_bound_of_boundInterfaces [DomainNames]
    (made : boundInterfaces config registry doc = .ok is) :
    ∃ api operations, Api.ofDocument doc config.types = .ok api ∧
      operations.map (·.endpoint) = doc.endpoints ∧
      (∀ b ∈ operations, ∃ o ∈ api.operations, o.bound registry config.options.operations
        (config.options.operations.rootPath api.basePath) = .ok b) ∧
      is = Interface.ofOperations config.options.names operations := by
  obtain ⟨api, produced, made⟩ := bind_eq_ok_iff.1 made
  obtain ⟨operations, bound, made⟩ := bind_eq_ok_iff.1 made
  cases made
  obtain ⟨noFault, rfl⟩ := Progress.result_eq_ok_iff.1 bound
  have commits := Operation.commits_bindAndGroup registry config.options.operations
    (config.options.operations.rootPath api.basePath)
  refine ⟨api, _, produced, ?_, Progress.exists_bound_of_mem commits noFault, rfl⟩
  rw [← Api.endpoints_of_ofDocument produced]
  exact Progress.map_elements commits noFault fun _ _ => Operation.endpoint_of_bound

theorem partEndpoints_of_boundInterfaces [DomainNames] (wellFormed : doc.root.WellFormed)
    (made : boundInterfaces config registry doc = .ok is) :
    Interface.PartEndpoints doc config.options.names is := by
  obtain ⟨api, operations, produced, endpoints, bound, rfl⟩ := exists_bound_of_boundInterfaces made
  have grouped := Interface.grouped_ofOperations config.options.names operations
  have oneGroup : ∀ b ∈ operations, ∀ b' ∈ operations, b.path = b'.path →
      b.groupKey = b'.groupKey := by
    intro b member b' member' path
    obtain ⟨o, there, here⟩ := bound b member
    obtain ⟨o', there', here'⟩ := bound b' member'
    obtain ⟨item, methodItem, declared⟩ := Api.declaredBy_of_ofDocument produced o there
    obtain ⟨item', methodItem', declared'⟩ := Api.declaredBy_of_ofDocument produced o' there'
    have ofB : b.path = o.path := congrArg Endpoint.path (Operation.endpoint_of_bound here)
    have ofB' : b'.path = o'.path := congrArg Endpoint.path (Operation.endpoint_of_bound here')
    rw [Operation.groupKey_of_bound here, Operation.groupKey_of_bound here']
    exact Operation.group_eq_of_path wellFormed declared declared' (by rw [← ofB, path, ofB'])
  refine ⟨?_, grouped.distinct, ?_, ?_, ?_, ?_, ?_, ?_⟩
  · rw [← endpoints]
    exact grouped.all.map _
  · rw [← endpoints]
    exact grouped.firsts.map _
  · exact fun i member => (grouped.each i member).nonempty
  · intro i member
    rw [← endpoints]
    exact (grouped.each i member).sublist.map _
  · exact fun i member => (grouped.each i member).named
  · intro i member j member' o inside o' inside' path
    have here := grouped.each i member
    have there := grouped.each j member'
    have group := oneGroup o (here.sublist.subset inside) o' (there.sublist.subset inside') path
    refine List.inj_on_of_nodup_map grouped.distinct member member' ?_
    rw [here.named o inside, there.named o' inside', group]
  · intro i member
    rw [(grouped.each i member).imports, ImportSet.names_extend]
    simp [ImportSet.empty]

theorem boundInterfaces_of_ofDocument [DomainNames] {target : Target} {h : HandOff}
    (wanted : target.hasApis = true) (made : ofDocument config registry doc target = .ok h) :
    ∃ is, boundInterfaces config registry doc = .ok is ∧ h.interfaces = some is := by
  obtain ⟨models, _, rest⟩ := bind_eq_ok_iff.1 made
  obtain ⟨interfaces, ofApis, whole⟩ := bind_eq_ok_iff.1 rest
  cases whole
  rw [wanted] at ofApis
  exact part_eq_ok_iff.1 ofApis

end HandOff

/-- When a session processes a document with its interfaces, then these part the endpoints of the
document, which are the methods that it declares. -/
theorem HandOff.interfaces_part_endpoints [DomainNames] {s s' : Session} {doc : Document}
    {target : Target} {network : Network} {tree tree' : FileTree} {h : HandOff}
    (wellFormed : doc.root.WellFormed) (wanted : target.hasApis = true)
    (done : runOn (m := Id) network tree (s.process doc target) = ((.ok h, s'), tree')) :
    ∃ is, h.interfaces = some is ∧ Interface.PartEndpoints doc s.config.options.names is ∧
      doc.endpoints.Nodup ∧
      ∀ e, e ∈ doc.endpoints ↔ ∃ item methodItem, doc.Declares e item methodItem := by
  obtain ⟨registry, _, _, made⟩ := Session.registry_of_process done
  obtain ⟨is, grouped, same⟩ := boundInterfaces_of_ofDocument wanted made
  exact ⟨is, same, partEndpoints_of_boundInterfaces wellFormed grouped,
    Document.nodup_endpoints wellFormed, fun e => Document.mem_endpoints⟩

/-- Three paths, of which the first and the last belong to groups whose names are the same.  The
first one declares `post` before `get`. -/
def petsDocument : Document :=
  ⟨.obj [("swagger", .str "2.0"), ("paths", .obj [
    ("/pets", .obj [("post", .obj []), ("get", .obj [])]),
    ("/stores", .obj [("get", .obj [])]),
    ("/shelters", .obj [("x-interfaceName", .str "PETS"), ("put", .obj []), ("get", .null)])])]⟩

/-- A session that has its registry. -/
def petsSession : Session :=
  { Session.ofManifest .standard .empty with registry := some .empty }

/-- The hand-off document of the document. -/
def petsHandOff [DomainNames] : Except Fault HandOff :=
  HandOff.ofDocument .standard .empty petsDocument .apis

theorem process_petsDocument [DomainNames] (network : Network) (tree : FileTree) :
    runOn (m := Id) network tree (petsSession.process petsDocument .apis) =
      ((petsHandOff, petsSession), tree) :=
  Session.process_of_registry rfl

/-- Two groups are in one interface, and the operations of the second are behind those of the
first. -/
theorem HandOff.interfaces_part_endpoints_pets :
    let network : Network := .offline
    let tree : FileTree := ⟨.empty, ""⟩
    petsDocument.root.WellFormed ∧ Target.apis.hasApis = true ∧
      ∃ h is, runOn (m := Id) network tree (petsSession.process petsDocument .apis) =
          ((.ok h, petsSession), tree) ∧ h.interfaces = some is ∧
        is.map (fun i => (i.name, i.operations.map fun o => (o.path, o.method))) =
          [("Pets", [("/pets", "get"), ("/pets", "post"), ("/shelters", "put")]),
            ("Stores", [("/stores", "get")])] ∧
        Interface.PartEndpoints petsDocument petsSession.config.options.names is := by
  intro network tree
  have wellFormed : petsDocument.root.WellFormed := by decide
  have wanted : Target.apis.hasApis = true := by decide
  refine ⟨wellFormed, wanted, _, _, process_petsDocument network tree, rfl, by decide, ?_⟩
  obtain ⟨is, there, parts, _⟩ :=
    interfaces_part_endpoints wellFormed wanted (process_petsDocument network tree)
  cases there
  exact parts

/-- The methods under which the fields of an object hold objects, in their order. -/
def Document.writtenMethods (item : Json) : List String :=
  ((item.asObj?.getD []).filter fun field => field.1 ∈ Operation.methods && field.2.isObj).map (·.1)

/-- The declared endpoints in the order in which the document writes them. -/
def Document.writtenEndpoints (doc : Document) : List Endpoint :=
  (doc.paths.getD []).flatMap fun (path, declared) =>
    match doc.resolve declared with
    | .ok item => (writtenMethods item).map (⟨path, ·⟩)
    | .error _ => []

/-- The methods of a path do not keep the order in which the document writes them. -/
theorem HandOff.written_order_not_kept :
    let network : Network := .offline
    let tree : FileTree := ⟨.empty, ""⟩
    ∃ h is, runOn (m := Id) network tree (petsSession.process petsDocument .apis) =
        ((.ok h, petsSession), tree) ∧ h.interfaces = some is ∧
      ∃ i ∈ is, ¬(i.operations.map (·.endpoint)).Sublist petsDocument.writtenEndpoints := by
  intro network tree
  refine ⟨_, _, process_petsDocument network tree, rfl, ?_⟩
  decide

end SchemaBinder
