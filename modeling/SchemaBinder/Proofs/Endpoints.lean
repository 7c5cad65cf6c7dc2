import Mathlib.Data.List.Nodup
import SchemaBinder.Operation.Schema
import SchemaBinder.Proofs.Json.Parts
/-!
# The endpoints of a document

An endpoint is a method of a path.  A document declares it if the item of the path, with its
references followed, is an object that holds an object under the method (`Document.Declares`).

`Document.endpoints` lists the declared endpoints: path by path in the order of the document, and
the methods of one path in the order of `Operation.methods`.  The operations of a document are those
of its endpoints, one for each and in this order (`Api.endpoints_of_ofDocument`).
-/

namespace SchemaBinder

/-- A method of a path. -/
structure Endpoint where
  path : String
  method : String
deriving DecidableEq, Repr

/-- The method and the path that the operation belongs to. -/
def Operation.endpoint (o : Operation) : Endpoint := ⟨o.path, o.method⟩

namespace Document

/-- The document declares an endpoint by an object inside the item of its path. -/
structure Declares (doc : Document) (e : Endpoint) (item methodItem : Json) : Prop where
  path : ∃ declared, (e.path, declared) ∈ doc.paths.getD [] ∧ doc.resolve declared = .ok item
  item_isObj : item.isObj
  method : e.method ∈ Operation.methods
  holds : item.get? e.method = some methodItem
  isObj : methodItem.isObj

/-- The methods under which the item of a path holds an object. -/
def itemMethods (item : Json) : List String :=
  Operation.methods.filter fun method => (item.get? method).any (·.isObj)

/-- The endpoints of a path. -/
def pathEndpoints (doc : Document) (path : String) (declared : Json) : List Endpoint :=
  match doc.resolve declared with
  | .ok item => (itemMethods item).map (⟨path, ·⟩)
  | .error _ => []

/-- The endpoints of all paths. -/
def endpoints (doc : Document) : List Endpoint :=
  (doc.paths.getD []).flatMap fun (path, declared) => doc.pathEndpoints path declared

variable {doc : Document} {e : Endpoint} {path : String} {declared : Json}

theorem mem_pathEndpoints : e ∈ doc.pathEndpoints path declared ↔
    e.path = path ∧ ∃ item methodItem, doc.resolve declared = .ok item ∧
      e.method ∈ Operation.methods ∧ item.get? e.method = some methodItem ∧ methodItem.isObj := by
  obtain ⟨path', method⟩ := e
  rw [pathEndpoints]
  cases doc.resolve declared with
  | error e => simp
  | ok item =>
    simp only [itemMethods, List.mem_map, List.mem_filter, Option.any_eq_true, Endpoint.mk.injEq,
      Except.ok.injEq]
    constructor
    · rintro ⟨method', ⟨known, methodItem, holds, isObj⟩, rfl, rfl⟩
      exact ⟨rfl, item, methodItem, rfl, known, holds, isObj⟩
    · rintro ⟨rfl, item', methodItem, rfl, known, holds, isObj⟩
      exact ⟨method, ⟨known, methodItem, holds, isObj⟩, rfl, rfl⟩

theorem mem_endpoints : e ∈ doc.endpoints ↔ ∃ item methodItem, doc.Declares e item methodItem := by
  rw [endpoints, List.mem_flatMap]
  constructor
  · rintro ⟨⟨path, declared⟩, there, member⟩
    obtain ⟨rfl, item, methodItem, resolved, known, holds, isObj⟩ := mem_pathEndpoints.1 member
    have object : item.isObj := by
      cases item with
      | obj => rfl
      | _ => cases holds
    exact ⟨item, methodItem, ⟨declared, there, resolved⟩, object, known, holds, isObj⟩
  · rintro ⟨item, methodItem, ⟨declared, there, resolved⟩, _, known, holds, isObj⟩
    exact ⟨(e.path, declared), there,
      mem_pathEndpoints.2 ⟨rfl, item, methodItem, resolved, known, holds, isObj⟩⟩

theorem nodup_pathEndpoints (doc : Document) (path : String) (declared : Json) :
    (doc.pathEndpoints path declared).Nodup := by
  rw [pathEndpoints]
  split
  · have distinct : Operation.methods.Nodup := by decide
    refine List.Nodup.map ?_ (distinct.filter _)
    intro method method' same
    exact congrArg Endpoint.method same
  · exact List.nodup_nil

/-- A well-formed document has each path once. -/
theorem nodup_paths (wellFormed : doc.root.WellFormed) :
    ((doc.paths.getD []).map (·.1)).Nodup :=
  wellFormed.nodup_keys "paths"

theorem nodup_endpoints (wellFormed : doc.root.WellFormed) : doc.endpoints.Nodup := by
  have distinct := nodup_paths wellFormed
  rw [endpoints, List.nodup_flatMap]
  refine ⟨fun field _ => nodup_pathEndpoints doc field.1 field.2, ?_⟩
  refine (List.pairwise_map.1 distinct).imp ?_
  intro field field' differ e here there
  exact differ ((mem_pathEndpoints.1 here).1.symm.trans (mem_pathEndpoints.1 there).1)

/-- The endpoints of one path are declared inside one item. -/
theorem Declares.item_unique {e e' : Endpoint} {item item' methodItem methodItem' : Json}
    (wellFormed : doc.root.WellFormed) (declares : doc.Declares e item methodItem)
    (declares' : doc.Declares e' item' methodItem') (path : e.path = e'.path) : item = item' := by
  obtain ⟨declared, there, resolved⟩ := declares.path
  obtain ⟨declared', there', resolved'⟩ := declares'.path
  have same := List.inj_on_of_nodup_map (nodup_paths wellFormed) there there' path
  rw [(Prod.mk.inj same).2, resolved'] at resolved
  exact (Except.ok.inj resolved).symm

end Document

/-! ## Operations -/

namespace Operation

variable {doc : Document} {types : TypeMap} {o : Operation}

/-- The operation is what becomes of an object that the document declares its endpoint by. -/
structure DeclaredBy (doc : Document) (types : TypeMap) (item methodItem : Json) (o : Operation) :
    Prop where
  declares : doc.Declares o.endpoint item methodItem
  made : ofSchema doc types o.path o.method methodItem ((item.getArr? "parameters").getD [])
    (Extensions.ofJson item) = .ok o

theorem endpoint_of_ofSchema {path method : String} {item : Json} {shared : List Json}
    {pathExtensions : Extensions}
    (made : ofSchema doc types path method item shared pathExtensions = .ok o) :
    o.endpoint = ⟨path, method⟩ := by
  obtain ⟨declared, _, made⟩ := bind_eq_ok_iff.1 made
  obtain ⟨⟨parameters, imports⟩, _, made⟩ := bind_eq_ok_iff.1 made
  obtain ⟨⟨body, bodyImports⟩, _, made⟩ := bind_eq_ok_iff.1 made
  obtain ⟨⟨responses, responseImports⟩, _, made⟩ := bind_eq_ok_iff.1 made
  cases made
  rfl

theorem DeclaredBy.pathExtensions {item methodItem : Json}
    (declared : o.DeclaredBy doc types item methodItem) :
    o.pathExtensions = Extensions.ofJson item := by
  obtain ⟨_, _, made⟩ := bind_eq_ok_iff.1 declared.made
  obtain ⟨_, _, made⟩ := bind_eq_ok_iff.1 made
  obtain ⟨_, _, made⟩ := bind_eq_ok_iff.1 made
  obtain ⟨_, _, made⟩ := bind_eq_ok_iff.1 made
  exact (congrArg Operation.pathExtensions (Except.ok.inj made)).symm

/-- The methods of an item and the objects it holds under them. -/
def present (item : Json) : List (String × Json) :=
  methods.filterMap fun method => ((item.get? method).filter (·.isObj)).map (method, ·)

theorem mem_present {item methodItem : Json} {method : String} :
    (method, methodItem) ∈ present item ↔
      method ∈ methods ∧ item.get? method = some methodItem ∧ methodItem.isObj := by
  simp only [present, List.mem_filterMap, Option.map_eq_some_iff, Option.filter_eq_some_iff,
    Prod.mk.injEq]
  constructor
  · rintro ⟨method, known, methodItem, ⟨holds, isObj⟩, rfl, rfl⟩
    exact ⟨known, holds, isObj⟩
  · rintro ⟨known, holds, isObj⟩
    exact ⟨method, known, methodItem, ⟨holds, isObj⟩, rfl, rfl⟩

theorem map_fst_present (item : Json) : (present item).map (·.1) = Document.itemMethods item := by
  rw [present, List.map_filterMap, Document.itemMethods, ← List.filterMap_eq_filter]
  refine List.filterMap_congr fun method _ => ?_
  rw [Option.guard]
  cases item.get? method with
  | none => rfl
  | some v => cases object : v.isObj <;> simp [Option.filter, object]

/-- The operations of a path are those of its endpoints. -/
theorem endpoints_of_ofPath {path : String} {declared : Json} {ofOne : List Operation}
    (made : ofPath doc types path declared = .ok ofOne) :
    ofOne.map endpoint = doc.pathEndpoints path declared := by
  obtain ⟨item, resolved, made⟩ := bind_eq_ok_iff.1 made
  rw [Document.pathEndpoints, resolved]
  dsimp only
  split at made
  · rw [map_eq_of_mapM (fun _ _ => endpoint_of_ofSchema) made, ← map_fst_present, List.map_map]
    rfl
  · next notObj =>
    cases made
    rw [← map_fst_present]
    cases item with
    | obj => exact absurd rfl notObj
    | _ => rfl

theorem declaredBy_of_ofPath {path : String} {declared : Json} {ofOne : List Operation}
    (there : (path, declared) ∈ doc.paths.getD [])
    (made : ofPath doc types path declared = .ok ofOne) :
    ∀ o ∈ ofOne, ∃ item methodItem, DeclaredBy doc types item methodItem o := by
  obtain ⟨item, resolved, made⟩ := bind_eq_ok_iff.1 made
  split at made
  · next object =>
    intro o member
    obtain ⟨⟨method, methodItem⟩, present, made⟩ := exists_of_mem_mapM made o member
    obtain ⟨known, holds, isObj⟩ := mem_present.1 present
    obtain ⟨rfl, rfl⟩ := Endpoint.mk.inj (endpoint_of_ofSchema made)
    exact ⟨item, methodItem, ⟨⟨declared, there, resolved⟩, object, known, holds, isObj⟩, made⟩
  · cases made
    exact fun o member => nomatch member

end Operation

namespace Api

variable [DomainNames] {doc : Document} {types : TypeMap} {api : Api}

/-- The operations of a document are those of its endpoints, each once and in their order. -/
theorem endpoints_of_ofDocument (produced : ofDocument doc types = .ok api) :
    api.operations.map (·.endpoint) = doc.endpoints := by
  obtain ⟨perPath, each, made⟩ := bind_eq_ok_iff.1 produced
  cases made
  rw [List.map_flatten, Document.endpoints, List.flatMap_def]
  rw [map_eq_of_mapM (fun _ _ => Operation.endpoints_of_ofPath) each]

/-- The base path of a document is kept. -/
theorem basePath_of_ofDocument (produced : ofDocument doc types = .ok api) :
    api.basePath = doc.basePath := by
  obtain ⟨_, _, made⟩ := bind_eq_ok_iff.1 produced
  cases made
  rfl

/-- Every operation of a document is declared by it. -/
theorem declaredBy_of_ofDocument (produced : ofDocument doc types = .ok api) :
    ∀ o ∈ api.operations, ∃ item methodItem, o.DeclaredBy doc types item methodItem := by
  obtain ⟨perPath, each, made⟩ := bind_eq_ok_iff.1 produced
  cases made
  intro o member
  obtain ⟨ofOne, there, member⟩ := List.mem_flatten.1 member
  obtain ⟨⟨path, declared⟩, known, made⟩ := exists_of_mem_mapM each ofOne there
  exact Operation.declaredBy_of_ofPath known made o member

end Api

end SchemaBinder
