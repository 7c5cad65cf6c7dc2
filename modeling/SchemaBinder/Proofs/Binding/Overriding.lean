import Mathlib.Data.List.Dedup
import SchemaBinder.Proofs.Binding.Frame
import SchemaBinder.Proofs.Binding.ReferencedClasses
import SchemaBinder.Url.PlainNames
/-!
# Parameters that are declared again

A path and its methods declare parameters, each under a name and a place (`Parameter.declaredKey?`).
Of several declarations under one key the last one counts, and it stands where it is.

The program gets there by taking away, at each declaration, the earlier ones under its key, and it
compares the keys as values of JSON.  What is left are the declarations that no later one has the
key of (`Parameter.foldl_override`).  An operation is made only if those that are left have a name and
a known place, and so then have all the others (`Parameter.keyed_of_lasts`): the values that were
compared are texts, and comparing them compares the keys.

So no two parameters of an operation have one key, and no header of a credential takes the key of
another parameter when it is added (`Parameter.nodup_fieldKeys_addHeaders`).
-/

namespace SchemaBinder

namespace ParameterLocation

/-- The text that names a location in a document. -/
def spelling : ParameterLocation → String
  | path => "path"
  | query => "query"
  | header => "header"
  | cookie => "cookie"
  | body => "body"
  | formData => "formData"

theorem parse?_eq_some_iff {place : String} {location : ParameterLocation} :
    parse? place = some location ↔ place = location.spelling := by
  constructor
  · intro known
    unfold parse? at known
    split at known <;> cases known <;> rfl
  · rintro rfl
    cases location <;> rfl

end ParameterLocation

theorem Json.getStr?_eq_some_iff {v : Json} {key s : String} :
    v.getStr? key = some s ↔ v.get? key = some (.str s) := by
  rw [getStr?, Option.bind_eq_some_iff]
  constructor
  · rintro ⟨w, found, text⟩
    cases w with
    | str => cases text; exact found
    | _ => cases text
  · intro found
    exact ⟨_, found, rfl⟩

theorem Json.same?_str {v : Option Json} {s : String} :
    Json.same? v (some (.str s)) = true ↔ v = some (.str s) := by
  cases v with
  | none => simp [same?]
  | some w => cases w <;> simp [same?, same]

namespace Parameter

variable {doc : Document} {types : TypeMap} {operationId : String} {d q : Json} {p : Parameter}
  {all rest : List Json} {ps : List Parameter}

/-! ## Keys -/

/-- The name and the place of a parameter. -/
def key (p : Parameter) : String × ParameterLocation := (p.name, p.location)

/-- The name and the place under which a parameter is declared, if the place is known. -/
def declaredKey? (d : Json) : Option (String × ParameterLocation) :=
  (d.getStr? "name").bind fun name =>
    ((d.getStr? "in").bind ParameterLocation.parse?).map (name, ·)

theorem declaredKey?_eq_some_iff {name : String} {location : ParameterLocation} :
    declaredKey? d = some (name, location) ↔
      d.getStr? "name" = some name ∧ d.getStr? "in" = some location.spelling := by
  simp only [declaredKey?, Option.bind_eq_some_iff, Option.map_eq_some_iff, Prod.mk.injEq,
    ParameterLocation.parse?_eq_some_iff]
  constructor
  · rintro ⟨_, named, _, ⟨_, placed, rfl⟩, rfl, rfl⟩
    exact ⟨named, placed⟩
  · rintro ⟨named, placed⟩
    exact ⟨name, named, location, ⟨_, placed, rfl⟩, rfl, rfl⟩

/-- Next to a declaration with a key, comparing values of JSON compares keys. -/
theorem sameKey_iff (keyed : (declaredKey? q).isSome) :
    sameKey d q = true ↔ declaredKey? d = declaredKey? q := by
  obtain ⟨⟨name, location⟩, known⟩ := Option.isSome_iff_exists.1 keyed
  obtain ⟨named, placed⟩ := declaredKey?_eq_some_iff.1 known
  rw [known, declaredKey?_eq_some_iff, sameKey, Json.getStr?_eq_some_iff.1 named,
    Json.getStr?_eq_some_iff.1 placed, Bool.and_eq_true, Json.same?_str, Json.same?_str,
    Json.getStr?_eq_some_iff, Json.getStr?_eq_some_iff]

/-! ## The declarations that count -/

/-- The declarations that no later one has the key of. -/
def lasts : List Json → List Json
  | [] => []
  | d :: rest => if rest.any (sameKey d) then lasts rest else d :: lasts rest

/-- Overriding takes away, from some declarations and more behind them, those with the key of a
later one among the further ones. -/
theorem foldl_override (first more : List Json) :
    more.foldl override first = first.filter (fun d => !more.any (sameKey d)) ++ lasts more := by
  induction more generalizing first with
  | nil => simp [lasts]
  | cons d rest ih =>
    have kept : (override first d).filter (fun q => !rest.any (sameKey q)) =
        first.filter (fun q => !(d :: rest).any (sameKey q)) ++
          if rest.any (sameKey d) then [] else [d] := by
      rw [override, List.filter_append, List.filter_filter]
      refine congrArg₂ _ (List.filter_congr fun q _ => ?_) ?_
      · rw [List.any_cons, Bool.not_or, Bool.and_comm]
      · cases later : rest.any (sameKey d) <;> simp [later]
    rw [List.foldl_cons, ih, kept, lasts, List.append_assoc]
    split <;> rfl

/-- A declaration that is overridden has the key of one that counts. -/
theorem keyed_of_lasts (keyed : ∀ d ∈ lasts all, (declaredKey? d).isSome) :
    ∀ d ∈ all, (declaredKey? d).isSome := by
  induction all with
  | nil => exact List.forall_mem_nil _
  | cons d rest ih =>
    rw [lasts] at keyed
    split at keyed
    · next later =>
      have others := ih keyed
      obtain ⟨q, member, same⟩ := List.any_eq_true.1 later
      refine List.forall_mem_cons.2 ⟨?_, others⟩
      rw [(sameKey_iff (others q member)).1 same]
      exact others q member
    · obtain ⟨here, others⟩ := List.forall_mem_cons.1 keyed
      exact List.forall_mem_cons.2 ⟨here, ih others⟩

/-- Later declarations with the key of one. -/
theorem any_sameKey_iff (keyed : ∀ q ∈ rest, (declaredKey? q).isSome) :
    rest.any (sameKey d) = true ↔ declaredKey? d ∈ rest.map declaredKey? := by
  rw [List.any_eq_true, List.mem_map]
  refine exists_congr fun q => and_congr_right fun member => ?_
  rw [sameKey_iff (keyed q member), eq_comm]

/-- The declaration is the last one with a key. -/
structure LastWith (all : List Json) (key : Option (String × ParameterLocation)) (d : Json) :
    Prop where
  declares : declaredKey? d = key
  last : ∃ before after, all = before ++ d :: after ∧ ∀ later ∈ after, declaredKey? later ≠ key

theorem LastWith.cons {key : Option (String × ParameterLocation)} (last : LastWith rest key d)
    (q : Json) : LastWith (q :: rest) key d := by
  obtain ⟨declares, before, after, rfl, others⟩ := last
  exact ⟨declares, q :: before, after, rfl, others⟩

/-- Every key has the last declaration with it, in the order in which the keys come last. -/
theorem forall₂_lasts (keyed : ∀ d ∈ all, (declaredKey? d).isSome) :
    List.Forall₂ (LastWith all) (all.map declaredKey?).dedup (lasts all) := by
  induction all with
  | nil => exact .nil
  | cons d rest ih =>
    obtain ⟨_, others⟩ := List.forall_mem_cons.1 keyed
    have later := (ih others).imp fun _ _ last => last.cons d
    have again := any_sameKey_iff (d := d) others
    rw [List.map_cons, lasts]
    by_cases there : declaredKey? d ∈ rest.map declaredKey?
    · rw [if_pos (again.2 there), List.dedup_cons_of_mem there]
      exact later
    · rw [if_neg (there ∘ again.1), List.dedup_cons_of_notMem there]
      refine .cons ⟨rfl, [], rest, rfl, fun q member same => ?_⟩ later
      exact there (same ▸ List.mem_map_of_mem member)

/-- If a declaration behind some others has a key, then so has the last one with it. -/
theorem LastWith.mem_right {shared own : List Json} {key : Option (String × ParameterLocation)}
    (last : LastWith (shared ++ own) key d) (again : q ∈ own) (same : declaredKey? q = key) :
    d ∈ own := by
  obtain ⟨_, before, after, split, others⟩ := last
  rcases List.append_eq_append_iff.1 split with ⟨between, rfl, rfl⟩ | ⟨between, rfl, rest⟩
  · simp
  · cases between with
    | nil =>
      rw [List.nil_append] at rest
      exact rest ▸ List.mem_cons_self
    | cons _ between =>
      obtain ⟨rfl, rfl⟩ := List.cons.inj rest
      exact absurd same (others q (List.mem_append_right _ again))

/-! ## The parameters that are made of them -/

theorem MadeFrom.declares (made : MadeFrom types operationId d p) :
    declaredKey? d = some p.key := by
  obtain ⟨names, made⟩ := made
  obtain ⟨name, location, named, placed, rfl, _⟩ := ofSchema_eq_ok_iff.1 made
  refine declaredKey?_eq_some_iff.2 ⟨named, ?_⟩
  replace placed := ParameterLocation.parse?_eq_some_iff.1 placed
  show d.getStr? "in" = some location.spelling
  cases text : d.getStr? "in" with
  | none =>
    -- no location is spelled by the text that stands in for a missing one
    rw [text, Option.getD_none] at placed
    exact absurd placed (by cases location <;> decide)
  | some place =>
    rw [text, Option.getD_some] at placed
    exact congrArg some placed

/-- What the declarations of a path, `shared`, and of a method, `own`, have to do with the
parameters that are made of them. -/
structure OfLasts (types : TypeMap) (operationId : String) (shared own : List Json)
    (ps : List Parameter) : Prop where
  /-- Every declaration has a name and a known place. -/
  keyed : ∀ d ∈ shared ++ own, (declaredKey? d).isSome
  /-- Every key has the parameter that the last declaration with it becomes, in the order in which
  the keys come last. -/
  made : List.Forall₂ (fun key p => ∃ d, LastWith (shared ++ own) key d ∧
      MadeFrom types operationId d p)
    ((shared ++ own).map declaredKey?).dedup ps
  /-- A declaration of the method wins. -/
  wins : ∀ d ∈ own, ∃ p ∈ ps, declaredKey? d = some p.key ∧
    ∃ counts ∈ own, MadeFrom types operationId counts p
  /-- Declarations that differ in their places, or in their names, are both there. -/
  apart : ∀ d ∈ shared ++ own, ∀ q ∈ shared ++ own, declaredKey? d ≠ declaredKey? q →
    ∃ p ∈ ps, ∃ other ∈ ps, p ≠ other ∧ declaredKey? d = some p.key ∧
      declaredKey? q = some other.key

theorem ofLasts_of_ofSchemas {shared own : List Json} {names : List String}
    (made : ofSchemas types operationId ((shared ++ own).foldl override []) = .ok (ps, names)) :
    OfLasts types operationId shared own ps := by
  have each := forall₂_madeFrom made
  rw [foldl_override, List.filter_nil, List.nil_append] at each
  have keyed : ∀ d ∈ shared ++ own, (declaredKey? d).isSome :=
    keyed_of_lasts fun d member => by
      obtain ⟨p, _, made⟩ := exists_of_mem_left each d member
      rw [made.declares]
      rfl
  have ofKeys := forall₂_comp (forall₂_lasts keyed) each
  have ofKey : ∀ d ∈ shared ++ own, ∃ p ∈ ps, ∃ counts,
      LastWith (shared ++ own) (declaredKey? d) counts ∧ MadeFrom types operationId counts p :=
    fun d member => exists_of_mem_left ofKeys _ (List.mem_dedup.2 (List.mem_map_of_mem member))
  refine ⟨keyed, ofKeys, fun d member => ?_, fun d member q member' differ => ?_⟩
  · obtain ⟨p, there, counts, last, made⟩ := ofKey d (List.mem_append_right shared member)
    exact ⟨p, there, last.declares.symm.trans made.declares, counts,
      last.mem_right member rfl, made⟩
  · obtain ⟨p, there, _, last, made⟩ := ofKey d member
    obtain ⟨other, there', _, last', made'⟩ := ofKey q member'
    have key := last.declares.symm.trans made.declares
    have key' := last'.declares.symm.trans made'.declares
    refine ⟨p, there, other, there', ?_, key, key'⟩
    rintro rfl
    exact differ (key.trans key'.symm)

/-- The keys of the parameters are those of the declarations, each once. -/
theorem OfLasts.map_key {shared own : List Json} (lasts : OfLasts types operationId shared own ps) :
    ps.map (fun p => some p.key) = ((shared ++ own).map declaredKey?).dedup := by
  have keys := lasts.made.imp fun key p ⟨d, last, made⟩ =>
    last.declares.symm.trans made.declares
  rw [← List.forall₂_map_right_iff, List.forall₂_eq_eq_eq] at keys
  exact keys.symm

/-! ## Keys of parameters -/

/-- The keys of the parameters that are no bodies. -/
def fieldKeys (ps : List Parameter) : List (String × ParameterLocation) :=
  (ps.map key).filter (·.2 ≠ .body)

theorem fieldKeys_link (ps : List Parameter) : fieldKeys (link ps) = fieldKeys ps := by
  have same : (link ps).map key = ps.map key := by
    induction ps using link.induct with
    | case1 => rfl
    | case2 p => rfl
    | case3 p rest _ ih =>
      rw [link, List.map_cons, List.map_cons, ih]
      · rfl
      · assumption
  rw [fieldKeys, same, fieldKeys]

theorem OfLasts.nodup_fieldKeys {shared own : List Json} {body : List Parameter}
    (lasts : OfLasts types operationId shared own ps) (bodies : ∀ p ∈ body, p.location = .body) :
    (fieldKeys (ps ++ body)).Nodup := by
  have none : (body.map key).filter (·.2 ≠ .body) = [] := by
    simpa [List.filter_eq_nil_iff, key] using bodies
  have distinct : (ps.map key).Nodup := by
    refine List.Nodup.of_map some ?_
    rw [List.map_map]
    show (ps.map fun p => some p.key).Nodup
    rw [lasts.map_key]
    exact List.nodup_dedup _
  rw [fieldKeys, List.map_append, List.filter_append, none, List.append_nil]
  exact distinct.filter _

/-- A header that is added for a credential has a key of its own. -/
theorem nodup_fieldKeys_addHeader (m : AuthMethod) (distinct : (fieldKeys ps).Nodup) :
    (fieldKeys (addHeader ps m)).Nodup := by
  rw [addHeader]
  split
  · exact distinct
  · next name _ =>
    split
    · exact distinct
    · next absent =>
      rw [fieldKeys, List.map_append, List.filter_append]
      refine distinct.append (List.nodup_singleton (name, ParameterLocation.header)) ?_
      refine List.disjoint_singleton.2 fun member => absent ?_
      obtain ⟨p, there, same⟩ := List.mem_map.1 (List.mem_of_mem_filter member)
      obtain ⟨named, placed⟩ := Prod.mk.inj same
      refine List.any_eq_true.2 ⟨p, there, ?_⟩
      rw [isHeader, named, placed]
      exact isHeader_securityHeader name m.description

theorem nodup_fieldKeys_addHeaders (methods : List AuthMethod) (distinct : (fieldKeys ps).Nodup) :
    (fieldKeys (addHeaders ps methods)).Nodup := by
  induction methods generalizing ps with
  | nil => exact distinct
  | cons m rest ih => exact ih (nodup_fieldKeys_addHeader m distinct)

end Parameter

/-! ## Operations -/

namespace Operation

open Parameter (fieldKeys)

variable {doc : Document} {types : TypeMap} {o b : Operation} {item methodItem : Json}

/-- The parameters of an operation, for the declarations of its path and of its method. -/
structure CountsLasts (doc : Document) (types : TypeMap) (item methodItem : Json) (o : Operation)
    (shared own : List Json) (ps body : List Parameter) : Prop where
  ofPath : ((item.getArr? "parameters").getD []).mapM doc.resolve = .ok shared
  ofMethod : ((methodItem.getArr? "parameters").getD []).mapM doc.resolve = .ok own
  /-- Before the body of the request there are the last declarations. -/
  lasts : Parameter.OfLasts types o.operationId shared own ps
  ofBody : ∃ names, bodyParameter doc types methodItem = .ok (body, names)
  parameters : o.parameters = Parameter.link (ps ++ body)

theorem DeclaredBy.exists_countsLasts (declared : o.DeclaredBy doc types item methodItem) :
    ∃ shared own ps body, CountsLasts doc types item methodItem o shared own ps body := by
  obtain ⟨_, ps, _, body, names, counting, ofDeclared, ofBody, parameters⟩ :=
    parameters_of_ofSchema declared.made
  obtain ⟨_, resolved, overridden⟩ := bind_eq_ok_iff.1 counting
  cases overridden
  rw [List.mapM_append] at resolved
  obtain ⟨shared, ofPath, resolved⟩ := bind_eq_ok_iff.1 resolved
  obtain ⟨own, ofMethod, resolved⟩ := bind_eq_ok_iff.1 resolved
  cases resolved
  exact ⟨shared, own, ps, body, ofPath, ofMethod, Parameter.ofLasts_of_ofSchemas ofDeclared,
    ⟨names, ofBody⟩, parameters⟩

theorem CountsLasts.nodup_fieldKeys {shared own : List Json} {ps body : List Parameter}
    (counts : CountsLasts doc types item methodItem o shared own ps body) :
    (fieldKeys o.parameters).Nodup := by
  obtain ⟨names, ofBody⟩ := counts.ofBody
  rw [counts.parameters, Parameter.fieldKeys_link]
  refine counts.lasts.nodup_fieldKeys fun p member => ?_
  obtain ⟨_, _, _, _, _, made⟩ := exists_ofRequestBody_of_mem ofBody p member
  obtain ⟨_, _, _, _, rfl, _⟩ := Parameter.ofRequestBody_eq_some_iff.1 made
  rfl

theorem nodup_fieldKeys_of_bound {registry : TypeRegistry} {options : OperationOptions}
    {basePath : Option String} (done : o.bound registry options basePath = .ok b)
    (distinct : (fieldKeys o.parameters).Nodup) : (fieldKeys b.parameters).Nodup := by
  obtain ⟨_, _, _, _, _, ps, _, _, _, bindParameters, rfl⟩ := bound_eq_ok_iff.1 done
  rw [Parameter.bindEach_eq] at bindParameters
  have keys : List.Forall₂ Eq (o.parameters.map (·.key)) (ps.map (·.key)) := by
    rw [List.forall₂_map_left_iff, List.forall₂_map_right_iff]
    refine (forall₂_of_bindParts bindParameters).imp fun p q ⟨_, bindOne, _⟩ => ?_
    have kept := (Parameter.bindAliases_eq_ok_iff.1 bindOne).declared false
    exact congrArg₂ Prod.mk kept.name.symm kept.location.symm
  rw [List.forall₂_eq_eq_eq] at keys
  replace distinct : (fieldKeys ps).Nodup := by rwa [fieldKeys, keys] at distinct
  show (fieldKeys (Parameter.link (withHeaders options o.authMethods ps))).Nodup
  rw [Parameter.fieldKeys_link, withHeaders]
  split
  · exact Parameter.nodup_fieldKeys_addHeaders o.authMethods distinct
  · exact distinct

/-- In an operation of a document the last declaration of a parameter counts: before the body of the
request there is, for every name and place that is declared, the parameter of the last declaration,
in the order in which these stand.  So a method's own declaration wins and a place makes a
difference.  No two parameters that are no bodies have one name and place, and this stays so however
often the operations are bound. -/
theorem last_declaration_counts [DomainNames] {api : Api}
    (adapted : Api.ofDocument doc types = .ok api) :
    (∀ o ∈ api.operations, ∃ item methodItem, o.DeclaredBy doc types item methodItem ∧
      ∃ shared own ps body, CountsLasts doc types item methodItem o shared own ps body) ∧
    ∀ operations, api.Rebound operations → ∀ b ∈ operations, (fieldKeys b.parameters).Nodup := by
  have counts : ∀ o ∈ api.operations, ∃ item methodItem, o.DeclaredBy doc types item methodItem ∧
      ∃ shared own ps body, CountsLasts doc types item methodItem o shared own ps body := by
    intro o member
    obtain ⟨item, methodItem, declared⟩ := Api.declaredBy_of_ofDocument adapted o member
    exact ⟨item, methodItem, declared, declared.exists_countsLasts⟩
  have distinct : ∀ o ∈ api.operations, (fieldKeys o.parameters).Nodup := by
    intro o member
    obtain ⟨_, _, _, _, _, _, _, counts⟩ := counts o member
    exact counts.nodup_fieldKeys
  refine ⟨counts, fun operations rebound b member => ?_⟩
  have each : List.Forall₂ (fun _ b => (fieldKeys b.parameters).Nodup) api.operations operations :=
    rebound.forall₂ distinct fun _ _ _ _ _ _ distinct done => nodup_fieldKeys_of_bound done distinct
  obtain ⟨_, _, distinct⟩ := exists_of_mem_right each b member
  exact distinct

/-- An identifier that is declared at a place, with a description. -/
def idDeclaration (place description : String) : Json :=
  .obj [("name", .str "id"), ("in", .str place), ("description", .str description)]

/-- A path with two identifiers, and a method that declares one of them again, by a reference. -/
def overridingDocument : Document :=
  ⟨.obj [("swagger", .str "2.0"), ("own", idDeclaration "query" "own"),
    ("paths", .obj [("/notes", .obj [
      ("parameters", .arr [idDeclaration "query" "shared", idDeclaration "header" "shared"]),
      ("get", .obj [("parameters", .arr [.obj [("$ref", .str "#/own")]])])])])]⟩

/-- The second identifier comes first, and the method's own takes the place of the other. -/
theorem last_declaration_counts_overriding :
    ∃ api, Api.ofDocument overridingDocument ⟨.standard, .plain⟩ = .ok api ∧
      api.operations.map (fun o => o.parameters.map fun p => (p.key, p.description)) =
        [[(("id", .header), some "shared"), (("id", .query), some "own")]] ∧
      (∀ o ∈ api.operations, ∃ item methodItem,
        o.DeclaredBy overridingDocument ⟨.standard, .plain⟩ item methodItem ∧
        ∃ shared own ps body, CountsLasts overridingDocument ⟨.standard, .plain⟩ item methodItem o
          shared own ps body) ∧
      ∀ b ∈ (Api.bindAll .empty ⟨true, false⟩ api).elements, (fieldKeys b.parameters).Nodup := by
  have adapted : Api.ofDocument overridingDocument ⟨.standard, .plain⟩ = .ok _ := rfl
  obtain ⟨counts, distinct⟩ := last_declaration_counts adapted
  exact ⟨_, adapted, rfl, counts, distinct _ (.again .empty ⟨true, false⟩ .adapted)⟩

end Operation

end SchemaBinder
