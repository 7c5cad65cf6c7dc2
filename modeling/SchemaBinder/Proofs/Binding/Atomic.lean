import SchemaBinder.Model.Binding
import SchemaBinder.Operation.Binding
import SchemaBinder.Proofs.Lists
/-!
# Binding is atomic

Binding an element makes many look-ups, and each of them can fail.  It *commits* to a function if
it puts the result of the function in place when there is one, and otherwise leaves the element as
it was.  Models and operations are bound in this way (`Model.commits_bindAliases`,
`Operation.commits_bindAndGroup`), whatever it is that fails.

For a list it follows that a failure parts it in two: the elements before are what binding each
of them alone makes of it, and the rest is untouched (`Progress.stoppedAt_of_fault`).  So however
often the operations of a document are bound, what holds of them at first and is kept by binding
one of them holds of all (`Api.Rebound.forall₂`).
-/

namespace SchemaBinder

namespace Change

/-- A change puts the result of a function in place, or fails as the function does and leaves the
element as it was. -/
def Commits {α : Type} (change : Change α Unit) (bound : α → Except Fault α) : Prop :=
  ∀ a, change.on a = match bound a with
    | .ok b => (.ok (), b)
    | .error e => (.error e, a)

end Change

/-! ## Lists -/

/-- Binding a list stopped at an index.  `alone` binds one element. -/
structure StoppedAt {α : Type} (alone : α → Progress α) (before after : List α) (e : Fault)
    (k : Nat) : Prop where
  /-- The elements before the index are what binding each of them alone makes of it. -/
  bound : List.Forall₂ (fun a b => alone a = ⟨[b], none⟩) (before.take k) (after.take k)
  /-- The element at the index fails in the same way if it is bound alone. -/
  fails : ∃ a, before[k]? = some a ∧ alone a = ⟨[a], some e⟩
  /-- From the index on, all elements are as they were. -/
  untouched : after.drop k = before.drop k

namespace Progress

variable {α : Type} {change : Change α Unit} {bound : α → Except Fault α}

theorem ofEach_cons_of_ok (commits : change.Commits bound) {a b : α} (rest : List α)
    (done : bound a = .ok b) : ofEach change (a :: rest) =
      ⟨b :: (ofEach change rest).elements, (ofEach change rest).fault⟩ := by
  rw [ofEach, commits a, done]

theorem ofEach_cons_of_error (commits : change.Commits bound) {a : α} {e : Fault} (rest : List α)
    (failed : bound a = .error e) : ofEach change (a :: rest) = ⟨a :: rest, some e⟩ := by
  rw [ofEach, commits a, failed]

/-- If nothing fails, then every element is bound. -/
theorem bound_of_no_fault (commits : change.Commits bound) :
    ∀ {l : List α}, (ofEach change l).fault = none →
      List.Forall₂ (fun a b => bound a = .ok b) l (ofEach change l).elements
  | [], _ => .nil
  | a :: rest, noFault => by
    cases here : bound a with
    | error e =>
      rw [ofEach_cons_of_error commits rest here] at noFault
      cases noFault
    | ok b =>
      rw [ofEach_cons_of_ok commits rest here] at noFault ⊢
      exact .cons here (bound_of_no_fault commits noFault)

/-- Then every element of the bound list comes from one of the list. -/
theorem exists_bound_of_mem (commits : change.Commits bound) {l : List α}
    (noFault : (ofEach change l).fault = none) :
    ∀ b ∈ (ofEach change l).elements, ∃ a ∈ l, bound a = .ok b :=
  exists_of_mem_right (bound_of_no_fault commits noFault)

/-- What binding leaves alone in each element stays as it is in the list. -/
theorem map_elements (commits : change.Commits bound) {l : List α}
    (noFault : (ofEach change l).fault = none) {β : Type} {f : α → β}
    (kept : ∀ a b, bound a = .ok b → f b = f a) : (ofEach change l).elements.map f = l.map f := by
  have each := bound_of_no_fault commits noFault
  generalize (ofEach change l).elements = bs at each
  clear noFault
  induction each with
  | nil => rfl
  | cons here _ ih => rw [List.map_cons, List.map_cons, kept _ _ here, ih]

/-- However far a list is bound, each of its elements is bound or as it was. -/
theorem forall₂_elements (commits : change.Commits bound) (l : List α) :
    List.Forall₂ (fun a b => bound a = .ok b ∨ b = a) l (ofEach change l).elements := by
  induction l with
  | nil => exact .nil
  | cons a rest ih =>
    cases here : bound a with
    | error e =>
      rw [ofEach_cons_of_error commits rest here]
      exact List.forall₂_same.2 fun _ _ => .inr rfl
    | ok b =>
      rw [ofEach_cons_of_ok commits rest here]
      exact .cons (.inl here) ih

/-- The elements that are reached are bound, and the others are left as they are.  There are none of
these unless one of them fails, and then it is the first. -/
theorem exists_reached (commits : change.Commits bound) (l : List α) :
    ∃ reached after rest, l = reached ++ rest ∧ (ofEach change l).elements = after ++ rest ∧
      List.Forall₂ (fun a b => bound a = .ok b) reached after ∧
      ((ofEach change l).fault = none → rest = []) ∧
      ∀ e, (ofEach change l).fault = some e → ∃ a more, rest = a :: more ∧ bound a = .error e := by
  induction l with
  | nil => exact ⟨[], [], [], rfl, rfl, .nil, fun _ => rfl, fun e failed => nomatch failed⟩
  | cons a rest ih =>
    cases here : bound a with
    | error e =>
      rw [ofEach_cons_of_error commits rest here]
      refine ⟨[], [], a :: rest, rfl, rfl, .nil, nofun, fun e' same => ?_⟩
      exact ⟨a, rest, rfl, here.trans (congrArg Except.error (Option.some.inj same))⟩
    | ok b =>
      rw [ofEach_cons_of_ok commits rest here]
      obtain ⟨reached, after, left, rfl, bound, each, ends⟩ := ih
      exact ⟨a :: reached, b :: after, left, rfl, congrArg (b :: ·) bound, .cons here each, ends⟩

theorem result_eq_ok_iff {p : Progress α} {l : List α} :
    p.result = .ok l ↔ p.fault = none ∧ p.elements = l := by
  rw [result]
  cases p.fault <;> simp

/-- If it is known what each element becomes, then nothing fails. -/
theorem ofEach_of_done (commits : change.Commits bound) {l : List α} {f : α → α}
    (done : ∀ a ∈ l, bound a = .ok (f a)) : ofEach change l = ⟨l.map f, none⟩ := by
  induction l with
  | nil => rfl
  | cons a rest ih =>
    rw [ofEach_cons_of_ok commits rest (done a List.mem_cons_self),
      ih fun b member => done b (List.mem_cons_of_mem a member)]
    rfl

/-- If binding finds every element as it should be, then the list stays. -/
theorem ofEach_of_fixed (commits : change.Commits bound) {l : List α}
    (fixed : ∀ a ∈ l, bound a = .ok a) : ofEach change l = ⟨l, none⟩ := by
  rw [@ofEach_of_done _ _ _ commits l id fixed, List.map_id]

/-- If an element fails, then binding stops at it. -/
theorem stoppedAt_of_fault (commits : change.Commits bound) {e : Fault} :
    ∀ {l : List α}, (ofEach change l).fault = some e →
      ∃ k, StoppedAt (fun a => ofEach change [a]) l (ofEach change l).elements e k
  | [], failed => by cases failed
  | a :: rest, failed => by
    cases here : bound a with
    | error e' =>
      rw [ofEach_cons_of_error commits rest here] at failed ⊢
      cases failed
      exact ⟨0, .nil, ⟨a, rfl, ofEach_cons_of_error commits [] here⟩, rfl⟩
    | ok b =>
      rw [ofEach_cons_of_ok commits rest here] at failed ⊢
      obtain ⟨k, before, fails, untouched⟩ := stoppedAt_of_fault commits failed
      exact ⟨k + 1, .cons (ofEach_cons_of_ok commits [] here) before, fails, untouched⟩

end Progress

/-! ## Models and operations -/

/-- The model with its aliases bound. -/
def Model.bound (registry : TypeRegistry) (m : Model) : Except Fault Model := do
  let (parent, parentImports) ← m.boundParent registry
  let (properties, imports) ← boundFields registry m.name m.properties
  return { m with
    parent := parent.or m.parent
    properties
    imports := m.imports.extend (parentImports ++ imports) }

theorem Model.commits_bindAliases (registry : TypeRegistry) :
    (bindAliases registry).Commits (bound registry) := by
  intro m
  unfold bindAliases bound
  simp only [Change.on_bind, Change.on_get, Change.on_lift]
  cases m.boundParent registry with
  | error e => rfl
  | ok found =>
    obtain ⟨parent, parentImports⟩ := found
    cases boundFields registry m.name m.properties with
    | error e => rfl
    | ok found =>
      obtain ⟨properties, imports⟩ := found
      cases parent <;> rfl

/-- The operation with its aliases bound and in its group. -/
def Operation.bound (registry : TypeRegistry) (options : OperationOptions)
    (basePath : Option String) (o : Operation) : Except Fault Operation := do
  let (returnProperty, returnType, imports) ← o.boundReturn registry
  let (responses, responseImports) ← Response.bindEach registry o.operationId o.responses
  let (parameters, parameterImports) ← Parameter.bindEach registry o.operationId o.parameters
  let parameters :=
    if options.securityHeaders then Parameter.addHeaders parameters o.authMethods else parameters
  return { o with
    returnType
    returnProperty
    responses
    parameters := Parameter.link parameters
    groupKey := o.group basePath
    imports := o.imports.extend (imports ++ responseImports ++ parameterImports) }

theorem Operation.commits_bindAndGroup (registry : TypeRegistry) (options : OperationOptions)
    (basePath : Option String) :
    (bindAndGroup registry options basePath).Commits (bound registry options basePath) := by
  intro o
  unfold bindAndGroup bindAliases bound
  simp only [Change.on_bind, Change.on_get, Change.on_lift]
  cases o.boundReturn registry with
  | error e => rfl
  | ok found =>
    obtain ⟨returnProperty, returnType, imports⟩ := found
    cases Response.bindEach registry o.operationId o.responses with
    | error e => rfl
    | ok found =>
      obtain ⟨responses, responseImports⟩ := found
      cases Parameter.bindEach registry o.operationId o.parameters with
      | error e => rfl
      | ok found =>
        obtain ⟨parameters, parameterImports⟩ := found
        rfl

/-- The operations of a document after they have been bound any number of times, each time however far
it went. -/
inductive Api.Rebound (api : Api) : List Operation → Prop where
  | adapted : Rebound api api.operations
  | again {operations : List Operation} (registry : TypeRegistry) (options : OperationOptions) :
      Rebound api operations →
      Rebound api (bindAll registry options { api with operations }).elements

/-- What binding an operation keeps is kept however often the operations are bound. -/
theorem Api.Rebound.forall₂ {api : Api} {operations : List Operation}
    (rebound : api.Rebound operations) {P : Operation → Operation → Prop}
    (adapted : ∀ o ∈ api.operations, P o o)
    (kept : ∀ o b b' registry options basePath, P o b →
      b.bound registry options basePath = .ok b' → P o b') :
    List.Forall₂ P api.operations operations := by
  induction rebound with
  | adapted => exact List.forall₂_same.2 adapted
  | @again operations registry options _ ih =>
    have commits :=
      Operation.commits_bindAndGroup registry options (options.rootPath api.basePath)
    refine (forall₂_comp ih (Progress.forall₂_elements commits operations)).imp ?_
    rintro o b' ⟨b, holds, done | rfl⟩
    · exact kept o b b' registry options _ holds done
    · exact holds

/-- When binding models or operations fails, then it stops at one of them: those before are bound
as each is alone, that one fails as it does alone, and it and the later ones are as they were. -/
theorem binding_stops_in_place (registry : TypeRegistry) (options : OperationOptions) :
    (∀ models e, (Model.bindAll registry models).fault = some e →
      ∃ k, StoppedAt (fun m => Model.bindAll registry [m]) models
        (Model.bindAll registry models).elements e k) ∧
    (∀ api e, (Api.bindAll registry options api).fault = some e →
      ∃ k, StoppedAt (fun o => Api.bindAll registry options { api with operations := [o] })
        api.operations (Api.bindAll registry options api).elements e k) := by
  constructor
  · intro models e failed
    exact Progress.stoppedAt_of_fault (Model.commits_bindAliases registry) failed
  · intro api e failed
    have commits :=
      Operation.commits_bindAndGroup registry options (options.rootPath api.basePath)
    unfold Api.bindAll at failed ⊢
    exact Progress.stoppedAt_of_fault commits failed

/-- A model with nothing but a parent alias. -/
def childOf (name parentAlias : String) : Model :=
  ⟨name, name, none, [], none, .ofList [(Extensions.parentKey, .str parentAlias)], .empty⟩

/-- An operation with nothing but a parameter that has an alias. -/
def operationTaking (operationId name : String) : Operation where
  operationId := operationId
  method := "get"
  path := "/" ++ operationId
  summary := none
  returnType := none
  returnProperty := none
  responses := []
  parameters := [{ Parameter.plain "id" .query "string" "String" with
    extensions := .ofList [(Extensions.typeKey, .str name)] }]
  authMethods := []
  groupKey := ""
  pathExtensions := .empty
  extensions := .empty
  imports := .empty

/-- The second of three models, and the second of three operations, has an unknown alias. -/
theorem binding_stops_in_place_second :
    let registry := TypeRegistry.empty.extend [⟨"Known", "acme.Known"⟩]
    let options : OperationOptions := ⟨false, false⟩
    let models := [childOf "A" "Known", childOf "B" "Unknown", childOf "C" "Known"]
    let api : Api := ⟨none, [operationTaking "a" "Known", operationTaking "b" "Unknown",
      operationTaking "c" "Known"]⟩
    (Model.bindAll registry models).fault = some (.unresolvedAlias "Unknown" "B") ∧
      (∃ k, StoppedAt (fun m => Model.bindAll registry [m]) models
        (Model.bindAll registry models).elements (.unresolvedAlias "Unknown" "B") k) ∧
      (Api.bindAll registry options api).fault = some (.unresolvedAlias "Unknown" "b.id") ∧
      ∃ k, StoppedAt (fun o => Api.bindAll registry options { api with operations := [o] })
        api.operations (Api.bindAll registry options api).elements
        (.unresolvedAlias "Unknown" "b.id") k := by
  intro registry options models api
  have ofModels : (Model.bindAll registry models).fault =
      some (.unresolvedAlias "Unknown" "B") := rfl
  have ofOperations : (Api.bindAll registry options api).fault =
      some (.unresolvedAlias "Unknown" "b.id") := rfl
  have both := binding_stops_in_place registry options
  exact ⟨ofModels, both.1 models _ ofModels, ofOperations, both.2 api _ ofOperations⟩

end SchemaBinder
