import SchemaBinder.Proofs.Binding.Frame
import SchemaBinder.Proofs.Binding.Overriding
import SchemaBinder.Url.PlainNames
/-!
# What an operation returns

What an operation returns is the body of the response that decides it: of the first one whose code
starts with `2`, or else of the one under `default` (`Response.Decides`).

The operation keeps a copy of the type of this body, and the copy is bound apart from the response,
as an entity of its own.  The entity is there for the messages of faults only
(`Property.bindAliases_entity`).  So the copies are the same again when both are bound, whatever
they contain (`Operation.CopiesAnswer.of_bound`).
-/

namespace SchemaBinder

variable {registry : TypeRegistry} {entity : String} {imports : List String}

theorem Layer.bindAliases_entity {own bound : Layer}
    (done : own.bindAliases registry entity = .ok (bound, imports)) (other : String) :
    own.bindAliases registry other = .ok (bound, imports) := by
  obtain ⟨symbol, found, reads, done⟩ := bindAliases_eq_ok_iff.1 done
  have stays : own.Kept own := ⟨rfl, rfl, rfl, rfl, rfl, rfl⟩
  exact bindAliases_eq_ok_iff.2 ⟨symbol, found, reads.of_kept stays other, done⟩

/-- A property is bound in the same way on whatever entity it stands. -/
theorem Property.bindAliases_entity {p b : Property}
    (done : p.bindAliases registry entity = .ok (b, imports)) (other : String) :
    p.bindAliases registry other = .ok (b, imports) := by
  induction p generalizing b entity other imports with
  | leaf own =>
    obtain ⟨⟨bound, names⟩, bindOwn, done⟩ := bind_eq_ok_iff.1 done
    cases done
    exact bind_eq_ok_iff.2 ⟨_, Layer.bindAliases_entity bindOwn other, rfl⟩
  | nest own element ih =>
    obtain ⟨⟨element', names⟩, bindElement, done⟩ := bind_eq_ok_iff.1 done
    obtain ⟨⟨bound, more⟩, bindOwn, done⟩ := bind_eq_ok_iff.1 done
    cases done
    exact bind_eq_ok_iff.2 ⟨_, ih bindElement (other ++ "[]"),
      bind_eq_ok_iff.2 ⟨_, Layer.bindAliases_entity bindOwn other, rfl⟩⟩

/-- The bound property is what binding makes of another one, on whatever entity it stands. -/
def Property.BoundTo (registry : TypeRegistry) (p b : Property) : Prop :=
  ∃ entity imports, p.bindAliases registry entity = .ok (b, imports)

theorem Property.BoundTo.unique {p b b' : Property} (done : p.BoundTo registry b)
    (done' : p.BoundTo registry b') : b = b' := by
  obtain ⟨entity, imports, done⟩ := done
  obtain ⟨entity', imports', done'⟩ := done'
  exact congrArg (·.1) (Except.ok.inj ((bindAliases_entity done entity').symm.trans done'))

/-! ## Responses -/

namespace Response

variable {rs bs : List Response} {p : Response}

/-- The response decides what an operation with these responses returns. -/
inductive Decides (rs : List Response) (p : Response) : Prop where
  /-- It is the first one whose code starts with `2`. -/
  | success {before after : List Response} : rs = before ++ p :: after →
      Text.hasStart "2" p.code = true → (∀ r ∈ before, Text.hasStart "2" r.code = false) →
      Decides rs p
  /-- No code starts with `2`, and it is the one under `default`. -/
  | default {before after : List Response} : (∀ r ∈ rs, Text.hasStart "2" r.code = false) →
      rs = before ++ p :: after → p.code = "default" → (∀ r ∈ before, r.code ≠ "default") →
      Decides rs p

theorem first?_eq_some_iff : first? (·.code) rs = some p ↔ Decides rs p := by
  rw [first?, Option.or_eq_some_iff, List.find?_eq_some_iff_append, List.find?_eq_some_iff_append,
    List.find?_eq_none]
  constructor
  · rintro (⟨successful, before, after, split, none⟩ | ⟨none, named, before, after, split, earlier⟩)
    · exact .success split successful fun r member => by simpa using none r member
    · refine .default (fun r member => ?_) split (by simpa using named) fun r member => ?_
      · simpa using none r member
      · simpa using earlier r member
  · rintro (⟨split, successful, none⟩ | ⟨none, split, named, earlier⟩)
    · exact .inl ⟨successful, _, _, split, fun r member => by simpa using none r member⟩
    · refine .inr ⟨fun r member => ?_, by simpa using named, _, _, split, fun r member => ?_⟩
      · simpa using none r member
      · simpa using earlier r member

/-- Responses that are the same but for what their bodies have become return what the body that
decides has become. -/
theorem rel_returned {R : Property → Property → Prop}
    (each : List.Forall₂ (fun r b => b.code = r.code ∧ Option.Rel R r.schema b.schema) rs bs) :
    Option.Rel R (returned rs) (returned bs) := by
  have answers : Option.Rel _ (first? (·.code) rs) (first? (·.code) bs) :=
    rel_first? each fun _ _ here => here.1
  rw [returned_eq_first?, returned_eq_first?]
  generalize first? (·.code) rs = answer at answers
  generalize first? (·.code) bs = answer' at answers
  cases answers with
  | some here => exact here.2
  | none => exact .none

theorem Outcome.boundTo {r b : Response} (done : Outcome registry entity r b imports) :
    b.code = r.code ∧ Option.Rel (Property.BoundTo registry) r.schema b.schema := by
  refine ⟨done.kept.code, ?_⟩
  have bound := done.rel_schema
  generalize r.schema = schema at bound
  generalize b.schema = schema' at bound
  cases bound with
  | some here => exact .some ⟨entity, imports, here⟩
  | none => exact .none

/-- The response is what has become of one that a document declares under a code: it has this code,
and a body if the declared one has a body. -/
def ComesFrom (doc : Document) (entry : String × Json) (r : Response) : Prop :=
  r.code = entry.1 ∧ ∃ response, doc.resolve entry.2 = .ok response ∧
    (r.schema.isSome ↔ (schema? doc.isOlderLayout response).isSome)

theorem forall₂_comesFrom {doc : Document} {types : TypeMap} {declared : List (String × Json)}
    (made : ofSchemas doc types declared = .ok (rs, imports)) :
    List.Forall₂ (ComesFrom doc) declared rs := by
  refine (forall₂_declared made).imp fun entry r ⟨response, resolved, same⟩ => ?_
  subst same
  refine ⟨rfl, response, resolved, ?_⟩
  show (((schema? doc.isOlderLayout response).map _).map _).isSome ↔ _
  rw [Option.isSome_map, Option.isSome_map]

theorem Kept.comesFrom {doc : Document} {entry : String × Json} {r b : Response} (kept : r.Kept b)
    (comes : ComesFrom doc entry r) : ComesFrom doc entry b := by
  obtain ⟨code, response, resolved, body⟩ := comes
  refine ⟨kept.code.trans code, response, resolved, ?_⟩
  rw [← body]
  have schema := kept.schema
  generalize r.schema = own at schema
  generalize b.schema = bound at schema
  cases schema <;> simp

end Response

/-! ## Operations -/

namespace Operation

variable {doc : Document} {types : TypeMap} {o b : Operation} {item methodItem : Json}

/-- The operation returns the body of the response that decides it, as this body stands in the list
of its responses. -/
structure ReturnsAnswer (o : Operation) : Prop where
  answer : ∀ p, Response.Decides o.responses p →
    o.returnProperty = p.schema ∧ o.returnType = p.schema.map (·.resolvedType)
  absent : o.returnType = none ↔ ∀ p, Response.Decides o.responses p → p.schema = none

/-- What the operation returns is a copy of the body that is looked for among its responses. -/
structure CopiesAnswer (o : Operation) : Prop where
  returned : o.returnProperty = Response.returned o.responses
  type : o.returnType = o.returnProperty.map (·.resolvedType)

theorem CopiesAnswer.returnsAnswer (copies : o.CopiesAnswer) : o.ReturnsAnswer := by
  obtain ⟨returned, type⟩ := copies
  rw [Response.returned_eq_first?] at returned
  have answer : ∀ p, Response.Decides o.responses p →
      o.returnProperty = p.schema ∧ o.returnType = p.schema.map (·.resolvedType) := by
    intro p decides
    rw [Response.first?_eq_some_iff.2 decides] at returned
    exact ⟨returned, by rw [type, returned]; rfl⟩
  refine ⟨answer, fun absent p decides => ?_, fun without => ?_⟩
  · simpa [absent] using (answer p decides).2.symm
  · cases found : Response.first? (·.code) o.responses with
    | none => rw [type, returned, found]; rfl
    | some p =>
      have decides := Response.first?_eq_some_iff.1 found
      rw [(answer p decides).2, without p decides]
      rfl

/-- The copy is bound to what the body is bound to. -/
theorem CopiesAnswer.of_bound {options : OperationOptions} {basePath : Option String}
    (copies : o.CopiesAnswer) (done : o.bound registry options basePath = .ok b) :
    b.CopiesAnswer := by
  obtain ⟨returnProperty, returnType, imports, responses, responseImports, parameters,
    parameterImports, bindReturn, bindResponses, bindParameters, rfl⟩ := bound_eq_ok_iff.1 done
  rw [Response.bindEach_eq] at bindResponses
  have each := (forall₂_of_bindParts bindResponses).imp fun _ _ ⟨_, bound, _⟩ =>
    (Response.bindAliases_eq_ok_iff_outcome.1 bound).boundTo
  have answers := Response.rel_returned each
  rw [← copies.returned] at answers
  suffices same : returnProperty = Response.returned responses ∧
      returnType = returnProperty.map (·.resolvedType) from ⟨same.1, same.2⟩
  generalize Response.returned responses = answer at answers
  cases boundReturn_eq_ok_iff_outcome.1 bindReturn with
  | value there bindReturn =>
    rw [there] at answers
    cases answers with
    | some here => exact ⟨congrArg some (Property.BoundTo.unique ⟨_, _, bindReturn⟩ here), rfl⟩
  | name missing =>
    rw [missing] at answers
    cases answers
    exact ⟨rfl, by rw [copies.type, missing]; rfl⟩

theorem comesFrom_of_bound {options : OperationOptions} {basePath : Option String}
    {declared : List (String × Json)}
    (comes : List.Forall₂ (Response.ComesFrom doc) declared o.responses)
    (done : o.bound registry options basePath = .ok b) :
    List.Forall₂ (Response.ComesFrom doc) declared b.responses :=
  (forall₂_comp comes (kept_of_bound done).responses).imp fun _ _ ⟨_, comes, kept⟩ =>
    kept.comesFrom comes

/-- However often the operations of a document are bound, each has the responses that its method
declares, in their order, and returns the body of the one that decides: of the first whose code
starts with `2`, or else of the one under `default`.  It returns nothing exactly if that one has no
body or there is none. -/
theorem returned_as_answered [DomainNames] {api : Api}
    (adapted : Api.ofDocument doc types = .ok api)
    {operations : List Operation} (rebound : api.Rebound operations) :
    List.Forall₂ (fun o b => ∃ item methodItem, o.DeclaredBy doc types item methodItem ∧
        List.Forall₂ (Response.ComesFrom doc) ((methodItem.getObj? "responses").getD [])
          b.responses ∧ b.ReturnsAnswer)
      api.operations operations := by
  have each : List.Forall₂ (fun o b => ∃ item methodItem, o.DeclaredBy doc types item methodItem ∧
        List.Forall₂ (Response.ComesFrom doc) ((methodItem.getObj? "responses").getD [])
          b.responses ∧ b.CopiesAnswer)
      api.operations operations := by
    refine rebound.forall₂ (fun o member => ?_) ?_
    · obtain ⟨item, methodItem, declared⟩ := Api.declaredBy_of_ofDocument adapted o member
      obtain ⟨_, ofResponses⟩ := responses_of_ofSchema declared.made
      have built := built_of_ofSchema declared.made
      exact ⟨item, methodItem, declared, Response.forall₂_comesFrom ofResponses,
        built.returned, built.returnType⟩
    · rintro o b b' registry options basePath ⟨item, methodItem, declared, comes, copies⟩ done
      exact ⟨item, methodItem, declared, comesFrom_of_bound comes done, copies.of_bound done⟩
  exact each.imp fun o b ⟨item, methodItem, declared, comes, copies⟩ =>
    ⟨item, methodItem, declared, comes, copies.returnsAnswer⟩

/-- The response and what is returned for it are both bound to a voucher. -/
theorem returned_as_answered_voucher :
    let types : TypeMap := ⟨.standard, .plain⟩
    let api : Api := ⟨none, [receiptOperation "Receipt"]⟩
    let bound := Api.bindAll voucherTypes ⟨false, false⟩ api
    Api.ofDocument receiptDocument types = .ok api ∧ api.Rebound bound.elements ∧
      bound.fault = none ∧ bound.elements.map (fun b =>
          (b.returnType, b.responses.map fun r => (r.code, r.baseType))) =
        [(some "Voucher", [("201", some "Voucher")])] ∧
      List.Forall₂ (fun o b => ∃ item methodItem,
          o.DeclaredBy receiptDocument types item methodItem ∧
          List.Forall₂ (Response.ComesFrom receiptDocument)
            ((methodItem.getObj? "responses").getD []) b.responses ∧ b.ReturnsAnswer)
        api.operations bound.elements := by
  intro types api bound
  have adapted : Api.ofDocument receiptDocument types = .ok api := receiptDocument_operations types
  have rebound : api.Rebound bound.elements := .again voucherTypes ⟨false, false⟩ .adapted
  exact ⟨adapted, rebound, rfl, rfl, returned_as_answered adapted rebound⟩

/-- The responses of two methods: with a body under `default` only, and with a first answer that has
no body. -/
def answeringDocument : Document :=
  let body : Json := .obj [("schema", .obj [("type", .str "string")])]
  ⟨.obj [("swagger", .str "2.0"), ("paths", .obj [("/notes", .obj [
    ("get", .obj [("responses", .obj [("404", body), ("default", body)])]),
    ("put", .obj [("responses", .obj [("default", body), ("204", .obj []), ("200", body)])])])])]⟩

example [DomainNames] : (Api.ofDocument answeringDocument ⟨.standard, .plain⟩).map (fun api =>
    api.operations.map (·.returnType.isSome)) = .ok [true, false] := rfl

end Operation

end SchemaBinder
