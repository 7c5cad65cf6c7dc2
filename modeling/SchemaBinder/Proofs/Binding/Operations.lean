import SchemaBinder.Proofs.Binding.Atomic
import SchemaBinder.Proofs.Binding.Parameters
import SchemaBinder.Proofs.Schema
/-!
# What binding an operation can do

The steps of binding an operation, opened once, as `Proofs.Binding.Steps` does for a layer.

A response, and what an operation returns, is bound by its type, or by the name of its type where
there is only the name (`Response.Outcome`, `Operation.ReturnOutcome`).

A name without a type could be the simple name of one class and the alias of another.  Responses and
operations that have the type wherever they have its name are `Typed`, and what becomes of them is
simpler (`Response.Bound`, `Operation.ReturnBound`).  Those of a document are.
-/

namespace SchemaBinder

variable {registry : TypeRegistry} {entity : String} {imports : List String}

/-- The name of a type that stands alone, with the class of the name if there is one, and the names
to import. -/
def TypeRegistry.substituteName (registry : TypeRegistry) (name : Option String) :
    Option String × List String :=
  match name with
  | some type => (some (registry.substitute type).1, (registry.substitute type).2)
  | none => (none, [])

/-! ## Responses -/

namespace Response

/-- What becomes of a response with a body, or with the name of a type at most, and the names to
import. -/
inductive Outcome (registry : TypeRegistry) (entity : String) (r : Response) :
    Response → List String → Prop where
  | body {schema bound : Property} {imports : List String} : r.schema = some schema →
      schema.bindAliases registry entity = .ok (bound, imports) →
      Outcome registry entity r
        { r with schema := some bound, baseType := some bound.elementType } imports
  | name : r.schema = none → Outcome registry entity r
      { r with baseType := (registry.substituteName r.baseType).1 }
      (registry.substituteName r.baseType).2

theorem bindAliases_eq_ok_iff_outcome {r b : Response} :
    r.bindAliases registry entity = .ok (b, imports) ↔ Outcome registry entity r b imports := by
  obtain ⟨code, description, baseType, schema⟩ := r
  rw [bindAliases]
  cases schema with
  | some p =>
    constructor
    · intro done
      obtain ⟨⟨bound, names⟩, bindSchema, done⟩ := bind_eq_ok_iff.1 done
      cases done
      exact .body rfl bindSchema
    · intro done
      cases done with
      | body there bindSchema =>
        cases there
        exact bind_eq_ok_iff.2 ⟨_, bindSchema, rfl⟩
      | name missing => cases missing
  | none =>
    constructor
    · intro done
      cases baseType <;> cases done <;> exact .name rfl
    · intro done
      cases done with
      | body there => cases there
      | name => cases baseType <;> rfl

/-- If there is the name of a type, then there is the type. -/
def Typed (r : Response) : Prop :=
  r.schema = none → r.baseType = none

/-- What becomes of a response with a body or without one, and the names to import. -/
inductive Bound (registry : TypeRegistry) (entity : String) (r : Response) :
    Response → List String → Prop where
  | plain : r.schema = none → Bound registry entity r r []
  | body {schema bound : Property} {imports : List String} : r.schema = some schema →
      schema.bindAliases registry entity = .ok (bound, imports) →
      Bound registry entity r
        { r with schema := some bound, baseType := some bound.elementType } imports

variable {r b : Response}

theorem bindAliases_eq_ok_iff (typed : r.Typed) :
    r.bindAliases registry entity = .ok (b, imports) ↔ Bound registry entity r b imports := by
  rw [bindAliases_eq_ok_iff_outcome]
  -- without a body there is no name either, so the response stays
  have stays (missing : r.schema = none) :
      ({ r with baseType := (registry.substituteName r.baseType).1 },
        (registry.substituteName r.baseType).2) = (r, []) := by
    have unnamed := typed missing
    obtain ⟨code, description, baseType, schema⟩ := r
    cases unnamed
    rfl
  constructor
  · intro done
    cases done with
    | body there bindSchema => exact .body there bindSchema
    | name missing =>
      obtain ⟨same, none⟩ := Prod.mk.inj (stays missing)
      rw [same, none]
      exact .plain missing
  · intro done
    cases done with
    | body there bindSchema => exact .body there bindSchema
    | plain missing =>
      have outcome : Outcome registry entity r _ _ := .name missing
      obtain ⟨same, none⟩ := Prod.mk.inj (stays missing)
      rwa [same, none] at outcome

theorem Bound.typed (typed : r.Typed) (done : Bound registry entity r b imports) : b.Typed := by
  cases done with
  | plain => exact typed
  | body => exact fun missing => nomatch missing

end Response

/-! ## Operations -/

namespace Operation

/-- The typed parts of an operation. -/
def properties (o : Operation) : List Property :=
  o.returnProperty.toList ++ o.responses.filterMap (·.schema) ++ o.parameters.filterMap (·.items)

theorem mem_properties {o : Operation} {p : Property} : p ∈ o.properties ↔
    o.returnProperty = some p ∨ (∃ r ∈ o.responses, r.schema = some p) ∨
      ∃ q ∈ o.parameters, q.items = some p := by
  simp only [properties, List.mem_append, Option.mem_toList, List.mem_filterMap, or_assoc]

/-- If there is the name of a type, then there is the type. -/
structure Typed (o : Operation) : Prop where
  returned : o.returnProperty = none → o.returnType = none
  responses : ∀ r ∈ o.responses, r.Typed

/-- What an operation returns when it is bound, by its type or by the name of its type at most, and
the names to import. -/
inductive ReturnOutcome (registry : TypeRegistry) (o : Operation) :
    Option Property → Option String → List String → Prop where
  | value {p bound : Property} {imports : List String} : o.returnProperty = some p →
      p.bindAliases registry (o.operationId ++ ".return") = .ok (bound, imports) →
      ReturnOutcome registry o (some bound) (some bound.resolvedType) imports
  | name : o.returnProperty = none → ReturnOutcome registry o none
      (registry.substituteName o.returnType).1 (registry.substituteName o.returnType).2

/-- What a typed operation returns when it is bound, and the names to import. -/
inductive ReturnBound (registry : TypeRegistry) (o : Operation) :
    Option Property → Option String → List String → Prop where
  | plain : o.returnProperty = none → ReturnBound registry o none none []
  | value {p bound : Property} {imports : List String} : o.returnProperty = some p →
      p.bindAliases registry (o.operationId ++ ".return") = .ok (bound, imports) →
      ReturnBound registry o (some bound) (some bound.resolvedType) imports

variable {o o' : Operation} {returnProperty : Option Property} {returnType : Option String}

theorem boundReturn_eq_ok_iff_outcome :
    o.boundReturn registry = .ok (returnProperty, returnType, imports) ↔
      ReturnOutcome registry o returnProperty returnType imports := by
  rw [boundReturn]
  cases returned : o.returnProperty with
  | some p =>
    constructor
    · intro done
      obtain ⟨⟨bound, names⟩, bindReturn, done⟩ := bind_eq_ok_iff.1 done
      cases done
      exact .value returned bindReturn
    · intro done
      cases done with
      | value there bindReturn =>
        cases returned.symm.trans there
        exact bind_eq_ok_iff.2 ⟨_, bindReturn, rfl⟩
      | name missing => cases returned.symm.trans missing
  | none =>
    have named : ReturnOutcome registry o _ _ _ := .name returned
    constructor
    · intro done
      cases type : o.returnType <;> rw [type] at done named <;> cases done <;> exact named
    · intro done
      cases done with
      | value there => cases returned.symm.trans there
      | name => cases o.returnType <;> rfl

theorem boundReturn_eq_ok_iff (typed : o.returnProperty = none → o.returnType = none) :
    o.boundReturn registry = .ok (returnProperty, returnType, imports) ↔
      ReturnBound registry o returnProperty returnType imports := by
  rw [boundReturn_eq_ok_iff_outcome]
  constructor
  · intro done
    cases done with
    | value there bindReturn => exact .value there bindReturn
    | name missing =>
      rw [typed missing]
      exact .plain missing
  · intro done
    cases done with
    | value there bindReturn => exact .value there bindReturn
    | plain missing =>
      have outcome : ReturnOutcome registry o _ _ _ := .name missing
      rwa [typed missing] at outcome

theorem ReturnBound.typed (done : ReturnBound registry o returnProperty returnType imports) :
    returnProperty = none → returnType = none := by
  cases done with
  | plain => exact fun _ => rfl
  | value => exact fun missing => nomatch missing

/-- The parameters of a bound operation, before they are linked. -/
def withHeaders (options : OperationOptions) (methods : List AuthMethod) (ps : List Parameter) :
    List Parameter :=
  if options.securityHeaders then Parameter.addHeaders ps methods else ps

theorem mem_withHeaders {options : OperationOptions} {methods : List AuthMethod}
    {ps : List Parameter} : ∀ q ∈ withHeaders options methods ps,
      q ∈ ps ∨ ∃ name description, q = .securityHeader name description := by
  intro q member
  rw [withHeaders] at member
  split at member
  · exact Parameter.mem_addHeaders member
  · exact .inl member

/-- The operation with its bound parts. -/
def withParts (o : Operation) (options : OperationOptions) (basePath : Option String)
    (returnProperty : Option Property) (returnType : Option String) (responses : List Response)
    (parameters : List Parameter) (imports : List String) : Operation :=
  { o with
    returnType
    returnProperty
    responses
    parameters := Parameter.link (withHeaders options o.authMethods parameters)
    groupKey := o.group basePath
    imports := o.imports.extend imports }

/-- The parts of an operation are bound apart from each other. -/
theorem bound_eq_ok_iff {options : OperationOptions} {basePath : Option String} :
    o.bound registry options basePath = .ok o' ↔
      ∃ returnProperty returnType imports responses responseImports parameters parameterImports,
        o.boundReturn registry = .ok (returnProperty, returnType, imports) ∧
        Response.bindEach registry o.operationId o.responses = .ok (responses, responseImports) ∧
        Parameter.bindEach registry o.operationId o.parameters =
          .ok (parameters, parameterImports) ∧
        o' = o.withParts options basePath returnProperty returnType responses parameters
          (imports ++ responseImports ++ parameterImports) := by
  constructor
  · intro done
    obtain ⟨⟨returnProperty, returnType, imports⟩, bindReturn, done⟩ := bind_eq_ok_iff.1 done
    obtain ⟨⟨responses, responseImports⟩, bindResponses, done⟩ := bind_eq_ok_iff.1 done
    obtain ⟨⟨parameters, parameterImports⟩, bindParameters, done⟩ := bind_eq_ok_iff.1 done
    cases done
    exact ⟨_, _, _, _, _, _, _, bindReturn, bindResponses, bindParameters, rfl⟩
  · rintro ⟨_, _, _, _, _, _, _, bindReturn, bindResponses, bindParameters, rfl⟩
    exact bind_eq_ok_iff.2 ⟨_, bindReturn, bind_eq_ok_iff.2 ⟨_, bindResponses,
      bind_eq_ok_iff.2 ⟨_, bindParameters, rfl⟩⟩⟩

/-- An operation of a document has the type wherever it has its name. -/
theorem Built.typed {doc : Document} {types : TypeMap} (built : o.Built doc types) : o.Typed where
  returned none := by rw [built.returnType, none]; rfl
  responses r member none := by
    obtain ⟨response, made⟩ := built.responses r member
    rw [made] at none ⊢
    rw [Response.ofSchema] at none ⊢
    cases typed : Response.schema? doc.isOlderLayout response with
    | none => rfl
    | some schema => simp [typed] at none

end Operation

end SchemaBinder
