import SchemaBinder.Proofs.Binding.Fragments
import SchemaBinder.Proofs.Binding.Imports
import SchemaBinder.Proofs.Binding.Operations
/-!
# What operations import

`Operation.needed` lists the classes that an operation needs by what its directives and types say:
for what it returns, for its responses and for its declared parameters.
`Api.bound_operations_import_needed` says that a bound operation imports these and no others.

It also says that nothing else has been looked up for good.  Another registry may have other classes,
or none, for the aliases whose classes are not imported; if it `AgreesOn` the ones that are, then
binding gives the same operation.  So each class that is written into a type is imported.  Each step
has a lemma for either half: what it collects (`sameImports`) and what it depends on (`transfer`).
-/

namespace SchemaBinder

/-! ## The classes that are needed -/

/-- The classes that the layers of a property need. -/
def Property.needed (registry : TypeRegistry) (p : Property) : List TypeDescriptor :=
  p.layers.flatMap (·.needed registry)

/-- The classes that a type needs; or the class of its name, if there is only the name. -/
def TypeRegistry.neededFor (registry : TypeRegistry) (type : Option Property)
    (name : Option String) : List TypeDescriptor :=
  match type with
  | some p => p.needed registry
  | none => (name.bind registry.get?).toList

namespace Parameter

/-- The alias that the JSON text of a body names: the first `x-type` inside the first `schema`. -/
def bodySymbol? (p : Parameter) : Option String := do
  let fragment ← p.rawSchema.bind Json.read?
  let schema ← Assoc.get? "schema" fragment.entries
  let directive ← Assoc.get? Extensions.typeKey schema.entries
  directive.asStr?.bind Text.nonBlank?

/-- The alias of a parameter that is no body. -/
def fieldSymbol? (p : Parameter) : Option String :=
  -- the entity shows in faults only, so it is left blank here
  (p.extensions.symbolicType p.declaredType p.format "").toOption.join

/-- The classes that a parameter needs: that of the alias of a body, whether or not it is a container;
otherwise those of its element and then that of its own alias. -/
def needed (registry : TypeRegistry) (p : Parameter) : List TypeDescriptor :=
  if p.isBody then (p.bodySymbol?.bind registry.get?).toList
  else
    (if p.container.isSome then p.items.toList.flatMap (·.needed registry) else []) ++
      (p.fieldSymbol?.bind registry.get?).toList

end Parameter

/-- The classes that an operation needs.  The headers of its credentials need none. -/
def Operation.needed (registry : TypeRegistry) (o : Operation) : List TypeDescriptor :=
  registry.neededFor o.returnProperty o.returnType ++
    o.responses.flatMap (fun r => registry.neededFor r.schema r.baseType) ++
    o.parameters.flatMap (·.needed registry)

/-! ## Registries that agree -/

/-- Another registry has the same class for every alias whose class is among some names, and has no
other aliases. -/
structure TypeRegistry.AgreesOn (registry : TypeRegistry) (names : List String)
    (other : TypeRegistry) : Prop where
  missing : ∀ {name : String}, registry.get? name = none → other.get? name = none
  found : ∀ {name : String} {d : TypeDescriptor}, registry.get? name = some d →
    d.qualifiedName ∈ names → other.get? name = some d

section Parts

variable {α : Type} {bind bind' : α → Except Fault (α × List String)} {l bs : List α}
  {imports : List String}

/-- Parts collect what each of them needs. -/
theorem sameImports_bindParts {needed : α → List TypeDescriptor}
    (each : ∀ {a b names}, bind a = .ok (b, names) →
      SameImports names (TypeDescriptor.names (needed a)))
    (done : bindParts bind l = .ok (bs, imports)) :
    SameImports imports (TypeDescriptor.names (l.flatMap needed)) := by
  induction l generalizing bs imports with
  | nil =>
    cases done
    exact .refl []
  | cons a rest ih =>
    obtain ⟨b, bs, first, more, here, later, rfl, rfl⟩ := bindParts_cons_eq_ok_iff.1 done
    rw [List.flatMap_cons, TypeDescriptor.names_append]
    exact (each here).append (ih later)

theorem transfer_bindParts
    (each : ∀ {a b names}, bind a = .ok (b, names) → names ⊆ imports → bind' a = .ok (b, names))
    (done : bindParts bind l = .ok (bs, imports)) : bindParts bind' l = .ok (bs, imports) := by
  suffices general : ∀ {l bs names}, bindParts bind l = .ok (bs, names) → names ⊆ imports →
      bindParts bind' l = .ok (bs, names) from general done (List.Subset.refl imports)
  clear done
  intro l
  induction l with
  | nil => exact fun done _ => done
  | cons a rest ih =>
    intro bs names done known
    obtain ⟨b, bs, first, more, here, later, rfl, rfl⟩ := bindParts_cons_eq_ok_iff.1 done
    obtain ⟨knownHere, knownLater⟩ := List.append_subset.1 known
    exact bindParts_cons_eq_ok_iff.2
      ⟨b, bs, first, more, each here knownHere, ih later knownLater, rfl, rfl⟩

end Parts

variable {registry other : TypeRegistry} {names imports : List String} {entity : String}

namespace TypeRegistry.AgreesOn

variable (agrees : registry.AgreesOn names other)

include agrees

theorem mono {fewer : List String} (known : fewer ⊆ names) : registry.AgreesOn fewer other where
  missing := agrees.missing
  found there member := agrees.found there (known member)

theorem substitute {name : String} (known : (registry.substitute name).2 ⊆ names) :
    other.substitute name = registry.substitute name := by
  rw [TypeRegistry.substitute] at known ⊢
  rw [TypeRegistry.substitute]
  cases there : registry.get? name with
  | none => rw [agrees.missing there]
  | some d =>
    rw [there] at known
    rw [agrees.found there (known List.mem_cons_self)]

theorem substituteArgument {argument : String}
    (known : (registry.substituteArgument argument).2 ⊆ names) :
    other.substituteArgument argument = registry.substituteArgument argument := by
  unfold TypeRegistry.substituteArgument at known ⊢
  split at known
  · next open_ => rw [if_pos open_, if_pos open_]
  · next named => rw [if_neg named, if_neg named, agrees.substitute known]

theorem instantiate {base : String} {arguments : List String}
    (known : (registry.instantiate base arguments).2 ⊆ names) :
    other.instantiate base arguments = registry.instantiate base arguments := by
  cases arguments with
  | nil => rfl
  | cons argument rest =>
    have same : (argument :: rest).map other.substituteArgument =
        (argument :: rest).map registry.substituteArgument := by
      refine List.map_congr_left fun a member => agrees.substituteArgument fun name written => ?_
      exact known (List.mem_flatMap.2 ⟨_, List.mem_map_of_mem member, written⟩)
    rw [TypeRegistry.instantiate, same]
    rfl

theorem substituteName {name : Option String}
    (known : (registry.substituteName name).2 ⊆ names) :
    other.substituteName name = registry.substituteName name := by
  cases name with
  | none => rfl
  | some type => rw [TypeRegistry.substituteName, agrees.substitute known]; rfl

end TypeRegistry.AgreesOn

/-! ## Layers and properties -/

namespace Layer

variable {own bound : Layer} {symbol : Option String} {found : Option (List String)}

theorem Named.transfer (done : Named registry own symbol bound imports)
    (agrees : registry.AgreesOn imports other) : Named other own symbol bound imports := by
  cases done with
  | symbol there => exact .symbol (agrees.found there List.mem_cons_self)
  | container container => exact .container container
  | known plain there => exact .known plain (agrees.found there List.mem_cons_self)
  | unknown plain missing => exact .unknown plain (agrees.missing missing)

theorem Instantiated.transfer (done : Instantiated registry own found bound imports)
    (agrees : registry.AgreesOn imports other) : Instantiated other own found bound imports := by
  cases done with
  | plain => exact .plain
  | @generic arguments plain =>
    have base : own.genericBase other = own.genericBase registry := by
      rw [genericBase, genericBase]
      cases there : registry.get? own.baseType with
      | none => rw [agrees.missing there]
      | some d =>
        rw [agrees.found there]
        rw [genericBase, there]
        exact List.mem_cons_self
    have type := agrees.instantiate (List.subset_append_right (own.genericBase registry).2
      (registry.instantiate (own.genericBase registry).1 arguments).2)
    have generic : Instantiated other own (some arguments) _ _ := .generic plain
    rwa [instantiated, base, type] at generic

theorem Bound.transfer (done : Bound registry own symbol found bound imports)
    (agrees : registry.AgreesOn imports other) : Bound other own symbol found bound imports := by
  obtain ⟨name, arguments⟩ := done
  exact .intro (name.transfer (agrees.mono (List.subset_append_left _ _)))
    (arguments.transfer (agrees.mono (List.subset_append_right _ _)))

end Layer

theorem Property.bindAliases_transfer {p b : Property}
    (done : p.bindAliases registry entity = .ok (b, imports))
    (agrees : registry.AgreesOn imports other) :
    p.bindAliases other entity = .ok (b, imports) := by
  induction p generalizing b entity imports with
  | leaf own =>
    obtain ⟨⟨bound, names⟩, bindOwn, done⟩ := bind_eq_ok_iff.1 done
    cases done
    obtain ⟨symbol, found, reads, bindOwn⟩ := Layer.bindAliases_eq_ok_iff.1 bindOwn
    exact bind_eq_ok_iff.2 ⟨_, Layer.bindAliases_eq_ok_iff.2
      ⟨symbol, found, reads, bindOwn.transfer agrees⟩, rfl⟩
  | nest own element ih =>
    obtain ⟨⟨element', names⟩, bindElement, done⟩ := bind_eq_ok_iff.1 done
    obtain ⟨⟨bound, more⟩, bindOwn, done⟩ := bind_eq_ok_iff.1 done
    cases done
    obtain ⟨symbol, found, reads, bindOwn⟩ := Layer.bindAliases_eq_ok_iff.1 bindOwn
    refine bind_eq_ok_iff.2 ⟨_, ih bindElement (agrees.mono (List.subset_append_left _ _)),
      bind_eq_ok_iff.2 ⟨_, Layer.bindAliases_eq_ok_iff.2 ⟨symbol, found, reads, ?_⟩, rfl⟩⟩
    exact bindOwn.transfer (agrees.mono (List.subset_append_right _ _))

/-! ## Parameters -/

namespace Parameter

variable {p b : Parameter} {symbol : Option String}

theorem bodySymbol?_eq (read : p.bodySymbol entity = .ok symbol) : p.bodySymbol? = symbol := by
  have asDirective : p.bodySymbol? = (p.rawSchema.bind Json.read?).bind fun fragment =>
      (bodyDirective? fragment).bind fun v => v.asStr?.bind Text.nonBlank? := by
    simp only [bodySymbol?, bodyDirective?_eq_get?_entries, Option.bind_eq_bind, Option.bind_assoc]
  rw [asDirective]
  rw [bodySymbol] at read
  cases given : p.rawSchema with
  | none =>
    rw [given] at read
    cases read
    rfl
  | some text =>
    rw [given] at read
    dsimp only [bodyAlias] at read
    rw [Option.bind_some]
    cases parsed : Json.read? text with
    | none =>
      rw [parsed] at read
      cases read
    | some fragment =>
      rw [parsed] at read
      dsimp only at read
      rw [Option.bind_some]
      split at read
      · next missing =>
        cases read
        rw [missing]
        rfl
      · next s there =>
        cases read
        rw [there]
        rfl
      · cases read

theorem fieldSymbol?_eq
    (read : p.extensions.symbolicType p.declaredType p.format entity = .ok symbol) :
    p.fieldSymbol? = symbol := by
  rw [fieldSymbol?, Extensions.symbolicType_entity "" read]
  rfl

/-- An element does not change which alias a parameter has. -/
theorem ElementBound.fieldSymbol? (done : ElementBound registry entity p b imports) :
    b.fieldSymbol? = p.fieldSymbol? := by
  cases done <;> rfl

theorem BodyBound.collected (done : BodyBound registry p symbol b imports) :
    imports = TypeDescriptor.names (symbol.bind registry.get?).toList := by
  cases done with
  | plain => rfl
  | symbol found => rw [Option.bind_some, found]; rfl

theorem NameBound.collected (done : NameBound registry p symbol b imports) :
    imports = TypeDescriptor.names (symbol.bind registry.get?).toList := by
  cases done with
  | plain => rfl
  | symbol found => rw [Option.bind_some, found]; rfl

theorem ElementBound.sameImports (done : ElementBound registry entity p b imports) :
    SameImports imports (TypeDescriptor.names
      (if p.container.isSome then p.items.toList.flatMap (·.needed registry) else [])) := by
  cases done with
  | plain missing =>
    rcases missing with missing | missing
    · rw [missing]
      exact .refl []
    · rw [missing, Option.toList_none, List.flatMap_nil, ite_self]
      exact .refl []
  | element container items bindItems =>
    rw [container, Option.isSome_some, if_pos rfl, items, Option.toList_some, List.flatMap_singleton]
    exact (Property.sameImports_bindAliases bindItems).1

theorem Bound.sameImports (done : Bound registry entity p b imports) :
    SameImports imports (TypeDescriptor.names (p.needed registry)) := by
  rw [needed]
  cases done with
  | body isBody read done =>
    rw [if_pos isBody, bodySymbol?_eq read, done.collected]
    exact .refl _
  | field notBody element read name =>
    rw [if_neg (by simp [notBody]), ← element.fieldSymbol?, fieldSymbol?_eq read,
      TypeDescriptor.names_append, name.collected]
    exact element.sameImports.append (.refl _)

theorem BodyBound.transfer (done : BodyBound registry p symbol b imports)
    (agrees : registry.AgreesOn imports other) : BodyBound other p symbol b imports := by
  cases done with
  | plain => exact .plain
  | symbol there => exact .symbol (agrees.found there List.mem_cons_self)

theorem NameBound.transfer (done : NameBound registry p symbol b imports)
    (agrees : registry.AgreesOn imports other) : NameBound other p symbol b imports := by
  cases done with
  | plain => exact .plain
  | symbol there => exact .symbol (agrees.found there List.mem_cons_self)

theorem ElementBound.transfer (done : ElementBound registry entity p b imports)
    (agrees : registry.AgreesOn imports other) : ElementBound other entity p b imports := by
  cases done with
  | plain missing => exact .plain missing
  | element container items bindItems =>
    exact .element container items (Property.bindAliases_transfer bindItems agrees)

theorem Bound.transfer (done : Bound registry entity p b imports)
    (agrees : registry.AgreesOn imports other) : Bound other entity p b imports := by
  cases done with
  | body isBody read done => exact .body isBody read (done.transfer agrees)
  | field notBody element read name =>
    exact .field notBody (element.transfer (agrees.mono (List.subset_append_left _ _))) read
      (name.transfer (agrees.mono (List.subset_append_right _ _)))

end Parameter

/-! ## Responses and return types -/

theorem TypeRegistry.substituteName_imports (registry : TypeRegistry) (name : Option String) :
    (registry.substituteName name).2 =
      TypeDescriptor.names (name.bind registry.get?).toList := by
  cases name with
  | none => rfl
  | some type =>
    rw [substituteName, substitute, Option.bind_some]
    cases registry.get? type <;> rfl

theorem Response.Outcome.sameImports {r b : Response}
    (done : Outcome registry entity r b imports) :
    SameImports imports (TypeDescriptor.names (registry.neededFor r.schema r.baseType)) := by
  cases done with
  | body there bindSchema =>
    rw [there]
    exact (Property.sameImports_bindAliases bindSchema).1
  | name missing =>
    rw [missing, registry.substituteName_imports]
    exact .refl _

theorem Response.Outcome.transfer {r b : Response}
    (done : Outcome registry entity r b imports) (agrees : registry.AgreesOn imports other) :
    Outcome other entity r b imports := by
  cases done with
  | body there bindSchema =>
    exact .body there (Property.bindAliases_transfer bindSchema agrees)
  | name missing =>
    have same := agrees.substituteName (List.Subset.refl _)
    have named : Outcome other entity r _ _ := .name missing
    rwa [same] at named

namespace Operation

variable {o b : Operation} {returnProperty : Option Property} {returnType : Option String}

theorem ReturnOutcome.sameImports
    (done : ReturnOutcome registry o returnProperty returnType imports) :
    SameImports imports
      (TypeDescriptor.names (registry.neededFor o.returnProperty o.returnType)) := by
  cases done with
  | value there bindReturn =>
    rw [there]
    exact (Property.sameImports_bindAliases bindReturn).1
  | name missing =>
    rw [missing, registry.substituteName_imports]
    exact .refl _

theorem ReturnOutcome.transfer
    (done : ReturnOutcome registry o returnProperty returnType imports)
    (agrees : registry.AgreesOn imports other) :
    ReturnOutcome other o returnProperty returnType imports := by
  cases done with
  | value there bindReturn =>
    exact .value there (Property.bindAliases_transfer bindReturn agrees)
  | name missing =>
    have same := agrees.substituteName (List.Subset.refl _)
    have named : ReturnOutcome other o _ _ _ := .name missing
    rwa [same] at named

/-! ## Operations -/

variable {options : OperationOptions} {basePath : Option String}

theorem bound_imports (done : o.bound registry options basePath = .ok b) :
    b.imports.names = o.imports.names ++
      ((TypeDescriptor.names (o.needed registry)).filter (· ∉ o.imports.names)).eraseDups := by
  obtain ⟨_, _, imports, responses, responseImports, parameters, parameterImports, bindReturn,
    bindResponses, bindParameters, rfl⟩ := bound_eq_ok_iff.1 done
  rw [Response.bindEach_eq] at bindResponses
  rw [Parameter.bindEach_eq] at bindParameters
  have ofReturn := (boundReturn_eq_ok_iff_outcome.1 bindReturn).sameImports
  have ofResponses := sameImports_bindParts
    (fun bound => (Response.bindAliases_eq_ok_iff_outcome.1 bound).sameImports) bindResponses
  have ofParameters := sameImports_bindParts
    (fun bound => (Parameter.bindAliases_eq_ok_iff.1 bound).sameImports) bindParameters
  show (o.imports.extend _).names = _
  rw [(ofReturn.append ofResponses).append ofParameters o.imports, ← TypeDescriptor.names_append,
    ← TypeDescriptor.names_append]
  exact ImportSet.names_extend o.imports _

theorem bound_transfer (done : o.bound registry options basePath = .ok b)
    (agrees : registry.AgreesOn b.imports.names other) :
    o.bound other options basePath = .ok b := by
  obtain ⟨_, _, imports, responses, responseImports, parameters, parameterImports, bindReturn,
    bindResponses, bindParameters, rfl⟩ := bound_eq_ok_iff.1 done
  have all : registry.AgreesOn (imports ++ responseImports ++ parameterImports) other :=
    agrees.mono fun name member => ImportSet.mem_extend.2 (.inr member)
  have early := all.mono (List.subset_append_left _ _)
  have ofReturn := early.mono (List.subset_append_left _ _)
  have ofResponses := early.mono (List.subset_append_right _ _)
  have ofParameters := all.mono (List.subset_append_right _ _)
  rw [Response.bindEach_eq] at bindResponses
  rw [Parameter.bindEach_eq] at bindParameters
  refine bound_eq_ok_iff.2 ⟨_, _, imports, responses, responseImports, parameters, parameterImports,
    ?_, ?_, ?_, rfl⟩
  · exact boundReturn_eq_ok_iff_outcome.2
      ((boundReturn_eq_ok_iff_outcome.1 bindReturn).transfer ofReturn)
  · rw [Response.bindEach_eq]
    exact transfer_bindParts (fun bound known => Response.bindAliases_eq_ok_iff_outcome.2
      ((Response.bindAliases_eq_ok_iff_outcome.1 bound).transfer (ofResponses.mono known)))
      bindResponses
  · rw [Parameter.bindEach_eq]
    exact transfer_bindParts (fun bound known => Parameter.bindAliases_eq_ok_iff.2
      ((Parameter.bindAliases_eq_ok_iff.1 bound).transfer (ofParameters.mono known)))
      bindParameters

end Operation

/-- If all operations are bound, then the imports of each are followed by the classes that it needs:
those that are missing, each once, in the order in which they are needed.  And no other class is
written anywhere, for it makes no difference to the operation which class any other alias has, or
whether it has one. -/
theorem Api.bound_operations_import_needed (registry : TypeRegistry) (options : OperationOptions)
    (api : Api) (allBound : (bindAll registry options api).fault = none) :
    List.Forall₂ (fun before after =>
        after.imports.names = before.imports.names ++
          ((TypeDescriptor.names (before.needed registry)).filter
            (· ∉ before.imports.names)).eraseDups ∧
        ∀ other, registry.AgreesOn after.imports.names other →
          bindAll other options { api with operations := [before] } = ⟨[after], none⟩)
      api.operations (bindAll registry options api).elements := by
  have commits (registry : TypeRegistry) :=
    Operation.commits_bindAndGroup registry options (options.rootPath api.basePath)
  refine (Progress.bound_of_no_fault (commits registry) allBound).imp fun before after bound => ?_
  refine ⟨Operation.bound_imports bound, fun other agrees => ?_⟩
  exact Progress.ofEach_cons_of_ok (commits other) [] (Operation.bound_transfer bound agrees)

/-- A list with an alias. -/
def linesObject : Json :=
  .obj [("schema", .obj [("type", .str "array"), ("items", .obj [("x-type", .str " Base ")])])]

theorem read?_linesObject : Json.read? linesObject.render = some linesObject :=
  Json.read?_render (by decide) (by decide) (by decide)

/-- An operation that returns the name of a type, and has a list of amounts for a header and a list
with an alias for a body. -/
def Operation.bill : Operation where
  operationId := "bill"
  method := "post"
  path := "/bills"
  summary := none
  returnType := some "Amount"
  returnProperty := none
  responses := [⟨"200", none, some "Bill", some (.leaf { Layer.plain "200" "object" "Bill" with
      extensions := .ofList [(Extensions.argumentsKey, .arr [.str "Page", .str "?"])] })⟩,
    ⟨"404", none, some "Receipt", none⟩]
  parameters := [
    { Parameter.plain "amounts" .header "array" "List<String>" with
      isContainer := true
      container := some .list
      items := some (.leaf { Layer.plain "amounts" "string" "String" with
        format := some "x-Money" }) },
    { Parameter.plain "lines" .body "array" "List<String>" with
      isContainer := true
      rawSchema := some linesObject.render }]
  authMethods := [⟨"key", .apiKey, some "X-Key", some .header, none⟩]
  groupKey := "/bills"
  pathExtensions := .empty
  extensions := .empty
  imports := ⟨["java.util.List"]⟩

theorem Operation.exists_bound_bill :
    ∃ b, bill.bound Model.pagedTypes ⟨true, false⟩ none = .ok b := by
  have amounts : ∃ b, bill.parameters[0].bindAliases Model.pagedTypes "bill.amounts" = .ok b :=
    ⟨_, rfl⟩
  have lines : ∃ b, bill.parameters[1].bindAliases Model.pagedTypes "bill.lines" = .ok b := by
    rw [Parameter.bindAliases_of_rawSchema rfl rfl read?_linesObject]
    exact ⟨_, rfl⟩
  obtain ⟨_, amounts⟩ := amounts
  obtain ⟨_, lines⟩ := lines
  have parameters : ∃ bs, Parameter.bindEach Model.pagedTypes "bill" bill.parameters = .ok bs :=
    ⟨_, bind_eq_ok_iff.2 ⟨_, amounts, bind_eq_ok_iff.2 ⟨_, bind_eq_ok_iff.2 ⟨_, lines, rfl⟩, rfl⟩⟩⟩
  obtain ⟨⟨parameters, imports⟩, bindParameters⟩ := parameters
  exact ⟨_, bound_eq_ok_iff.2 ⟨_, _, _, _, _, parameters, imports, rfl, rfl, bindParameters, rfl⟩⟩

theorem Operation.needed_bill : bill.needed Model.pagedTypes =
    [⟨"Amount", "acme.Money"⟩, ⟨"Page", "acme.Page"⟩, ⟨"Money", "acme.Money"⟩,
      ⟨"Base", "acme.Base"⟩] := by
  have alias_ : bill.parameters[1].bodySymbol? = some "Base" := by
    show (Json.read? linesObject.render).bind _ = _
    rw [read?_linesObject]
    rfl
  have parameters : bill.parameters.flatMap (·.needed Model.pagedTypes) =
      [⟨"Money", "acme.Money"⟩, ⟨"Base", "acme.Base"⟩] := by
    show _ ++ ((bill.parameters[1].bodySymbol?.bind _).toList ++ _) = _
    rw [alias_]
    decide
  rw [needed, parameters]
  decide

/-- The registry of pages without the class of the wildcard. -/
def TypeRegistry.pagedClasses : TypeRegistry :=
  empty.extend [⟨"Base", "acme.Base"⟩, ⟨"Page", "acme.Page"⟩, ⟨"Money", "acme.Money"⟩,
    ⟨"Amount", "acme.Money"⟩]

/-- A class that is imported already adds nothing, and neither does the header of a key.  The class of
the wildcard is not missed. -/
theorem Api.bound_operations_import_needed_bill :
    let names := ["java.util.List", "acme.Money", "acme.Page", "acme.Base"]
    (bindAll Model.pagedTypes ⟨true, false⟩ ⟨none, [.bill]⟩).fault = none ∧
      Model.pagedTypes.AgreesOn names .pagedClasses ∧
      ∀ after ∈ (bindAll Model.pagedTypes ⟨true, false⟩ ⟨none, [.bill]⟩).elements,
        after.imports.names = names ∧
          bindAll .pagedClasses ⟨true, false⟩ ⟨none, [.bill]⟩ = ⟨[after], none⟩ := by
  intro names
  obtain ⟨b, bound⟩ := Operation.exists_bound_bill
  have all : bindAll Model.pagedTypes ⟨true, false⟩ ⟨none, [.bill]⟩ = ⟨[b], none⟩ :=
    Progress.ofEach_cons_of_ok (Operation.commits_bindAndGroup _ _ _) [] bound
  have allBound : (bindAll Model.pagedTypes ⟨true, false⟩ ⟨none, [.bill]⟩).fault = none :=
    congrArg (·.fault) all
  have agrees : Model.pagedTypes.AgreesOn names .pagedClasses := by
    simp only [Model.pagedTypes, TypeRegistry.pagedClasses, TypeRegistry.extend, List.foldl_cons,
      List.foldl_nil]
    constructor
    · intro name missing
      simp only [TypeRegistry.get?_insert] at missing ⊢
      split_ifs at missing ⊢
      exact missing
    · intro name d there member
      simp only [TypeRegistry.get?_insert] at there ⊢
      by_cases open_ : name = "?"
      · rw [if_pos open_] at there
        cases there
        exact absurd member (by decide)
      · rwa [if_neg open_] at there
  refine ⟨allBound, agrees, fun after member => ?_⟩
  have each := bound_operations_import_needed Model.pagedTypes ⟨true, false⟩ ⟨none, [.bill]⟩ allBound
  rw [all] at each member
  obtain ⟨⟨imported, transfer⟩, -⟩ := List.forall₂_cons.1 each
  rw [List.mem_singleton.1 member]
  have known : b.imports.names = names := by
    rw [imported, Operation.needed_bill]
    decide
  exact ⟨known, transfer _ (known ▸ agrees)⟩

end SchemaBinder
