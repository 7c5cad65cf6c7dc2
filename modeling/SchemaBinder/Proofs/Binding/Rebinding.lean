import SchemaBinder.Proofs.Binding.Demands
import SchemaBinder.Proofs.Text
/-!
# Binding again

A layer with type arguments is bound to a text such as `Page<Money>`, which is its base type from
then on.  When it is bound again, that text is looked up like an alias and cut at its bracket.  If
no alias has a bracket, and every class is `IsRaw`, then the alias is missing, and what is cut off
is the class of before.

So binding again changes nothing and makes no further import necessary: `bindAliases_again` for a
layer and for a property, and `rebinding_models_changes_nothing` for models.
-/

namespace SchemaBinder

/-! ## Raw types -/

/-- A type as it is written before its arguments. -/
structure IsRaw (type : String) : Prop where
  noBracket : '<' ∉ type.toList
  trimmed : Text.trim type = type

theorem isRaw_rawType (type : String) : IsRaw (rawType type) where
  noBracket := by
    intro member
    rw [rawType, String.toList_ofList] at member
    simpa using List.mem_takeWhile_imp (Text.mem_of_mem_trimChars member)
  trimmed := by
    rw [rawType, Text.trim, String.toList_ofList, Text.trimChars_trimChars]

/-- Cutting a type at its first bracket gives back what the arguments were written behind. -/
theorem rawType_append {base : String} (raw : IsRaw base) (arguments : String) :
    rawType (base ++ "<" ++ arguments) = base := by
  have cut : (base ++ "<" ++ arguments).toList.takeWhile (· ≠ '<') = base.toList := by
    rw [String.toList_append, String.toList_append, List.append_assoc,
      List.takeWhile_append_of_pos]
    · exact List.append_nil _
    · intro c member
      rw [decide_eq_true_eq]
      rintro rfl
      exact raw.noBracket member
  rw [rawType, cut]
  exact raw.trimmed

namespace TypeRegistry

/-- No alias has a bracket, and every class is raw. -/
structure Plain (registry : TypeRegistry) : Prop where
  alias_ : ∀ name d, registry.get? name = some d → '<' ∉ name.toList
  target : ∀ name d, registry.get? name = some d → IsRaw d.simpleName

theorem plain_of_entries {registry : TypeRegistry} (entries : ∀ p ∈ registry.table.entries,
    '<' ∉ p.1.toList ∧ '<' ∉ p.2.simpleName.toList ∧ Text.trim p.2.simpleName = p.2.simpleName) :
    registry.Plain where
  alias_ _ _ found := (entries _ (Assoc.mem_of_get? found)).1
  target _ _ found :=
    have raw := (entries _ (Assoc.mem_of_get? found)).2
    ⟨raw.1, raw.2⟩

theorem instantiate_eq (registry : TypeRegistry) (base : String) {arguments : List String}
    (filled : arguments ≠ []) :
    ∃ inner, (registry.instantiate base arguments).1 = base ++ "<" ++ inner := by
  rw [instantiate, if_neg (by simpa using filled)]
  exact ⟨_, String.append_assoc⟩

variable {registry : TypeRegistry} {base : String} {arguments : List String}

/-- A type with arguments is no alias. -/
theorem Plain.get?_instantiate (plain : registry.Plain) (base : String) (filled : arguments ≠ []) :
    registry.get? (registry.instantiate base arguments).1 = none := by
  obtain ⟨inner, written⟩ := registry.instantiate_eq base filled
  rw [written]
  cases found : registry.get? (base ++ "<" ++ inner) with
  | none => rfl
  | some d => exact absurd (by simp) (plain.alias_ _ d found)

theorem rawType_instantiate (raw : IsRaw base) (filled : arguments ≠ []) :
    rawType (registry.instantiate base arguments).1 = base := by
  obtain ⟨inner, written⟩ := registry.instantiate_eq base filled
  rw [written, rawType_append raw]

end TypeRegistry

/-! ## Layers -/

namespace Layer

variable {registry : TypeRegistry} {own named bound : Layer} {entity : String}
  {imports first more : List String} {symbol : Option String} {found : Option (List String)}

theorem isRaw_genericBase (plain : registry.Plain) (own : Layer) :
    IsRaw (own.genericBase registry).1 := by
  rw [genericBase]
  split
  · next d found => exact plain.target _ d found
  · exact isRaw_rawType _

theorem Named.again (done : Named registry own symbol bound imports) :
    Named registry bound symbol bound imports := by
  cases done with
  | symbol found => exact .symbol found
  | container container => exact .container container
  | known plain found => exact .known plain found
  | unknown plain missing => exact .unknown plain missing

/-- A layer with type arguments behind its class is instantiated to itself. -/
theorem instantiated_instantiated (plain : registry.Plain) (own : Layer) {arguments : List String}
    (filled : arguments ≠ []) :
    (own.instantiated registry arguments).genericBase registry =
        ((own.genericBase registry).1, []) ∧
      (own.instantiated registry arguments).instantiated registry arguments =
        own.instantiated registry arguments := by
  have base : (own.instantiated registry arguments).genericBase registry =
      ((own.genericBase registry).1, []) := by
    have missing : registry.get? (own.instantiated registry arguments).baseType = none :=
      plain.get?_instantiate _ filled
    rw [genericBase, missing]
    exact congrArg (·, [])
      (TypeRegistry.rawType_instantiate (isRaw_genericBase plain own) filled)
  refine ⟨base, ?_⟩
  rw [instantiated, base]
  rfl

/-- Binding again finds the layer as it is, and no further names to import. -/
theorem Bound.again (plain : registry.Plain)
    (filled : ∀ arguments, found = some arguments → arguments ≠ [])
    (done : Bound registry own symbol found bound imports) :
    ∃ again, Bound registry bound symbol found bound again ∧ again ⊆ imports := by
  obtain @⟨named, bound, first, more, name, arguments⟩ := done
  cases arguments with
  | plain => exact ⟨first ++ [], .intro name.again .plain, List.Subset.refl _⟩
  | @generic arguments leaf =>
    obtain ⟨base, same⟩ := instantiated_instantiated plain named (filled arguments rfl)
    have missing := plain.get?_instantiate (named.genericBase registry).1 (filled arguments rfl)
    -- without an alias, the text that the first pass has written is no alias either
    have unnamed : ∃ again, Bound registry (named.instantiated registry arguments) none
        (some arguments) (named.instantiated registry arguments) again ∧
        again ⊆ first ++ ((named.genericBase registry).2 ++
          (registry.instantiate (named.genericBase registry).1 arguments).2) := by
      have last : Instantiated registry (named.instantiated registry arguments) (some arguments)
          ((named.instantiated registry arguments).instantiated registry arguments) _ :=
        .generic leaf
      rw [same, base] at last
      exact ⟨_, .intro (.unknown leaf missing) last, by simp⟩
    cases name with
    | symbol found => exact ⟨_, .intro (.symbol found) (.generic leaf), List.Subset.refl _⟩
    | container container => simp [container] at leaf
    | known => exact unnamed
    | unknown => exact unnamed

theorem around_of_leaf {own : Layer} (leaf : own.container = none) (element : Layer) :
    own.around element = own := by
  rw [around, leaf]

theorem around_around (own element : Layer) :
    (own.around element).around element = own.around element := by
  cases container : own.container with
  | none => rw [around_of_leaf container, around_of_leaf container]
  | some kind => simp [around, container]

/-- Types that come from an element do not matter to a layer with an alias. -/
theorem withAlias_around (own element : Layer) (name : String) (d : TypeDescriptor) :
    ((own.withAlias name d).around element).withAlias name d = own.withAlias name d := by
  rw [around]
  split <;> rfl

/-- The same holds if the layer first takes its types from its element again. -/
theorem Bound.around_again (plain : registry.Plain)
    (filled : ∀ arguments, found = some arguments → arguments ≠ []) {element : Layer}
    (done : Bound registry (own.around element) symbol found bound imports) :
    ∃ again, Bound registry (bound.around element) symbol found bound again ∧ again ⊆ imports := by
  cases container : bound.container with
  | none =>
    rw [around_of_leaf container]
    exact done.again plain filled
  | some kind =>
    obtain ⟨name, arguments⟩ := done
    cases arguments with
    | generic leaf => simp [instantiated, leaf] at container
    | plain =>
      refine ⟨_, .intro ?_ .plain, List.Subset.refl _⟩
      cases name with
      | @symbol name d found =>
        have again : Named registry _ (some name)
            ((((own.around element).withAlias name d).around element).withAlias name d)
            [d.qualifiedName] := .symbol found
        rwa [withAlias_around] at again
      | container some =>
        rw [around_around]
        exact .container some
      | known leaf => simp [leaf] at container
      | unknown leaf => simp [leaf] at container

/-- If a layer has type arguments, then at least one. -/
def Filled (own : Layer) : Prop :=
  (own.extensions.get? Extensions.argumentsKey).isSome → own.arguments ≠ []

theorem Kept.filled (kept : Kept own bound) (filled : own.Filled) : bound.Filled := by
  rw [Filled, arguments, kept.extensions]
  exact filled

theorem Reads.filled (reads : Reads own entity symbol found) (filled : own.Filled) :
    ∀ arguments, found = some arguments → arguments ≠ [] := by
  rintro arguments rfl
  have given : (own.extensions.get? Extensions.argumentsKey).isSome := by
    by_contra missing
    have read := reads.arguments
    simp [Extensions.typeArguments, Option.not_isSome_iff_eq_none.1 missing] at read
  have filled := filled given
  rwa [arguments_eq reads.arguments] at filled

theorem bindAliases_again (plain : registry.Plain) (filled : own.Filled)
    (done : own.bindAliases registry entity = .ok (bound, imports)) (other : String) :
    ∃ again, bound.bindAliases registry other = .ok (bound, again) ∧ again ⊆ imports := by
  obtain ⟨symbol, found, reads, done⟩ := bindAliases_eq_ok_iff.1 done
  obtain ⟨again, rebound, known⟩ := done.again plain (reads.filled filled)
  exact ⟨again, bindAliases_eq_ok_iff.2 ⟨symbol, found, reads.of_kept done.kept other, rebound⟩,
    known⟩

theorem bindAliases_around_again (plain : registry.Plain) (filled : own.Filled) {element : Layer}
    (done : (own.around element).bindAliases registry entity = .ok (bound, imports))
    (other : String) : ∃ again, (bound.around element).bindAliases registry other =
      .ok (bound, again) ∧ again ⊆ imports := by
  obtain ⟨symbol, found, reads, done⟩ := bindAliases_eq_ok_iff.1 done
  have given := (kept_around own element).filled filled
  obtain ⟨again, rebound, known⟩ := done.around_again plain (reads.filled given)
  have kept := done.kept.trans (kept_around bound element)
  exact ⟨again, bindAliases_eq_ok_iff.2 ⟨symbol, found, reads.of_kept kept other, rebound⟩, known⟩

end Layer

/-! ## Properties and models -/

theorem Property.bindAliases_again {registry : TypeRegistry} (plain : registry.Plain)
    {p bound : Property} (filled : ∀ own ∈ p.layers, own.Filled) {entity : String}
    {imports : List String} (done : p.bindAliases registry entity = .ok (bound, imports))
    (other : String) :
    ∃ again, bound.bindAliases registry other = .ok (bound, again) ∧ again ⊆ imports := by
  induction p generalizing bound entity imports other with
  | leaf own =>
    rw [bindAliases, bind_eq_ok_iff] at done
    obtain ⟨⟨own', names⟩, bindOwn, done⟩ := done
    cases done
    obtain ⟨again, rebound, known⟩ :=
      Layer.bindAliases_again plain (filled own (by simp [layers])) bindOwn other
    exact ⟨again, by rw [bindAliases, rebound]; rfl, known⟩
  | nest own element ih =>
    rw [bindAliases, bind_eq_ok_iff] at done
    obtain ⟨⟨element', names⟩, bindElement, done⟩ := done
    rw [bind_eq_ok_iff] at done
    obtain ⟨⟨own', more⟩, bindOwn, done⟩ := done
    cases done
    obtain ⟨again, reboundElement, known⟩ :=
      ih (fun own member => filled own (by simp [layers, member])) bindElement (other ++ "[]")
    obtain ⟨againOwn, reboundOwn, knownOwn⟩ :=
      Layer.bindAliases_around_again plain (filled own (by simp [layers])) bindOwn other
    refine ⟨again ++ againOwn, ?_, List.append_subset.2 ⟨?_, ?_⟩⟩
    · rw [bindAliases, reboundElement]
      show (own'.around element'.own).bindAliases registry other >>= _ = _
      rw [reboundOwn]
      rfl
    · exact List.subset_append_of_subset_left more known
    · exact List.subset_append_of_subset_right names knownOwn

namespace Model

variable {registry : TypeRegistry}

theorem bound_again (plain : registry.Plain) {m m' : Model} (filled : ∀ own ∈ m.layers, own.Filled)
    (done : m.bound registry = .ok m') : m'.bound registry = .ok m' := by
  rw [bound, bind_eq_ok_iff] at done
  obtain ⟨⟨parent, parentImports⟩, bindParent, done⟩ := done
  rw [bind_eq_ok_iff] at done
  obtain ⟨⟨properties, imports⟩, bindFields, done⟩ := done
  cases done
  rw [boundFields_eq] at bindFields
  have fixed : ∀ b ∈ properties, ∃ again,
      b.bindAliases registry (m.name ++ "." ++ b.own.name) = .ok (b, again) ∧ again ⊆ imports := by
    intro b member
    obtain ⟨p, there, names, bindField, known⟩ := mem_of_bindParts bindFields b member
    obtain ⟨again, rebound, knownAgain⟩ := Property.bindAliases_again plain
      (fun own layer => filled own (List.mem_flatMap.2 ⟨p, there, layer⟩)) bindField _
    exact ⟨again, rebound, List.Subset.trans knownAgain known⟩
  obtain ⟨again, reboundFields, known⟩ := bindParts_of_fixed fixed
  rw [← boundFields_eq] at reboundFields
  rw [bound, bind_eq_ok_iff]
  refine ⟨(parent, parentImports), bindParent, ?_⟩
  rw [bind_eq_ok_iff]
  refine ⟨(properties, again), reboundFields, ?_⟩
  have noImport : (m.imports.extend (parentImports ++ imports)).extend (parentImports ++ again) =
      m.imports.extend (parentImports ++ imports) := by
    have all : parentImports ++ again ⊆ parentImports ++ imports := List.append_subset.2
      ⟨List.subset_append_left _ _, List.subset_append_of_subset_right _ known⟩
    exact ImportSet.extend_of_subset fun name member => ImportSet.mem_extend.2 (.inr (all member))
  have sameParent : parent.or (parent.or m.parent) = parent.or m.parent := by
    cases parent <;> rfl
  show Except.ok _ = _
  simp only [noImport, sameParent]

/-- When models have been bound, binding them again with the same registry succeeds and leaves all
of them exactly as they are, whatever document they come from.  No alias may have a bracket, every
class must be raw, and type arguments that are given must not be none. -/
theorem rebinding_models_changes_nothing (registry : TypeRegistry) (plain : registry.Plain)
    (models : List Model) (filled : ∀ m ∈ models, ∀ own ∈ m.layers, own.Filled)
    (allBound : (bindAll registry models).fault = none) :
    bindAll registry (bindAll registry models).elements =
      ⟨(bindAll registry models).elements, none⟩ := by
  refine Progress.ofEach_of_fixed (commits_bindAliases registry) fun m' member => ?_
  obtain ⟨m, there, bound⟩ :=
    Progress.exists_bound_of_mem (commits_bindAliases registry) allBound m' member
  exact bound_again plain (filled m there) bound

/-- A model with type arguments behind a class and behind a name without one. -/
def generic : Model where
  name := "Generic"
  className := "Generic"
  description := none
  properties := [
    .leaf { Layer.plain "page" "object" "Page" with
      extensions := .ofList [(Extensions.argumentsKey, .str "Amount, ?")] },
    .nest { Layer.plain "others" "array" "List<Other>" with
      baseType := "Other"
      container := some .list }
      (.leaf { Layer.plain "others" "object" "Other" with
        extensions := .ofList [(Extensions.argumentsKey, .arr [.str "Money"])] })]
  parent := none
  extensions := .ofList [(Extensions.parentKey, .str "Base")]
  imports := .empty

/-- The types that are written by the first pass are found by the second. -/
theorem rebinding_models_changes_nothing_generic :
    (bindAll pagedTypes [generic]).fault = none ∧
      ((bindAll pagedTypes [generic]).elements.flatMap layers).map (·.baseType) =
        ["Page<Money, ?>", "Other<Money>", "Other<Money>"] ∧
      bindAll pagedTypes (bindAll pagedTypes [generic]).elements =
        ⟨(bindAll pagedTypes [generic]).elements, none⟩ := by
  have allBound : (bindAll pagedTypes [generic]).fault = none := rfl
  have plain : pagedTypes.Plain := TypeRegistry.plain_of_entries (by decide)
  have filled : ∀ m ∈ [generic], ∀ own ∈ m.layers, own.Filled := by
    unfold Layer.Filled
    decide
  exact ⟨allBound, by decide, rebinding_models_changes_nothing _ plain _ filled allBound⟩

end Model

end SchemaBinder
