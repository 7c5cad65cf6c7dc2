import SchemaBinder.Operation.Schema
import SchemaBinder.Proofs.Lists
import SchemaBinder.Proofs.ReferenceChains
/-!
# References are transparent

Two values are `Alike` to a document if following their references comes to the same: an object and
a reference to it, or two references that lead to it by chains of any lengths within the bound.

The parameters of an operation, the body of its request and its responses may each be a reference.
`Operation.references_transparent` says that any of them may be replaced by a value that is alike,
and the operation is the same in all its parts, or fails with the same fault: whatever is read of
them, is read after their references have been followed.
-/

namespace SchemaBinder

namespace Document

variable {doc : Document} {v w u : Json} {m n : Nat}

/-- Following the references of two values comes to the same. -/
def Alike (doc : Document) (v w : Json) : Prop := doc.resolve v = doc.resolve w

theorem Alike.refl (doc : Document) (v : Json) : doc.Alike v v := rfl

/-- Chains within the bound that end at one value start at values that are alike. -/
theorem alike_of_follows (plain : u.getStr? "$ref" = none) (shortV : m < maxReferences)
    (fromV : doc.Follows m v u) (shortW : n < maxReferences) (fromW : doc.Follows n w u) :
    doc.Alike v w := by
  have endV : doc.resolve v = .ok u := resolveFrom_eq_iff_chainEnds.2 (.value shortV fromV plain)
  have endW : doc.resolve w = .ok u := resolveFrom_eq_iff_chainEnds.2 (.value shortW fromW plain)
  exact endV.trans endW.symm

end Document

/-! ## Methods that are alike -/

namespace Operation

variable {doc : Document} {types : TypeMap} {fields others : List (String × Json)}
  {key : String} {v w item item' : Json} {shared shared' : List Json}

/-- The fields under which a method may hold references. -/
def referringKeys : List String := ["parameters", "requestBody", "responses"]

/-- Two values under a key of a method are the same, but for values that are alike where the method
may hold references. -/
inductive ValueAlike (doc : Document) (key : String) : Json → Json → Prop where
  | same (v : Json) : ValueAlike doc key v v
  | parameters {own own' : List Json} : key = "parameters" →
      List.Forall₂ doc.Alike own own' → ValueAlike doc key (.arr own) (.arr own')
  | requestBody {body body' : Json} : key = "requestBody" →
      doc.Alike body body' → ValueAlike doc key body body'
  | responses {declared declared' : List (String × Json)} : key = "responses" →
      List.Forall₂ (fun r s => r.1 = s.1 ∧ doc.Alike r.2 s.2) declared declared' →
      ValueAlike doc key (.obj declared) (.obj declared')

/-- Two methods have the same keys, and under each of them values that are alike. -/
inductive MethodAlike (doc : Document) : Json → Json → Prop where
  | intro {fields others : List (String × Json)} :
      List.Forall₂ (fun f g => f.1 = g.1 ∧ ValueAlike doc f.1 f.2 g.2) fields others →
      MethodAlike doc (.obj fields) (.obj others)

theorem ValueAlike.eq_of_notMem (alike : ValueAlike doc key v w) (plain : key ∉ referringKeys) :
    v = w := by
  cases alike with
  | same => rfl
  | parameters here | requestBody here | responses here =>
    subst here
    exact absurd plain (by decide)

theorem get?_cases
    (alike : List.Forall₂ (fun f g => f.1 = g.1 ∧ ValueAlike doc f.1 f.2 g.2) fields others)
    (key : String) :
    (Assoc.get? key fields = none ∧ Assoc.get? key others = none) ∨
      ∃ v w, Assoc.get? key fields = some v ∧ Assoc.get? key others = some w ∧
        ValueAlike doc key v w := by
  induction alike with
  | nil => exact .inl ⟨rfl, rfl⟩
  | @cons field other _ _ here _ ih =>
    obtain ⟨k, v⟩ := field
    obtain ⟨k', w⟩ := other
    obtain ⟨rfl, here⟩ := here
    rw [Assoc.get?, Assoc.get?]
    by_cases same : k = key
    · rw [if_pos same, if_pos same]
      exact .inr ⟨v, w, rfl, rfl, same ▸ here⟩
    · rw [if_neg same, if_neg same]
      exact ih

namespace MethodAlike

/-- Methods that are alike hold values that are alike under a key, or neither holds one. -/
theorem cases_get? (alike : MethodAlike doc item item') (key : String) :
    (item.get? key = none ∧ item'.get? key = none) ∨
      ∃ v w, item.get? key = some v ∧ item'.get? key = some w ∧ ValueAlike doc key v w := by
  obtain ⟨each⟩ := alike
  exact get?_cases each key

/-- Everything but what may be a reference is the same. -/
theorem get?_eq (alike : MethodAlike doc item item') (plain : key ∉ referringKeys) :
    item.get? key = item'.get? key := by
  obtain ⟨none, none'⟩ | ⟨v, w, found, found', here⟩ := alike.cases_get? key
  · exact none.trans none'.symm
  · rw [found, found', here.eq_of_notMem plain]

/-- No extension of a method is a reference. -/
theorem extensions_eq (alike : MethodAlike doc item item') :
    Extensions.ofJson item = Extensions.ofJson item' := by
  obtain @⟨fields, others, each⟩ := alike
  have plain : ∀ key ∈ referringKeys, Text.hasStart "x-" key = false := by decide
  have kept : fields.filter (Text.hasStart "x-" ·.1) = others.filter (Text.hasStart "x-" ·.1) := by
    induction each with
    | nil => rfl
    | @cons field other _ _ here _ ih =>
      obtain ⟨k, v⟩ := field
      obtain ⟨k', w⟩ := other
      obtain ⟨rfl, here⟩ := here
      by_cases referring : k ∈ referringKeys
      · have dropped := plain k referring
        rw [List.filter_cons_of_neg (by simp [dropped]),
          List.filter_cons_of_neg (by simp [dropped]), ih]
      · obtain rfl : v = w := here.eq_of_notMem referring
        rw [List.filter_cons, List.filter_cons, ih]
  exact congrArg SortedTable.ofList kept

theorem parameters (alike : MethodAlike doc item item') :
    List.Forall₂ doc.Alike ((item.getArr? "parameters").getD [])
      ((item'.getArr? "parameters").getD []) := by
  unfold Json.getArr?
  obtain ⟨none, none'⟩ | ⟨v, w, found, found', here⟩ := alike.cases_get? "parameters"
  · rw [none, none']
    exact .nil
  · rw [found, found']
    cases here with
    | same => exact List.forall₂_same.2 fun v _ => .refl doc v
    | parameters _ own => exact own
    | requestBody other | responses other => exact absurd other (by decide)

theorem responses (alike : MethodAlike doc item item') :
    List.Forall₂ (fun r s => r.1 = s.1 ∧ doc.Alike r.2 s.2)
      ((item.getObj? "responses").getD []) ((item'.getObj? "responses").getD []) := by
  unfold Json.getObj?
  obtain ⟨none, none'⟩ | ⟨v, w, found, found', here⟩ := alike.cases_get? "responses"
  · rw [none, none']
    exact .nil
  · rw [found, found']
    cases here with
    | same => exact List.forall₂_same.2 fun field _ => ⟨rfl, .refl doc field.2⟩
    | responses _ declared => exact declared
    | parameters other | requestBody other => exact absurd other (by decide)

end MethodAlike

/-! ## The parts of an operation -/

theorem declaredParameters_congr {own own' : List Json}
    (sharedAlike : List.Forall₂ doc.Alike shared shared')
    (ownAlike : List.Forall₂ doc.Alike own own') :
    declaredParameters doc shared own = declaredParameters doc shared' own' := by
  rw [declaredParameters, mapM_congr_of_forall₂ (List.rel_append sharedAlike ownAlike)]
  rfl

theorem bodyParameter_congr (alike : MethodAlike doc item item') :
    bodyParameter doc types item = bodyParameter doc types item' := by
  rw [bodyParameter, bodyParameter]
  obtain ⟨none, none'⟩ | ⟨v, w, found, found', here⟩ := alike.cases_get? "requestBody"
  · rw [none, none']
  · rw [found, found']
    cases here with
    | same => rfl
    | requestBody _ resolved =>
      dsimp only
      rw [resolved]
    | parameters other | responses other => exact absurd other (by decide)

theorem responses_congr {declared declared' : List (String × Json)}
    (alike : List.Forall₂ (fun r s => r.1 = s.1 ∧ doc.Alike r.2 s.2) declared declared') :
    Response.ofSchemas doc types declared = Response.ofSchemas doc types declared' := by
  induction alike with
  | nil => rfl
  | @cons entry entry' _ _ here _ ih =>
    obtain ⟨code, response⟩ := entry
    obtain ⟨code', response'⟩ := entry'
    obtain ⟨rfl, resolved⟩ := here
    rw [Response.ofSchemas, Response.ofSchemas, resolved, ih]

/-- An operation does not change when parameters of its path or its method, the body of its request
or its responses are replaced by values that are alike: by what a reference leads to, by a reference
to it, or by another reference. -/
theorem references_transparent (doc : Document) (types : TypeMap) (path method : String)
    (pathExtensions : Extensions) (sharedAlike : List.Forall₂ doc.Alike shared shared')
    (alike : MethodAlike doc item item') :
    ofSchema doc types path method item shared pathExtensions =
      ofSchema doc types path method item' shared' pathExtensions := by
  have same (key : String) (plain : key ∉ referringKeys) := alike.get?_eq plain
  unfold ofSchema Json.getStr?
  rw [same "operationId" (by decide), same "summary" (by decide),
    show item.getArr? "security" = item'.getArr? "security" from
      congrArg (·.bind Json.asArr?) (same "security" (by decide)),
    alike.extensions_eq, declaredParameters_congr sharedAlike alike.parameters,
    bodyParameter_congr alike, responses_congr alike.responses]

/-! ## A method with and without references -/

/-- A parameter that a path declares for all its methods. -/
def idParameter : Json :=
  .obj [("name", .str "id"), ("in", .str "path"), ("schema", .obj [("type", .str "integer")])]

/-- The body of a request and of a response. -/
def textBody : Json :=
  .obj [("content", .obj [("text/plain", .obj [("schema", .obj [("type", .str "string")])])])]

/-- A document that names a parameter, under a second name too, and a body. -/
def namingDocument : Document :=
  ⟨.obj [("openapi", .str "3.0.0"),
    ("id", Document.placeReference "pathId"), ("pathId", idParameter), ("text", textBody)]⟩

/-- A method with a given parameter, body and response. -/
def savingMethod (parameter body response : Json) : Json :=
  .obj [("operationId", .str "save"), ("parameters", .arr [parameter]), ("requestBody", body),
    ("responses", .obj [("200", response)])]

theorem references_transparent_saving :
    let doc := namingDocument
    let types : TypeMap := ⟨.standard, .plain⟩
    let id := Document.placeReference "id"
    let text := Document.placeReference "text"
    List.Forall₂ doc.Alike [id] [idParameter] ∧
      MethodAlike doc (savingMethod id text text) (savingMethod idParameter textBody textBody) ∧
      ∃ o, ofSchema doc types "/notes/{id}" "put" (savingMethod id text text) [id] .empty = .ok o ∧
        ofSchema doc types "/notes/{id}" "put" (savingMethod idParameter textBody textBody)
          [idParameter] .empty = .ok o := by
  intro doc types id text
  have idAlike : doc.Alike id idParameter :=
    Document.alike_of_follows rfl (by decide)
      (.step ⟨"/id", rfl, rfl⟩ (.step ⟨"/pathId", rfl, rfl⟩ (.refl _))) (by decide) (.refl _)
  have textAlike : doc.Alike text textBody :=
    Document.alike_of_follows rfl (by decide) (.step ⟨"/text", rfl, rfl⟩ (.refl _)) (by decide)
      (.refl _)
  have parameters : List.Forall₂ doc.Alike [id] [idParameter] := .cons idAlike .nil
  have method : MethodAlike doc (savingMethod id text text)
      (savingMethod idParameter textBody textBody) := by
    refine .intro (.cons ⟨rfl, .same _⟩ (.cons ⟨rfl, .parameters rfl parameters⟩
      (.cons ⟨rfl, .requestBody rfl textAlike⟩ (.cons ⟨rfl, .responses rfl ?_⟩ .nil))))
    exact .cons ⟨rfl, textAlike⟩ .nil
  have made : ofSchema doc types "/notes/{id}" "put"
      (savingMethod idParameter textBody textBody) [idParameter] .empty = .ok _ := rfl
  exact ⟨parameters, method, _,
    (references_transparent doc types _ _ _ parameters method).trans made, made⟩

end Operation

end SchemaBinder
