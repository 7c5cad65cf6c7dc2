import SchemaBinder.Proofs.Binding.Frame
import SchemaBinder.Url.PlainNames
/-!
# The headers of credentials

Which headers a bound operation has for its credentials, told from the document alone.

The security requirements of an operation mention security schemes, and some of these put a key into
a header (`Document.keyHeaders`).  A header is added for each of these names, unless a declared
header or an earlier name is the same up to capitals (`Parameter.newNames`).

The program gets there in two steps, and each is opened once: the credentials of an operation are
those of the schemes, each where it is mentioned first (`AuthMethod.ofRequirements_eq`), and the
headers are added one after the other (`Parameter.exists_newHeaders`).
-/

namespace SchemaBinder

/-! ## What a document mentions -/

namespace Document

/-- The security requirements that count for an operation: its own, or else those of the document. -/
def requirements (doc : Document) (methodItem : Json) : List Json :=
  match methodItem.getArr? "security" with
  | some own => own
  | none => doc.globalSecurity.getD []

/-- The header that a security scheme puts a key into. -/
def keyHeader? (scheme : Json) : Option String :=
  if scheme.getStr? "type" = some "apiKey" ∧ scheme.getStr? "in" = some "header" then
    scheme.getStr? "name"
  else none

/-- The headers of the schemes that the requirements of an operation mention, in the order in which
the schemes are mentioned first. -/
def keyHeaders (doc : Document) (methodItem : Json) : List String :=
  (AuthMethod.requiredNames (doc.requirements methodItem)).eraseDups.filterMap fun name =>
    (Assoc.get? name (doc.securitySchemes.getD [])).bind keyHeader?

end Document

namespace AuthMethod

variable {schemes : List (String × Json)} {name : String} {scheme : Json} {m : AuthMethod}

theorem kind?_eq_apiKey_iff : kind? scheme = some .apiKey ↔
    scheme.getStr? "type" = some "apiKey" := by
  unfold kind?
  constructor
  · intro isKey
    split at isKey
    · next typed => exact typed
    · cases isKey
    · split at isKey <;> cases isKey
    · cases isKey
    · cases isKey
    · cases isKey
  · intro typed
    rw [typed]
    rfl

theorem keyLocation_eq_header_iff {place : Option String} :
    (place.bind fun s => Assoc.get? s KeyLocation.cases) = some .header ↔
      place = some "header" := by
  cases place with
  | none => simp
  | some s =>
    simp only [Option.bind_some, KeyLocation.cases, Assoc.get?, Option.some.injEq]
    split_ifs with header query cookie
    · simp [header]
    · simp [← query]
    · simp [← cookie]
    · simpa using Ne.symm header

/-- The header of a credential is that of its scheme. -/
theorem headerName?_of_ofScheme (name : String) (scheme : Json) :
    (ofScheme name scheme).bind headerName? = Document.keyHeader? scheme := by
  rw [ofScheme, Document.keyHeader?]
  simp only [← kind?_eq_apiKey_iff]
  cases kind? scheme with
  | none => simp
  | some kind =>
    rw [Option.map_some, Option.bind_some, headerName?]
    by_cases isKey : kind = .apiKey
    · simp only [isKey, if_true, true_and, keyLocation_eq_header_iff]
    · simp [isKey]

/-- The credential of a scheme that is looked up by its name. -/
def named? (schemes : List (String × Json)) (name : String) : Option AuthMethod :=
  (Assoc.get? name schemes).bind (ofScheme name)

/-- A credential has the name of its scheme. -/
theorem name_of_named? (made : named? schemes name = some m) : m.name = name := by
  obtain ⟨scheme, _, made⟩ := Option.bind_eq_some_iff.1 made
  obtain ⟨kind, _, rfl⟩ := Option.map_eq_some_iff.1 made
  rfl

theorem addNamed_of_mem {methods : List AuthMethod} (member : m ∈ methods) :
    addNamed schemes methods m.name = methods := by
  rw [addNamed, if_pos (List.any_eq_true.2 ⟨m, member, beq_self_eq_true m.name⟩)]

theorem addNamed_of_none {methods : List AuthMethod} (none : named? schemes name = none) :
    addNamed schemes methods name = methods := by
  rw [named?] at none
  rw [addNamed, none]
  exact ite_self methods

theorem addNamed_of_some {methods : List AuthMethod} (absent : ∀ m ∈ methods, m.name ≠ name)
    (made : named? schemes name = some m) : addNamed schemes methods name = methods ++ [m] := by
  rw [named?] at made
  rw [addNamed, made, if_neg (by simpa using absent)]

/-- Adding credentials by name, when some names have been mentioned before: each of the others adds
its credential where it is mentioned first. -/
theorem foldl_addNamed_eq {methods : List AuthMethod} (seen : List String)
    (known : ∀ m ∈ methods, m.name ∈ seen)
    (added : ∀ name ∈ seen, (∃ m ∈ methods, m.name = name) ∨ named? schemes name = none)
    (names : List String) :
    names.foldl (addNamed schemes) methods =
      methods ++ (names.filter (· ∉ seen)).eraseDups.filterMap (named? schemes) := by
  induction names generalizing methods seen with
  | nil => simp
  | cons name rest ih =>
    rw [List.foldl_cons]
    by_cases before : name ∈ seen
    · -- a name that was mentioned before adds nothing
      have same : addNamed schemes methods name = methods := by
        rcases added name before with ⟨m, member, rfl⟩ | none
        · exact addNamed_of_mem member
        · exact addNamed_of_none none
      rw [same, ih seen known added, List.filter_cons_of_neg (by simpa using before)]
    · have later : (rest.filter (· ∉ seen)).filter (fun other => !other == name) =
          rest.filter (· ∉ name :: seen) := by
        rw [List.filter_filter]
        refine List.filter_congr fun other _ => ?_
        simp [Bool.beq_eq_decide_eq]
      rw [List.filter_cons_of_pos (by simpa using before), List.eraseDups_cons, later]
      cases made : named? schemes name with
      | none =>
        rw [addNamed_of_none made, List.filterMap_cons_none made]
        exact ih (name :: seen) (fun m member => List.mem_cons_of_mem name (known m member))
          (List.forall_mem_cons.2 ⟨.inr made, added⟩)
      | some m =>
        have named := name_of_named? made
        have absent : ∀ m ∈ methods, m.name ≠ name := by
          rintro m' member rfl
          exact before (known m' member)
        rw [addNamed_of_some absent made, List.filterMap_cons_some made, ih (name :: seen)]
        · rw [List.append_assoc, List.singleton_append]
        · refine List.forall_mem_append.2 ⟨fun m' member => ?_, fun m' member => ?_⟩
          · exact List.mem_cons_of_mem name (known m' member)
          · rw [List.mem_singleton.1 member, named]
            exact List.mem_cons_self
        · refine List.forall_mem_cons.2 ⟨.inl ⟨m, by simp, named⟩, fun other member => ?_⟩
          refine (added other member).imp_left ?_
          rintro ⟨m', there, same⟩
          exact ⟨m', List.mem_append_left _ there, same⟩

/-- The credentials of an operation are those of the schemes that are mentioned, in the order in which
they are mentioned first. -/
theorem ofRequirements_eq (schemes : List (String × Json)) (requirements : List Json) :
    ofRequirements schemes requirements =
      (requiredNames requirements).eraseDups.filterMap (named? schemes) := by
  rw [ofRequirements, foldl_addNamed_eq [] (List.forall_mem_nil _) (List.forall_mem_nil _)]
  simp

end AuthMethod

/-! ## The headers that are added -/

namespace Parameter

/-- The names that are neither, up to capitals, the name of a header among some parameters nor an
earlier name. -/
def newNames (ps : List Parameter) (earlier : List String) : List String → List String
  | [] => []
  | name :: rest =>
    if ps.any (isHeader name) || earlier.any (Text.sameIgnoringCase · name) then
      newNames ps (earlier ++ [name]) rest
    else name :: newNames ps (earlier ++ [name]) rest

/-- Names that are the same up to capitals name the same headers. -/
theorem isHeader_congr {name other : String} (same : Text.sameIgnoringCase name other) :
    isHeader name = isHeader other := by
  funext p
  have spelled : name.toList.map Char.toLower = other.toList.map Char.toLower := by
    simpa [Text.sameIgnoringCase] using same
  rw [isHeader, isHeader, Text.sameIgnoringCase, Text.sameIgnoringCase, spelled]

/-- The headers of credentials are added for the new ones among their names, in this order.  Some
headers may have been added before. -/
theorem exists_newHeaders (ps added : List Parameter) (earlier : List String)
    (known : ∀ name, (ps ++ added).any (isHeader name) =
      (ps.any (isHeader name) || earlier.any (Text.sameIgnoringCase · name)))
    (methods : List AuthMethod) :
    ∃ headers, addHeaders (ps ++ added) methods = ps ++ added ++ headers ∧
      List.Forall₂ (fun name h => ∃ description, h = securityHeader name description)
        (newNames ps earlier (methods.filterMap (·.headerName?))) headers := by
  induction methods generalizing added earlier with
  | nil => exact ⟨[], (List.append_nil _).symm, .nil⟩
  | cons m rest ih =>
    show ∃ headers, addHeaders (addHeader (ps ++ added) m) rest = _ ∧ _
    cases named : m.headerName? with
    | none =>
      rw [addHeader, named, List.filterMap_cons_none named]
      exact ih added earlier known
    | some name =>
      rw [addHeader, named, List.filterMap_cons_some named, newNames, ← known name]
      dsimp only
      by_cases there : (ps ++ added).any (isHeader name) = true
      · rw [if_pos there, if_pos there]
        -- a header is there for the name, so one is there for all that are the same
        refine ih added (earlier ++ [name]) fun other => ?_
        rw [known other, List.any_append, List.any_cons, List.any_nil, Bool.or_false, ← Bool.or_assoc]
        cases same : Text.sameIgnoringCase name other with
        | false => rw [Bool.or_false]
        | true => rw [← known other, ← isHeader_congr same, there, Bool.true_or]
      · rw [if_neg there, if_neg there]
        let header := securityHeader name m.description
        obtain ⟨headers, same, each⟩ := ih (added ++ [header])
          (earlier ++ [name]) fun other => by
            rw [← List.append_assoc, List.any_append, known other, List.any_append, ← Bool.or_assoc]
            rfl
        refine ⟨header :: headers, ?_, .cons ⟨_, rfl⟩ each⟩
        rw [List.append_assoc, same]
        simp

/-- Which names are new depends on the names and the places of the parameters only. -/
theorem newNames_congr {ps bs : List Parameter}
    (kept : List.Forall₂ (fun p b => b.name = p.name ∧ b.location = p.location) ps bs)
    (earlier names : List String) : newNames bs earlier names = newNames ps earlier names := by
  have headers (name : String) : bs.any (isHeader name) = ps.any (isHeader name) := by
    induction kept with
    | nil => rfl
    | cons here _ ih =>
      rw [List.any_cons, List.any_cons, ih, isHeader, isHeader, here.1, here.2]
  induction names generalizing earlier with
  | nil => rfl
  | cons name rest ih => rw [newNames, newNames, headers, ih]

theorem length_link (ps : List Parameter) : (link ps).length = ps.length := by
  induction ps using link.induct with
  | case1 => rfl
  | case2 p => rfl
  | case3 p rest more ih => rw [link_cons (fun none => more (by simp [none]))]; simp [ih]

/-- Linking parameters changes their marks only. -/
theorem forall₂_link {α : Type} {R : α → Parameter → Prop} {xs : List α} {ps : List Parameter}
    (each : List.Forall₂ R xs ps) :
    List.Forall₂ (fun x q => ∃ p hasMore, R x p ∧ q = { p with hasMore }) xs (link ps) := by
  obtain ⟨linked, same, each⟩ := exists_link_append each []
  rw [List.append_nil] at same
  rwa [same, link, List.append_nil]

/-- A linked parameter has the mark unless it is the last one. -/
theorem hasMore_link {ps : List Parameter} {i : Nat} {q : Parameter}
    (here : (link ps)[i]? = some q) : q.hasMore = true ↔ i + 1 < ps.length := by
  induction ps using link.induct generalizing i with
  | case1 => cases here
  | case2 p =>
    obtain ⟨inside, rfl⟩ := List.getElem?_eq_some_iff.1 here
    obtain rfl := Nat.lt_one_iff.1 inside
    simp [link]
  | case3 p rest more ih =>
    have nonempty : rest ≠ [] := by
      rintro rfl
      exact more rfl
    rw [link_cons nonempty] at here
    cases i with
    | zero =>
      cases here
      simpa [List.length_pos_iff] using nonempty
    | succ i =>
      rw [List.getElem?_cons_succ] at here
      rw [ih here, List.length_cons, Nat.add_lt_add_iff_right]

end Parameter

/-! ## Operations -/

namespace Operation

variable {doc : Document} {types : TypeMap} {registry : TypeRegistry} {options : OperationOptions}
  {basePath : Option String} {o b : Operation}

theorem authMethods_of_ofSchema {path method : String} {item : Json} {shared : List Json}
    {pathExtensions : Extensions}
    (made : ofSchema doc types path method item shared pathExtensions = .ok o) :
    o.authMethods =
      AuthMethod.ofRequirements (doc.securitySchemes.getD []) (doc.requirements item) := by
  obtain ⟨_, _, made⟩ := bind_eq_ok_iff.1 made
  obtain ⟨_, _, made⟩ := bind_eq_ok_iff.1 made
  obtain ⟨_, _, made⟩ := bind_eq_ok_iff.1 made
  obtain ⟨_, _, made⟩ := bind_eq_ok_iff.1 made
  cases made
  show AuthMethod.ofRequirements _ (((item.getArr? "security").or doc.globalSecurity).getD []) = _
  unfold Document.requirements
  cases item.getArr? "security" <;> rfl

/-- The headers of an operation's credentials are those of the schemes that it mentions. -/
theorem DeclaredBy.headerNames {item methodItem : Json}
    (declared : o.DeclaredBy doc types item methodItem) :
    o.authMethods.filterMap (·.headerName?) = doc.keyHeaders methodItem := by
  rw [authMethods_of_ofSchema declared.made, AuthMethod.ofRequirements_eq, List.filterMap_filterMap,
    Document.keyHeaders]
  refine List.filterMap_congr fun name _ => ?_
  rw [AuthMethod.named?, Option.bind_assoc]
  exact Option.bind_congr fun scheme _ => AuthMethod.headerName?_of_ofScheme name scheme

/-- The bound parameters of an operation are the declared ones and, behind them, a header for each
new one among some names.  All but the last have the mark that another one follows. -/
structure FollowedBy (names : List String) (o b : Operation) (declared headers : List Parameter) :
    Prop where
  parameters : b.parameters = declared ++ headers
  declared : List.Forall₂ Parameter.Declared o.parameters declared
  headers : List.Forall₂ (fun name h => ∃ description hasMore,
      h = { Parameter.securityHeader name description with hasMore })
    (Parameter.newNames o.parameters [] names) headers
  linked : ∀ i q, b.parameters[i]? = some q → (q.hasMore = true ↔ i + 1 < b.parameters.length)

theorem exists_followedBy_of_bound (wanted : options.securityHeaders = true)
    (done : o.bound registry options basePath = .ok b) :
    ∃ declared headers,
      FollowedBy (o.authMethods.filterMap (·.headerName?)) o b declared headers := by
  obtain ⟨_, _, _, _, _, bound, _, _, _, bindParameters, rfl⟩ := bound_eq_ok_iff.1 done
  rw [Parameter.bindEach_eq] at bindParameters
  have each := (forall₂_of_bindParts bindParameters).imp fun _ _ ⟨_, bindOne, _⟩ =>
    (Parameter.bindAliases_eq_ok_iff.1 bindOne).declared
  obtain ⟨added, same, headers⟩ := Parameter.exists_newHeaders bound [] []
    (fun name => by simp) o.authMethods
  rw [List.append_nil] at same
  have kept := each.imp fun p b declared =>
    (⟨(declared false).name, (declared false).location⟩ : b.name = p.name ∧ b.location = p.location)
  rw [Parameter.newNames_congr kept] at headers
  obtain ⟨declared, linked, each⟩ := Parameter.declared_link each added
  have parameters : Parameter.link (withHeaders options o.authMethods bound) =
      declared ++ Parameter.link added := by
    rw [withHeaders, if_pos wanted, same, linked]
  refine ⟨declared, Parameter.link added, parameters, each, ?_, fun i q here => ?_⟩
  · refine (Parameter.forall₂_link headers).imp ?_
    rintro name _ ⟨_, hasMore, ⟨description, rfl⟩, rfl⟩
    exact ⟨description, hasMore, rfl⟩
  · have length := Parameter.length_link (withHeaders options o.authMethods bound)
    exact (Parameter.hasMore_link here).trans (by rw [← length]; rfl)

end Operation

/-- When the operations of a document have been bound with the headers of credentials, then each has
its declared parameters, and behind them a header for every name that a mentioned scheme puts a key
into, where it is first mentioned and no header has it yet up to capitals. -/
theorem Operation.key_headers_follow [DomainNames] {doc : Document} {types : TypeMap} {api : Api}
    {registry : TypeRegistry} {options : OperationOptions}
    (adapted : Api.ofDocument doc types = .ok api) (wanted : options.securityHeaders = true)
    (allBound : (Api.bindAll registry options api).fault = none) :
    List.Forall₂ (fun o b => ∃ item methodItem, o.DeclaredBy doc types item methodItem ∧
        ∃ declared headers, FollowedBy (doc.keyHeaders methodItem) o b declared headers)
      api.operations (Api.bindAll registry options api).elements := by
  have commits := commits_bindAndGroup registry options (options.rootPath api.basePath)
  have bound := Progress.bound_of_no_fault commits allBound
  have each := (List.forall₂_and_left _ _).2 ⟨Api.declaredBy_of_ofDocument adapted, bound⟩
  refine each.imp fun o b ⟨⟨item, methodItem, declared⟩, done⟩ => ?_
  refine ⟨item, methodItem, declared, ?_⟩
  rw [← declared.headerNames]
  exact exists_followedBy_of_bound wanted done

/-- A parameter that is a header. -/
def tokenParameter : Json :=
  .obj [("name", .str "X-Token"), ("in", .str "header"), ("type", .str "string")]

/-- An operation that has its own security requirements. -/
def vaultMethod : Json :=
  .obj [("operationId", .str "open"), ("parameters", .arr [tokenParameter]),
    ("security", .arr [.obj [("key", .arr []), ("token", .arr [])], .obj [("again", .arr []),
      ("key", .arr [])]])]

/-- A document in which one scheme's header is declared, two have the same one up to capitals, and the
last one counts only where an operation requires nothing of its own. -/
def vaultDocument : Document :=
  let header (name : String) : Json :=
    .obj [("type", .str "apiKey"), ("in", .str "header"), ("name", .str name)]
  ⟨.obj [("swagger", .str "2.0"), ("security", .arr [.obj [("other", .arr [])]]),
    ("securityDefinitions", .obj [("token", header "x-token"), ("key", header "X-Key"),
      ("again", header "X-KEY"), ("other", header "X-Other")]),
    ("paths", .obj [("/vault", .obj [("post", vaultMethod)])])]⟩

/-- The operation of the document. -/
def vaultOperation : Operation where
  operationId := "open"
  method := "post"
  path := "/vault"
  summary := none
  returnType := none
  returnProperty := none
  responses := []
  parameters := [{ Parameter.plain "X-Token" .header "string" "String" with isPrimitive := true }]
  authMethods := [⟨"key", .apiKey, some "X-Key", some .header, none⟩,
    ⟨"token", .apiKey, some "x-token", some .header, none⟩,
    ⟨"again", .apiKey, some "X-KEY", some .header, none⟩]
  groupKey := "/vault"
  pathExtensions := .empty
  extensions := .empty
  imports := .empty

theorem vaultDocument_operations [DomainNames] :
    Api.ofDocument vaultDocument ⟨.standard, .plain⟩ = .ok ⟨none, [vaultOperation]⟩ := by
  let types : TypeMap := ⟨.standard, .plain⟩
  have typed : types.property "X-Token" tokenParameter =
      (.leaf (Layer.plain "X-Token" "string" "String"), []) :=
    types.property_of_leaf "X-Token" rfl
  have declared : Parameter.ofSchemas types "open" [tokenParameter] =
      .ok (vaultOperation.parameters, []) :=
    Parameter.ofSchemas_singleton rfl rfl typed rfl
  have method : Operation.ofSchema vaultDocument types "/vault" "post" vaultMethod [] .empty =
      .ok vaultOperation :=
    bind_eq_ok_iff.2 ⟨[tokenParameter], rfl, bind_eq_ok_iff.2 ⟨_, declared,
      bind_eq_ok_iff.2 ⟨([], []), rfl, bind_eq_ok_iff.2 ⟨([], []), rfl, rfl⟩⟩⟩⟩
  exact Api.ofDocument_of_method rfl rfl (by decide) method

/-- One header of three is added. -/
theorem Operation.key_headers_follow_vault :
    let options : OperationOptions := ⟨true, false⟩
    let api : Api := ⟨none, [vaultOperation]⟩
    let bound := (Api.bindAll .empty options api).elements
    Api.ofDocument vaultDocument ⟨.standard, .plain⟩ = .ok api ∧
      (Api.bindAll .empty options api).fault = none ∧
      vaultDocument.keyHeaders vaultMethod = ["X-Key", "x-token", "X-KEY"] ∧
      bound.map (fun b => b.parameters.map fun p => (p.name, p.hasMore)) =
        [[("X-Token", true), ("X-Key", false)]] ∧
      List.Forall₂ (fun o b => ∃ item methodItem,
          o.DeclaredBy vaultDocument ⟨.standard, .plain⟩ item methodItem ∧
          ∃ declared headers,
            FollowedBy (vaultDocument.keyHeaders methodItem) o b declared headers)
        [vaultOperation] bound := by
  intro options api bound
  have allBound : (Api.bindAll .empty options api).fault = none := rfl
  exact ⟨vaultDocument_operations, allBound, by decide, by rfl,
    key_headers_follow vaultDocument_operations rfl allBound⟩

end SchemaBinder
