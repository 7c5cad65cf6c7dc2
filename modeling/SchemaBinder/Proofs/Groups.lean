import SchemaBinder.Proofs.Binding.Fragments
import SchemaBinder.Proofs.Interfaces
import SchemaBinder.Proofs.SnakeCase
import SchemaBinder.Url.PlainNames
/-!
# Groups of operations

The key of an operation's group is the interface that its path item names, or else a segment: of the
base path if this is the root of all groups, and otherwise of the operation's path.

Slashes and blanks are taken away in three places: when the base path is read, when it is chosen as
the root, and when the first segment is looked for.  They fit together because the base path is left
with no slash at its end and a segment in it (`Document.IsBasePath`).  Then the choice accepts it,
and its first segment is still the first one when the path of an operation stands behind it
(`Naming.FirstSegment.append`).

The name of an interface is made of the key of its group by cutting this into words.  The words hold
all letters and digits of the key and nothing else, so keys of one interface differ in case and
punctuation only (`Naming.wordsKeep`, `Naming.agree_of_typeName`).
-/

namespace SchemaBinder

/-! ## The first segment -/

namespace Naming

variable {cs segment : List Char}

/-- The first segment between slashes that is not empty: nothing but slashes is before it, and it ends
where the characters end or a slash comes. -/
structure FirstSegment (cs segment : List Char) : Prop where
  nonempty : segment ≠ []
  noSlash : '/' ∉ segment
  first : ∃ n rest, cs = List.replicate n '/' ++ segment ++ rest ∧
    (rest = [] ∨ ∃ more, rest = '/' :: more)

theorem firstSegment_slash (cs : List Char) : firstSegment ('/' :: cs) = firstSegment cs := by
  rw [firstSegment, Text.split, if_pos rfl]
  rfl

theorem firstSegment_slashes (n : Nat) (cs : List Char) :
    firstSegment (List.replicate n '/' ++ cs) = firstSegment cs := by
  induction n with
  | zero => rfl
  | succ n ih => rw [List.replicate_succ, List.cons_append, firstSegment_slash, ih]

/-- The first segment is found. -/
theorem FirstSegment.eq (first : FirstSegment cs segment) : firstSegment cs = segment := by
  obtain ⟨nonempty, noSlash, n, rest, rfl, behind⟩ := first
  rw [List.append_assoc, firstSegment_slashes, firstSegment]
  rcases behind with rfl | ⟨more, rfl⟩
  · rw [List.append_nil, Text.split_of_notMem noSlash, List.find?_cons_of_pos (by simpa)]
    rfl
  · rw [Text.split_append, Text.split_of_notMem noSlash, List.singleton_append,
      List.find?_cons_of_pos (by simpa)]
    rfl

/-- Some characters are slashes only, or have a first segment. -/
theorem slashes_or_exists_firstSegment (cs : List Char) :
    (∀ c ∈ cs, c = '/') ∨ ∃ segment, FirstSegment cs segment := by
  induction cs with
  | nil => exact .inl fun c member => nomatch member
  | cons c cs ih =>
    by_cases slash : c = '/'
    · subst slash
      rcases ih with slashes | ⟨segment, nonempty, noSlash, n, rest, rfl, behind⟩
      · exact .inl (List.forall_mem_cons.2 ⟨rfl, slashes⟩)
      · exact .inr ⟨segment, nonempty, noSlash, n + 1, rest, rfl, behind⟩
    · right
      have whole : (c :: cs).takeWhile (· ≠ '/') ++ (c :: cs).dropWhile (· ≠ '/') = c :: cs :=
        List.takeWhile_append_dropWhile
      refine ⟨(c :: cs).takeWhile (· ≠ '/'), ?_, ?_, 0, _, whole.symm, ?_⟩
      · simp [slash]
      · intro member
        simpa using List.mem_takeWhile_imp member
      · cases left : (c :: cs).dropWhile (· ≠ '/') with
        | nil => exact .inl rfl
        | cons d more =>
          have stops := List.head?_dropWhile_not (· ≠ '/') (c :: cs)
          rw [left] at stops
          exact .inr ⟨more, by simpa using stops⟩

theorem firstSegment_of_slashes (slashes : ∀ c ∈ cs, c = '/') : firstSegment cs = [] := by
  rw [List.eq_replicate_of_mem slashes, ← List.append_nil (List.replicate _ _),
    firstSegment_slashes]
  rfl

/-- Where there is a first segment, it stays the first one when more is put behind a slash. -/
theorem FirstSegment.append (first : FirstSegment cs segment) (more : List Char) :
    FirstSegment (cs ++ '/' :: more) segment := by
  obtain ⟨nonempty, noSlash, n, rest, rfl, behind⟩ := first
  refine ⟨nonempty, noSlash, n, rest ++ '/' :: more, by simp, .inr ?_⟩
  rcases behind with rfl | ⟨others, rfl⟩
  · exact ⟨more, rfl⟩
  · exact ⟨others ++ '/' :: more, rfl⟩

theorem FirstSegment.exists_ne_slash (first : FirstSegment cs segment) : ∃ c ∈ cs, c ≠ '/' := by
  obtain ⟨nonempty, noSlash, n, rest, rfl, _⟩ := first
  obtain ⟨c, member⟩ := List.exists_mem_of_ne_nil segment nonempty
  refine ⟨c, by simp [member], ?_⟩
  rintro rfl
  exact noSlash member

end Naming

/-! ## Base paths -/

namespace Document

open Naming (FirstSegment)

variable {base text : String}

/-- What a base path is like: it has a slash at its front and none at its end, and one segment is the
first. -/
structure IsBasePath (base : String) : Prop where
  front : base.toList.head? = some '/'
  back : base.toList.getLast? ≠ some '/'
  segment : ∃ segment, FirstSegment base.toList segment

theorem isBasePath_of_getLast? (front : base.toList.head? = some '/')
    (back : base.toList.getLast? ≠ some '/') : IsBasePath base := by
  refine ⟨front, back, (Naming.slashes_or_exists_firstSegment base.toList).resolve_left ?_⟩
  intro slashes
  cases last : base.toList.getLast? with
  | none =>
    rw [List.getLast?_eq_none_iff.1 last] at front
    cases front
  | some c => exact back (last.trans (congrArg some (slashes c (List.mem_of_getLast? last))))

/-- Whatever text a base path is read from, it is like that. -/
theorem isBasePath_of_normalBasePath (found : normalBasePath text = some base) :
    IsBasePath base := by
  unfold normalBasePath at found
  split at found
  · cases found
  · next c cs left =>
    have back : (c :: cs).getLast? ≠ some '/' := by
      intro last
      rw [← left] at last
      cases Text.eq_false_of_getLast?_dropEnd last
    cases found
    by_cases slash : c = '/'
    · rw [if_pos slash]
      exact isBasePath_of_getLast? (by simp [slash]) (by simpa using back)
    · rw [if_neg slash]
      exact isBasePath_of_getLast? (by simp) (by simpa using back)

/-- There is no base path exactly if the text has nothing but slashes between blanks. -/
theorem normalBasePath_eq_none_iff :
    normalBasePath text = none ↔ ∀ c ∈ Text.trimChars text.toList, c = '/' := by
  unfold normalBasePath
  rw [Text.dropEnd_eq_rdropWhile]
  constructor
  · intro none
    split at none
    · next left => simpa using List.rdropWhile_eq_nil_iff.1 left
    · cases none
  · intro slashes
    rw [List.rdropWhile_eq_nil_iff.2 (by simpa using slashes)]

theorem isBasePath [DomainNames] (doc : Document) (found : doc.basePath = some base) :
    IsBasePath base := by
  obtain ⟨text, _, found⟩ := Option.bind_eq_some_iff.1 found
  exact isBasePath_of_normalBasePath found

end Document

/-! ## The key of a group -/

/-- An extension of a value is what the value has under its key. -/
theorem Extensions.get?_ofJson {v : Json} {key : String} (wellFormed : v.WellFormed)
    (isExtension : Text.hasStart "x-" key = true) : (ofJson v).get? key = v.get? key := by
  cases v with
  | obj fields =>
    have distinct : (fields.map (·.1)).Nodup := (Json.wellFormed_obj_iff.1 wellFormed).1
    have kept : ((fields.filter (Text.hasStart "x-" ·.1)).map (·.1)).Nodup :=
      distinct.sublist (List.filter_sublist.map _)
    exact (SortedTable.get?_ofList kept key).trans (Assoc.get?_filter isExtension fields)
  | _ => rfl

/-- The key that all operations of a document have unless their paths name an interface: the first
segment of the base path, if there is one and it is the root of groups. -/
inductive OperationOptions.RootKey [DomainNames] (options : OperationOptions) (doc : Document) :
    Option String → Prop where
  | segment {base : String} {segment : List Char} : options.basePathAsRoot = true →
      doc.basePath = some base → Naming.FirstSegment base.toList segment →
      RootKey options doc (some (String.ofList segment))
  | off : options.basePathAsRoot = false → RootKey options doc none
  | absent : doc.basePath = none → RootKey options doc none

theorem OperationOptions.exists_rootKey [DomainNames] (options : OperationOptions)
    (doc : Document) : ∃ root, options.RootKey doc root := by
  cases found : doc.basePath with
  | none => exact ⟨none, .absent found⟩
  | some base =>
    cases on : options.basePathAsRoot with
    | false => exact ⟨none, .off on⟩
    | true =>
      obtain ⟨segment, first⟩ := (doc.isBasePath found).segment
      exact ⟨_, .segment on found first⟩

namespace Operation

open Naming (FirstSegment)

variable {doc : Document} {types : TypeMap} {registry : TypeRegistry} {options : OperationOptions}
  {o b : Operation} {item : Json} {root : Option String}

/-- A path item names no interface: there is no text for it, or a blank one. -/
def Unnamed (item : Json) : Prop :=
  ∀ text, item.getStr? Extensions.interfaceKey = some text → Text.trim text = ""

/-- Where the key of an operation's group comes from: the item of its path, the root key of its
document, or its path. -/
inductive KeyFrom (item : Json) (root : Option String) (path : String) : String → Prop where
  | named {text : String} : item.getStr? Extensions.interfaceKey = some text →
      Text.trim text ≠ "" → KeyFrom item root path (Text.trim text)
  | root {key : String} : Unnamed item → root = some key → KeyFrom item root path key
  | path {segment : List Char} : Unnamed item → root = none → FirstSegment path.toList segment →
      KeyFrom item root path (String.ofList segment)
  | slashes : Unnamed item → root = none → (∀ c ∈ path.toList, c = '/') →
      KeyFrom item root path ""

/-- The interface that a path item names. -/
theorem interfaceName?_ofJson (wellFormed : item.WellFormed) :
    (Extensions.ofJson item).interfaceName? =
      (item.getStr? Extensions.interfaceKey).bind Text.nonBlank? := by
  rw [Extensions.interfaceName?, Extensions.get?_ofJson wellFormed (by decide)]
  rfl

/-- The interface that a path item names is the text for it without blanks around, unless nothing is
left. -/
theorem interfaceName?_cases (wellFormed : item.WellFormed) :
    (∃ text, item.getStr? Extensions.interfaceKey = some text ∧ Text.trim text ≠ "" ∧
        (Extensions.ofJson item).interfaceName? = some (Text.trim text)) ∨
      Unnamed item ∧ (Extensions.ofJson item).interfaceName? = none := by
  rw [interfaceName?_ofJson wellFormed]
  cases given : item.getStr? Extensions.interfaceKey with
  | none =>
    refine .inr ⟨fun text other => ?_, rfl⟩
    cases given.symm.trans other
  | some text =>
    by_cases blank : Text.trim text = ""
    · right
      refine ⟨fun other same => ?_, ?_⟩
      · rw [← Option.some.inj (given.symm.trans same), blank]
      · rw [Option.bind_some, Text.nonBlank?, if_pos blank]
    · exact .inl ⟨text, rfl, blank, Text.nonBlank?_eq_some_iff.2 ⟨rfl, blank⟩⟩

theorem resourceGroup_root {base path : String} (isBase : Document.IsBasePath base)
    {segment : List Char} (first : FirstSegment base.toList segment) :
    Naming.resourceGroup path (some base) = String.ofList segment := by
  have whole : Text.dropEnd (· == '/') base.toList = base.toList := by
    refine Text.dropEnd_eq_self fun c last => beq_false_of_ne ?_
    rintro rfl
    exact isBase.back last
  rw [Naming.resourceGroup, whole]
  exact congrArg String.ofList (first.append _).eq

/-- The group of an operation has its key from the item of its path. -/
theorem keyFrom_group [DomainNames] (wellFormed : item.WellFormed)
    (extensions : o.pathExtensions = Extensions.ofJson item) (rootKey : options.RootKey doc root) :
    KeyFrom item root o.path (o.group (options.rootPath doc.basePath)) := by
  rw [group, extensions]
  obtain ⟨text, given, nonblank, named⟩ | ⟨unnamed, none⟩ := interfaceName?_cases wellFormed
  · rw [named]
    exact .named given nonblank
  · rw [none]
    have ofPath : KeyFrom item .none o.path (Naming.resourceGroup o.path .none) := by
      rcases Naming.slashes_or_exists_firstSegment o.path.toList with slashes | ⟨segment, first⟩
      · rw [Naming.resourceGroup, Naming.firstSegment_of_slashes slashes]
        exact .slashes unnamed rfl slashes
      · rw [Naming.resourceGroup, first.eq]
        exact .path unnamed rfl first
    cases rootKey with
    | @segment base segment on found first =>
      have accepted : options.rootPath doc.basePath = some base := by
        obtain ⟨c, member, other⟩ := first.exists_ne_slash
        rw [OperationOptions.rootPath, if_pos on, found, Option.filter_some, if_pos]
        exact List.any_eq_true.2 ⟨c, member, decide_eq_true other⟩
      rw [accepted]
      exact .root unnamed (congrArg some (resourceGroup_root (doc.isBasePath found) first).symm)
    | off off =>
      rw [OperationOptions.rootPath, if_neg (by simp [off])]
      exact ofPath
    | absent absent =>
      rw [OperationOptions.rootPath, absent]
      simpa using ofPath

/-- A bound operation has its key from the document. -/
def Grouped (doc : Document) (types : TypeMap) (root : Option String) (o b : Operation) : Prop :=
  ∃ item methodItem, o.DeclaredBy doc types item methodItem ∧ KeyFrom item root o.path b.groupKey

theorem grouped_of_bound [DomainNames] {api : Api} (wellFormed : doc.root.WellFormed)
    (adapted : Api.ofDocument doc types = .ok api) (rootKey : options.RootKey doc root)
    (member : o ∈ api.operations)
    (done : o.bound registry options (options.rootPath api.basePath) = .ok b) :
    Grouped doc types root o b := by
  obtain ⟨item, methodItem, declared⟩ := Api.declaredBy_of_ofDocument adapted o member
  refine ⟨item, methodItem, declared, ?_⟩
  rw [groupKey_of_bound done, Api.basePath_of_ofDocument adapted]
  exact keyFrom_group (wellFormed.of_mem declared.mem_parts.1) declared.pathExtensions rootKey

end Operation

/-- When the operations of a document are bound, however far it gets, then each one that is reached is
in the group of the interface that its path names, or else of the first segment of the base path or
of its path.  The key of a base path is the same for all, and no base path lacks it, whatever text it
is read from. -/
theorem Api.group_keys_follow [DomainNames] {doc : Document} {types : TypeMap} {api : Api}
    (wellFormed : doc.root.WellFormed) (adapted : ofDocument doc types = .ok api)
    (registry : TypeRegistry) (options : OperationOptions) :
    (∃ root, options.RootKey doc root ∧
      ∃ reached bound rest, api.operations = reached ++ rest ∧
        (bindAll registry options api).elements = bound ++ rest ∧
        List.Forall₂ (Operation.Grouped doc types root) reached bound ∧
        ((bindAll registry options api).fault = none → rest = []) ∧
        ∀ e, (bindAll registry options api).fault = some e → ∃ o more, rest = o :: more ∧
          bindAll registry options { api with operations := [o] } = ⟨[o], some e⟩) ∧
    (∀ base, doc.basePath = some base → Document.IsBasePath base) ∧
    (∀ text base, Document.normalBasePath text = some base → Document.IsBasePath base) ∧
    ∀ text, Document.normalBasePath text = none ↔ ∀ c ∈ Text.trimChars text.toList, c = '/' := by
  refine ⟨?_, fun base => doc.isBasePath, fun text base => Document.isBasePath_of_normalBasePath,
    fun text => Document.normalBasePath_eq_none_iff⟩
  obtain ⟨root, rootKey⟩ := options.exists_rootKey doc
  have commits := Operation.commits_bindAndGroup registry options (options.rootPath api.basePath)
  obtain ⟨reached, bound, rest, all, elements, each, complete, fails⟩ :=
    Progress.exists_reached commits api.operations
  refine ⟨root, rootKey, reached, bound, rest, all, elements, ?_, complete, fun e failed => ?_⟩
  · have ofReached : ∀ o ∈ reached, o ∈ api.operations := fun o member =>
      all ▸ List.mem_append_left rest member
    refine ((List.forall₂_and_left _ _).2 ⟨ofReached, each⟩).imp fun o b ⟨member, done⟩ => ?_
    exact Operation.grouped_of_bound wellFormed adapted rootKey member done
  · obtain ⟨o, more, first, failed⟩ := fails e failed
    exact ⟨o, more, first, Progress.ofEach_cons_of_error commits [] failed⟩

/-- A document with a base path.  One path names an interface, and another one only a blank text. -/
def shopDocument : Document :=
  ⟨.obj [("swagger", .str "2.0"), ("basePath", .str " shop//v1/ "), ("paths", .obj [
    ("/pets", .obj [("get", .obj [])]),
    ("/stores", .obj [("get", .obj []), ("x-interfaceName", .str " Stores ")]),
    ("//", .obj [("put", .obj []), ("x-interfaceName", .str "  ")])])]⟩

/-- The first segment of the base path is the key of all but the path that names an interface. -/
theorem Api.group_keys_follow_shop :
    let types : TypeMap := ⟨.standard, .plain⟩
    let options : OperationOptions := ⟨false, true⟩
    shopDocument.root.WellFormed ∧ shopDocument.basePath = some "/shop//v1" ∧
      ∃ api, ofDocument shopDocument types = .ok api ∧
        (bindAll .empty options api).elements.map (·.groupKey) = ["shop", "Stores", "shop"] ∧
        ∃ root, options.RootKey shopDocument root ∧
          ∃ reached bound rest, api.operations = reached ++ rest ∧
            (bindAll .empty options api).elements = bound ++ rest ∧
            List.Forall₂ (Operation.Grouped shopDocument types root) reached bound ∧ rest = [] := by
  intro types options
  have wellFormed : shopDocument.root.WellFormed := by decide
  have adapted : ofDocument shopDocument types = .ok _ := rfl
  refine ⟨wellFormed, by decide, _, adapted, by decide, ?_⟩
  obtain ⟨⟨root, rootKey, reached, bound, rest, all, elements, grouped, complete, _⟩, _⟩ :=
    group_keys_follow wellFormed adapted .empty options
  exact ⟨root, rootKey, reached, bound, rest, all, elements, grouped, complete rfl⟩

/-! ## The words of a key -/

namespace Naming

variable {s t : String}

/-- The words that the underscores of the snake case part. -/
def snakeWords (s : String) : List (List Char) :=
  (Text.split '_' (snakeCase s).toList).filter (!·.isEmpty)

/-- No word is lost between the underscores of the snake case, and none is cut there. -/
theorem snakeWords_eq (ascii : ∀ c ∈ s.toList, c.toNat < 0x80) : snakeWords s = words s := by
  have isWords : IsWords (words s) := isWords_wordsFrom ascii
  rw [snakeWords, snakeCase, String.toList_ofList]
  by_cases none : words s = []
  · rw [none]
    rfl
  · rw [Text.split_intercalate none isWords.noUnderscore, List.filter_eq_self]
    simpa using isWords.nonempty

/-- Cutting a text into words keeps its letters and digits, each once and in their order, and its
name is these words with capitals at their fronts. -/
structure WordsKeep (s : String) : Prop where
  letters : (snakeWords (sanitize s)).flatten = bare s.toList
  name : camelCase (sanitize s) =
    String.ofList ((snakeWords (sanitize s)).flatMap capitalised)
  capitals : ∀ w ∈ snakeWords (sanitize s), (capitalised w).map Char.toLower = w

theorem wordsKeep (s : String) : WordsKeep s := by
  have same : snakeWords (sanitize s) = words (sanitize s) := snakeWords_eq (sanitize_lt s)
  have letters : (words (sanitize s)).flatten = bare s.toList := by
    rw [words, flatten_wordsFrom (sanitize_lt s), bare_sanitize, List.nil_append]
  refine ⟨by rw [same, letters], by rw [same, camelCase], fun w member => ?_⟩
  rw [same] at member
  have inside : ∀ c ∈ w, c ∈ bare s.toList := fun c here =>
    letters ▸ List.mem_flatten.2 ⟨w, member, here⟩
  rw [toLower_capitalised fun c here => lt_of_isAlphanum (isAlphanum_of_mem_bare (inside c here))]
  refine (List.map_congr_left fun c here => ?_).trans (List.map_id w)
  obtain ⟨d, _, rfl⟩ := List.mem_map.1 (inside c here)
  exact toLower_toLower d

/-- Two texts agree up to case and punctuation, or one has no letters and digits and the other has
those of `default`. -/
def Agree (s t : String) : Prop :=
  bare s.toList = bare t.toList ∨
    (bare s.toList = [] ∧ bare t.toList = "default".toList) ∨
    (bare t.toList = [] ∧ bare s.toList = "default".toList)

/-- Texts that the names of types are the same for agree. -/
theorem agree_of_typeName (same : typeName s = typeName t) : Agree s t := by
  have kept : essence s = essence t := by rw [← toLower_typeName, same, toLower_typeName]
  rw [essence, essence] at kept
  split at kept
  · next ofS =>
    split at kept
    · next ofT => exact .inl (ofS.trans ofT.symm)
    · exact .inr (.inl ⟨ofS, kept.symm⟩)
  · split at kept
    · next ofT => exact .inr (.inr ⟨ofT, kept⟩)
    · exact .inl kept

end Naming

/-- The name of an interface without an ending is the key of its group in small letters, without
everything but letters and digits, or `default` if nothing is left.  Cutting the key into words keeps
all of it.  So the operations of one interface have keys that agree up to case and punctuation. -/
theorem NamePolicy.interface_names_keep_letters (names : NamePolicy) :
    (names.apiSuffix = none → ∀ key, (names.interfaceName key).toList.map Char.toLower =
      if Naming.bare key.toList = [] then "default".toList else Naming.bare key.toList) ∧
    (∀ key, Naming.WordsKeep key) ∧
    ∀ operations, ∀ i ∈ Interface.ofOperations names operations, ∀ o ∈ i.operations,
      ∀ o' ∈ i.operations, Naming.Agree o.groupKey o'.groupKey := by
  refine ⟨fun plain key => ?_, Naming.wordsKeep, ?_⟩
  · rw [interfaceName, plain, Option.getD_none, String.append_empty, Naming.toLower_typeName,
      Naming.essence]
  · intro operations i member o inside o' inside'
    have holds := (Interface.grouped_ofOperations names operations).each i member
    have same : names.interfaceName o.groupKey = names.interfaceName o'.groupKey :=
      (holds.named o inside).symm.trans (holds.named o' inside')
    exact Naming.agree_of_typeName ((String.append_left_inj _).1 same)

/-- Two spellings of one name, and a key that reduces to `default` beside one that has no letters and
digits. -/
theorem NamePolicy.interface_names_keep_letters_spellings :
    let inGroup (key : String) : Operation :=
      { operationTaking "id" "Known" with groupKey := key }
    let operations := ["user-accounts", "{}", "user_Accounts", "Default"].map inGroup
    NamePolicy.plain.apiSuffix = none ∧
      (Interface.ofOperations .plain operations).map
          (fun i => (i.name, i.operations.map (·.groupKey))) =
        [("UserAccounts", ["user-accounts", "user_Accounts"]), ("Default", ["{}", "Default"])] ∧
      ((NamePolicy.plain.interfaceName "user-accounts").toList.map Char.toLower =
        if Naming.bare "user-accounts".toList = [] then "default".toList
        else Naming.bare "user-accounts".toList) ∧
      ∀ i ∈ Interface.ofOperations .plain operations, ∀ o ∈ i.operations, ∀ o' ∈ i.operations,
        Naming.Agree o.groupKey o'.groupKey := by
  intro inGroup operations
  have keeps := interface_names_keep_letters .plain
  exact ⟨rfl, by decide +kernel, keeps.1 rfl "user-accounts", keeps.2.2 operations⟩

end SchemaBinder
