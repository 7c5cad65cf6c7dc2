import SchemaBinder.Proofs.Mapping.Steps
/-!
# The chain of documents

While documents are merged their URLs form a chain.  `Stacked` is the invariant that ties the
chain to the mappings that are being merged: the outermost is the mapping of the run, and each
further one is a document that a reference of the one before leads to, whose URL is not yet on the
chain.  A step keeps it (`InOrder.next`) and so does a run (`InOrder.steps`).

It follows that the URLs of a chain are distinct (`Stacked.nodup`), that each leads to the later
ones (`Stacked.leads`), and that the chain is given by the mappings alone (`Stacked.chain_eq`), so
that merging a mapping leaves the chain as it was (`InOrder.chain_eq`).  A run that ends with a
registry merges each mapping to its end (`exhausts`).
-/

namespace SchemaBinder.Mapping

variable [DomainNames] {manifest : Manifest} {texts : Texts} {root : Mapping}

/-- The mappings that are being merged, and the chain of their URLs. -/
inductive Stacked (texts : Texts) (root : Mapping) : Frame → List Frame → List Url → Prop where
  /-- Only the mapping of the run is being merged. -/
  | root {pending : List String} : (∀ reference ∈ pending, reference ∈ root.resources) →
    Stacked texts root ⟨none, pending⟩ [] []
  /-- A document is being merged on top. -/
  | nested {base : Option Url} {rest pending : List String} {outer : List Frame}
    {chain : List Url} {around mapping : Mapping} {reference : String} {url : Url} :
    Stacked texts root ⟨base, rest⟩ outer chain →
    Reached texts root base around → reference ∈ around.resources →
    resolveReference base reference = .ok url → Holds texts url mapping → url ∉ chain →
    (∀ reference ∈ pending, reference ∈ mapping.resources) →
    Stacked texts root ⟨some url, pending⟩ (⟨base, rest⟩ :: outer) (chain ++ [url])

namespace Stacked

variable {frame : Frame} {outer : List Frame} {chain : List Url}

/-- The mapping on top is one that is read for the run, and its pending references are its own. -/
theorem reached (stacked : Stacked texts root frame outer chain) :
    ∃ mapping, Reached texts root frame.base mapping ∧
      ∀ reference ∈ frame.pending, reference ∈ mapping.resources := by
  cases stacked with
  | root listed => exact ⟨root, .root, listed⟩
  | nested _ around listed leads holds _ pending =>
    exact ⟨_, .follow around listed leads holds, pending⟩

/-- The URLs of a chain are distinct. -/
theorem nodup (stacked : Stacked texts root frame outer chain) : chain.Nodup := by
  induction stacked with
  | root => exact .nil
  | nested _ _ _ _ _ fresh _ ih =>
    refine List.nodup_append.2 ⟨ih, List.nodup_singleton _, ?_⟩
    intro url member other same
    rw [List.mem_singleton.1 same]
    exact fun equal => fresh (equal ▸ member)

/-- The URLs of a chain are those of the mappings that are documents, from the outside inwards. -/
theorem chain_eq (stacked : Stacked texts root frame outer chain) :
    chain = (frame :: outer).reverse.filterMap Frame.base := by
  induction stacked with
  | root => rfl
  | nested _ _ _ _ _ _ _ ih =>
    rw [List.reverse_cons, List.filterMap_append, ← ih]
    rfl

/-- A document on the chain is the one on top or leads to it. -/
theorem leads (stacked : Stacked texts root frame outer chain) :
    ∀ url ∈ chain, ∃ top, frame.base = some top ∧
      Relation.ReflTransGen (Refers texts) url top := by
  induction stacked with
  | root => simp
  | nested _ around listed resolved holds _ _ ih =>
    intro url member
    refine ⟨_, rfl, ?_⟩
    rcases List.mem_append.1 member with earlier | last
    · obtain ⟨top, same, path⟩ := ih url earlier
      cases same
      exact path.tail (around.refers listed resolved)
    · rw [List.mem_singleton.1 last]

/-- Every URL on a chain is reachable. -/
theorem reachable (stacked : Stacked texts root frame outer chain) :
    ∀ url ∈ chain, Reachable texts root url := by
  induction stacked with
  | root => simp
  | nested _ around listed resolved _ _ _ ih =>
    intro url member
    rcases List.mem_append.1 member with earlier | last
    · exact ih url earlier
    · rw [List.mem_singleton.1 last]
      exact around.reachable listed resolved

/-- Fewer references may be pending. -/
theorem drop {base : Option Url} {reference : String} {pending : List String}
    (stacked : Stacked texts root ⟨base, reference :: pending⟩ outer chain) :
    Stacked texts root ⟨base, pending⟩ outer chain := by
  cases stacked with
  | root listed => exact .root fun r member => listed r (List.mem_cons_of_mem _ member)
  | nested stacked around listed leads holds fresh all =>
    exact .nested stacked around listed leads holds fresh
      fun r member => all r (List.mem_cons_of_mem _ member)

/-- A document that the next reference leads to can be put on top. -/
theorem enter {base : Option Url} {reference : String} {pending : List String} {url : Url}
    {mapping : Mapping} (stacked : Stacked texts root ⟨base, reference :: pending⟩ outer chain)
    (resolved : resolveReference base reference = .ok url) (fresh : url ∉ chain)
    (holds : Holds texts url mapping) :
    Stacked texts root ⟨some url, mapping.resources⟩ (⟨base, pending⟩ :: outer)
      (chain ++ [url]) := by
  obtain ⟨around, read, listed⟩ := stacked.reached
  exact .nested stacked.drop read (listed reference List.mem_cons_self) resolved holds fresh
    fun _ member => member

/-- The document on top can be taken off, together with its URL. -/
theorem leave {frame' : Frame} (stacked : Stacked texts root frame (frame' :: outer) chain) :
    Stacked texts root frame' outer chain.dropLast := by
  cases stacked with
  | nested stacked =>
    rw [List.dropLast_concat]
    exact stacked

end Stacked

/-! ## The invariant of a run -/

namespace Merging

/-- The chain of a state belongs to the mappings that are being merged in it. -/
def InOrder (texts : Texts) (root : Mapping) (s : Merging) : Prop :=
  Stacked texts root s.frame s.outer s.chain

theorem inOrder_start (own : List TypeDescriptor) : InOrder texts root (start root own) :=
  .root fun _ member => member

/-- Every step keeps the invariant. -/
theorem InOrder.next {s t : Merging} (inOrder : InOrder texts root s)
    (taken : Next manifest texts s t) : InOrder texts root t := by
  cases taken with
  | leave => exact Stacked.leave inOrder
  | enter leads fresh holds _ => exact Stacked.enter inOrder leads fresh holds

/-- Every run keeps the invariant. -/
theorem InOrder.steps {s t : Merging} (inOrder : InOrder texts root s)
    (path : Steps manifest texts s t) : InOrder texts root t := by
  induction path with
  | refl => exact inOrder
  | tail _ taken ih => exact ih.next taken

/-- Two states that are busy with the same mapping have the same chain. -/
theorem InOrder.chain_eq {s t : Merging} (first : InOrder texts root s)
    (second : InOrder texts root t) (base : t.frame.base = s.frame.base)
    (outer : t.outer = s.outer) : t.chain = s.chain := by
  rw [Stacked.chain_eq first, Stacked.chain_eq second, outer]
  simp only [List.reverse_cons, List.filterMap_append, List.filterMap_cons, base]

/-! ## Merging a mapping to its end -/

/-- A run that ends with a registry follows all references of every mapping that is being merged,
and comes to the state in which the mappings around it are next. -/
theorem exhausts {s : Merging} {r : Except Fault TypeRegistry}
    (ends : outcomeFrom manifest texts s = some r) :
    ∀ registry, r = .ok registry → ∀ inner frame outer,
      s.frame :: s.outer = inner ++ frame :: outer →
      ∃ t, Steps manifest texts s t ∧ t.frame = ⟨frame.base, []⟩ ∧ t.outer = outer := by
  refine outcomeFrom_induct (motive := fun s r => ∀ registry, r = .ok registry →
    ∀ inner frame outer, s.frame :: s.outer = inner ++ frame :: outer →
      ∃ t, Steps manifest texts s t ∧ t.frame = ⟨frame.base, []⟩ ∧ t.outer = outer) ?_ ?_ ?_ ends
  · intro s e _ registry same
    cases same
  · intro s final taken registry same inner frame outer around
    cases taken
    cases inner with
    | nil =>
      cases around
      exact ⟨_, .refl, rfl, rfl⟩
    | cons top inner => cases inner <;> cases around
  · intro s t r taken known registry same inner frame outer around
    have first : Steps manifest texts s t := .single taken
    cases taken with
    | leave =>
      cases inner with
      | nil =>
        cases around
        exact ⟨_, .refl, rfl, rfl⟩
      | cons top inner =>
        obtain ⟨u, path, here⟩ := known registry same inner frame outer (List.cons.inj around).2
        exact ⟨u, first.trans path, here⟩
    | @enter base reference pending _ _ _ url mapping =>
      -- the document that is entered comes on top of the mappings, whatever they are
      cases inner with
      | nil =>
        cases around
        obtain ⟨u, path, here⟩ :=
          known registry same [⟨some url, mapping.resources⟩] ⟨base, pending⟩ _ rfl
        exact ⟨u, first.trans path, here⟩
      | cons top inner =>
        obtain ⟨u, path, here⟩ := known registry same
          (⟨some url, mapping.resources⟩ :: ⟨base, pending⟩ :: inner) frame outer
          (congrArg (_ :: _ :: ·) (List.cons.inj around).2)
        exact ⟨u, first.trans path, here⟩

end Merging

end SchemaBinder.Mapping
