import SchemaBinder.Proofs.Mapping.Chain
import SchemaBinder.Proofs.Mapping.Precedence
import SchemaBinder.Url.PlainNames
/-!
# Merging comes to an end

Merging follows references that it finds while it runs, and only the chain stops it.  If finitely
many URLs are reachable, then the chain cannot grow for ever, since its URLs are distinct and
reachable (`outcomeFrom_ends`).

It ends with a registry if and only if the mapping is `Sound`.  A failing step shows what is
missing (`Step.not_sound`), and a registry comes with entries, which only a sound mapping has.
-/

namespace SchemaBinder.Mapping

variable {manifest : Manifest} {texts : Texts} {root : Mapping}

namespace Merging

/-! ## Every run ends -/

/-- A fresh URL takes one from those that are not yet on a chain. -/
theorem card_sdiff_concat_lt {urls : Finset Url} {chain : List Url} {url : Url}
    (member : url ∈ urls) (fresh : url ∉ chain) :
    (urls \ (chain ++ [url]).toFinset).card < (urls \ chain.toFinset).card := by
  refine Finset.card_lt_card (Finset.ssubset_iff_of_subset ?_ |>.2 ⟨url, ?_, ?_⟩)
  · intro other
    simp only [Finset.mem_sdiff, List.mem_toFinset, List.mem_append, not_or]
    exact fun ⟨listed, outside, _⟩ => ⟨listed, outside⟩
  · exact Finset.mem_sdiff.2 ⟨member, fun listed => fresh (List.mem_toFinset.1 listed)⟩
  · simp

variable [DomainNames]

/-- From a state on, merging comes to an end. -/
def Ends (manifest : Manifest) (texts : Texts) (s : Merging) : Prop :=
  ∃ r, outcomeFrom manifest texts s = some r

theorem Ends.of_next {s t : Merging} (taken : Next manifest texts s t)
    (ends : Ends manifest texts t) : Ends manifest texts s := by
  obtain ⟨r, same⟩ := ends
  exact ⟨r, (outcomeFrom_of_next taken).trans same⟩

/-- If merging ends once the references of the innermost mapping have been followed, then it ends:
a document that it enters leaves fewer URLs to enter, and the references after it are fewer. -/
theorem ends_of_exhausted (urls : Finset Url) (all : ∀ url, Reachable texts root url → url ∈ urls)
    {base : Option Url} {pending : List String} {outer : List Frame} {chain : List Url}
    {registry : TypeRegistry} (stacked : Stacked texts root ⟨base, pending⟩ outer chain)
    (after : ∀ registry, Ends manifest texts ⟨⟨base, []⟩, outer, chain, registry⟩) :
    Ends manifest texts ⟨⟨base, pending⟩, outer, chain, registry⟩ := by
  -- outside on the URLs that are not on the chain, inside on the references that are pending
  induction left : (urls \ chain.toFinset).card using Nat.strong_induction_on
    generalizing base pending outer chain registry with
  | _ count ihNested =>
    induction pending generalizing registry with
    | nil => exact after registry
    | cons reference pending ihRest =>
      obtain ⟨taken, step⟩ := exists_step manifest texts
        ⟨⟨base, reference :: pending⟩, outer, chain, registry⟩
      cases step with
      | unresolved failed => exact ⟨_, outcomeFrom_of_error (.unresolved failed)⟩
      | cyclic leads member => exact ⟨_, outcomeFrom_of_error (.cyclic leads member)⟩
      | unread leads fresh failed => exact ⟨_, outcomeFrom_of_error (.unread leads fresh failed)⟩
      | unscanned leads fresh holds failed =>
        exact ⟨_, outcomeFrom_of_error (.unscanned leads fresh holds failed)⟩
      | @enter _ _ _ _ _ _ url mapping own leads fresh holds done =>
        obtain ⟨around, reached, listed⟩ := stacked.reached
        have reachable := reached.reachable (listed reference List.mem_cons_self) leads
        refine .of_next (.enter leads fresh holds done) ?_
        refine ihNested _ (left ▸ card_sdiff_concat_lt (all url reachable) fresh)
          (stacked.enter leads fresh holds) ?_ rfl
        -- after the document its URL is taken off again, so the chain is the one from before
        intro registry
        refine .of_next .leave ?_
        rw [List.dropLast_concat]
        exact ihRest stacked.drop

/-- If finitely many URLs are reachable, then every run ends. -/
theorem ends_start (finite : {url | Reachable texts root url}.Finite)
    (own : List TypeDescriptor) : Ends manifest texts (start root own) := by
  refine ends_of_exhausted finite.toFinset ?_ (inOrder_start own) ?_
  · exact fun url reachable => finite.mem_toFinset.2 reachable
  · exact fun registry => ⟨_, outcomeFrom_of_result .finish⟩

/-! ## What a failing step means -/

/-- In a sound mapping the own classes of every mapping that is read can be told. -/
theorem not_sound_of_ownTypes {base : Option Url} {mapping : Mapping} {e : Fault}
    (reached : Reached texts root base mapping) (failed : mapping.ownTypes manifest = .error e) :
    ¬ Sound texts root := by
  intro sound
  obtain ⟨specifier, member, malformed⟩ := ownTypes_eq_error failed
  obtain ⟨scope, parsed⟩ := sound.scopes base mapping reached specifier member
  rw [malformed] at parsed
  cases parsed

/-- A step fails for the settings only. -/
theorem Step.settings {s : Merging} {e : Fault} (taken : Step manifest texts s (.error e)) :
    ∃ cause, e = .settings cause := by
  cases taken with
  | unresolved failed => exact resolveReference_eq_error failed
  | cyclic => exact ⟨_, rfl⟩
  | unread _ _ failed => exact ofRead_eq_error failed
  | unscanned _ _ _ failed => exact ownTypes_error_settings failed

/-- A step fails only if the mapping of the run is not sound. -/
theorem Step.not_sound {s : Merging} {e : Fault} (inOrder : InOrder texts root s)
    (taken : Step manifest texts s (.error e)) : ¬ Sound texts root := by
  intro sound
  obtain ⟨around, reached, listed⟩ := inOrder.reached
  cases taken with
  | unresolved failed =>
    obtain ⟨url, _, leads, _⟩ := sound.references _ around reached _ (listed _ List.mem_cons_self)
    rw [failed] at leads
    cases leads
  | @cyclic base reference _ _ _ _ url leads member =>
    -- the URL leads to the document on top, which refers to it
    obtain ⟨top, same, path⟩ := Stacked.leads inOrder url member
    cases same
    refine sound.acyclic url (Stacked.reachable inOrder url member) (.tail' path ?_)
    exact reached.refers (listed reference List.mem_cons_self) leads
  | unread leads _ failed =>
    obtain ⟨url, next, leads', holds⟩ :=
      sound.references _ around reached _ (listed _ List.mem_cons_self)
    rw [leads] at leads'
    cases leads'
    rw [ofRead_eq_ok_iff.2 holds] at failed
    cases failed
  | unscanned leads _ holds failed =>
    have next := Reached.follow reached (listed _ List.mem_cons_self) leads holds
    exact not_sound_of_ownTypes next failed sound

/-- A run that fails does so for the settings, and its mapping is not sound. -/
theorem not_sound_of_outcomeFrom {s : Merging} {r : Except Fault TypeRegistry}
    (ends : outcomeFrom manifest texts s = some r) :
    InOrder texts root s → ∀ e, r = .error e →
      (∃ cause, e = .settings cause) ∧ ¬ Sound texts root := by
  refine outcomeFrom_induct (motive := fun s r => InOrder texts root s → ∀ e, r = .error e →
    (∃ cause, e = .settings cause) ∧ ¬ Sound texts root) ?_ ?_ ?_ ends
  · intro s e taken inOrder _ same
    cases same
    exact ⟨taken.settings, taken.not_sound inOrder⟩
  · intro s registry _ _ _ same
    cases same
  · intro s t r taken known inOrder
    exact known (inOrder.next taken)

end Merging

/-- Building fails for the settings only, and only if the mapping is not sound. -/
theorem not_sound_of_outcome [DomainNames] {e : Fault}
    (failed : outcome manifest texts root = some (.error e)) :
    (∃ cause, e = .settings cause) ∧ ¬ Sound texts root := by
  cases own : root.ownTypes manifest with
  | error e' =>
    rw [outcome_of_error own] at failed
    cases failed
    exact ⟨ownTypes_error_settings own, Merging.not_sound_of_ownTypes .root own⟩
  | ok types =>
    rw [outcome_of_ok own] at failed
    exact Merging.not_sound_of_outcomeFrom failed (Merging.inOrder_start types) e rfl

/-- Only a sound mapping has a registry. -/
theorem sound_of_outcome [DomainNames] {registry : TypeRegistry}
    (built : outcome manifest texts root = some (.ok registry)) : Sound texts root := by
  obtain ⟨entries, lists, _⟩ := entries_of_outcome built
  exact lists.sound

/-! ## All runs -/

/-- A state comes up while the registry of a mapping is built. -/
def Visited [DomainNames] (manifest : Manifest) (texts : Texts) (mapping : Mapping)
    (s : Merging) : Prop :=
  ∃ own, mapping.ownTypes manifest = .ok own ∧
    Merging.Steps manifest texts (Merging.start mapping own) s

theorem Visited.inOrder [DomainNames] {s : Merging} (visited : Visited manifest texts root s) :
    Merging.InOrder texts root s := by
  obtain ⟨own, _, path⟩ := visited
  exact (Merging.inOrder_start own).steps path

/-- If finitely many URLs are reachable from a mapping, then building its registry comes to an
end.  A registry comes out if and only if the mapping is sound, and every other end is a fault of
the settings.  The URLs of the chain are distinct at any time, merging a mapping leaves the chain
as it was, and if a registry comes out then each mapping that is taken up is merged to its end. -/
theorem building_ends [DomainNames] (manifest : Manifest) (texts : Texts) (mapping : Mapping)
    (finite : {url | Reachable texts mapping url}.Finite) :
    ∃ r, outcome manifest texts mapping = some r ∧
      ((∃ registry, r = .ok registry) ↔ Sound texts mapping) ∧
      (∀ e, r = .error e → ∃ cause, e = .settings cause) ∧
      ∀ s, Visited manifest texts mapping s →
        s.chain.Nodup ∧
        (∀ t, Merging.Steps manifest texts s t → t.frame.base = s.frame.base → t.outer = s.outer →
          t.chain = s.chain) ∧
        ((∃ registry, r = .ok registry) → ∃ t, Merging.Steps manifest texts s t ∧
          t.frame = ⟨s.frame.base, []⟩ ∧ t.outer = s.outer) := by
  obtain ⟨r, ends⟩ : ∃ r, outcome manifest texts mapping = some r := by
    cases own : mapping.ownTypes manifest with
    | error e => exact ⟨_, outcome_of_error own⟩
    | ok types =>
      rw [outcome_of_ok own]
      exact Merging.ends_start finite types
  refine ⟨r, ends, ⟨?_, ?_⟩, ?_, ?_⟩
  · rintro ⟨registry, rfl⟩
    exact sound_of_outcome ends
  · intro sound
    cases r with
    | error e => exact absurd sound (not_sound_of_outcome ends).2
    | ok registry => exact ⟨registry, rfl⟩
  · rintro e rfl
    exact (not_sound_of_outcome ends).1
  · intro s visited
    refine ⟨Stacked.nodup visited.inOrder, ?_, ?_⟩
    · intro t path
      exact visited.inOrder.chain_eq (visited.inOrder.steps path)
    · rintro ⟨registry, rfl⟩
      obtain ⟨own, done, path⟩ := visited
      rw [outcome_of_ok done, Merging.outcomeFrom_of_steps path] at ends
      exact Merging.exhausts ends registry rfl [] s.frame s.outer rfl

/-! ## A document that is shared -/

/-- The URL of a file at the root of a machine, with a query. -/
def fileQuery (name query : String) : Url :=
  { fileAt name with query := some query.toList }

/-- Two documents at URLs that differ in their queries.  The first refers to the second. -/
def queried : Texts := fun url =>
  if url = fileAt "x" then .ok "externalResources: ?y"
  else if url = fileQuery "x" "y" then .ok "externalResources: []"
  else .error (.unfetchableResource url.render (.unanswered "no route"))

/-- A mapping that refers to both documents. -/
def sharing : Mapping := ⟨.ofList [], [], ["file:///x", "file:///x?y"]⟩

theorem holds_first : ∃ first, Holds queried (fileAt "x") first ∧ first.resources = ["?y"] ∧
    first.ownTypes .empty = .ok [] :=
  holds_of_parts .empty queried [] ["?y"] rfl (by decide +kernel)

theorem holds_second : ∃ second, Holds queried (fileQuery "x" "y") second ∧
    second.resources = [] ∧ second.ownTypes .empty = .ok [] :=
  holds_of_parts .empty queried [] [] rfl (by decide +kernel)

theorem outcome_sharing [DomainNames] : outcome .empty queried sharing = some (.ok .empty) := by
  have own : sharing.ownTypes .empty = .ok [] := ownTypes_eq_ok_iff.2 ⟨[], .nil, rfl⟩
  obtain ⟨first, holdsFirst, pendingFirst, ownFirst⟩ := holds_first
  obtain ⟨second, holdsSecond, pendingSecond, ownSecond⟩ := holds_second
  have toFirst : resolveReference none "file:///x" = .ok (fileAt "x") := rfl
  have toSecond : resolveReference none "file:///x?y" = .ok (fileQuery "x" "y") := rfl
  have within : resolveReference (some (fileAt "x")) "?y" = .ok (fileQuery "x" "y") := rfl
  rw [outcome_of_ok own]
  show Merging.outcomeFrom .empty queried
    ⟨⟨none, ["file:///x", "file:///x?y"]⟩, [], [], .empty⟩ = _
  rw [Merging.outcomeFrom_of_next (.enter toFirst (by decide) holdsFirst ownFirst), pendingFirst]
  rw [Merging.outcomeFrom_of_next (.enter within (by decide) holdsSecond ownSecond), pendingSecond]
  rw [Merging.outcomeFrom_of_next .leave, Merging.outcomeFrom_of_next .leave]
  rw [Merging.outcomeFrom_of_next (.enter toSecond (by decide) holdsSecond ownSecond),
    pendingSecond]
  rw [Merging.outcomeFrom_of_next .leave]
  exact Merging.outcomeFrom_of_result .finish

theorem reachable_sharing [DomainNames] {url : Url} (reachable : Reachable queried sharing url) :
    url = fileAt "x" ∨ url = fileQuery "x" "y" := by
  refine Reachable.induct (motive := fun url => url = fileAt "x" ∨ url = fileQuery "x" "y")
    ?_ ?_ reachable
  · intro reference listed url leads
    rcases List.mem_pair.1 listed with rfl | rfl
    · exact .inl (Except.ok.inj leads).symm
    · exact .inr (Except.ok.inj leads).symm
  · rintro url following known ⟨mapping, reference, holds, listed, leads⟩
    rcases known with rfl | rfl
    · obtain ⟨first, holdsFirst, pending, _⟩ := holds_first
      rw [holds.unique holdsFirst, pending] at listed
      rw [List.mem_singleton.1 listed] at leads
      exact .inr (Except.ok.inj leads).symm
    · obtain ⟨second, holdsSecond, pending, _⟩ := holds_second
      rw [holds.unique holdsSecond, pending] at listed
      cases listed

/-- A document that is reached on two ways, and another query, make no circle. -/
theorem building_ends_sharing :
    {url | Reachable queried sharing url}.Finite ∧
      outcome .empty queried sharing = some (.ok .empty) ∧ Sound queried sharing := by
  have finite : {url | Reachable queried sharing url}.Finite :=
    (Set.toFinite {fileAt "x", fileQuery "x" "y"}).subset fun _ => reachable_sharing
  obtain ⟨r, ends, sound, _⟩ := building_ends .empty queried sharing finite
  rw [outcome_sharing] at ends
  cases ends
  exact ⟨finite, outcome_sharing, sound.1 ⟨_, rfl⟩⟩

end SchemaBinder.Mapping
