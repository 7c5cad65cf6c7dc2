import SchemaBinder.Fault
import SchemaBinder.Iteration
import SchemaBinder.Manifest
import SchemaBinder.Mapping.Basic
import SchemaBinder.TypeRegistry
import SchemaBinder.Url.Reader
/-!
# The registry of a mapping

The sources of a mapping are merged in order: its pairs in the order of their aliases, the
classes that its package scans find, and the mapping documents that it refers to, each with its
own sources in the same order.  A later source wins.

A reference is resolved against the URL of the document that holds it.  The documents that are
being merged form a chain, and a document on the chain must not be referred to again; a document
may be merged several times if it is not.  Documents are loaded by a given function.
-/

namespace SchemaBinder.Mapping

/-- The classes of the pairs of a mapping. -/
def directTypes (mapping : Mapping) : List TypeDescriptor :=
  mapping.direct.entries.map fun (name, qualifiedName) => ⟨name, qualifiedName⟩

/-- The classes that one package scan finds. -/
def scannedTypes (manifest : Manifest) (specifier : String) :
    Except Fault (List TypeDescriptor) := do
  let scope ← Scope.parse specifier
  return (manifest.discover scope).map fun t => ⟨t.simpleName, t.qualifiedName⟩

/-- The classes of a mapping itself: of its pairs and of its package scans. -/
def ownTypes (manifest : Manifest) (mapping : Mapping) : Except Fault (List TypeDescriptor) := do
  return mapping.directTypes ++ (← mapping.packages.mapM (scannedTypes manifest)).flatten

variable [DomainNames]

/-- The URL that a reference names, seen from the document that holds it. -/
def resolveReference (base : Option Url) (reference : String) : Except Fault Url :=
  let resolved := match base with
    | some base => base.join reference
    | none => Url.parse reference
  match resolved with
  | .ok url => .ok url
  | .error e => .error (.settings (.invalidReference reference e))

/-! ## Merging -/

/-- A mapping whose own classes are merged, and whose references are being followed. -/
structure Frame where
  /-- The URL of the document that holds the mapping, if it is one. -/
  base : Option Url
  /-- The references still to follow. -/
  pending : List String

/-- How far merging has come. -/
structure Merging where
  /-- The mapping that is being merged. -/
  frame : Frame
  /-- The mappings around it, from the one that refers to it outwards. -/
  outer : List Frame
  /-- The URLs of the documents that are being merged, the outermost first. -/
  chain : List Url
  /-- The registry so far. -/
  registry : TypeRegistry

variable {m : Type → Type} [Monad m]

/-- Takes up a mapping on top of a merge: its own classes are registered, and its references are
next. -/
def Merging.enter (manifest : Manifest) (outer : List Frame) (chain : List Url)
    (registry : TypeRegistry) (base : Option Url) (mapping : Mapping) : Except Fault Merging := do
  let own ← mapping.ownTypes manifest
  return ⟨⟨base, mapping.resources⟩, outer, chain, registry.extend own⟩

/-- One step of merging: it follows the next reference, goes back to the mapping around, or ends
with the registry. -/
def Merging.step (manifest : Manifest) (load : Url → ExceptT Fault m Mapping) (s : Merging) :
    ExceptT Fault m (Merging ⊕ TypeRegistry) :=
  match s.frame.pending, s.outer with
  | [], [] => return .inr s.registry
  | [], frame :: outer => return .inl { s with frame, outer, chain := s.chain.dropLast }
  | reference :: pending, outer => do
    let url ← ExceptT.mk (pure (resolveReference s.frame.base reference))
    if s.chain.contains url then
      throw (.settings (.cyclicResources ((s.chain ++ [url]).map (·.render))))
    else
      let mapping ← load url
      let next := Merging.enter manifest (⟨s.frame.base, pending⟩ :: outer) (s.chain ++ [url])
        s.registry (some url) mapping
      return .inl (← ExceptT.mk (pure next))

/-- The registry of a mapping. -/
def buildRegistry [Iterates m] (manifest : Manifest) (load : Url → ExceptT Fault m Mapping)
    (mapping : Mapping) : ExceptT Fault m TypeRegistry := do
  let start ← ExceptT.mk (pure (Merging.enter manifest [] [] .empty none mapping))
  iterate (Merging.step manifest load) start

end SchemaBinder.Mapping
