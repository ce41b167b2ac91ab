import Mathlib.Algebra.Order.BigOperators.Group.Finset
import Mathlib.Data.Finset.Sigma
import CyberRT.Discovery.Graph

namespace CyberRT.Discovery

/-- The sources and the destinations that are registered on each value. -/
structure Registry where
  sources : Finset (String × Vertice) := ∅
  destinations : Finset (String × Vertice) := ∅

namespace Registry

def addSource (registry : Registry) (value : String) (src : Vertice) : Registry :=
  { registry with sources := insert (value, src) registry.sources }

def addDestination (registry : Registry) (value : String) (dst : Vertice) : Registry :=
  { registry with destinations := insert (value, dst) registry.destinations }

def removeSource (registry : Registry) (value : String) (src : Vertice) : Registry :=
  { registry with sources := registry.sources.erase (value, src) }

def removeDestination (registry : Registry) (value : String) (dst : Vertice) : Registry :=
  { registry with destinations := registry.destinations.erase (value, dst) }

def call (registry : Registry) : GraphCall → Registry
  | .insert e =>
    if e.isValid then
      let registry := if e.src.isDummy then registry else registry.addSource e.value e.src
      if e.dst.isDummy then registry else registry.addDestination e.value e.dst
    else registry
  | .delete e =>
    if e.isValid then
      let registry := if e.src.isDummy then registry else registry.removeSource e.value e.src
      if e.dst.isDummy then registry else registry.removeDestination e.value e.dst
    else registry

def after (calls : List GraphCall) : Registry := calls.foldl call {}

theorem after_snoc (calls : List GraphCall) (call : GraphCall) :
    after (calls ++ [call]) = (after calls).call call := by
  rw [after, List.foldl_append]
  rfl

/-- `P(value)`. -/
def sourcesOf (registry : Registry) (value : String) : Finset Vertice :=
  (registry.sources.filter fun entry => entry.1 = value).image Prod.snd

/-- `S(value)`. -/
def destinationsOf (registry : Registry) (value : String) : Finset Vertice :=
  (registry.destinations.filter fun entry => entry.1 = value).image Prod.snd

def values (registry : Registry) : Finset String :=
  registry.sources.image Prod.fst ∪ registry.destinations.image Prod.fst

def edgeCount (registry : Registry) : Nat :=
  ∑ value ∈ registry.values, (registry.sourcesOf value).card * (registry.destinationsOf value).card

/-- The edges between the sources and the destinations of a value. -/
def Has (registry : Registry) (e : Edge) : Prop :=
  e.src ∈ registry.sourcesOf e.value ∧ e.dst ∈ registry.destinationsOf e.value

/-- No source has two edges whose keys are the same text. -/
def Unambiguous (registry : Registry) : Prop :=
  ∀ e e', registry.Has e → registry.Has e' → e.src = e'.src → e.getKey = e'.getKey → e = e'

theorem mem_sourcesOf {registry : Registry} {value : String} {src : Vertice} :
    src ∈ registry.sourcesOf value ↔ (value, src) ∈ registry.sources := by
  simp [sourcesOf]

theorem mem_destinationsOf {registry : Registry} {value : String} {dst : Vertice} :
    dst ∈ registry.destinationsOf value ↔ (value, dst) ∈ registry.destinations := by
  simp [destinationsOf]

theorem sourcesOf_addSource (registry : Registry) (value other : String) (src : Vertice) :
    (registry.addSource value src).sourcesOf other =
      if other = value then insert src (registry.sourcesOf other) else registry.sourcesOf other := by
  ext vertice
  rw [mem_sourcesOf, addSource, Finset.mem_insert, Prod.mk.injEq, ← mem_sourcesOf]
  split
  · simp [*]
  · simp [*]

theorem destinationsOf_addDestination (registry : Registry) (value other : String) (dst : Vertice) :
    (registry.addDestination value dst).destinationsOf other =
      if other = value then insert dst (registry.destinationsOf other) else registry.destinationsOf other := by
  ext vertice
  rw [mem_destinationsOf, addDestination, Finset.mem_insert, Prod.mk.injEq, ← mem_destinationsOf]
  split
  · simp [*]
  · simp [*]

theorem sourcesOf_removeSource (registry : Registry) (value other : String) (src : Vertice) :
    (registry.removeSource value src).sourcesOf other =
      if other = value then (registry.sourcesOf other).erase src else registry.sourcesOf other := by
  ext vertice
  rw [mem_sourcesOf, removeSource, Finset.mem_erase, Ne, Prod.mk.injEq, ← mem_sourcesOf]
  split
  · simp [*]
  · simp [*]

theorem destinationsOf_removeDestination (registry : Registry) (value other : String) (dst : Vertice) :
    (registry.removeDestination value dst).destinationsOf other =
      if other = value then (registry.destinationsOf other).erase dst else registry.destinationsOf other := by
  ext vertice
  rw [mem_destinationsOf, removeDestination, Finset.mem_erase, Ne, Prod.mk.injEq, ← mem_destinationsOf]
  split
  · simp [*]
  · simp [*]

theorem has_addSource {registry : Registry} {value : String} {src : Vertice} {e : Edge} :
    (registry.addSource value src).Has e ↔
      registry.Has e ∨ e.src = src ∧ e.value = value ∧ e.dst ∈ registry.destinationsOf value := by
  rw [Has, sourcesOf_addSource, Has]
  split
  · rename_i same
    rw [Finset.mem_insert, same]
    change _ ∧ e.dst ∈ registry.destinationsOf value ↔ _
    tauto
  · rename_i differs
    change _ ∧ e.dst ∈ registry.destinationsOf e.value ↔ _
    tauto

theorem has_addDestination {registry : Registry} {value : String} {dst : Vertice} {e : Edge} :
    (registry.addDestination value dst).Has e ↔
      registry.Has e ∨ e.dst = dst ∧ e.value = value ∧ e.src ∈ registry.sourcesOf value := by
  rw [Has, destinationsOf_addDestination, Has]
  split
  · rename_i same
    rw [Finset.mem_insert, same]
    change e.src ∈ registry.sourcesOf value ∧ _ ↔ _
    tauto
  · rename_i differs
    change e.src ∈ registry.sourcesOf e.value ∧ _ ↔ _
    tauto

theorem has_removeSource {registry : Registry} {value : String} {src : Vertice} {e : Edge} :
    (registry.removeSource value src).Has e ↔ registry.Has e ∧ ¬(e.src = src ∧ e.value = value) := by
  rw [Has, sourcesOf_removeSource, Has]
  split
  · rename_i same
    rw [Finset.mem_erase, same]
    change _ ∧ e.dst ∈ registry.destinationsOf value ↔ _
    tauto
  · rename_i differs
    change _ ∧ e.dst ∈ registry.destinationsOf e.value ↔ _
    tauto

theorem has_removeDestination {registry : Registry} {value : String} {dst : Vertice} {e : Edge} :
    (registry.removeDestination value dst).Has e ↔ registry.Has e ∧ ¬(e.dst = dst ∧ e.value = value) := by
  rw [Has, destinationsOf_removeDestination, Has]
  split
  · rename_i same
    rw [Finset.mem_erase, same]
    change e.src ∈ registry.sourcesOf value ∧ _ ↔ _
    tauto
  · rename_i differs
    change e.src ∈ registry.sourcesOf e.value ∧ _ ↔ _
    tauto

theorem Unambiguous.mono {registry smaller : Registry} (unambiguous : registry.Unambiguous)
    (fewer : ∀ e, smaller.Has e → registry.Has e) : smaller.Unambiguous := by
  intro e e' has has' src key
  exact unambiguous e e' (fewer e has) (fewer e' has') src key

def edges (registry : Registry) : Finset Edge :=
  registry.values.biUnion fun value =>
    (registry.sourcesOf value ×ˢ registry.destinationsOf value).image fun pair => ⟨pair.1, pair.2, value⟩

theorem mem_edges {registry : Registry} {e : Edge} : e ∈ registry.edges ↔ registry.Has e := by
  simp only [edges, Finset.mem_biUnion, Finset.mem_image, Finset.mem_product]
  constructor
  · rintro ⟨value, _, pair, related, rfl⟩
    exact related
  · intro has
    have used : e.value ∈ registry.values :=
      Finset.mem_union_left _ (Finset.mem_image.mpr ⟨_, mem_sourcesOf.mp has.1, rfl⟩)
    exact ⟨e.value, used, (e.src, e.dst), has, rfl⟩

theorem card_edges (registry : Registry) : registry.edges.card = registry.edgeCount := by
  rw [edges, Finset.card_biUnion, edgeCount]
  · apply Finset.sum_congr rfl
    intro value _
    rw [Finset.card_image_of_injective, Finset.card_product]
    intro pair pair' same
    obtain ⟨src, dst, _⟩ := Edge.mk.inj same
    exact Prod.ext src dst
  · intro value _ value' _ differs
    rw [Function.onFun, Finset.disjoint_left]
    intro e here here'
    obtain ⟨_, _, rfl⟩ := Finset.mem_image.mp here
    obtain ⟨_, _, same⟩ := Finset.mem_image.mp here'
    exact differs (Edge.mk.inj same).2.2.symm

def place (e : Edge) : String × String := (e.src.getKey, e.getKey)

theorem unambiguous_iff (registry : Registry) :
    registry.Unambiguous ↔ Set.InjOn place (registry.edges : Set Edge) := by
  constructor
  · intro unambiguous e here e' here' same
    obtain ⟨srcSame, keySame⟩ := Prod.mk.inj same
    exact unambiguous e e' (mem_edges.mp here) (mem_edges.mp here') (congrArg Vertice.mk srcSame) keySame
  · intro injective e e' has has' src key
    apply injective (mem_edges.mpr has) (mem_edges.mpr has')
    rw [place, place, src, key]

end Registry

end CyberRT.Discovery
