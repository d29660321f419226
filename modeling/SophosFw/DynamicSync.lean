import SophosFw.CycleRun
import SophosFw.Registry
import SophosFw.Sources

/-!
Entities per firewall object: `async_setup_dynamic_entities` and the `_sync` it registers.

A sync goes through the families in order. It keeps books on how often a family was seen empty
and an object missing, and it can end with a `KeyError` of its own in the middle of a family;
what was done until then stays done.
-/

namespace SophosFw.DynamicSync

open SophosFw.PyDict SophosFw.Registry

/-- What `_sync` reads of its coordinator. -/
structure CoordinatorView (D : Type) where
  data : Option D
  endpointAvailable : String → Bool
  fetchedAt : String → Option ℚ
  /-- Whether `items` has what it reads from elsewhere: the traffic families wait for the
  interfaces of the other coordinator. -/
  ready : String → Bool

/-- The view of a coordinator in some state. -/
def viewOf {V σ : Type} (ready : String → Bool) (s : Coordinator.State V σ) :
    CoordinatorView (Coordinator.Data V) :=
  ⟨s.data, s.endpointAvailable, s.fetchedAt, ready⟩

/-- `DynamicFamily`: `items` gives every unique suffix the object an entity is built from. -/
structure DynamicFamily (D Item E : Type) where
  suffixPrefix : String
  endpoint : String
  items : D → Option (Dict String Item)
  factory : Item → E
  removeStale : Bool := true
  trustEmpty : Bool := false
  confirmMissing : Bool := false

/-- The objects of a family that the coordinator has now. -/
def DynamicFamily.itemsOf {D Item E : Type} (f : DynamicFamily D Item E) (v : CoordinatorView D) :
    Option (Dict String Item) :=
  if v.ready f.suffixPrefix then v.data.bind f.items else none

/-- The variables the closures of one setup share. -/
structure Book where
  known : List String
  emptyStreak : Dict String ℕ
  lastFetch : Dict String (Option ℚ)
  missingStreak : Dict String ℕ
  lastMissingFetch : Dict String (Option ℚ)

def Book.init : Book := ⟨[], .empty, .empty, .empty, .empty⟩

/-- A sync at work: the registry, the books, and the entities it is going to add. -/
structure SyncState (E : Type) where
  registry : EntityRegistry
  book : Book
  newEntities : List E

section Sync

variable {D Item E : Type} (entryId domain : String) (v : CoordinatorView D)

namespace DynamicFamily

variable (f : DynamicFamily D Item E)

/-- Entities for the objects that are not known yet. -/
def addNew (items : Dict String Item) (s : SyncState E) : SyncState E :=
  items.entries.foldl (fun s p =>
    if p.1 ∈ s.book.known then s
    else { s with
      book := { s.book with known := p.1 :: s.book.known }
      newEntities := s.newEntities ++ [f.factory p.2] }) s

/-- How often the family was seen empty, and whether that is often enough; `none` when the
lookup of the streak raises. -/
def countEmpty (items : Dict String Item) (b : Book) : Book × Option Bool :=
  if f.trustEmpty && items.isEmpty then
    let fetched := v.fetchedAt f.endpoint
    let b :=
      if fetched ≠ (b.lastFetch.get f.suffixPrefix).join then
        { b with
          lastFetch := b.lastFetch.set f.suffixPrefix fetched
          emptyStreak := b.emptyStreak.set f.suffixPrefix
            ((b.emptyStreak.get f.suffixPrefix).getD 0 + 1) }
      else b
    (b, (b.emptyStreak.get f.suffixPrefix).map fun n => decide (Sources.emptyConfirmations ≤ n))
  else ({ b with emptyStreak := b.emptyStreak.pop f.suffixPrefix }, some false)

/-- `_still_confirming`: the registered suffixes that are missing, but not for long enough. -/
def stillConfirming (registered present : List String) (b : Book) : List String × Book :=
  let fetched := v.fetchedAt f.endpoint
  let newFetch := decide (fetched ≠ (b.lastMissingFetch.get f.suffixPrefix).join)
  let missing := registered.filter fun suffix => suffix ∉ present
  let streak :=
    if newFetch then
      missing.foldl (fun streak suffix => streak.set suffix ((streak.get suffix).getD 0 + 1))
        b.missingStreak
    else b.missingStreak
  (missing.filter fun suffix => (streak.get suffix).getD 0 < Sources.emptyConfirmations,
    { b with
      lastMissingFetch := b.lastMissingFetch.set f.suffixPrefix fetched
      missingStreak := present.foldl Dict.pop streak })

/-- Take the objects that are gone out of the registry. -/
def removeGone (items : Dict String Item) (removeAll : Bool) (s : SyncState E) : SyncState E :=
  let registered := registeredSuffixes entryId domain f.suffixPrefix s.registry
  let confirming :=
    if f.confirmMissing then f.stillConfirming v registered items.keys s.book else ([], s.book)
  let removed := asyncRemoveStaleEntities entryId domain f.suffixPrefix s.registry
    (items.keys ++ confirming.1) removeAll
  { s with
    registry := removed.1
    book := { confirming.2 with
      known := confirming.2.known.filter fun suffix => suffix ∉ removed.2 } }

/-- One family in `_sync`, and whether it raised. -/
def sync (s : SyncState E) : SyncState E × Bool :=
  if v.endpointAvailable f.endpoint = false then (s, false)
  else
    match f.itemsOf v with
    | none => (s, false)
    | some items =>
      let s := f.addNew items s
      if f.removeStale = false then (s, false)
      else
        let (book, removeAll) := f.countEmpty v items s.book
        let s := { s with book := book }
        match removeAll with
        | none => (s, true)
        | some removeAll => (f.removeGone entryId domain v items removeAll s, false)

end DynamicFamily

/-- The families in order, up to one that raises. -/
def syncFamilies : List (DynamicFamily D Item E) → SyncState E → SyncState E × Bool
  | [], s => (s, false)
  | f :: families, s =>
    match f.sync entryId domain v s with
    | (s, true) => (s, true)
    | (s, false) => syncFamilies families s

/-- `_sync`: the registry and the books after it, the entities it added, and whether it raised. -/
def sync (families : List (DynamicFamily D Item E)) (registry : EntityRegistry) (book : Book) :
    EntityRegistry × Book × List E × Bool :=
  if v.data.isNone then (registry, book, [], false)
  else
    let (s, raised) := syncFamilies entryId domain v families ⟨registry, book, []⟩
    (s.registry, s.book, if raised then [] else s.newEntities, raised)

end Sync

end SophosFw.DynamicSync
