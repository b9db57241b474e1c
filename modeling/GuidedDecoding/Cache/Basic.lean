import GuidedDecoding.Artifact.Basic
import GuidedDecoding.Cache.Recency
import GuidedDecoding.Constraint.Set
import GuidedDecoding.Decimal.Fixed
import GuidedDecoding.Error.Basic

/-!
# The artifact cache

Artifacts are kept by the fingerprint of the set that they were compiled from. An entry knows the
digest that its artifact had when it was stored. Every look-up checks it, and an entry that does not
pass is dropped and compiled again. Errors are not kept.

A request goes in steps between which others may come: it looks its key up, drops a corrupt entry,
and fills the gap, unless another request has filled it in between. `getOrCompile` takes these steps
in a row.
-/

namespace GuidedDecoding

/-- An artifact with the digest that it had when it was stored. -/
structure CacheEntry where
  artifact : Artifact
  checksum : Fingerprint

namespace CacheEntry

/-- Store an artifact. -/
def ofArtifact (a : Artifact) : CacheEntry := ⟨a, a.digest⟩

/-- Why an entry is not what was stored for a set. -/
def fault? (source : Fingerprint) (e : CacheEntry) : Option CacheFault :=
  if e.artifact.source ≠ source then
    some ⟨source.hex, "stored IR belongs to a different fingerprint"⟩
  else if e.artifact.digest ≠ e.checksum then some ⟨source.hex, "content checksum mismatch"⟩
  else none

end CacheEntry

/-- What has happened to a cache: requests that were served from it, that ran the compiler, and
that another request's compilation served; entries that were pushed out; and look-ups that found a
corrupt entry. -/
structure CacheCounts where
  hits : Nat := 0
  misses : Nat := 0
  coalesced : Nat := 0
  evictions : Nat := 0
  corruptions : Nat := 0
deriving DecidableEq, Repr

namespace CacheCounts

/-- The requests that did not run the compiler. -/
def served (c : CacheCounts) : Nat := c.hits + c.coalesced

/-- The share of requests that did not run the compiler. -/
def hitRate (c : CacheCounts) : Float :=
  if c.served + c.misses = 0 then 0.0 else c.served.toFloat / (c.served + c.misses).toFloat

/-- The share with six places. -/
def hitRateText (c : CacheCounts) : String := fixedText 6 c.hitRate

end CacheCounts

/-- Stored artifacts by fingerprint, and what has happened to them. -/
structure ArtifactCache where
  store : RecencyStore Fingerprint CacheEntry
  counts : CacheCounts := {}

/-- What a look-up finds. -/
inductive CacheLookup where
  | hit (artifact : Artifact)
  | absent
  | corrupt (fault : CacheFault)

/-- What a request gets, and whether it ran the compiler. -/
structure CacheAnswer where
  result : Except CompileError Artifact
  compiled : Bool

namespace ArtifactCache

/-- A cache without entries. -/
def empty (capacity : Nat) : ArtifactCache where
  store := .empty capacity

/-- Whether there is an entry, sound or not. -/
def contains (c : ArtifactCache) (source : Fingerprint) : Bool := c.store.contains source

/-- Drop an entry. -/
def invalidate (c : ArtifactCache) (source : Fingerprint) : ArtifactCache :=
  { c with store := c.store.erase source }

/-- Drop all entries. -/
def clear (c : ArtifactCache) : ArtifactCache := { c with store := c.store.clear }

/-- Look an entry up and check it. -/
def lookup (c : ArtifactCache) (source : Fingerprint) : CacheLookup × ArtifactCache :=
  match c.store.get? source with
  | none => (.absent, c)
  | some e =>
    match e.fault? source with
    | none =>
      (.hit e.artifact,
        { store := c.store.touch source, counts := { c.counts with hits := c.counts.hits + 1 } })
    | some fault =>
      let counts := { c.counts with corruptions := c.counts.corruptions + 1 }
      (.corrupt fault, { c with counts })

/-- The artifact of a set, if a sound one is stored. -/
def get (c : ArtifactCache) (source : Fingerprint) : Option Artifact × ArtifactCache :=
  match c.lookup source with
  | (.hit a, c) => (some a, c)
  | (.absent, c) => (none, c)
  | (.corrupt _, c) => (none, c.invalidate source)

/-- Store an artifact. -/
def keep (c : ArtifactCache) (source : Fingerprint) (a : Artifact) : ArtifactCache where
  store := c.store.put source (.ofArtifact a)
  counts := { c.counts with evictions := c.counts.evictions + c.store.pushedOut source }

/-- Take what is stored by now, or else compile and store. -/
def fill (c : ArtifactCache) (source : Fingerprint)
    (compile : Unit → Except CompileError Artifact) : CacheAnswer × ArtifactCache :=
  match c.store.get? source with
  | some e =>
    (⟨.ok e.artifact, false⟩,
      { store := c.store.touch source
        counts := { c.counts with coalesced := c.counts.coalesced + 1 } })
  | none =>
    let c := { c with counts := { c.counts with misses := c.counts.misses + 1 } }
    match compile () with
    | .ok a => (⟨.ok a, true⟩, c.keep source a)
    | .error e => (⟨.error e, true⟩, c)

/-- The artifact of a set, compiled if need be. -/
def getOrCompile (c : ArtifactCache) (set : ConstraintSet)
    (compile : ConstraintSet → Except CompileError Artifact) : CacheAnswer × ArtifactCache :=
  let source := set.fingerprint
  match c.lookup source with
  | (.hit a, c) => (⟨.ok a, false⟩, c)
  | (.absent, c) => c.fill source fun _ => compile set
  | (.corrupt _, c) => (c.invalidate source).fill source fun _ => compile set

/-- What requests for one set get that all come before the first of them is answered: the first
is answered by itself, and the others share what it gets. -/
def getTogether (c : ArtifactCache) (set : ConstraintSet)
    (compile : ConstraintSet → Except CompileError Artifact) :
    (requests : Nat) → List CacheAnswer × ArtifactCache
  | 0 => ([], c)
  | others + 1 =>
    let (first, c) := c.getOrCompile set compile
    let counts :=
      if first.compiled then { c.counts with coalesced := c.counts.coalesced + others }
      else { c.counts with hits := c.counts.hits + others }
    (first :: List.replicate others { first with compiled := false }, { c with counts })

end ArtifactCache

end GuidedDecoding
