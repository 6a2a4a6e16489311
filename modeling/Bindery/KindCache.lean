import Bindery.Manifest.Basic

/-!
# The cache of container kinds

Reviews ask the host for the kinds of containers.  A `KindCache` stands between them and the host,
which is a `KindSource`: `KindCache.lookup` first goes through what is remembered, and only a
container that is not there makes it `ask`.  An answer is then remembered under the reflection name
of the container; a refusal is not, so the next look-up asks again.

Every question goes through `KindCache.ask`, which is where it is counted.  The count is not used
by anything that runs.  It is there to make "the source is not asked twice" something that can be
said about the state of a cache.

A computation that looks kinds up takes the cache and gives it back, whether it fails or not; this
is `Asking`.
-/

namespace Bindery

/-- Whoever knows the kinds of containers. -/
abbrev KindSource := ClassName → Except HostFault ContainerKind

/-- The answers remembered so far, and how often the source was asked. -/
structure KindCache where
  known : List (String × ContainerKind) := []
  asked : Nat := 0
  deriving DecidableEq, Repr

namespace KindCache

/-- How many containers are remembered. -/
def size (cache : KindCache) : Nat := cache.known.length

/-- The source is asked for the kind of a container, and the question is counted. -/
def ask (source : KindSource) (container : ClassName) (cache : KindCache) :
    Except HostFault ContainerKind × KindCache :=
  (source container, { cache with asked := cache.asked + 1 })

/-- The cache after an answer about a container.  A refusal is not remembered. -/
def remember (container : ClassName) (answer : Except HostFault ContainerKind) (cache : KindCache) :
    KindCache :=
  match answer with
  | .ok kind => { cache with known := (container.reflectionName, kind) :: cache.known }
  | .error _ => cache

/-- The kind of a container, with the cache afterwards. -/
def lookup (source : KindSource) (container : ClassName) (cache : KindCache) :
    Except HostFault ContainerKind × KindCache :=
  match cache.known.lookup container.reflectionName with
  | some kind => (.ok kind, cache)
  | none =>
    let (answer, cache) := cache.ask source container
    (answer, cache.remember container answer)

end KindCache

/-- Computations that look kinds up and may fail. -/
abbrev Asking (α : Type) := KindCache → Except Failure α × KindCache

namespace Asking

/-- A computation that looks nothing up. -/
def settled {α : Type} (result : Except Failure α) : Asking α := fun cache => (result, cache)

/-- The kind of a container with what comes of it. -/
def withKind {α : Type} (source : KindSource) (container : ClassName)
    (next : ContainerKind → Except Failure α) : Asking α := fun cache =>
  let (answer, cache) := cache.lookup source container
  match answer with
  | .ok kind => (next kind, cache)
  | .error fault => (.error (.host fault), cache)

/-- What a computation gives with nothing remembered before. -/
def alone {α : Type} (computation : Asking α) : Except Failure α := (computation {}).1

end Asking

end Bindery
